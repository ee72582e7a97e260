import HostBridge.Proofs.Session.Issuing
import HostBridge.Proofs.Session.Tracking

/-!
# Tickets along deeds

Each deed settles and parks what the tickets of the longer history say.  The end of a destruction is
where the table and the views have to agree: it drops what its view waits for, which is what the
tickets of the view are parked under, because parked tickets are tracked and ids are not reused.

Main statement: every core that is reached keeps the tickets of the deeds that led to it
(`Core.Reached.keeps`).
-/

namespace HostBridge.Session

namespace Core

/-- The slots that a history looked into. -/
def Polled (deeds : List Deed) (slot : Nat) : Prop := .poll slot ∈ deeds

/-- A slot that was polled stays polled. -/
theorem polled_snoc {deeds : List Deed} (deed : Deed) {slot : Nat} (polled : Polled deeds slot) :
    Polled (deeds ++ [deed]) slot :=
  List.mem_append_left _ polled

/-- Abandoning continuations concludes each of them as dropped. -/
theorem abandonAll_eq_foldl (core : Core) (continuations : List (Continuation Action)) :
    core.abandonAll continuations = continuations.foldl (conclude .dropped) core := by
  have same : abandon = conclude .dropped := funext fun core => funext core.abandon_eq
  rw [← same]
  rfl

/-- An answer takes its id and concludes what was parked under it. -/
theorem after_answer (core : Core) (view : ObjectKey) (id : CallbackId) (result : Option String) :
    core.after (.answer view id result) =
      (core.callbacks.resolve id).2.toList.foldl (conclude (.called result))
        (core.take view id) := by
  have same : (fulfil · result) = conclude (.called result) :=
    funext fun core => funext (core.fulfil_eq result)
  rw [← same]
  rfl

namespace Keeps

variable {core : Core} {deeds : List Deed} {polled : Nat → Prop}

/-- At the start there is nothing to keep. -/
theorem initial : Core.initial.Keeps (Polled []) (tickets []) where
  ids := .nil
  slotKeys := .nil
  parked id continuation := by
    constructor
    · intro found
      cases found
    · rintro ⟨ticket, member, _⟩
      cases member
  settled := .nil
  slots _ member := nomatch member

/-- Settling an id that no ticket has leaves the tickets. -/
theorem map_settle_of_fresh {tickets : List Ticket} {id : CallbackId} (fate : Fate)
    (fresh : ∀ ticket ∈ tickets, ticket.id ≠ id) :
    tickets.map (·.settle [id] fate) = tickets := by
  refine (List.map_congr_left fun ticket member => ?_).trans (List.map_id tickets)
  exact Ticket.settle_of_not_mem fate fun same =>
    fresh ticket member (List.mem_singleton.mp same)

/-- A view waits for its own tickets only. -/
theorem view_of_pending (keeps : core.Keeps polled (tickets deeds)) (issues : core.Issues deeds)
    {ticket : Ticket} (member : ticket ∈ tickets deeds) {key : ObjectKey} {view : View Action}
    (found : core.views.find? key = some view) (waits : ticket.id ∈ view.pending) :
    ticket.view = key := by
  obtain ⟨other, listed, same, owner⟩ := issues.pending key view found ticket.id waits
  rw [keeps.eq_of_id member listed same.symm]
  exact owner

/-- A parked ticket is awaited by its own view. -/
theorem awaits (keeps : core.Keeps polled (tickets deeds)) (issues : core.Issues deeds)
    (tracked : core.Tracked) {ticket : Ticket} (member : ticket ∈ tickets deeds)
    (parked : ticket.fate = .parked) : core.Awaits ticket.view ticket.id := by
  obtain ⟨key, awaited⟩ := tracked _ _ (keeps.find?_of_parked member parked)
  have ⟨view, found, waits, _⟩ := awaited
  rw [keeps.view_of_pending issues member found waits]
  exact awaited

/-- The end of a destruction drops the tickets of its view that are still parked. -/
theorem retire (keeps : core.Keeps polled (tickets deeds)) (issues : core.Issues deeds)
    (tracked : core.Tracked) (key : ObjectKey) :
    (core.after (.retire key)).Keeps polled (tickets (deeds ++ [.retire key])) := by
  rw [tickets_snoc]
  simp only [Deed.ticket?, Option.toList_none, List.append_nil, Ticket.awaiting_retire]
  cases found : core.views.find? key with
  | none =>
      have same : (tickets deeds).map (fun ticket =>
          if ticket.view = key ∧ ticket.fate = .parked then { ticket with fate := .dropped }
          else ticket) = tickets deeds := by
        refine (List.map_congr_left fun ticket member => ?_).trans (List.map_id _)
        refine if_neg fun both => ?_
        obtain ⟨view, present, _⟩ := keeps.awaits issues tracked member both.2
        rw [both.1, found] at present
        cases present
      rw [same]
      refine keeps.congr ?_ ?_ ?_
      · simp only [after, found]
      · simp only [after, found]
      · simp only [after, found]
  | some view =>
      let retired : Core := { core with
        views := core.views.insert key { view with pending := [] }
        releasing := core.releasing.tail
        lifecycle := core.lifecycle ++ [.released view.objectId] }
      have dropped : core.after (.retire key) = retired.dropAll view.pending := by
        simp only [after, found]
        rfl
      -- What the view waits for is what its parked tickets are parked under.
      have same : (tickets deeds).map (fun ticket =>
          if ticket.view = key ∧ ticket.fate = .parked then { ticket with fate := .dropped }
          else ticket) = (tickets deeds).map (·.settle view.pending .dropped) := by
        refine List.map_congr_left fun ticket member => ?_
        have waits : ticket.fate = .parked → (ticket.view = key ↔ ticket.id ∈ view.pending) := by
          intro parked
          constructor
          · intro owner
            obtain ⟨owning, present, waits, _⟩ := keeps.awaits issues tracked member parked
            rw [owner, found] at present
            cases present
            exact waits
          · exact keeps.view_of_pending issues member found
        exact if_congr (and_congr_left waits) rfl rfl
      have kept : retired.Keeps polled (tickets deeds) := keeps.congr rfl rfl rfl
      rw [dropped, same]
      exact kept.dropAll view.pending

/-- An evaluation parks its continuation, and drops it again if its call was not taken. -/
theorem evaluate (keeps : core.Keeps polled (tickets deeds)) (issues : core.Issues deeds)
    (unspent : deeds.countP Deed.isEvaluation + 1 < UInt64.size) (key : ObjectKey)
    (continuation : Option (Continuation Action)) (sent : Bool)
    (slot : ∀ slot, continuation = some (.slot slot) → slot = core.nextSlot) :
    let deed := Deed.evaluate key ⟨core.callbacks.issued + 1⟩ continuation sent
    (core.after deed).Keeps polled (tickets (deeds ++ [deed])) := by
  intro deed
  -- No earlier ticket has the new id, so parking and dropping it again touches none.
  have fresh := issues.fresh unspent
  have final : Fate.dropped ≠ .parked := Fate.noConfusion
  have unsettled : (tickets deeds).map (·.awaiting [deed]) = tickets deeds :=
    (List.map_congr_left fun ticket _ => Ticket.awaiting_of_unsettled rfl).trans (List.map_id _)
  rw [tickets_snoc, unsettled]
  have parked : ((core.opening continuation).park key ⟨core.callbacks.issued + 1⟩
      continuation).Keeps polled (tickets deeds ++
        (continuation.map (⟨key, ⟨core.callbacks.issued + 1⟩, ·, .parked⟩)).toList) := by
    cases continuation with
    | none =>
        rw [Option.map_none, Option.toList_none, List.append_nil]
        exact keeps.congr rfl rfl rfl
    | some held =>
        refine keeps.park key held fresh fun opened holds => ?_
        rw [slot opened (congrArg some holds)]
        exact issues.unused
  cases sent with
  | true => exact parked
  | false =>
      have dropped := (parked.settle ⟨core.callbacks.issued + 1⟩ final).take key
      rw [← abandonAll_eq_foldl, List.map_append, map_settle_of_fresh .dropped fresh] at dropped
      cases continuation with
      | none => exact dropped
      | some held =>
          have settled : Ticket.settle [⟨core.callbacks.issued + 1⟩] .dropped
              ⟨key, ⟨core.callbacks.issued + 1⟩, held, .parked⟩ =
                ⟨key, ⟨core.callbacks.issued + 1⟩, held, .dropped⟩ :=
            if_pos ⟨List.mem_singleton.mpr rfl, rfl⟩
          simp only [Option.map_some, Option.toList_some, List.map_singleton, settled] at dropped
          exact dropped

/-- Every enabled deed keeps the tickets, as long as ids do not wrap around. -/
theorem after {rule : Core → UInt64 → Prop}
    (keeps : core.Keeps (Polled deeds) (tickets deeds)) (issues : core.Issues deeds)
    (tracked : core.Tracked) {deed : Deed} (enabled : core.Enables rule deed)
    (unspent : (deeds ++ [deed]).countP Deed.isEvaluation < UInt64.size) :
    (core.after deed).Keeps (Polled (deeds ++ [deed])) (tickets (deeds ++ [deed])) := by
  have kept : core.Keeps (Polled (deeds ++ [deed])) (tickets deeds) :=
    keeps.mono fun _ => polled_snoc deed
  cases deed with
  | retire key => exact kept.retire issues tracked key
  | evaluate key id continuation sent =>
      obtain ⟨rfl, _, slot⟩ := enabled
      rw [List.countP_append, List.countP_singleton] at unspent
      exact kept.evaluate issues unspent key continuation sent slot
  | answer key id result =>
      have final : Fate.called result ≠ .parked := Fate.noConfusion
      rw [tickets_snoc, after_answer]
      simp only [Deed.ticket?, Option.toList_none, List.append_nil, Ticket.awaiting_answer]
      exact (kept.settle id final).take key
  | poll slot =>
      rw [tickets_snoc_of_idle deeds (fun _ _ => rfl) rfl]
      exact keeps.poll slot (fun _ => polled_snoc _)
        (List.mem_append_right _ (List.mem_singleton.mpr rfl))
  | create address amid =>
      rw [tickets_snoc_of_idle deeds (fun _ _ => rfl) rfl]
      exact kept.congr rfl rfl rfl
  | letGo key =>
      rw [tickets_snoc_of_idle deeds (fun _ _ => rfl) rfl]
      exact kept.congr rfl rfl rfl
  | clear key dropped =>
      obtain ⟨view, found, _⟩ := enabled
      rw [tickets_snoc_of_idle deeds (fun _ _ => rfl) rfl, after_clear dropped found]
      exact kept.congr rfl rfl rfl
  | invoke key =>
      obtain ⟨view, found, _⟩ := enabled
      rw [tickets_snoc_of_idle deeds (fun _ _ => rfl) rfl, after_invoke found]
      exact kept.congr rfl rfl rfl

end Keeps

/-- In a core that is reached the continuations are where their tickets say they are. -/
theorem Reached.keeps {deeds : List Deed} {core : Core} (reached : Reached Unruled deeds core)
    (unspent : deeds.countP Deed.isEvaluation < UInt64.size) :
    core.Keeps (Polled deeds) (tickets deeds) ∧ core.Issues deeds := by
  induction reached with
  | initial => exact ⟨.initial, .initial⟩
  | @after deeds core deed reached enabled ih =>
      have fewer : deeds.countP Deed.isEvaluation < UInt64.size := by
        rw [List.countP_append] at unspent
        exact Nat.lt_of_le_of_lt (Nat.le_add_right _ _) unspent
      obtain ⟨keeps, issues⟩ := ih fewer
      exact ⟨keeps.after issues reached.tracked enabled unspent, issues.after enabled unspent⟩

end Core

end HostBridge.Session
