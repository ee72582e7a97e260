import HostBridge.Proofs.Session.Settlement

/-!
# Issued ids and slots

Ids and slots are counted up, so those of earlier tickets are not handed out again, and a view waits
only for ids of its own tickets.  Ids are words of 64 bits; that they are not reused holds as long
as the counter has not come around, which is what the bounds on the number of evaluations say.

Main statement: every deed keeps this account of what was issued (`Core.Issues.after`).
-/

namespace HostBridge

/-- Resolving ids issues none. -/
theorem Context.issued_resolveAll {σ : Type} (callbacks : CallbackTable (Continuation σ))
    (ids : List CallbackId) : (resolveAll callbacks ids).1.issued = callbacks.issued := by
  induction ids generalizing callbacks with
  | nil => rfl
  | cons first rest ih => exact ih (callbacks.resolve first).1

namespace Session

namespace Deed

/-- Only an evaluation writes a ticket. -/
theorem ticket?_of_not_isEvaluation {deed : Deed} (other : deed.isEvaluation = false) :
    deed.ticket? = none := by
  cases deed with
  | evaluate view id continuation sent => cases other
  | _ => rfl

end Deed

/-- A ticket of a longer history is an earlier one, with what became of it since, or a new one. -/
theorem mem_tickets_snoc {deeds : List Deed} {deed : Deed} {ticket : Ticket} :
    ticket ∈ tickets (deeds ++ [deed]) ↔
      (∃ earlier ∈ tickets deeds, earlier.awaiting [deed] = ticket) ∨
        deed.ticket? = some ticket := by
  rw [tickets_snoc, List.mem_append, List.mem_map, Option.mem_toList]

namespace Core

/-- What was issued, and to whom. -/
structure Issues (core : Core) (deeds : List Deed) : Prop where
  issued : core.callbacks.issued.toNat = deeds.countP Deed.isEvaluation
  ids : ∀ ticket ∈ tickets deeds, ticket.id.value.toNat ≤ core.callbacks.issued.toNat
  slots : ∀ ticket ∈ tickets deeds, ∀ key, ticket.slot? = some key → key < core.nextSlot
  /-- A view waits for ids of its own tickets. -/
  pending : ∀ key view, core.views.find? key = some view → ∀ id ∈ view.pending,
    ∃ ticket ∈ tickets deeds, ticket.id = id ∧ ticket.view = key

/-- No view waits for more than before. -/
def WaitsWithin (core later : Core) : Prop :=
  ∀ key view, later.views.find? key = some view → ∀ id ∈ view.pending,
    ∃ before, core.views.find? key = some before ∧ id ∈ before.pending

namespace WaitsWithin

variable {core : Core}

theorem of_same {later : Core} (same : later.views = core.views) : core.WaitsWithin later := by
  intro key view found id member
  rw [same] at found
  exact ⟨view, found, member⟩

/-- Where a view waits for no more than before, no new id waits. -/
theorem modify {later : Core} {key : ObjectKey} {change : View Action → View Action}
    (same : later.views = core.views.modify key change)
    (fewer : ∀ view, ∀ id ∈ (change view).pending, id ∈ view.pending) :
    core.WaitsWithin later := by
  intro other view found id member
  rw [same, Table.find?_modify] at found
  split at found
  next here =>
    subst here
    obtain ⟨before, listed, rfl⟩ := Option.map_eq_some_iff.mp found
    exact ⟨before, listed, fewer before id member⟩
  next => exact ⟨view, found, member⟩

/-- Where a view is replaced by one that waits for no more, no new id waits. -/
theorem insert {later : Core} {key : ObjectKey} {before changed : View Action}
    (same : later.views = core.views.insert key changed)
    (listed : core.views.find? key = some before)
    (fewer : ∀ id ∈ changed.pending, id ∈ before.pending) : core.WaitsWithin later := by
  intro other view found id member
  rw [same, Table.find?_insert] at found
  split at found
  next here =>
    subst here
    cases found
    exact ⟨before, listed, fewer id member⟩
  next => exact ⟨view, found, member⟩

theorem after {rule : Core → UInt64 → Prop} {deed : Deed} (other : deed.isEvaluation = false)
    (enabled : core.Enables rule deed) : core.WaitsWithin (core.after deed) := by
  cases deed with
  | create address amid =>
      intro key view found id member
      simp only [Core.after, Table.find?_insert] at found
      split at found
      · cases found
        cases member
      · exact ⟨view, found, member⟩
  | letGo key => exact .modify rfl fun _ _ member => member
  | clear key dropped =>
      obtain ⟨view, found, _⟩ := enabled
      rw [after_clear dropped found]
      exact .insert rfl found fun _ member => member
  | retire key =>
      cases found : core.views.find? key with
      | none =>
          refine .of_same ?_
          simp only [Core.after, found]
      | some view =>
          obtain ⟨slots, settled, same⟩ := after_retire found
          rw [same]
          exact .insert rfl found fun id member => absurd member List.not_mem_nil
  | invoke key =>
      obtain ⟨view, found, _⟩ := enabled
      rw [after_invoke found]
      exact .of_same rfl
  | evaluate key id continuation sent => cases other
  | answer key id result =>
      have untracked : (core.after (.answer key id result)).views =
          core.views.modify key (·.untrack id) := by
        simp only [Core.after]
        cases (core.callbacks.resolve id).2 with
        | none => rfl
        | some continuation => cases continuation with
          | reaction name steps ending => rfl
          | slot slot => rfl
      exact .modify untracked fun _ _ member => List.mem_of_mem_filter member
  | poll slot =>
      refine .of_same ?_
      simp only [Core.after]
      split
      · rfl
      · rfl

end WaitsWithin

/-- Only an evaluation takes an id or a slot. -/
theorem counters_after {rule : Core → UInt64 → Prop} {core : Core} {deed : Deed}
    (other : deed.isEvaluation = false) (enabled : core.Enables rule deed) :
    (core.after deed).callbacks.issued = core.callbacks.issued ∧
      (core.after deed).nextSlot = core.nextSlot := by
  cases deed with
  | clear key dropped =>
      obtain ⟨view, found, _⟩ := enabled
      rw [after_clear dropped found]
      exact ⟨rfl, rfl⟩
  | retire key =>
      cases found : core.views.find? key with
      | none => simp only [after, found, and_self]
      | some view =>
          obtain ⟨slots, settled, same⟩ := after_retire found
          rw [same]
          exact ⟨Context.issued_resolveAll _ _, rfl⟩
  | invoke key =>
      obtain ⟨view, found, _⟩ := enabled
      rw [after_invoke found]
      exact ⟨rfl, rfl⟩
  | evaluate key id continuation sent => cases other
  | answer key id result =>
      simp only [after]
      cases (core.callbacks.resolve id).2 with
      | none => exact ⟨rfl, rfl⟩
      | some continuation => cases continuation with
        | reaction name steps ending => exact ⟨rfl, rfl⟩
        | slot slot => exact ⟨rfl, rfl⟩
  | poll slot =>
      simp only [after]
      split
      · exact ⟨rfl, rfl⟩
      · exact ⟨rfl, rfl⟩
  | _ => exact ⟨rfl, rfl⟩

/-! ### Evaluations -/

section Evaluation

variable (core : Core) (key : ObjectKey) (id : CallbackId)
  (continuation : Option (Continuation Action)) (sent : Bool)

/-- An evaluation that could not be sent is parked and taken back. -/
theorem after_evaluate_of_unsent :
    ∃ slots settled, core.after (.evaluate key id continuation false) =
      { ((core.opening continuation).park key id continuation).take key id with
        slots := slots, settled := settled } :=
  abandonAll_eq _ _

/-- Parking a continuation counts one more id as issued. -/
theorem issued_park : (core.park key id continuation).callbacks.issued =
    core.callbacks.issued + 1 := by
  cases continuation with
  | none => rfl
  | some continuation => rfl

theorem issued_evaluate : (core.after (.evaluate key id continuation sent)).callbacks.issued =
    core.callbacks.issued + 1 := by
  have parked := issued_park (core.opening continuation) key id continuation
  rw [callbacks_opening] at parked
  cases sent with
  | true => exact parked
  | false =>
      obtain ⟨slots, settled, same⟩ := after_evaluate_of_unsent core key id continuation
      rw [same]
      exact parked

/-- An evaluation opens at most its own slot. -/
theorem nextSlot_evaluate : (core.after (.evaluate key id continuation sent)).nextSlot =
    (core.opening continuation).nextSlot := by
  have parked : ((core.opening continuation).park key id continuation).nextSlot =
      (core.opening continuation).nextSlot := by
    cases continuation with
    | none => rfl
    | some continuation => rfl
  cases sent with
  | true => exact parked
  | false =>
      obtain ⟨slots, settled, same⟩ := after_evaluate_of_unsent core key id continuation
      rw [same]
      exact parked

variable {core key id continuation sent}

/-- After parking only the new id can wait that did not wait before. -/
theorem waits_park {other : ObjectKey} {view : View Action}
    (found : (core.park key id continuation).views.find? other = some view) {waiting : CallbackId}
    (member : waiting ∈ view.pending) :
    (∃ before, core.views.find? other = some before ∧ waiting ∈ before.pending) ∨
      ∃ held, continuation = some held ∧ other = key ∧ waiting = id := by
  cases continuation with
  | none => exact .inl ⟨view, found, member⟩
  | some held =>
      simp only [park, Table.find?_modify] at found
      split at found
      next here =>
        obtain ⟨before, listed, rfl⟩ := Option.map_eq_some_iff.mp found
        cases List.mem_append.mp member with
        | inl old => exact .inl ⟨before, here ▸ listed, List.mem_of_mem_filter old⟩
        | inr new => exact .inr ⟨held, rfl, here, List.mem_singleton.mp new⟩
      next => exact .inl ⟨view, found, member⟩

/-- After an evaluation only its own id can wait that did not wait before. -/
theorem waits_evaluate {other : ObjectKey} {view : View Action}
    (found : (core.after (.evaluate key id continuation sent)).views.find? other = some view)
    {waiting : CallbackId} (member : waiting ∈ view.pending) :
    (∃ before, core.views.find? other = some before ∧ waiting ∈ before.pending) ∨
      ∃ held, continuation = some held ∧ other = key ∧ waiting = id := by
  rw [← views_opening core continuation]
  cases sent with
  | true => exact waits_park found member
  | false =>
      obtain ⟨slots, settled, same⟩ := after_evaluate_of_unsent core key id continuation
      rw [same] at found
      have fewer : ((core.opening continuation).park key id continuation).WaitsWithin
          (((core.opening continuation).park key id continuation).take key id) :=
        .modify rfl fun _ _ member => List.mem_of_mem_filter member
      obtain ⟨before, listed, waits⟩ := fewer other view found waiting member
      exact waits_park listed waits

end Evaluation

namespace Issues

variable {core : Core} {deeds : List Deed} {rule : Core → UInt64 → Prop}

theorem initial : Core.initial.Issues [] where
  issued := rfl
  ids _ member := nomatch member
  slots _ member := nomatch member
  pending _ _ found := nomatch found

/-- The next id is above all that were issued, as long as the counter has not come around. -/
theorem toNat_next (issues : core.Issues deeds)
    (unspent : deeds.countP Deed.isEvaluation + 1 < UInt64.size) :
    (core.callbacks.issued + 1).toNat = core.callbacks.issued.toNat + 1 := by
  rw [UInt64.toNat_add, UInt64.toNat_one]
  exact Nat.mod_eq_of_lt (issues.issued ▸ unspent)

/-- As long as ids do not wrap around, the next one is on no ticket. -/
theorem fresh (issues : core.Issues deeds)
    (unspent : deeds.countP Deed.isEvaluation + 1 < UInt64.size) :
    ∀ ticket ∈ tickets deeds, ticket.id ≠ ⟨core.callbacks.issued + 1⟩ := by
  intro ticket member same
  have below := issues.ids ticket member
  rw [same, issues.toNat_next unspent] at below
  exact Nat.not_succ_le_self _ below

/-- The next slot is on no ticket. -/
theorem unused (issues : core.Issues deeds) :
    ∀ ticket ∈ tickets deeds, ticket.slot? ≠ some core.nextSlot := by
  intro ticket member slotted
  exact Nat.lt_irrefl _ (issues.slots ticket member _ slotted)

/-- Whatever a view waits for stays one of its tickets. -/
theorem pending_snoc (issues : core.Issues deeds) (deed : Deed) {key : ObjectKey}
    {view : View Action} (found : core.views.find? key = some view) {id : CallbackId}
    (member : id ∈ view.pending) :
    ∃ ticket ∈ tickets (deeds ++ [deed]), ticket.id = id ∧ ticket.view = key := by
  obtain ⟨ticket, listed, same, owner⟩ := issues.pending key view found id member
  exact ⟨ticket.awaiting [deed], mem_tickets_snoc.mpr (.inl ⟨ticket, listed, rfl⟩), same, owner⟩

/-- A deed that evaluates nothing issues nothing. -/
theorem other (issues : core.Issues deeds) {deed : Deed} (other : deed.isEvaluation = false)
    {later : Core} (issued : later.callbacks.issued = core.callbacks.issued)
    (nextSlot : later.nextSlot = core.nextSlot) (waits : core.WaitsWithin later) :
    later.Issues (deeds ++ [deed]) where
  issued := by
    rw [List.countP_append, List.countP_singleton, other, issued, issues.issued]
    rfl
  ids ticket member := by
    rw [issued]
    cases mem_tickets_snoc.mp member with
    | inl earlier =>
        obtain ⟨ticket, listed, rfl⟩ := earlier
        exact issues.ids ticket listed
    | inr new =>
        rw [Deed.ticket?_of_not_isEvaluation other] at new
        cases new
  slots ticket member key slotted := by
    rw [nextSlot]
    cases mem_tickets_snoc.mp member with
    | inl earlier =>
        obtain ⟨ticket, listed, rfl⟩ := earlier
        exact issues.slots ticket listed key slotted
    | inr new =>
        rw [Deed.ticket?_of_not_isEvaluation other] at new
        cases new
  pending key view found id member := by
    obtain ⟨before, listed, waited⟩ := waits key view found id member
    exact issues.pending_snoc deed listed waited

/-- An evaluation issues the next id, and the next slot if its continuation fills one. -/
theorem evaluate (issues : core.Issues deeds)
    (unspent : deeds.countP Deed.isEvaluation + 1 < UInt64.size) (key : ObjectKey)
    (continuation : Option (Continuation Action)) (sent : Bool)
    (slot : ∀ slot, continuation = some (.slot slot) → slot = core.nextSlot) :
    let deed := Deed.evaluate key ⟨core.callbacks.issued + 1⟩ continuation sent
    (core.after deed).Issues (deeds ++ [deed]) := by
  intro deed
  have counted := issues.toNat_next unspent
  have issued : (core.after deed).callbacks.issued = core.callbacks.issued + 1 :=
    issued_evaluate core key _ continuation sent
  have nextSlot : (core.after deed).nextSlot = (core.opening continuation).nextSlot :=
    nextSlot_evaluate core key _ continuation sent
  refine ⟨?_, ?_, ?_, ?_⟩
  · rw [List.countP_append, List.countP_singleton, issued, counted, issues.issued]
    rfl
  · intro ticket member
    rw [issued]
    cases mem_tickets_snoc.mp member with
    | inl earlier =>
        obtain ⟨ticket, listed, rfl⟩ := earlier
        rw [counted]
        exact Nat.le_succ_of_le (issues.ids ticket listed)
    | inr new =>
        obtain ⟨held, _, rfl⟩ := Option.map_eq_some_iff.mp new
        exact Nat.le_refl _
  · intro ticket member taken slotted
    rw [nextSlot]
    cases mem_tickets_snoc.mp member with
    | inl earlier =>
        obtain ⟨ticket, listed, rfl⟩ := earlier
        have below := issues.slots ticket listed taken slotted
        cases continuation with
        | none => exact below
        | some held => cases held with
          | reaction name steps ending => exact below
          | slot opened =>
              rw [slot opened rfl]
              exact Nat.lt_succ_of_lt below
    | inr new =>
        obtain ⟨held, holds, rfl⟩ := Option.map_eq_some_iff.mp new
        cases Ticket.continuation_of_slot? slotted
        rw [holds]
        exact Nat.lt_succ_self taken
  · intro other view found id member
    cases waits_evaluate found member with
    | inl earlier =>
        obtain ⟨before, listed, waited⟩ := earlier
        exact issues.pending_snoc deed listed waited
    | inr new =>
        obtain ⟨held, rfl, rfl, rfl⟩ := new
        exact ⟨_, mem_tickets_snoc.mpr (.inr rfl), rfl, rfl⟩

theorem after (issues : core.Issues deeds) {deed : Deed} (enabled : core.Enables rule deed)
    (unspent : (deeds ++ [deed]).countP Deed.isEvaluation < UInt64.size) :
    (core.after deed).Issues (deeds ++ [deed]) := by
  cases kind : deed.isEvaluation with
  | true =>
      rw [List.countP_append, List.countP_singleton, kind] at unspent
      cases deed with
      | evaluate key id continuation sent =>
          obtain ⟨rfl, _, slot⟩ := enabled
          exact issues.evaluate unspent key continuation sent slot
      | _ => cases kind
  | false =>
      obtain ⟨issued, nextSlot⟩ := counters_after kind enabled
      exact issues.other kind issued nextSlot (.after kind enabled)

end Issues

end Core

end Session

end HostBridge
