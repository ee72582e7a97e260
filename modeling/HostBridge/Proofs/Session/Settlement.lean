import HostBridge.Proofs.Session.Ticket
import Mathlib.Data.List.Nodup

/-!
# Settled and parked continuations

What a core keeps of its tickets: the continuations that are still parked, the slots, and the record
of the calls and drops that were seen.

Main statements: a core that keeps its tickets goes on to do so when an id is settled
(`Core.Keeps.settle`), when several are dropped (`Core.Keeps.dropAll`) and when a new continuation
is parked (`Core.Keeps.park`).
-/

namespace HostBridge.Session

namespace Core

/-- A core keeps what the tickets say, if the slots in `polled` were looked into. -/
structure Keeps (core : Core) (polled : Nat → Prop) (tickets : List Ticket) : Prop where
  ids : (tickets.map Ticket.id).Nodup
  slotKeys : (tickets.filterMap Ticket.slot?).Nodup
  /-- What is parked is what the parked tickets hold. -/
  parked : ∀ id continuation, core.callbacks.parked.find? id = some continuation ↔
    ∃ ticket ∈ tickets, ticket.id = ⟨id⟩ ∧ ticket.continuation = continuation ∧
      ticket.fate = .parked
  /-- Each call and each drop of a continuation that has a name was seen once. -/
  settled : core.settled.Perm (tickets.filterMap Ticket.sighting?)
  /-- The other continuations have a slot that shows what became of them. -/
  slots : ∀ ticket ∈ tickets, ∀ key, ticket.slot? = some key →
    ∃ slot, core.slots.find? key = some slot ∧ ticket.fate.Shows (polled key) slot

/-- What a settled continuation leaves behind. -/
def conclude (fate : Fate) (core : Core) : Continuation Action → Core
  | .reaction name _ _ => { core with settled := core.settled ++ (fate.sighting? name).toList }
  | .slot key => { core with slots := core.slots.insert key fate.slot }

theorem fulfil_eq (core : Core) (result : Option String) (continuation : Continuation Action) :
    core.fulfil result continuation = core.conclude (.called result) continuation := by
  cases continuation with
  | reaction name steps ending => rfl
  | slot key => rfl

theorem abandon_eq (core : Core) (continuation : Continuation Action) :
    core.abandon continuation = core.conclude .dropped continuation := by
  cases continuation with
  | reaction name steps ending => rfl
  | slot key => rfl

/-- Concluding a continuation does not look at the parked ones. -/
theorem conclude_callbacks (core : Core) (callbacks : CallbackTable (Continuation Action))
    (fate : Fate) (continuation : Continuation Action) :
    ({ core with callbacks := callbacks } : Core).conclude fate continuation =
      { core.conclude fate continuation with callbacks := callbacks } := by
  cases continuation with
  | reaction name steps ending => rfl
  | slot key => rfl

/-- Take what is parked under an id out of the table, and settle it. -/
def settle (core : Core) (id : CallbackId) (fate : Fate) : Core :=
  (core.callbacks.resolve id).2.toList.foldl (conclude fate)
    { core with callbacks := (core.callbacks.resolve id).1 }

/-- Settling an id under which nothing is parked concludes nothing. -/
theorem settle_of_absent {core : Core} {id : CallbackId} (fate : Fate)
    (absent : core.callbacks.parked.find? id.value = none) :
    core.settle id fate = { core with callbacks := (core.callbacks.resolve id).1 } := by
  simp only [settle, CallbackTable.resolve, absent, Option.toList_none, List.foldl_nil]

/-- Settling an id concludes what is parked under it. -/
theorem settle_of_present {core : Core} {id : CallbackId} {continuation : Continuation Action}
    (fate : Fate) (present : core.callbacks.parked.find? id.value = some continuation) :
    core.settle id fate =
      { core.conclude fate continuation with callbacks := (core.callbacks.resolve id).1 } := by
  rw [← conclude_callbacks]
  simp only [settle, CallbackTable.resolve, present, Option.toList_some, List.foldl_cons,
    List.foldl_nil]

/-- Take what is parked under several ids out of the table, and drop it. -/
def dropAll (core : Core) (ids : List CallbackId) : Core :=
  abandonAll { core with callbacks := (Context.resolveAll core.callbacks ids).1 }
    (Context.resolveAll core.callbacks ids).2

theorem dropAll_cons (core : Core) (id : CallbackId) (ids : List CallbackId) :
    core.dropAll (id :: ids) = (core.settle id .dropped).dropAll ids := by
  cases found : core.callbacks.parked.find? id.value with
  | none =>
      rw [settle_of_absent .dropped found]
      simp only [dropAll, Context.resolveAll, CallbackTable.resolve, found, Option.toList_none,
        List.nil_append]
  | some continuation =>
      rw [settle_of_present .dropped found]
      simp only [dropAll, Context.resolveAll, CallbackTable.resolve, found, Option.toList_some,
        abandonAll, List.singleton_append, List.foldl_cons, abandon_eq, conclude_callbacks]

namespace Keeps

variable {core : Core} {polled : Nat → Prop} {tickets : List Ticket}

/-- What is kept is up to the parked, the settled and the slots alone. -/
theorem congr (keeps : core.Keeps polled tickets) {later : Core}
    (callbacks : later.callbacks.parked = core.callbacks.parked)
    (settled : later.settled = core.settled) (slots : later.slots = core.slots) :
    later.Keeps polled tickets where
  ids := keeps.ids
  slotKeys := keeps.slotKeys
  parked := by
    rw [callbacks]
    exact keeps.parked
  settled := by
    rw [settled]
    exact keeps.settled
  slots := by
    rw [slots]
    exact keeps.slots

/-- What is kept is kept when more slots were polled. -/
theorem mono (keeps : core.Keeps polled tickets) {more : Nat → Prop}
    (included : ∀ key, polled key → more key) : core.Keeps more tickets where
  ids := keeps.ids
  slotKeys := keeps.slotKeys
  parked := keeps.parked
  settled := keeps.settled
  slots ticket member key slotted := by
    obtain ⟨slot, found, shows⟩ := keeps.slots ticket member key slotted
    exact ⟨slot, found, shows.imp_right fun ⟨closed, looked, called⟩ =>
      ⟨closed, included key looked, called⟩⟩

/-- No two tickets have the same id. -/
theorem eq_of_id (keeps : core.Keeps polled tickets) {ticket other : Ticket}
    (member : ticket ∈ tickets) (listed : other ∈ tickets) (same : ticket.id = other.id) :
    ticket = other :=
  List.inj_on_of_nodup_map keeps.ids member listed same

/-- The continuation of a parked ticket is found under its id. -/
theorem find?_of_parked (keeps : core.Keeps polled tickets) {ticket : Ticket}
    (member : ticket ∈ tickets) (parked : ticket.fate = .parked) :
    core.callbacks.parked.find? ticket.id.value = some ticket.continuation :=
  (keeps.parked _ _).mpr ⟨ticket, member, rfl, rfl, parked⟩

/-! ### Settling -/

/-- After an id is settled exactly the tickets still parked are found. -/
theorem parked_settle (keeps : core.Keeps polled tickets) (id : CallbackId) {fate : Fate}
    (final : fate ≠ .parked) (other : UInt64) (continuation : Continuation Action) :
    (core.callbacks.resolve id).1.parked.find? other = some continuation ↔
      ∃ ticket ∈ tickets.map (·.settle [id] fate), ticket.id = ⟨other⟩ ∧
        ticket.continuation = continuation ∧ ticket.fate = .parked := by
  simp only [CallbackTable.resolve, Table.find?_erase, List.mem_map, exists_exists_and_eq_and,
    Ticket.id_settle, Ticket.continuation_settle, Ticket.parked_settle_iff final,
    List.mem_singleton]
  by_cases same : other = id.value
  · subst same
    simp only [↓reduceIte, reduceCtorEq, false_iff]
    rintro ⟨ticket, _, listed, _, apart, _⟩
    exact apart listed
  · simp only [same, ↓reduceIte, keeps.parked]
    constructor
    · rintro ⟨ticket, member, listed, holds, parked⟩
      refine ⟨ticket, member, listed, holds, ?_, parked⟩
      rintro rfl
      exact same (congrArg CallbackId.value listed).symm
    · rintro ⟨ticket, member, listed, holds, _, parked⟩
      exact ⟨ticket, member, listed, holds, parked⟩

/-- What a settled ticket shows is added to what was seen. -/
theorem settled_conclude {before after : List Ticket} {ticket : Ticket} (fate : Fate)
    (keeps : core.Keeps polled (before ++ ticket :: after)) (parked : ticket.fate = .parked) :
    (core.conclude fate ticket.continuation).settled.Perm
      ((before ++ { ticket with fate := fate } :: after).filterMap Ticket.sighting?) := by
  have seen := keeps.settled
  have unseen : ticket.sighting? = none := by
    unfold Ticket.sighting?
    rw [parked]
    split
    · rfl
    · rfl
  rw [List.filterMap_append, List.filterMap_cons_none unseen] at seen
  rw [List.filterMap_append, List.filterMap_cons]
  cases holds : ticket.continuation with
  | reaction name steps ending =>
      simp only [conclude, Ticket.sighting?]
      cases fate.sighting? name with
      | none =>
          rw [Option.toList_none, List.append_nil]
          exact seen
      | some sighting =>
          rw [Option.toList_some]
          exact (List.perm_append_singleton _ _).trans ((seen.cons _).trans List.perm_middle.symm)
  | slot key =>
      simp only [conclude, Ticket.sighting?]
      exact seen

/-- The slot of a settled ticket shows what became of it, and the others what they showed. -/
theorem slots_conclude {before after : List Ticket} {ticket : Ticket} (fate : Fate)
    (keeps : core.Keeps polled (before ++ ticket :: after)) :
    ∀ other ∈ before ++ { ticket with fate := fate } :: after, ∀ key, other.slot? = some key →
      ∃ slot, (core.conclude fate ticket.continuation).slots.find? key = some slot ∧
        other.fate.Shows (polled key) slot := by
  have unique := keeps.slotKeys
  rw [(List.perm_middle.filterMap Ticket.slot?).nodup_iff, List.filterMap_cons] at unique
  -- The slot of another ticket is not the one that is written.
  have apart : ∀ other ∈ before ++ after, ∀ key, other.slot? = some key →
      ∃ slot, (core.conclude fate ticket.continuation).slots.find? key = some slot ∧
        other.fate.Shows (polled key) slot := by
    intro other among key slotted
    have member : other ∈ before ++ ticket :: after :=
      List.perm_middle.mem_iff.mpr (List.mem_cons_of_mem _ among)
    obtain ⟨slot, found, shows⟩ := keeps.slots other member key slotted
    refine ⟨slot, ?_, shows⟩
    cases holds : ticket.continuation with
    | reaction name steps ending => exact found
    | slot written =>
        rw [Ticket.slot?_of_continuation holds] at unique
        refine (Table.find?_insert_of_ne _ _ ?_).trans found
        rintro rfl
        exact (List.nodup_cons.mp unique).1 (List.mem_filterMap.mpr ⟨other, among, slotted⟩)
  intro other member key slotted
  cases List.mem_cons.mp (List.perm_middle.mem_iff.mp member) with
  | inl this =>
      subst this
      have holds : ticket.continuation = .slot key := Ticket.continuation_of_slot? slotted
      refine ⟨fate.slot, ?_, .inl rfl⟩
      rw [holds]
      exact Table.find?_insert_self _ _ _
  | inr among => exact apart other among key slotted

/-- Settling an id settles the ticket that is parked under it, if there is one. -/
theorem settle (keeps : core.Keeps polled tickets) (id : CallbackId) {fate : Fate}
    (final : fate ≠ .parked) :
    (core.settle id fate).Keeps polled (tickets.map (·.settle [id] fate)) := by
  have ids : ((tickets.map (·.settle [id] fate)).map Ticket.id).Nodup := by
    rw [List.map_map, show Ticket.id ∘ (·.settle [id] fate) = Ticket.id from
      funext fun ticket => ticket.id_settle [id] fate]
    exact keeps.ids
  have slotKeys : ((tickets.map (·.settle [id] fate)).filterMap Ticket.slot?).Nodup := by
    rw [List.filterMap_map, show Ticket.slot? ∘ (·.settle [id] fate) = Ticket.slot? from
      funext fun ticket => ticket.slot?_settle [id] fate]
    exact keeps.slotKeys
  have table := keeps.parked_settle id final
  cases found : core.callbacks.parked.find? id.value with
  | none =>
      -- No ticket is parked under the id, so all stay what they are.
      have same : tickets.map (·.settle [id] fate) = tickets := by
        refine (List.map_congr_left fun ticket member => ?_).trans (List.map_id tickets)
        refine if_neg fun both => ?_
        have listed := keeps.find?_of_parked member both.2
        rw [List.mem_singleton.mp both.1, found] at listed
        cases listed
      rw [settle_of_absent fate found]
      rw [same] at table ⊢
      exact ⟨keeps.ids, keeps.slotKeys, table, keeps.settled, keeps.slots⟩
  | some continuation =>
      obtain ⟨ticket, member, listed, holds, parked⟩ := (keeps.parked _ _).mp found
      obtain ⟨before, after, split⟩ := List.append_of_mem member
      -- The others have other ids.
      have unique := keeps.ids
      rw [split, List.map_append, List.map_cons, List.nodup_middle, List.nodup_cons,
        ← List.map_append] at unique
      have apart : ∀ other ∈ before ++ after, other.settle [id] fate = other := by
        intro other among
        apply Ticket.settle_of_not_mem
        intro hit
        have same : other.id = ticket.id := (List.mem_singleton.mp hit).trans listed.symm
        exact unique.1 (same ▸ List.mem_map_of_mem among)
      have here : ticket.settle [id] fate = { ticket with fate := fate } :=
        if_pos ⟨List.mem_singleton.mpr listed, parked⟩
      have mapped : tickets.map (·.settle [id] fate) =
          before ++ { ticket with fate := fate } :: after := by
        rw [split, List.map_append, List.map_cons, here,
          List.map_congr_left fun other early => apart other (List.mem_append_left _ early),
          List.map_congr_left fun other late => apart other (List.mem_append_right _ late),
          List.map_id', List.map_id']
      rw [settle_of_present fate found, ← holds]
      rw [mapped] at ids slotKeys table ⊢
      rw [split] at keeps
      exact ⟨ids, slotKeys, table, keeps.settled_conclude fate parked, keeps.slots_conclude fate⟩

/-- A continuation that is taken from a view's table is settled. -/
theorem take {id : CallbackId} {fate : Fate} (keeps : (core.settle id fate).Keeps polled tickets)
    (view : ObjectKey) :
    ((core.callbacks.resolve id).2.toList.foldl (conclude fate) (core.take view id)).Keeps polled
      tickets := by
  unfold Core.settle at keeps
  cases found : (core.callbacks.resolve id).2 with
  | none =>
      rw [found] at keeps
      exact keeps.congr rfl rfl rfl
  | some continuation =>
      rw [found] at keeps
      cases continuation with
      | reaction name steps ending => exact keeps.congr rfl rfl rfl
      | slot key => exact keeps.congr rfl rfl rfl

/-- Dropping several ids drops the tickets that are parked under them. -/
theorem dropAll (keeps : core.Keeps polled tickets) (ids : List CallbackId) :
    (core.dropAll ids).Keeps polled (tickets.map (·.settle ids .dropped)) := by
  induction ids generalizing core tickets with
  | nil =>
      have same : tickets.map (·.settle [] .dropped) = tickets :=
        (List.map_congr_left fun ticket _ => Ticket.settle_of_not_mem _ List.not_mem_nil).trans
          (List.map_id tickets)
      rw [same]
      exact keeps
  | cons id ids ih =>
      have final : Fate.dropped ≠ .parked := Fate.noConfusion
      have next := ih (keeps.settle id final)
      rw [List.map_map] at next
      rw [dropAll_cons, List.map_congr_left fun ticket _ => Ticket.settle_cons final id ids ticket]
      exact next

/-! ### Parking -/

/-- Opening a slot that no ticket fills leaves the tickets alone. -/
theorem opening (keeps : core.Keeps polled tickets) (continuation : Option (Continuation Action))
    (unused : ∀ key, continuation = some (.slot key) →
      ∀ ticket ∈ tickets, ticket.slot? ≠ some key) :
    (core.opening continuation).Keeps polled tickets := by
  cases continuation with
  | none => exact keeps
  | some continuation => cases continuation with
    | reaction name steps ending => exact keeps
    | slot key =>
        refine ⟨keeps.ids, keeps.slotKeys, keeps.parked, keeps.settled, ?_⟩
        intro ticket member other slotted
        obtain ⟨slot, found, shows⟩ := keeps.slots ticket member other slotted
        refine ⟨slot, (Table.find?_insert_of_ne _ _ ?_).trans found, shows⟩
        rintro rfl
        exact unused other rfl ticket member slotted

/-- A ticket with a fresh label keeps labels different. -/
theorem nodup_snoc {α : Type} {read : Ticket → Option α} (nodup : (tickets.filterMap read).Nodup)
    {new : Ticket} (fresh : ∀ a, read new = some a → ∀ ticket ∈ tickets, read ticket ≠ some a) :
    ((tickets ++ [new]).filterMap read).Nodup := by
  rw [List.filterMap_append, List.filterMap_cons, List.filterMap_nil]
  cases value : read new with
  | none => exact (List.append_nil _).symm ▸ nodup
  | some a =>
      refine nodup.append (List.nodup_singleton a) ?_
      intro taken old last
      obtain ⟨ticket, member, reads⟩ := List.mem_filterMap.mp old
      exact fresh a value ticket member (List.mem_singleton.mp last ▸ reads)

/-- After a ticket is added exactly the parked tickets are found. -/
theorem parked_park (keeps : core.Keeps polled tickets) (new : Ticket)
    (fresh : ∀ ticket ∈ tickets, ticket.id ≠ new.id) (parked : new.fate = .parked) (id : UInt64)
    (continuation : Continuation Action) :
    (core.callbacks.parked.insert new.id.value new.continuation).find? id = some continuation ↔
      ∃ ticket ∈ tickets ++ [new], ticket.id = ⟨id⟩ ∧ ticket.continuation = continuation ∧
        ticket.fate = .parked := by
  rw [Table.find?_insert]
  simp only [List.mem_append, List.mem_singleton]
  by_cases same : id = new.id.value
  · subst same
    rw [if_pos rfl]
    constructor
    · intro hit
      exact ⟨new, .inr rfl, rfl, Option.some.inj hit, parked⟩
    · rintro ⟨ticket, member | rfl, listed, holds, _⟩
      · exact absurd listed (fresh ticket member)
      · exact congrArg some holds
  · rw [if_neg same, keeps.parked]
    constructor
    · rintro ⟨ticket, member, rest⟩
      exact ⟨ticket, .inl member, rest⟩
    · rintro ⟨ticket, member | rfl, listed, rest⟩
      · exact ⟨ticket, member, listed, rest⟩
      · exact absurd (congrArg CallbackId.value listed).symm same

/-- A continuation that is parked under a new id, with a new slot if it fills one, gets a ticket. -/
theorem park (keeps : core.Keeps polled tickets) (view : ObjectKey) {id : CallbackId}
    (continuation : Continuation Action) (fresh : ∀ ticket ∈ tickets, ticket.id ≠ id)
    (unused : ∀ key, continuation = .slot key → ∀ ticket ∈ tickets, ticket.slot? ≠ some key) :
    ((core.opening (some continuation)).park view id (some continuation)).Keeps polled
      (tickets ++ [⟨view, id, continuation, .parked⟩]) := by
  have opened := keeps.opening (some continuation) fun key same =>
    unused key (Option.some.inj same)
  refine ⟨?_, ?_, opened.parked_park ⟨view, id, continuation, .parked⟩ fresh rfl, ?_, ?_⟩
  · rw [List.map_append, List.map_singleton]
    refine keeps.ids.append (List.nodup_singleton id) ?_
    intro taken old last
    obtain ⟨ticket, member, rfl⟩ := List.mem_map.mp old
    exact fresh ticket member (List.mem_singleton.mp last)
  · apply nodup_snoc keeps.slotKeys
    intro key slotted
    exact unused key (Ticket.continuation_of_slot? slotted)
  · have unseen : Ticket.sighting? ⟨view, id, continuation, .parked⟩ = none := by
      cases continuation with
      | reaction name steps ending => rfl
      | slot key => rfl
    rw [List.filterMap_append, List.filterMap_cons_none unseen, List.filterMap_nil,
      List.append_nil]
    exact opened.settled
  · intro ticket member key slotted
    cases List.mem_append.mp member with
    | inl old => exact opened.slots ticket old key slotted
    | inr last =>
        cases List.mem_singleton.mp last
        cases Ticket.continuation_of_slot? slotted
        exact ⟨.waiting, Table.find?_insert_self _ _ _, .inl rfl⟩

/-- A slot that was looked into may have lost its result. -/
theorem poll (keeps : core.Keeps polled tickets) (slot : Nat) {more : Nat → Prop}
    (included : ∀ key, polled key → more key) (looked : more slot) :
    (core.after (.poll slot)).Keeps more tickets := by
  have kept := keeps.mono included
  simp only [after]
  split
  next result filled =>
    refine ⟨kept.ids, kept.slotKeys, kept.parked, kept.settled, ?_⟩
    intro ticket member key slotted
    obtain ⟨shown, found, shows⟩ := kept.slots ticket member key slotted
    by_cases same : key = slot
    · subst same
      refine ⟨.closed, Table.find?_insert_self _ _ _, .inr ⟨rfl, looked, result, ?_⟩⟩
      cases filled.symm.trans found
      cases shows with
      | inl holds => cases fate : ticket.fate with
        | parked => cases fate ▸ holds
        | called earlier => cases fate ▸ holds; rfl
        | dropped => cases fate ▸ holds
      | inr closed => cases closed.1
    · exact ⟨shown, (Table.find?_insert_of_ne _ _ same).trans found, shows⟩
  next => exact kept

end Keeps

end Core

end HostBridge.Session
