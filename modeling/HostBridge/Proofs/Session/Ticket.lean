import HostBridge.Proofs.Session.Core

/-!
# Tickets

A ticket is a continuation that was handed to a view with a script, under the id that the script
got.  What became of it is read off the history alone: it is dropped at once if its call was not
taken, and otherwise decided by the first later deed that settles it, which is a result for its id
or the end of the destruction of its view.

Main statement: one more deed settles the tickets that wait for it, and may hand out one more
(`tickets_snoc`).
-/

namespace HostBridge.Session

/-- What became of a continuation. -/
inductive Fate where
  /-- It waits for its result. -/
  | parked
  /-- It was called with a result. -/
  | called (result : Option String)
  /-- It was dropped without having been called. -/
  | dropped
deriving DecidableEq

namespace Fate

/-- What is seen of a continuation that has a name. -/
def sighting? (name : String) : Fate → Option Sighting
  | .parked => none
  | .called result => some (.continued name result)
  | .dropped => some (.abandoned name)

/-- What a continuation puts into its slot. -/
def slot : Fate → Slot
  | .parked => .waiting
  | .called result => .filled result
  | .dropped => .closed

/-- What a slot shows; a result may have been taken out of a slot that was looked into. -/
def Shows (fate : Fate) (polled : Prop) (slot : Slot) : Prop :=
  slot = fate.slot ∨ slot = .closed ∧ polled ∧ ∃ result, fate = .called result

end Fate

/-- A continuation that was handed to a view with a script. -/
structure Ticket where
  view : ObjectKey
  id : CallbackId
  continuation : Continuation Action
  fate : Fate

namespace Deed

/-- Whether a script is evaluated, which takes an id. -/
def isEvaluation : Deed → Bool
  | .evaluate _ _ _ _ => true
  | _ => false

/-- The ticket that a deed hands out. -/
def ticket? : Deed → Option Ticket
  | .evaluate view id continuation sent =>
    continuation.map (⟨view, id, ·, if sent then .parked else .dropped⟩)
  | _ => none

/-- How a deed settles what a view has parked under an id: a result calls it, whichever view it is
routed to, and the end of its view's destruction drops it. -/
def settles? (view : ObjectKey) (id : CallbackId) : Deed → Option Fate
  | .answer _ answered result => if answered = id then some (.called result) else none
  | .retire retired => if retired = view then some .dropped else none
  | _ => none

/-- Nothing settles a ticket as parked. -/
theorem settles?_ne_parked {view : ObjectKey} {id : CallbackId} {deed : Deed} {fate : Fate}
    (settles : deed.settles? view id = some fate) : fate ≠ .parked := by
  cases deed with
  | answer other answered result =>
      simp only [settles?, Option.ite_none_right_eq_some, Option.some.injEq] at settles
      rw [← settles.2]
      exact Fate.noConfusion
  | retire retired =>
      simp only [settles?, Option.ite_none_right_eq_some, Option.some.injEq] at settles
      rw [← settles.2]
      exact Fate.noConfusion
  | _ => cases settles

end Deed

namespace Ticket

/-- A ticket after later deeds, of which the first that settles it decides. -/
def awaiting (later : List Deed) (ticket : Ticket) : Ticket :=
  { ticket with
    fate :=
      match ticket.fate with
      | .parked => (later.findSome? (Deed.settles? ticket.view ticket.id)).getD .parked
      | settled => settled }

/-- A ticket after some ids were settled. -/
def settle (ids : List CallbackId) (fate : Fate) (ticket : Ticket) : Ticket :=
  if ticket.id ∈ ids ∧ ticket.fate = .parked then { ticket with fate := fate } else ticket

/-- What was seen of a ticket. -/
def sighting? (ticket : Ticket) : Option Sighting :=
  match ticket.continuation with
  | .reaction name _ _ => ticket.fate.sighting? name
  | .slot _ => none

/-- The slot that a ticket fills. -/
def slot? (ticket : Ticket) : Option Nat :=
  match ticket.continuation with
  | .reaction _ _ _ => none
  | .slot key => some key

/-- A ticket with a slot has that slot as its continuation. -/
theorem continuation_of_slot? {ticket : Ticket} {key : Nat} (slotted : ticket.slot? = some key) :
    ticket.continuation = .slot key := by
  unfold slot? at slotted
  split at slotted
  · cases slotted
  next holds =>
    cases slotted
    exact holds

/-- A ticket whose continuation is a slot has that slot. -/
theorem slot?_of_continuation {ticket : Ticket} {key : Nat}
    (holds : ticket.continuation = .slot key) : ticket.slot? = some key := by
  simp only [slot?, holds]

/-! ### Later deeds -/

@[simp] theorem awaiting_nil (ticket : Ticket) : ticket.awaiting [] = ticket := by
  obtain ⟨view, id, continuation, fate⟩ := ticket
  cases fate <;> rfl

theorem awaiting_append (ticket : Ticket) (sooner later : List Deed) :
    ticket.awaiting (sooner ++ later) = (ticket.awaiting sooner).awaiting later := by
  obtain ⟨view, id, continuation, fate⟩ := ticket
  cases fate with
  | parked =>
      simp only [awaiting, List.findSome?_append]
      cases settled : sooner.findSome? (Deed.settles? view id) with
      | none => rfl
      | some fate =>
          obtain ⟨deed, _, settles⟩ := List.exists_of_findSome?_eq_some settled
          cases fate with
          | parked => exact absurd rfl (Deed.settles?_ne_parked settles)
          | called result => rfl
          | dropped => rfl
  | called result => rfl
  | dropped => rfl

/-- A deed that does not settle a ticket leaves it. -/
theorem awaiting_of_unsettled {ticket : Ticket} {deed : Deed}
    (unsettled : deed.settles? ticket.view ticket.id = none) : ticket.awaiting [deed] = ticket := by
  obtain ⟨view, id, continuation, fate⟩ := ticket
  have silent : deed.settles? view id = none := unsettled
  cases fate with
  | parked =>
      simp only [awaiting, List.findSome?_cons, silent, List.findSome?_nil, Option.getD_none]
  | called result => rfl
  | dropped => rfl

/-- An answer settles the ticket it is addressed to. -/
theorem awaiting_answer (ticket : Ticket) (view : ObjectKey) (id : CallbackId)
    (result : Option String) :
    ticket.awaiting [.answer view id result] = ticket.settle [id] (.called result) := by
  obtain ⟨owner, own, continuation, fate⟩ := ticket
  by_cases same : own = id
  · subst same
    cases fate with
    | parked => simp [awaiting, settle, Deed.settles?]
    | called earlier => simp [awaiting, settle]
    | dropped => simp [awaiting, settle]
  · have unsettled : (Deed.answer view id result).settles? owner own = none :=
      if_neg (Ne.symm same)
    rw [awaiting_of_unsettled unsettled]
    simp only [settle, List.mem_singleton, same, false_and, ↓reduceIte]

/-- The end of a destruction settles what its view has parked. -/
theorem awaiting_retire (ticket : Ticket) (view : ObjectKey) :
    ticket.awaiting [.retire view] =
      if ticket.view = view ∧ ticket.fate = .parked then { ticket with fate := .dropped }
      else ticket := by
  obtain ⟨owner, own, continuation, fate⟩ := ticket
  by_cases same : owner = view
  · subst same
    cases fate with
    | parked => simp [awaiting, Deed.settles?]
    | called earlier => simp [awaiting]
    | dropped => simp [awaiting]
  · have unsettled : (Deed.retire view).settles? owner own = none := if_neg (Ne.symm same)
    rw [awaiting_of_unsettled unsettled]
    simp only [same, false_and, ↓reduceIte]

/-! ### Settled ids -/

@[simp] theorem id_settle (ids : List CallbackId) (fate : Fate) (ticket : Ticket) :
    (ticket.settle ids fate).id = ticket.id := by
  unfold settle
  split
  · rfl
  · rfl

@[simp] theorem continuation_settle (ids : List CallbackId) (fate : Fate) (ticket : Ticket) :
    (ticket.settle ids fate).continuation = ticket.continuation := by
  unfold settle
  split
  · rfl
  · rfl

@[simp] theorem slot?_settle (ids : List CallbackId) (fate : Fate) (ticket : Ticket) :
    (ticket.settle ids fate).slot? = ticket.slot? := by
  simp only [slot?, continuation_settle]

/-- A ticket is settled under its own id only. -/
theorem settle_of_not_mem {ids : List CallbackId} (fate : Fate) {ticket : Ticket}
    (apart : ticket.id ∉ ids) : ticket.settle ids fate = ticket :=
  if_neg fun both => apart both.1

/-- Only tickets that were not settled stay parked. -/
theorem parked_settle_iff {ids : List CallbackId} {fate : Fate} (final : fate ≠ .parked)
    (ticket : Ticket) :
    (ticket.settle ids fate).fate = .parked ↔ ticket.id ∉ ids ∧ ticket.fate = .parked := by
  unfold settle
  split
  next both => exact ⟨fun parked => absurd parked final, fun apart => absurd both.1 apart.1⟩
  next other =>
    exact ⟨fun parked => ⟨fun member => other ⟨member, parked⟩, parked⟩, fun both => both.2⟩

/-- Settling several ids is settling one after another. -/
theorem settle_cons {fate : Fate} (final : fate ≠ .parked) (id : CallbackId)
    (ids : List CallbackId) (ticket : Ticket) :
    ticket.settle (id :: ids) fate = (ticket.settle [id] fate).settle ids fate := by
  by_cases same : ticket.id = id
  · by_cases parked : ticket.fate = .parked
    · simp only [settle, same, List.mem_cons, true_or, List.not_mem_nil, or_false, parked, and_self,
        ↓reduceIte, final, and_false]
    · simp only [settle, parked, and_false, ↓reduceIte]
  · simp only [settle, List.mem_cons, same, false_or, List.not_mem_nil, or_self, false_and,
      ↓reduceIte]

end Ticket

/-- The tickets of a history, in the order in which they were handed out. -/
def tickets : List Deed → List Ticket
  | [] => []
  | deed :: later => deed.ticket?.toList.map (·.awaiting later) ++ tickets later

/-- One more deed settles the tickets that wait for it, and may hand out one more. -/
theorem tickets_snoc (deeds : List Deed) (deed : Deed) :
    tickets (deeds ++ [deed]) = (tickets deeds).map (·.awaiting [deed]) ++ deed.ticket?.toList := by
  induction deeds with
  | nil =>
      simp only [List.nil_append, tickets, List.append_nil, List.map_nil]
      exact List.map_congr_left (fun ticket _ => ticket.awaiting_nil) |>.trans (List.map_id _)
  | cons first later ih =>
      have settled : first.ticket?.toList.map (·.awaiting (later ++ [deed])) =
          (first.ticket?.toList.map (·.awaiting later)).map (·.awaiting [deed]) := by
        rw [List.map_map]
        exact List.map_congr_left fun ticket _ => ticket.awaiting_append later [deed]
      simp only [List.cons_append, tickets, settled, ih, List.map_append, List.append_assoc]

theorem tickets_snoc_of_idle (deeds : List Deed) {deed : Deed}
    (unsettled : ∀ view id, deed.settles? view id = none) (none_new : deed.ticket? = none) :
    tickets (deeds ++ [deed]) = tickets deeds := by
  rw [tickets_snoc, none_new, Option.toList_none, List.append_nil]
  exact List.map_congr_left (fun ticket _ => Ticket.awaiting_of_unsettled (unsettled _ _))
    |>.trans (List.map_id _)

end HostBridge.Session
