import HostBridge.Proofs.Session.Handling
import HostBridge.Proofs.Session.Simulation

/-!
# Views do not see each other's events

An inbound event is handled by the view that it is addressed to.  Other views keep their bindings,
their clients and what they wait for, and none of their code runs, with one exception: continuations
are parked in a table that all views share, and the result of a script goes to whatever is parked
under the id that it carries.  A continuation of another view is called all the same.

Main statement: whatever event a machine delivers, the views other than its addressee are as they
were, and so is what is parked, except under the id that a result carries (`Machine.isolation`).
-/

namespace HostBridge.Session

namespace State

/-- The id that an event carries if it is a well-formed result for a registered view. -/
def carried? (state : State) (inbound : Inbound) : Option CallbackId :=
  match state.context.registry.lookup state.context.alive inbound.objectId, inbound.value?,
    InboundMethod.ofName? inbound.method with
  | some _, some payload, some .evaluateResult => carriedId? payload
  | _, _, _ => none

/-- What a delivery does to views other than the addressee, and to what all views share. -/
structure Isolates (before : State) (inbound : Inbound) (after : State) : Prop where
  registry : after.context.registry = before.context.registry
  /-- Other views keep their bindings, their clients and what they wait for. -/
  others : ∀ key,
    before.context.registry.lookup before.context.alive inbound.objectId ≠ some key →
    after.context.view? key = before.context.view? key
  /-- What is parked stays parked, except under the id of a result. -/
  parked : after.context.callbacks.parked =
    (before.carried? inbound).elim before.context.callbacks.parked
      fun id => before.context.callbacks.parked.erase id.value
  slots : ∀ slot, after.slots.find? slot = before.slots.find? slot ∨
    ∃ id, before.carried? inbound = some id ∧
      before.context.callbacks.parked.find? id.value = some (.slot slot)
  /-- What is parked under that id gets the result, whichever view it belongs to. -/
  called : ∀ id, before.carried? inbound = some id →
    (∀ name steps ending,
      before.context.callbacks.parked.find? id.value = some (.reaction name steps ending) →
      ∃ result, after.seen = before.seen ++ [.continued name result]) ∧
    ∀ slot, before.context.callbacks.parked.find? id.value = some (.slot slot) →
      ∃ result, after.slots.find? slot = some (.filled result)
  /-- Code that runs is the client of the addressee, a target that is bound there, or what is parked
  under the id of a result. -/
  seen : ∃ seen, after.seen = before.seen ++ seen ∧ ∀ sighting ∈ seen, ∃ key view payload,
    before.context.registry.lookup before.context.alive inbound.objectId = some key ∧
    before.context.view? key = some view ∧ inbound.value? = some payload ∧
    Runs before.context.callbacks view inbound.method payload sighting

/-! ### What waits -/

/-- A progress report leaves every parked continuation and every slot. -/
theorem waiting_progressed (objectId : UInt64) (value : Int32) (client : Option (Client Action))
    (state : State) (tasks : List ProgressTask) :
    (progressed objectId value client state tasks).1.context.callbacks =
        state.context.callbacks ∧
      (progressed objectId value client state tasks).1.slots = state.slots := by
  induction tasks generalizing state with
  | nil => exact ⟨rfl, rfl⟩
  | cons task tasks ih =>
      cases task with
      | announce event => exact ih _
      | notify phase =>
          have told : (state.telling objectId value phase client).1.context.callbacks =
              state.context.callbacks ∧
                (state.telling objectId value phase client).1.slots = state.slots := by
            unfold telling
            split
            · exact ⟨rfl, rfl⟩
            · exact ⟨rfl, rfl⟩
          rw [progressed]
          split
          next after reason same =>
            rw [same] at told
            exact told
          next after ending _ same =>
            rw [same] at told
            obtain ⟨callbacks, slots⟩ := ih after
            exact ⟨callbacks.trans told.1, slots.trans told.2⟩

/-- A script message leaves every parked continuation and every slot. -/
theorem waiting_messaged (state : State) (key : ObjectKey) (view : View Action) (payload : Json) :
    (state.messaged key view payload).1.context.callbacks = state.context.callbacks ∧
      (state.messaged key view payload).1.slots = state.slots := by
  unfold messaged
  split
  · exact ⟨rfl, rfl⟩
  · dsimp only
    split
    · exact ⟨rfl, rfl⟩
    · exact ⟨rfl, rfl⟩

/-- A script result takes the id it carries, and no other. -/
theorem parked_answered (state : State) (key : ObjectKey) (view : View Action) (payload : Json) :
    (state.answered key view payload).1.context.callbacks.parked =
      (carriedId? payload).elim state.context.callbacks.parked
        fun id => state.context.callbacks.parked.erase id.value := by
  unfold answered carriedId?
  cases (payload.get? "callbackId").bind CallbackId.ofJson? with
  | none => rfl
  | some id =>
      dsimp only
      split
      · rfl
      · rfl
      · rfl
      · rfl

/-- A script result fills at most the slot parked under the id it carries. -/
theorem slots_answered (state : State) (key : ObjectKey) (view : View Action) (payload : Json)
    (slot : Nat) :
    (state.answered key view payload).1.slots.find? slot = state.slots.find? slot ∨
      ∃ id, carriedId? payload = some id ∧
        state.context.callbacks.parked.find? id.value = some (.slot slot) := by
  unfold answered carriedId?
  cases (payload.get? "callbackId").bind CallbackId.ofJson? with
  | none => exact .inl rfl
  | some id =>
      dsimp only
      split
      · exact .inl rfl
      next filled parked =>
        by_cases here : slot = filled
        · subst here
          exact .inr ⟨id, rfl, parked⟩
        · exact .inl (Table.find?_insert_of_ne _ _ here)
      · exact .inl rfl
      · exact .inl rfl

/-- A script result calls what is parked under the id it carries. -/
theorem called_answered (state : State) (key : ObjectKey) (view : View Action) {payload : Json}
    {id : CallbackId} (carried : carriedId? payload = some id) :
    (∀ name steps ending,
      state.context.callbacks.parked.find? id.value = some (.reaction name steps ending) →
      ∃ result, (state.answered key view payload).1.seen =
        state.seen ++ [.continued name result]) ∧
    ∀ slot, state.context.callbacks.parked.find? id.value = some (.slot slot) →
      ∃ result, (state.answered key view payload).1.slots.find? slot = some (.filled result) := by
  have named : (payload.get? "callbackId").bind CallbackId.ofJson? = some id := carried
  constructor
  · intro name steps ending parked
    refine ⟨scriptResult payload, ?_⟩
    unfold answered
    simp only [named, parked]
    cases ending with
    | returns => rfl
    | fails reason => rfl
    | panics reason => rfl
  · intro slot parked
    refine ⟨scriptResult payload, ?_⟩
    unfold answered
    simp only [named, parked]
    exact Table.find?_insert_self _ _ _

section Handled

variable {state : State} {key : ObjectKey} {view : View Action} {inbound : Inbound} {payload : Json}
  (found : state.context.view? key = some view)
  (listed : state.context.registry.lookup state.context.alive inbound.objectId = some key)
  (read : inbound.value? = some payload)

include found listed read

/-- A delivery takes the id it carries, and no other. -/
theorem parked_handled :
    (state.handled key inbound.method payload).1.context.callbacks.parked =
      (state.carried? inbound).elim state.context.callbacks.parked
        fun id => state.context.callbacks.parked.erase id.value := by
  unfold handled carried?
  rw [found, listed, read]
  cases InboundMethod.ofName? inbound.method with
  | none => rfl
  | some kind =>
      cases kind with
      | loadProgress =>
          dsimp only
          cases loadProgress? payload with
          | none => rfl
          | some value =>
              dsimp only
              rw [(waiting_progressed _ _ _ _ _).1]
              rfl
      | evaluateResult => exact parked_answered state key view payload
      | scriptMessage =>
          dsimp only
          rw [(waiting_messaged state key view payload).1]
          rfl

/-- A delivery fills at most the slot parked under the id it carries. -/
theorem slots_handled (slot : Nat) :
    (state.handled key inbound.method payload).1.slots.find? slot = state.slots.find? slot ∨
      ∃ id, state.carried? inbound = some id ∧
        state.context.callbacks.parked.find? id.value = some (.slot slot) := by
  unfold handled carried?
  rw [found, listed, read]
  cases InboundMethod.ofName? inbound.method with
  | none => exact .inl rfl
  | some kind =>
      cases kind with
      | loadProgress =>
          dsimp only
          cases loadProgress? payload with
          | none => exact .inl rfl
          | some value =>
              dsimp only
              rw [(waiting_progressed _ _ _ _ _).2]
              exact .inl rfl
      | evaluateResult => exact slots_answered state key view payload slot
      | scriptMessage =>
          dsimp only
          rw [(waiting_messaged state key view payload).2]
          exact .inl rfl

/-- A delivery calls what is parked under the id it carries. -/
theorem called_handled {id : CallbackId} (carried : state.carried? inbound = some id) :
    (∀ name steps ending,
      state.context.callbacks.parked.find? id.value = some (.reaction name steps ending) →
      ∃ result, (state.handled key inbound.method payload).1.seen =
        state.seen ++ [.continued name result]) ∧
    ∀ slot, state.context.callbacks.parked.find? id.value = some (.slot slot) →
      ∃ result, (state.handled key inbound.method payload).1.slots.find? slot =
        some (.filled result) := by
  unfold carried? at carried
  rw [listed, read] at carried
  unfold handled
  rw [found]
  cases named : InboundMethod.ofName? inbound.method with
  | none =>
      rw [named] at carried
      cases carried
  | some kind =>
      rw [named] at carried
      cases kind with
      | loadProgress => cases carried
      | evaluateResult => exact called_answered state key view carried
      | scriptMessage => cases carried

end Handled

/-- A delivery that carries no id isolates every continuation. -/
theorem Isolates.of_refused {state : State} {inbound : Inbound}
    (refused : state.carried? inbound = none) {α : Type} (routing : Routing α) :
    Isolates state inbound (state.routing routing) where
  registry := rfl
  others _ _ := rfl
  parked := by
    rw [refused]
    rfl
  slots _ := .inl rfl
  called id carried := by
    rw [refused] at carried
    cases carried
  seen := ⟨[], (List.append_nil _).symm, fun _ member => nomatch member⟩

/-- An undisturbed delivery isolates every continuation but the one it carries the id of. -/
theorem isolates_delivered (state : State) (inbound : Inbound) :
    Isolates state inbound (state.delivered inbound).1 := by
  cases listed : state.context.registry.lookup state.context.alive inbound.objectId with
  | none =>
      have refused : state.carried? inbound = none := by
        rw [carried?, listed]
      rw [delivered_of_absent listed]
      exact .of_refused refused _
  | some key =>
      cases read : inbound.value? with
      | none =>
          have refused : state.carried? inbound = none := by
            rw [carried?, listed, read]
          rw [delivered_of_unreadable listed read]
          exact .of_refused refused _
      | some payload =>
          rw [delivered_of_readable listed read]
          obtain ⟨view, found⟩ := Machine.view?_of_lookup listed
          let entered := state.note [inbound.arrivedEntry]
          have present : entered.context.view? key = some view := found
          have again : entered.context.registry.lookup entered.context.alive inbound.objectId =
              some key := listed
          obtain ⟨seen, events, handles⟩ := handles_handled present inbound.method payload
          refine ⟨handles.alters.registry, ?_, parked_handled present again read,
            slots_handled present again read, fun id => called_handled present again read, seen,
            handles.alters.seen, ?_⟩
          · intro other apart
            exact handles.alters.others other fun same => apart (same ▸ listed)
          · intro sighting member
            exact ⟨key, view, payload, listed, found, read, handles.runs sighting member⟩

end State

namespace Machine

/-- Whatever event a machine delivers, if the code that it reaches does not call back, other views
keep their bindings, their clients and what they wait for, and none of their code runs, except for
what is parked under the id of a result: that gets the result even from a view it does not belong
to. -/
theorem isolation (machine : Machine) (inbound : Inbound) (delivers : machine.Delivers inbound)
    (inert : machine.state.Inert inbound) :
    ∃ after delivery, Leads machine ⟨after, machine.stack, .reply (.delivery delivery)⟩ ∧
      State.Isolates machine.state inbound after :=
  ⟨_, _, delivers.leads inert, State.isolates_delivered machine.state inbound⟩

/-- A page that reports its progress to an observer, while another view waits for a result. -/
theorem isolation_of_progress : ∃ visited machine inbound, Run visited machine ∧
    machine.Delivers inbound ∧ machine.state.Inert inbound ∧
    machine.state.context.pendingCallbacks = 1 ∧
    ∃ after delivery, Leads machine ⟨after, machine.stack, .reply (.delivery delivery)⟩ ∧
      State.Isolates machine.state inbound after := by
  have first := Run.step (.start State.new_withWeb (.createView "first"))
  have second := (first.next rfl (.createView "second")).step
  have waiting := (second.next rfl (.evaluate "second" "1" "theirs" [] .returns)).step
  have observed := (waiting.next rfl (.setClient "first" (.observer "mine" [] none))).step
  have reports := observed.next rfl
    (.deliver ⟨some "first", 0⟩ "onNativeLoadProgress" "\x7b\"progress\":100\x7d")
  refine ⟨_, _, ⟨0x1000, _, _⟩, reports, ⟨_, rfl, rfl⟩, ?inert, rfl,
    isolation _ _ ⟨_, rfl, rfl⟩ ?inert⟩
  exact State.inert_of_isIdle (by decide +kernel) _

/-- A result that one view reports under the id of another: the continuation of the other view is
called, and its id still tracked. -/
theorem isolation_of_result_fails : ∃ visited machine inbound after delivery,
    Run visited machine ∧ machine.Delivers inbound ∧ machine.state.Inert inbound ∧
    machine.state.context.registry.lookup machine.state.context.alive inbound.objectId = some 0 ∧
    (machine.state.context.view? 1).map View.pending = some [⟨1⟩] ∧
    Leads machine ⟨after, machine.stack, .reply (.delivery delivery)⟩ ∧
    (∃ result, after.seen = machine.state.seen ++ [.continued "theirs" result]) ∧
    after.context.pendingCallbacks = 0 ∧
    (after.context.view? 1).map View.pending = some [⟨1⟩] := by
  have first := Run.step (.start State.new_withWeb (.createView "first"))
  have second := (first.next rfl (.createView "second")).step
  have waiting := (second.next rfl (.evaluate "second" "1" "theirs" [] .returns)).step
  have strays := waiting.next rfl
    (.deliver ⟨some "first", 0⟩ "onEvaluateJavascriptResult" "\x7b\"callbackId\":1\x7d")
  refine ⟨_, _, ⟨0x1000, _, _⟩, _, _, strays, ⟨_, rfl, rfl⟩, ?inert, ?_, ?_,
    Delivers.leads ⟨⟨some "first", 0⟩, rfl, rfl⟩ ?inert, ?_, ?_, ?_⟩
  · exact State.inert_of_isIdle (by decide +kernel) _
  · decide +kernel
  · decide +kernel
  · exact ((State.isolates_delivered _ _).called ⟨1⟩ (by decide +kernel)).1 "theirs" [] .returns rfl
  · decide +kernel
  · decide +kernel

end Machine

end HostBridge.Session
