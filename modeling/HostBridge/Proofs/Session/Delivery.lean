import HostBridge.Proofs.Session.Calls
import HostBridge.Session.Machine
import Mathlib.Logic.Function.Iterate

/-!
# Deliveries at once

An inbound event is handled in many transitions, because the code that it reaches may call back.  If
that code takes no steps, the machine comes to the answer that a plain function of the session and
the event gives: what the client is told, what becomes of the continuation or the binding, what is
announced, and how the delivery ends, also where a client or a continuation panics.

Main statement: a machine that delivers an event to code that takes no steps comes to
`State.delivered` (`Machine.leads_delivering`).
-/

namespace HostBridge.Session

/-- How the handler of an inbound event ends. -/
abbrev Handling := Except String Delivery

namespace State

variable (state : State)

/-- Tell a client of a phase of a page load; how the client ends. -/
def telling (objectId : UInt64) (value : Int32) (phase : Phase) :
    Option (Client Action) → State × Ending
  | some (.observer name _ panics) =>
    let progress := if phase = .progress then some value else none
    (state.saw [.client name phase objectId progress], hookEnding panics phase)
  | _ => (state, .returns)

/-- What a reported progress leads to; a client that panics ends it. -/
def progressed (objectId : UInt64) (value : Int32) (client : Option (Client Action)) :
    State → List ProgressTask → State × Handling
  | state, [] => (state, .ok .routed)
  | state, .announce event :: tasks =>
    progressed objectId value client (state.announce (.view event)) tasks
  | state, .notify phase :: tasks =>
    match state.telling objectId value phase client with
    | (told, .panics reason) => (told, .error reason)
    | (told, _) => progressed objectId value client told tasks

/-- Announce what became of a script's result. -/
def resolved (objectId : UInt64) (id : CallbackId) (delivered : Bool) : State × Handling :=
  (state.announce (.view (.scriptResult objectId id.value delivered)), .ok .routed)

/-- What the result of a script leads to; whatever is parked under its id is given the result. -/
def answered (key : ObjectKey) (view : View Action) (payload : Json) : State × Handling :=
  match (payload.get? "callbackId").bind CallbackId.ofJson? with
  | none => (state, .ok .malformedPayload)
  | some id =>
    match state.context.callbacks.parked.find? id.value with
    | none =>
      ((state.taking key id).note [ViewLog.unexpectedResult view.objectId id]).resolved
        view.objectId id false
    | some (.slot slot) =>
      ((state.taking key id).setSlot slot (.filled (scriptResult payload))).resolved
        view.objectId id true
    | some (.reaction name _ (.panics reason)) =>
      ((state.taking key id).saw [.continued name (scriptResult payload)], .error reason)
    | some (.reaction name _ _) =>
      ((state.taking key id).saw [.continued name (scriptResult payload)]).resolved
        view.objectId id true

/-- The session with the bindings of a view replaced. -/
def rebinding (key : ObjectKey) (bindings : Bindings Action) : State :=
  { state with
    context := state.context.modifyView key fun view => { view with bindings := bindings } }

/-- Announce what became of a script call. -/
def dispatched (objectId : UInt64) (interface method : String)
    (result : Except DispatchError Unit) : State × Handling :=
  ((state.note [ViewLog.dispatched objectId interface method result]).announce
    (.view (dispatchEvent objectId interface method result)), .ok .routed)

/-- What is seen of a call that reaches its target. -/
def invocationSeen (invocation : Invocation Action) (message : ScriptMessage) : List Sighting :=
  match invocation.operation with
  | none => []
  | some _ => [.script invocation.label message.method message.args]

/-- What a call from a script leads to; the binding of the view is used up. -/
def messaged (key : ObjectKey) (view : View Action) (payload : Json) : State × Handling :=
  match ScriptMessage.ofJson? payload with
  | none => (state, .ok .malformedPayload)
  | some message =>
    let claimed := view.bindings.claim message.interface message.method
    let bound := state.rebinding key claimed.1
    match claimed.2 with
    | .error error =>
      bound.dispatched view.objectId message.interface message.method (.error error)
    | .ok invocation =>
      let ending := invocation.ending message.method
      (((bound.note [dispatchingEntry message.interface message.method message.args]).saw
          (invocationSeen invocation message)).note
            (ending.entries message.interface message.method)).dispatched
        view.objectId message.interface message.method
        (ending.result message.interface message.method)

/-- What the handler of an inbound event does in a view. -/
def handled (key : ObjectKey) (method : String) (payload : Json) : State × Handling :=
  match state.context.view? key with
  | none => (state, .ok .unknownObject)
  | some view =>
    match InboundMethod.ofName? method with
    | none => (state, .ok .unknownMethod)
    | some .loadProgress =>
      match loadProgress? payload with
      | none => (state, .ok .malformedPayload)
      | some value =>
        progressed view.objectId value view.client
          (state.note [ViewLog.progress view.objectId value]) (progressTasks view.objectId value)
    | some .evaluateResult => state.answered key view payload
    | some .scriptMessage => state.messaged key view payload

/-- The session with an event let in or refused. -/
def admitted (inbound : Inbound) : Routing (Except Delivery (ObjectKey × Json)) :=
  inbound.admit state.context.bus
    (state.context.registry.lookup state.context.alive inbound.objectId)

/-- The session after a part of the routing. -/
def routing {α : Type} (routing : Routing α) : State :=
  { state with context := { state.context with bus := routing.bus } }.note routing.log

/-- What the delivery of an inbound event comes to. -/
def delivered (inbound : Inbound) : State × Delivery :=
  let admitted := state.admitted inbound
  let entered := state.routing admitted
  match admitted.result with
  | .error delivery => (entered, delivery)
  | .ok (key, payload) =>
    let after := entered.handled key inbound.method payload
    let concluded := inbound.conclude after.1.context.bus after.2
    (after.1.routing concluded, concluded.result)

section Admission

variable {state : State} {inbound : Inbound} {key : ObjectKey} {payload : Json}

/-- A delivery to an id that nothing has is turned away as one to an unknown object. -/
theorem admitted_of_absent
    (absent : state.context.registry.lookup state.context.alive inbound.objectId = none) :
    state.admitted inbound = ⟨state.context.bus.announce inbound.droppedEvent,
      [inbound.arrivedEntry, inbound.refusedEntry .unknownObject], .error .unknownObject⟩ := by
  rw [admitted, absent]
  rfl

/-- A delivery whose payload is no JSON is turned away as malformed. -/
theorem admitted_of_unreadable
    (listed : state.context.registry.lookup state.context.alive inbound.objectId = some key)
    (unreadable : inbound.value? = none) :
    state.admitted inbound = ⟨state.context.bus.announce inbound.droppedEvent,
      [inbound.arrivedEntry, inbound.refusedEntry .malformedPayload],
      .error .malformedPayload⟩ := by
  rw [admitted, listed]
  simp only [unreadable, Inbound.admit]

/-- A delivery that finds its view and can be read is admitted. -/
theorem admitted_of_readable
    (listed : state.context.registry.lookup state.context.alive inbound.objectId = some key)
    (read : inbound.value? = some payload) :
    state.admitted inbound = ⟨state.context.bus, [inbound.arrivedEntry], .ok (key, payload)⟩ := by
  rw [admitted, listed]
  simp only [read, Inbound.admit]

/-- A delivery to an id that nothing has ends as one to an unknown object. -/
theorem delivered_of_absent
    (absent : state.context.registry.lookup state.context.alive inbound.objectId = none) :
    state.delivered inbound = (state.routing ⟨state.context.bus.announce inbound.droppedEvent,
      [inbound.arrivedEntry, inbound.refusedEntry .unknownObject], Delivery.unknownObject⟩,
      .unknownObject) := by
  rw [delivered, admitted_of_absent absent]
  rfl

/-- A delivery whose payload is no JSON ends as malformed. -/
theorem delivered_of_unreadable
    (listed : state.context.registry.lookup state.context.alive inbound.objectId = some key)
    (unreadable : inbound.value? = none) :
    state.delivered inbound = (state.routing ⟨state.context.bus.announce inbound.droppedEvent,
      [inbound.arrivedEntry, inbound.refusedEntry .malformedPayload], Delivery.malformedPayload⟩,
      .malformedPayload) := by
  rw [delivered, admitted_of_unreadable listed unreadable]
  rfl

/-- A delivery that is admitted ends as its handler does. -/
theorem delivered_of_readable
    (listed : state.context.registry.lookup state.context.alive inbound.objectId = some key)
    (read : inbound.value? = some payload) :
    state.delivered inbound =
      let after := (state.note [inbound.arrivedEntry]).handled key inbound.method payload
      let concluded := inbound.conclude after.1.context.bus after.2
      (after.1.routing concluded, concluded.result) := by
  rw [delivered, admitted_of_readable listed read]
  rfl

end Admission

/-- The code that an inbound event reaches takes no steps. -/
structure Inert (inbound : Inbound) : Prop where
  client : ∀ key view name hooks panics phase,
    state.context.registry.lookup state.context.alive inbound.objectId = some key →
    state.context.view? key = some view → view.client = some (.observer name hooks panics) →
    hookSteps hooks phase = []
  continuation : ∀ payload id name steps ending, inbound.value? = some payload →
    (payload.get? "callbackId").bind CallbackId.ofJson? = some id →
    state.context.callbacks.parked.find? id.value = some (.reaction name steps ending) → steps = []
  target : ∀ key view payload message target operation,
    state.context.registry.lookup state.context.alive inbound.objectId = some key →
    state.context.view? key = some view → inbound.value? = some payload →
    ScriptMessage.ofJson? payload = some message →
    view.bindings.table.find? message.interface = some target →
    target.operation? message.method = some operation → operation.steps = []

/-- The code that the handler of an inbound event reaches takes no steps. -/
structure Quiet (inbound : Inbound) : Prop where
  client : InboundMethod.ofName? inbound.method = some .loadProgress →
    ∀ key view name hooks panics phase,
      state.context.registry.lookup state.context.alive inbound.objectId = some key →
      state.context.view? key = some view → view.client = some (.observer name hooks panics) →
      hookSteps hooks phase = []
  continuation : InboundMethod.ofName? inbound.method = some .evaluateResult →
    ∀ payload id name steps ending, inbound.value? = some payload →
      (payload.get? "callbackId").bind CallbackId.ofJson? = some id →
      state.context.callbacks.parked.find? id.value = some (.reaction name steps ending) →
      steps = []
  target : InboundMethod.ofName? inbound.method = some .scriptMessage →
    ∀ key view payload message target operation,
      state.context.registry.lookup state.context.alive inbound.objectId = some key →
      state.context.view? key = some view → inbound.value? = some payload →
      ScriptMessage.ofJson? payload = some message →
      view.bindings.table.find? message.interface = some target →
      target.operation? message.method = some operation → operation.steps = []

/-- Where no code of the host would run, the run of a delivery is not interrupted. -/
theorem Inert.quiet {state : State} {inbound : Inbound} (inert : state.Inert inbound) :
    state.Quiet inbound :=
  ⟨fun _ => inert.client, fun _ => inert.continuation, fun _ => inert.target⟩

/-! ### Sessions without hooks -/

/-- Whether a client takes no steps in any phase. -/
def isIdleClient : Client Action → Bool
  | .silent => true
  | .observer _ hooks _ => hooks.all (·.2.isEmpty)

/-- Whether a continuation takes no steps. -/
def isIdleContinuation : Continuation Action → Bool
  | .reaction _ steps _ => steps.isEmpty
  | .slot _ => true

/-- Whether no code that waits in a session takes steps. -/
def isIdle : Bool :=
  state.context.views.values.all (fun view =>
    view.client.all isIdleClient &&
      view.bindings.table.values.all (fun target =>
        target.operations.all (·.2.steps.isEmpty))) &&
    state.context.callbacks.parked.values.all isIdleContinuation

/-- Idle hooks have no steps in either phase. -/
theorem hookSteps_of_idle {hooks : List (Phase × List Action)}
    (idle : hooks.all (·.2.isEmpty) = true) (phase : Phase) : hookSteps hooks phase = [] := by
  cases found : hooks.find? (fun hook => hook.1 = phase) with
  | none => simp only [hookSteps, found, Option.map_none, Option.getD_none]
  | some hook =>
      have empty := List.all_eq_true.mp idle hook (List.mem_of_find?_eq_some found)
      simp only [hookSteps, found, Option.map_some, Option.getD_some]
      exact List.isEmpty_iff.mp empty

/-- An idle state is inert under every delivery. -/
theorem inert_of_isIdle {state : State} (idle : state.isIdle = true) (inbound : Inbound) :
    state.Inert inbound := by
  obtain ⟨views, parked⟩ := (Bool.and_eq_true _ _).mp idle
  have viewIdle (key : ObjectKey) (view : View Action)
      (found : state.context.view? key = some view) :=
    List.all_eq_true.mp views view ((Table.mem_values_iff _ _).mpr ⟨key, found⟩)
  refine ⟨?_, ?_, ?_⟩
  · intro key view name hooks panics phase _ found held
    have clients := ((Bool.and_eq_true _ _).mp (viewIdle key view found)).1
    rw [held] at clients
    exact hookSteps_of_idle clients phase
  · intro payload id name steps ending _ _ held
    have empty := List.all_eq_true.mp parked _ ((Table.mem_values_iff _ _).mpr ⟨_, held⟩)
    exact List.isEmpty_iff.mp empty
  · intro key view payload message target operation _ found _ _ bound listed
    have targets := ((Bool.and_eq_true _ _).mp (viewIdle key view found)).2
    have operations := List.all_eq_true.mp targets target
      ((Table.mem_values_iff _ _).mpr ⟨_, bound⟩)
    obtain ⟨entry, first, rfl⟩ := Option.map_eq_some_iff.mp listed
    have member := List.mem_reverse.mp (List.mem_of_find?_eq_some first)
    exact List.isEmpty_iff.mp (List.all_eq_true.mp operations entry member)

end State

namespace Machine

/-- A machine comes to another one. -/
def Leads (machine later : Machine) : Prop := ∃ count, step^[count] machine = later

namespace Leads

variable {machine middle later : Machine}

theorem refl (machine : Machine) : Leads machine machine := ⟨0, rfl⟩

theorem step (leads : Leads machine.step later) : Leads machine later := by
  obtain ⟨count, comes⟩ := leads
  exact ⟨count + 1, comes⟩

/-- Leading to is transitive. -/
theorem trans (leads : Leads machine middle) (further : Leads middle later) :
    Leads machine later := by
  obtain ⟨first, rfl⟩ := leads
  obtain ⟨second, rfl⟩ := further
  exact ⟨second + first, Function.iterate_add_apply Machine.step second first machine⟩

end Leads

/-- The machine that a handler ends in: it returns to its frame, or unwinds to it. -/
def ofHandling (handled : State × Handling) (stack : List Frame) : Machine :=
  match handled.2 with
  | .ok delivery => ⟨handled.1, stack, .handled delivery⟩
  | .error reason => ⟨handled.1, stack, .ended (.panics reason)⟩

variable {rest : List Frame}

/-- A handler that has ended leads to the answer of its delivery. -/
theorem leads_ofHandling (handled : State × Handling) (inbound : Inbound) :
    Leads (ofHandling handled (.handler inbound :: rest))
      ⟨handled.1.routing (inbound.conclude handled.1.context.bus handled.2), rest,
        .reply (.delivery (inbound.conclude handled.1.context.bus handled.2).result)⟩ := by
  obtain ⟨state, ending⟩ := handled
  cases ending with
  | ok delivery => exact .step (.refl _)
  | error reason => exact .step (.refl _)

/-- Without hooks the tasks of a progress report lead to their end in one go. -/
theorem leads_progressed {objectId : UInt64} {value : Int32} {client : Option (Client Action)}
    (inert : ∀ name hooks panics phase, client = some (.observer name hooks panics) →
      hookSteps hooks phase = []) (inbound : Inbound) (state : State) (tasks : List ProgressTask) :
    Leads ⟨state, .progress objectId value client tasks :: .handler inbound :: rest, .proceed⟩
      (ofHandling (State.progressed objectId value client state tasks)
        (.handler inbound :: rest)) := by
  induction tasks generalizing state with
  | nil => exact .step (.refl _)
  | cons task tasks ih =>
      cases task with
      | announce event => exact .step (ih _)
      | notify phase =>
          cases client with
          | none => exact .step (ih _)
          | some client =>
              cases client with
              | silent => exact .step (ih _)
              | observer name hooks panics =>
                  have idle := inert name hooks panics phase rfl
                  refine .step ?_
                  simp only [step, progressing, idle]
                  refine .step (.step ?_)
                  simp only [step, resuming, State.progressed, State.telling]
                  cases ends : hookEnding panics phase with
                  | returns => exact ih _
                  | fails reason => exact ih _
                  | panics reason => exact .refl _

/-- Without steps a continuation leads to the end of its result. -/
theorem leads_answered (state : State) (key : ObjectKey) (view : View Action) (payload : Json)
    (inert : ∀ id name steps ending, (payload.get? "callbackId").bind CallbackId.ofJson? = some id →
      state.context.callbacks.parked.find? id.value = some (.reaction name steps ending) →
      steps = []) (inbound : Inbound) (mode : Mode) :
    Leads ((⟨state, .handler inbound :: rest, mode⟩ : Machine).handlingResult key view payload)
      (ofHandling (state.answered key view payload) (.handler inbound :: rest)) := by
  unfold handlingResult State.answered
  cases named : (payload.get? "callbackId").bind CallbackId.ofJson? with
  | none => exact .refl _
  | some id =>
      have taken : state.context.takeCallback key id =
          ((state.taking key id).context, state.context.callbacks.parked.find? id.value) := rfl
      dsimp only
      rw [taken]
      cases parked : state.context.callbacks.parked.find? id.value with
      | none => exact .refl _
      | some continuation =>
          cases continuation with
          | slot slot => exact .refl _
          | reaction name steps ending =>
              obtain rfl := inert id name steps ending named parked
              refine .step (.step ?_)
              cases ending with
              | returns => exact .refl _
              | fails reason => exact .refl _
              | panics reason => exact .refl _

/-- Without steps an operation leads to the end of its message. -/
theorem leads_messaged (state : State) (key : ObjectKey) (view : View Action) (payload : Json)
    (inert : ∀ message target operation, ScriptMessage.ofJson? payload = some message →
      view.bindings.table.find? message.interface = some target →
      target.operation? message.method = some operation → operation.steps = [])
    (inbound : Inbound) (mode : Mode) :
    Leads ((⟨state, .handler inbound :: rest, mode⟩ : Machine).handlingMessage key view payload)
      (ofHandling (state.messaged key view payload) (.handler inbound :: rest)) := by
  unfold handlingMessage State.messaged
  cases read : ScriptMessage.ofJson? payload with
  | none => exact .refl _
  | some message =>
      dsimp only
      cases bound : view.bindings.table.find? message.interface with
      | none =>
          rw [Bindings.claim_of_absent bound]
          exact .refl _
      | some target =>
          cases claimed : target.hasMethod message.method with
          | false =>
              rw [Bindings.claim_of_unclaimed bound claimed]
              exact .refl _
          | true =>
              rw [Bindings.claim_of_claimed bound claimed]
              cases found : target.operation? message.method with
              | none => exact .step (.step (.refl _))
              | some operation =>
                  have idle := inert message target operation read bound found
                  refine .step ?_
                  simp only [step, pushing, Invocation.steps, idle]
                  exact .step (.refl _)

/-- Undisturbed, every handler leads to the state that is computed for it. -/
theorem leads_handled (state : State) (inbound : Inbound) {key : ObjectKey} {payload : Json}
    (quiet : state.Quiet inbound)
    (listed : state.context.registry.lookup state.context.alive inbound.objectId = some key)
    (read : inbound.value? = some payload) (mode : Mode) :
    Leads ((⟨state, .handler inbound :: rest, mode⟩ : Machine).handling key inbound.method payload)
      (ofHandling (state.handled key inbound.method payload) (.handler inbound :: rest)) := by
  unfold handling State.handled
  cases found : state.context.view? key with
  | none => exact .refl _
  | some view =>
      cases named : InboundMethod.ofName? inbound.method with
      | none => exact .refl _
      | some method =>
          cases method with
          | loadProgress =>
              dsimp only
              unfold handlingProgress
              cases loadProgress? payload with
              | none => exact .refl _
              | some value =>
                  exact leads_progressed (fun name hooks panics phase =>
                    quiet.client named key view name hooks panics phase listed found) inbound _ _
          | evaluateResult =>
              exact leads_answered state key view payload (fun id name steps ending =>
                quiet.continuation named payload id name steps ending read) inbound mode
          | scriptMessage =>
              exact leads_messaged state key view payload (fun message target operation =>
                quiet.target named key view payload message target operation listed found read)
                inbound mode

/-- A delivery is turned away or handed to its handler, as its admission decides. -/
theorem delivering_eq (machine : Machine) (inbound : Inbound) :
    machine.delivering inbound =
      match (machine.state.admitted inbound).result with
      | .error delivery =>
        machine.answering
          (machine.state.routing (machine.state.admitted inbound), .delivery delivery)
      | .ok (key, payload) =>
        (⟨machine.state.routing (machine.state.admitted inbound),
          .handler inbound :: machine.stack, machine.mode⟩ : Machine).handling key inbound.method
            payload := rfl

/-- Undisturbed, a delivery leads to the state that is computed for it. -/
theorem leads_delivering (machine : Machine) (inbound : Inbound)
    (quiet : machine.state.Quiet inbound) :
    Leads (machine.delivering inbound)
      ⟨(machine.state.delivered inbound).1, machine.stack,
        .reply (.delivery (machine.state.delivered inbound).2)⟩ := by
  rw [delivering_eq]
  cases listed : machine.state.context.registry.lookup machine.state.context.alive
      inbound.objectId with
  | none =>
      rw [State.admitted_of_absent listed, State.delivered_of_absent listed]
      exact .refl _
  | some key =>
      cases read : inbound.value? with
      | none =>
          rw [State.admitted_of_unreadable listed read, State.delivered_of_unreadable listed read]
          exact .refl _
      | some payload =>
          rw [State.admitted_of_readable listed read, State.delivered_of_readable listed read]
          have entered : (machine.state.note [inbound.arrivedEntry]).Quiet inbound :=
            ⟨quiet.client, quiet.continuation, quiet.target⟩
          exact (leads_handled _ inbound entered listed read _).trans (leads_ofHandling _ _)

/-- A machine delivers an event. -/
def Delivers (machine : Machine) (inbound : Inbound) : Prop :=
  ∃ whom, machine.mode = .perform (.deliver whom inbound.method inbound.payload) ∧
    inbound.objectId = addressee machine.state whom

/-- A machine that delivers takes the step of the delivery. -/
theorem Delivers.step_eq {machine : Machine} {inbound : Inbound}
    (delivers : machine.Delivers inbound) : machine.step = machine.delivering inbound := by
  obtain ⟨whom, performs, addressed⟩ := delivers
  rw [step_of_performs performs]
  change machine.delivering ⟨addressee machine.state whom, inbound.method, inbound.payload⟩ = _
  rw [← addressed]

/-- Undisturbed, a machine that delivers comes to the answer of the delivery. -/
theorem Delivers.leads_of_quiet {machine : Machine} {inbound : Inbound}
    (delivers : machine.Delivers inbound) (quiet : machine.state.Quiet inbound) :
    Leads machine ⟨(machine.state.delivered inbound).1, machine.stack,
      .reply (.delivery (machine.state.delivered inbound).2)⟩ := by
  refine .step ?_
  rw [delivers.step_eq]
  exact machine.leads_delivering inbound quiet

/-- Where no code of the host would run, a machine that delivers comes to its answer. -/
theorem Delivers.leads {machine : Machine} {inbound : Inbound} (delivers : machine.Delivers inbound)
    (inert : machine.state.Inert inbound) :
    Leads machine ⟨(machine.state.delivered inbound).1, machine.stack,
      .reply (.delivery (machine.state.delivered inbound).2)⟩ :=
  delivers.leads_of_quiet inert.quiet

end Machine

end HostBridge.Session
