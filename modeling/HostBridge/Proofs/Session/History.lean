import HostBridge.Session.Machine

/-!
# The history of a session

A run of a session is the list of machines that it went through.  Its history is the list of what
those machines did to views and to the continuations that wait for them, read off the actions they
performed and the frames they resumed.  An engine is whatever script of answers and release hooks
the actions of the run set up, so a statement about all runs is one about all engines.

A view is torn down in two parts, between which the engine runs: its handle is cleared and the
release of its instance begins (`Deed.clear`), and when the engine is done the view is retired
(`Deed.retire`).
-/

namespace HostBridge.Session

/-- What a machine does to views and continuations. -/
inductive Deed where
  /-- A view is created at an address; `amid` if a view of that address is still being torn down. -/
  | create (address : UInt64) (amid : Bool)
  /-- The application lets go of a view that was destroyed before. -/
  | letGo (view : ObjectKey)
  /-- A handle is cleared and its address goes back to the engine; `dropped` if the application lets
  go of the view. -/
  | clear (view : ObjectKey) (dropped : Bool)
  /-- The engine has released the instance of a view, which ends its destruction. -/
  | retire (view : ObjectKey)
  /-- A call is made to the instance of a view. -/
  | invoke (view : ObjectKey)
  /-- A script is evaluated; `sent` if the engine took the call. -/
  | evaluate (view : ObjectKey) (id : CallbackId) (continuation : Option (Continuation Action))
      (sent : Bool)
  /-- A well-formed result is routed to a view. -/
  | answer (view : ObjectKey) (id : CallbackId) (result : Option String)
  /-- The application looks into a slot. -/
  | poll (slot : Nat)

/-- The view that a frame tears down. -/
def Frame.release? : Frame → Option ObjectKey
  | .release view => some view
  | _ => none

namespace State

/-- What destroying a view does, or letting go of it. -/
def clearing (state : State) (dropped : Bool) (key : ObjectKey) : List Deed :=
  match state.context.view? key with
  | none => []
  | some view =>
    if view.isDestroyed then (if dropped then [.letGo key] else []) else [.clear key dropped]

/-- What a call to a view does, which is ignored after the view was destroyed. -/
def invoking (state : State) (name : String) : List Deed :=
  match state.view? name with
  | none => []
  | some (key, view) => if view.isDestroyed then [] else [.invoke key]

/-- What evaluating a script does. -/
def evaluating (state : State) (name : String) (continuation : Option (Continuation Action)) :
    List Deed :=
  match state.view? name with
  | none => []
  | some (key, view) =>
    state.invoking name ++
      [.evaluate key ⟨state.context.callbacks.issued + 1⟩ continuation
        (!view.isDestroyed && state.web.failure.isNone)]

/-- What an inbound event does if it is the result of a script for a registered view. -/
def answering (state : State) (inbound : Inbound) : List Deed :=
  match state.context.registry.lookup state.context.alive inbound.objectId, inbound.value?,
    InboundMethod.ofName? inbound.method with
  | some key, some payload, some .evaluateResult =>
    ((payload.get? "callbackId").bind CallbackId.ofJson?).toList.map
      (fun id => .answer key id (scriptResult payload))
  | _, _, _ => []

/-- What asking the engine for an instance does. -/
def creating (state : State) (amid : UInt64 → Bool) (name : String) : List Deed :=
  match state.context.require .web, state.web.create.2 with
  | .ok (), .ok address =>
    if address = 0 then []
    else
      let created := { state with context := (state.context.adopt address).1 }
      .create address (amid address) ::
        ((state.viewNames.find? name).toList.flatMap (created.clearing true))
  | _, _ => []

/-- What performing an action does. -/
def deeds (state : State) (amid : UInt64 → Bool) : Action → List Deed
  | .createView name => state.creating amid name
  | .destroy name => (state.viewNames.find? name).toList.flatMap (state.clearing false)
  | .dropView name => (state.viewNames.find? name).toList.flatMap (state.clearing true)
  | .loadUrl name _ _ => state.invoking name
  | .loadData name _ _ _ _ _ => state.invoking name
  | .addInterface name _ _ => state.invoking name
  | .run name _ => state.evaluating name none
  | .evaluate name _ label steps ending =>
    state.evaluating name (some (.reaction label steps ending))
  | .evaluateLater name _ _ => state.evaluating name (some (.slot state.nextSlot))
  | .poll name => (state.slotNames.find? name).toList.map .poll
  | .deliver whom method payload =>
    state.answering ⟨Machine.addressee state whom, method, payload⟩
  | _ => []

end State

namespace Machine

/-- The views that are being torn down, the last one first. -/
def releasing (machine : Machine) : List ObjectKey := machine.stack.filterMap Frame.release?

/-- Whether a view of the given address is being torn down. -/
def releases (machine : Machine) (address : UInt64) : Bool :=
  machine.releasing.any
    (fun key => (machine.state.context.view? key).any (fun view => view.objectId = address))

/-- What a machine does next. -/
def deeds (machine : Machine) : List Deed :=
  match machine.mode, machine.stack with
  | .perform action, _ => machine.state.deeds machine.releases action
  | .ended _, .release key :: _ => [.retire key]
  | _, _ => []

end Machine

namespace Machine

variable {machine : Machine} {action : Action}

/-- A machine that is to perform an action performs it. -/
theorem step_of_performs (performs : machine.mode = .perform action) :
    machine.step = machine.perform action := by
  unfold step
  rw [performs]

theorem deeds_of_performs (performs : machine.mode = .perform action) :
    machine.deeds = machine.state.deeds machine.releases action := by
  unfold deeds
  rw [performs]

end Machine

/-- A run of a session: the machines that it went through, oldest first, and the one that it has
come to.  Once an action is performed the application may go on with any other. -/
inductive Run : List Machine → Machine → Prop where
  | start {config : Config} {images : Images} {channel : ChannelKind} {complain : Complaint}
      {state : State} (created : State.new config images channel complain = .ok state)
      (action : Action) :
      Run [] (Machine.start state action)
  | step {visited : List Machine} {machine : Machine} (run : Run visited machine) :
      Run (visited ++ [machine]) machine.step
  | next {visited : List Machine} {machine : Machine} (run : Run visited machine)
      (idle : machine.reply?.isSome) (action : Action) :
      Run (visited ++ [machine]) (Machine.start machine.state action)

/-- A new session with a web engine. -/
def State.withWeb : State :=
  (State.new { Config.bare with web := true } .none .none Complaint.silent).toOption.get rfl

/-- A configuration with a web engine and nothing else starts. -/
theorem State.new_withWeb :
    State.new { Config.bare with web := true } .none .none Complaint.silent = .ok State.withWeb :=
  rfl

/-- What the machines of a run did. -/
def history (visited : List Machine) : List Deed := visited.flatMap Machine.deeds

@[simp] theorem history_snoc (visited : List Machine) (machine : Machine) :
    history (visited ++ [machine]) = history visited ++ machine.deeds := by
  simp only [history, List.flatMap_append, List.flatMap_cons, List.flatMap_nil, List.append_nil]

/-- A machine that has replied for good has nothing left on its stack. -/
theorem Machine.stack_of_idle {machine : Machine} (idle : machine.reply?.isSome) :
    machine.stack = [] := by
  unfold reply? at idle
  split at idle
  · assumption
  · cases idle

theorem Machine.releasing_of_idle {machine : Machine} (idle : machine.reply?.isSome) :
    machine.releasing = [] := by
  rw [releasing, stack_of_idle idle, List.filterMap_nil]

/-- A machine that has replied for good does nothing more. -/
theorem Machine.deeds_of_idle {machine : Machine} (idle : machine.reply?.isSome) :
    machine.deeds = [] := by
  unfold reply? at idle
  split at idle
  next mode _ => simp only [deeds, mode]
  next => cases idle

end HostBridge.Session
