import HostBridge.Session.State

/-!
# Views in a session

The actions on web views that run no application code.
-/

namespace HostBridge.Session.State

/-- Make a call to the native view, unless the view was destroyed; whether it was made. -/
def invoke (state : State) (view : View Action) (call : Outbound) :
    State × Except BridgeError Bool :=
  match state.context.outbound view call with
  | (context, none) => ({ state with context := context }, .ok false)
  | (context, some address) =>
    let state := { state with context := context }.saw
      [.webInvoke address call.method call.payload.render]
    match state.web.failure with
    | none => (state, .ok true)
    | some error => (state, .error (.engine error))

/-- Make a call whose fate does not matter to the view. -/
def call (state : State) (name : String) (call : Outbound) : State × Reply :=
  match state.view? name with
  | none => (state, noView)
  | some (_, view) =>
    let (state, result) := state.invoke view call
    (state, okReply (result.map (fun _ => ())))

/-- Evaluate a script.  A continuation whose call was ignored or failed is gone again. -/
def evaluate (state : State) (key : ObjectKey) (script : String)
    (continuation : Option (Continuation Action)) : State × Except BridgeError Unit :=
  let (context, id) := state.context.issueCallback key continuation
  let state := { state with context := context }
  match state.context.view? key with
  | none => (state, .ok ())
  | some view =>
    match state.invoke view (.evaluate script id) with
    | (state, .ok true) => (state, .ok ())
    | (state, result) =>
      let (context, dropped) := state.context.takeCallback key id
      (({ state with context := context }).abandonAll dropped.toList, result.map (fun _ => ()))

/-- Evaluate a script on the view under a name. -/
def evaluateOn (state : State) (name script : String)
    (continuation : Option (Continuation Action)) : State × Reply :=
  match state.view? name with
  | none => (state, noView)
  | some (key, _) =>
    let (state, result) := state.evaluate key script continuation
    (state, okReply result)

/-- Evaluate a script and keep its result in a slot; the slot gets its name if the call did not
fail. -/
def evaluateLater (state : State) (name script slot : String) : State × Reply :=
  match state.view? name with
  | none => (state, noView)
  | some (key, _) =>
    let slotKey := state.nextSlot
    let state := { state.setSlot slotKey .waiting with nextSlot := slotKey + 1 }
    match state.evaluate key script (some (.slot slotKey)) with
    | (state, .ok ()) =>
      ({ state with slotNames := state.slotNames.insert slot slotKey }, okReply (.ok ()))
    | (state, .error error) => (state, .failed error)

/-- Look into a slot; a result is taken out. -/
def poll (state : State) (slot : String) : State × Reply :=
  match state.slotNames.find? slot with
  | none => (state, .slot none)
  | some key =>
    match state.slots.find? key with
    | some (.filled result) => (state.setSlot key .closed, .slot (some (.filled result)))
    | found => (state, .slot found)

/-- Bind a target and announce the interface to the page.  The binding is there before the call is
made, whatever becomes of it. -/
def addInterface (state : State) (name interface : String) (target : ScriptTarget Action) :
    State × Reply :=
  match state.view? name with
  | none => (state, noView)
  | some (key, view) =>
    let bound := { view with bindings := (view.bindings.bind interface target).1 }
    let state := { state with context := state.context.modifyView key (fun _ => bound) }
    let (state, result) := state.invoke bound (.addInterface interface)
    (state, okReply (result.map (fun _ => ())))

/-- Remove a binding; the page is not told. -/
def removeInterface (state : State) (name interface : String) : State × Reply :=
  match state.view? name with
  | none => (state, noView)
  | some (key, view) =>
    let (bindings, removed) := view.bindings.unbind interface
    ({ state with
        context := state.context.modifyView key (fun view => { view with bindings := bindings }) },
      .flag removed)

/-- Set or clear the client of a view. -/
def setClient (state : State) (name : String) (client : Option (Client Action)) : State × Reply :=
  match state.view? name with
  | none => (state, noView)
  | some (key, _) =>
    ({ state with
        context := state.context.modifyView key (fun view => { view with client := client }) },
      .nothing)

/-- What can be asked of a view. -/
def inspect (state : State) (name : String) (answer : View Action → Reply) : State × Reply :=
  match state.view? name with
  | none => (state, noView)
  | some (_, view) => (state, answer view)

end HostBridge.Session.State
