import HostBridge.Session.Bitmaps
import HostBridge.Session.Services
import HostBridge.Session.Views

/-!
# Running a session

A session runs as a machine with an explicit stack, because application code may call back into the
bridge wherever the bridge calls it: clients, continuations, script targets and the release of a
native view.  A frame is an operation that waits for such code, and a transition performs one
action, runs one step of application code, or resumes one operation.

A panic of application code unwinds the stack to the operation that catches it: a script call, which
fails, or the delivery of an inbound event, which reports it.
-/

namespace HostBridge.Session

/-- An operation under way, or application code that it runs. -/
inductive Frame where
  /-- Application code: the actions it still takes, and how it ends then. -/
  | code (steps : List Action) (ending : Ending)
  /-- The answer of an operation whose last part answers nothing. -/
  | answer (reply : Reply)
  /-- The release of a view's native instance. -/
  | release (view : ObjectKey)
  /-- The rest of what a reported progress leads to. -/
  | progress (objectId : UInt64) (value : Int32) (client : Option (Client Action))
      (tasks : List ProgressTask)
  /-- A continuation that was given its result. -/
  | result (objectId : UInt64) (id : CallbackId)
  /-- A script call that reached its target. -/
  | script (objectId : UInt64) (interface method : String)
  /-- The handling of an inbound event. -/
  | handler (inbound : Inbound)

/-- What a machine does next. -/
inductive Mode where
  /-- Perform an action. -/
  | perform (action : Action)
  /-- Go on with the frame on top. -/
  | proceed
  /-- Hand an answer to the code that performed the action. -/
  | reply (reply : Reply)
  /-- Application code has ended. -/
  | ended (ending : Ending)
  /-- An inbound event was handled. -/
  | handled (delivery : Delivery)

/-- A session under way. -/
structure Machine where
  state : State
  stack : List Frame
  mode : Mode

namespace Machine

/-- Begin with one action. -/
def start (state : State) (action : Action) : Machine := ⟨state, [], .perform action⟩

/-- Change the session and hand out an answer. -/
def answering (machine : Machine) (result : State × Reply) : Machine :=
  { machine with state := result.1, mode := .reply result.2 }

/-- Push frames and go on with the first of them. -/
def pushing (machine : Machine) (state : State) (frames : List Frame) : Machine :=
  ⟨state, frames ++ machine.stack, .proceed⟩

/-- Destroy a view and answer; the native instance is released while application code may run. -/
def destroying (machine : Machine) (state : State) (key : ObjectKey) (reply : Reply) : Machine :=
  match state.context.beginDestroy key with
  | (context, none) => machine.answering ({ state with context := context }, reply)
  | (context, some address) =>
    let hook := state.web.releaseHook
    let state := { state with
      context := context
      web := { state.web with releaseHook := [] } }
    machine.pushing (state.saw [.webRelease address])
      [.code hook .returns, .release key, .answer reply]

/-- Let go of a view, which destroys it. -/
def dropping (machine : Machine) (state : State) (key : ObjectKey) (reply : Reply) : Machine :=
  let context := state.context.modifyView key (fun view => { view with held := false })
  machine.destroying { state with context := context } key reply

/-- Create a view under a name; one that had the name is dropped. -/
def creating (machine : Machine) (name : String) : Machine :=
  let state := machine.state
  match state.context.require .web with
  | .error error => machine.answering (state, .failed error)
  | .ok () =>
    let (web, answer) := state.web.create
    let state := { state with web := web }.saw [.webCreate answer.toOption]
    match state.context.createView answer with
    | (context, .error error) =>
      machine.answering ({ state with context := context }, .failed error)
    | (context, .ok key) =>
      let objectId := ((context.view? key).map View.objectId).getD 0
      let previous := state.viewNames.find? name
      let state := { state with
        context := context
        viewNames := state.viewNames.insert name key }
      match previous with
      | none => machine.answering (state, .count objectId.toNat)
      | some old => machine.dropping state old (.count objectId.toNat)

/-- Handle a reported progress. -/
def handlingProgress (machine : Machine) (view : View Action) (payload : Json) : Machine :=
  match loadProgress? payload with
  | none => { machine with mode := .handled .malformedPayload }
  | some progress =>
    machine.pushing (machine.state.note [ViewLog.progress view.objectId progress])
      [.progress view.objectId progress view.client (progressTasks view.objectId progress)]

/-- Announce what became of a script's result. -/
def announcingResult (machine : Machine) (state : State) (objectId : UInt64) (id : CallbackId)
    (delivered : Bool) : Machine :=
  { machine with
    state := state.announce (.view (.scriptResult objectId id.value delivered))
    mode := .handled .routed }

/-- Handle the result of a script. -/
def handlingResult (machine : Machine) (key : ObjectKey) (view : View Action) (payload : Json) :
    Machine :=
  match (payload.get? "callbackId").bind CallbackId.ofJson? with
  | none => { machine with mode := .handled .malformedPayload }
  | some id =>
    let result := scriptResult payload
    match machine.state.context.takeCallback key id with
    | (context, none) =>
      machine.announcingResult
        ({ machine.state with context := context }.note
          [ViewLog.unexpectedResult view.objectId id])
        view.objectId id false
    | (context, some (.slot slot)) =>
      machine.announcingResult
        ({ machine.state with context := context }.setSlot slot (.filled result))
        view.objectId id true
    | (context, some (.reaction name steps ending)) =>
      machine.pushing ({ machine.state with context := context }.saw [.continued name result])
        [.code steps ending, .result view.objectId id]

/-- Announce what became of a script call. -/
def announcingCall (machine : Machine) (state : State) (objectId : UInt64)
    (interface method : String) (result : Except DispatchError Unit) : Machine :=
  { machine with
    state := (state.note [ViewLog.dispatched objectId interface method result]).announce
      (.view (dispatchEvent objectId interface method result))
    mode := .handled .routed }

/-- Handle a call from a script. -/
def handlingMessage (machine : Machine) (key : ObjectKey) (view : View Action) (payload : Json) :
    Machine :=
  match ScriptMessage.ofJson? payload with
  | none => { machine with mode := .handled .malformedPayload }
  | some message =>
    let (bindings, claimed) := view.bindings.claim message.interface message.method
    let context := machine.state.context.modifyView key
      (fun view => { view with bindings := bindings })
    let state := { machine.state with context := context }
    match claimed with
    | .error error =>
      machine.announcingCall state view.objectId message.interface message.method (.error error)
    | .ok invocation =>
      let seen := match invocation.operation with
        | none => []
        | some _ => [.script invocation.label message.method message.args]
      machine.pushing
        ((state.note [dispatchingEntry message.interface message.method message.args]).saw seen)
        [.code invocation.steps (invocation.ending message.method),
          .script view.objectId message.interface message.method]

/-- Handle an inbound event with the view that it is addressed to. -/
def handling (machine : Machine) (key : ObjectKey) (method : String) (payload : Json) : Machine :=
  match machine.state.context.view? key with
  | none => { machine with mode := .handled .unknownObject }
  | some view =>
    match InboundMethod.ofName? method with
    | none => { machine with mode := .handled .unknownMethod }
    | some .loadProgress => machine.handlingProgress view payload
    | some .evaluateResult => machine.handlingResult key view payload
    | some .scriptMessage => machine.handlingMessage key view payload

/-- Deliver an inbound event. -/
def delivering (machine : Machine) (inbound : Inbound) : Machine :=
  let context := machine.state.context
  let target := context.registry.lookup context.alive inbound.objectId
  let routing := inbound.admit context.bus target
  let state :=
    { machine.state with context := { context with bus := routing.bus } }.note routing.log
  match routing.result with
  | .error delivery => machine.answering (state, .delivery delivery)
  | .ok (key, payload) =>
    { machine with state := state, stack := .handler inbound :: machine.stack }.handling key
      inbound.method payload

/-- Finish the delivery of an inbound event. -/
def concluding (machine : Machine) (inbound : Inbound) (rest : List Frame)
    (handled : Except String Delivery) : Machine :=
  let context := machine.state.context
  let routing := inbound.conclude context.bus handled
  let state :=
    { machine.state with context := { context with bus := routing.bus } }.note routing.log
  ⟨state, rest, .reply (.delivery routing.result)⟩

/-- The id that an inbound event is addressed to. -/
def addressee (state : State) (addressee : Addressee) : UInt64 :=
  match addressee.view.bind state.view? with
  | some (_, view) => view.objectId
  | none => addressee.id

/-- Perform an action.  The actions that may run application code push frames, all others answer at
once. -/
def perform (machine : Machine) (action : Action) : Machine :=
  let state := machine.state
  match action with
  | .deliver whom method payload => machine.delivering ⟨addressee state whom, method, payload⟩
  | .createView view => machine.creating view
  | .destroy view =>
    match state.viewNames.find? view with
    | none => machine.answering (state, State.noView)
    | some key => machine.destroying state key .nothing
  | .dropView view =>
    match state.viewNames.find? view with
    | none => machine.answering (state, .flag false)
    | some key =>
      machine.dropping { state with viewNames := state.viewNames.erase view } key (.flag true)
  | .webAddresses answers =>
    machine.answering
      ({ state with web := { state.web with answers := state.web.answers ++ answers } }, .nothing)
  | .webFail error =>
    machine.answering ({ state with web := { state.web with failure := error } }, .nothing)
  | .onRelease steps =>
    machine.answering ({ state with web := { state.web with releaseHook := steps } }, .nothing)
  | .imageScript script => machine.answering (state.scriptImages script, .nothing)
  | .netReply segments =>
    machine.answering ({ state with replies := state.replies ++ [segments] }, .nothing)
  | .jarPut url value =>
    machine.answering
      ({ state with jar := { state.jar with cookies := state.jar.cookies.insert url value } },
        .nothing)
  | .jarFail error =>
    machine.answering ({ state with jar := { state.jar with failure := error } }, .nothing)
  | .counts =>
    machine.answering
      (state, .counts state.context.liveObjects state.context.pendingCallbacks)
  | .shown => machine.answering (state, .text state.context.shown)
  | .subscribe stream filters => machine.answering (state.subscribe stream filters)
  | .drain stream => machine.answering (state.drain stream)
  | .loadUrl view url headers => machine.answering (state.call view (.loadUrl url headers))
  | .loadData view data baseUrl mimeType encoding historyUrl =>
    machine.answering (state.call view (.loadData baseUrl data mimeType encoding historyUrl))
  | .run view script => machine.answering (state.evaluateOn view script none)
  | .evaluate view script name steps ending =>
    machine.answering (state.evaluateOn view script (some (.reaction name steps ending)))
  | .evaluateLater view script slot => machine.answering (state.evaluateLater view script slot)
  | .poll slot => machine.answering (state.poll slot)
  | .addInterface view name target => machine.answering (state.addInterface view name target)
  | .removeInterface view name => machine.answering (state.removeInterface view name)
  | .hasInterface view name =>
    machine.answering (state.inspect view (fun view => .flag (view.bindings.isBound name)))
  | .setClient view client => machine.answering (state.setClient view (some client))
  | .clearClient view => machine.answering (state.setClient view none)
  | .viewInfo view =>
    machine.answering
      (state.inspect view (fun view => .view view.objectId view.isDestroyed view.shown))
  | .decode bitmap source => machine.answering (state.decodeBitmap bitmap source)
  | .createBitmap bitmap width height =>
    machine.answering (state.makeBitmap bitmap (Bitmap.create · width height))
  | .bitmapInfo bitmap =>
    machine.answering
      (state, ((state.bitmaps.find? bitmap).map Reply.bitmap).getD State.noBitmap)
  | .draw bitmap source part place =>
    machine.answering (state.draw bitmap source part place (fun _ drawn => .flag drawn))
  | .canvasDraw bitmap source part place =>
    machine.answering
      (state.draw bitmap source part place
        (fun bitmap drawn => .canvas bitmap.width bitmap.height drawn))
  | .compress bitmap format quality =>
    machine.answering (state.compress bitmap format quality State.encodedReply)
  | .compressTo bitmap format quality room failure =>
    machine.answering
      (state.compress bitmap format quality (State.writtenReply room failure))
  | .release bitmap => machine.answering (state.release bitmap)
  | .dropBitmap bitmap => machine.answering (state.dropBitmap bitmap)
  | .raster call => machine.answering (state.callRaster call)
  | .net request lookups => machine.answering (state.request request lookups)
  | .cookieSet url value => machine.answering (state.setCookie url value)
  | .cookieGet url =>
    let (state, cookie) := state.getCookie url
    machine.answering (state, .cookie cookie)
  | .cookieInfo => machine.answering (state, .cookieBridge state.context.cookies)
  | .cookieDisabled url => machine.answering (state.getDisabledCookie url)
  | .post message => machine.answering (state.post message)
  | .channelInfo => machine.answering (state, .text (shownChannel state.context.config.channel))

/-- Go on with what a reported progress leads to. -/
def progressing (machine : Machine) (objectId : UInt64) (value : Int32)
    (client : Option (Client Action)) (rest : List Frame) : List ProgressTask → Machine
  | [] => { machine with stack := rest, mode := .handled .routed }
  | .announce event :: tasks =>
    ⟨machine.state.announce (.view event), .progress objectId value client tasks :: rest, .proceed⟩
  | .notify phase :: tasks =>
    let waiting := Frame.progress objectId value client tasks :: rest
    match client with
    | some (.observer name hooks panics) =>
      let progress := if phase = .progress then some value else none
      ⟨machine.state.saw [.client name phase objectId progress],
        .code (hookSteps hooks phase) (hookEnding panics phase) :: waiting, .proceed⟩
    | _ => ⟨machine.state, waiting, .proceed⟩

/-- Resume an operation whose application code has ended. -/
def resuming (machine : Machine) (ending : Ending) (rest : List Frame) : Frame → Machine
  | .release key =>
    let (context, abandoned) := machine.state.context.endDestroy key
    ⟨{ machine.state with context := context }.abandonAll abandoned, rest, .reply .nothing⟩
  | .script objectId interface method =>
    { machine with stack := rest }.announcingCall
      (machine.state.note (ending.entries interface method)) objectId interface method
      (ending.result interface method)
  | .handler inbound =>
    match ending with
    | .panics reason => machine.concluding inbound rest (.error reason)
    | _ => machine.concluding inbound rest (.ok .routed)
  | .result objectId id =>
    match ending with
    | .panics _ => { machine with stack := rest }
    | _ => { machine with stack := rest }.announcingResult machine.state objectId id true
  | .progress objectId value client tasks =>
    match ending with
    | .panics _ => { machine with stack := rest }
    | _ => ⟨machine.state, .progress objectId value client tasks :: rest, .proceed⟩
  | .code _ _ => { machine with stack := rest }
  | .answer _ => { machine with stack := rest }

/-- One transition. -/
def step (machine : Machine) : Machine :=
  match machine.mode, machine.stack with
  | .perform action, _ => machine.perform action
  | .reply _, .answer answer :: rest =>
    ⟨machine.state, rest, .reply answer⟩
  | .reply reply, .code steps ending :: rest =>
    ⟨machine.state.saw [.nested reply], .code steps ending :: rest, .proceed⟩
  | .reply reply, _ :: rest => ⟨machine.state, rest, .reply reply⟩
  | .proceed, .code [] ending :: rest => ⟨machine.state, rest, .ended ending⟩
  | .proceed, .code (first :: others) ending :: rest =>
    ⟨machine.state, .code others ending :: rest, .perform first⟩
  | .proceed, .progress objectId value client tasks :: rest =>
    machine.progressing objectId value client rest tasks
  | .proceed, _ :: rest => ⟨machine.state, rest, .proceed⟩
  | .ended ending, frame :: rest => machine.resuming ending rest frame
  | .handled delivery, .handler inbound :: rest => machine.concluding inbound rest (.ok delivery)
  | .handled delivery, _ :: rest => ⟨machine.state, rest, .handled delivery⟩
  | _, [] => machine

/-- The answer of a machine that has performed its action. -/
def reply? (machine : Machine) : Option Reply :=
  match machine.mode, machine.stack with
  | .reply reply, [] => some reply
  | _, _ => none

/-- Up to `fuel` transitions, until the action is performed. -/
def finish : Nat → Machine → Machine
  | 0, machine => machine
  | fuel + 1, machine => if machine.reply?.isSome then machine else finish fuel machine.step

end Machine

/-- Perform an action with everything that it leads to, within `fuel` transitions. -/
def State.act (fuel : Nat) (state : State) (action : Action) : State × Option Reply :=
  let machine := (Machine.start state action).finish fuel
  (machine.state, machine.reply?)

end HostBridge.Session
