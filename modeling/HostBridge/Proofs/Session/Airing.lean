import HostBridge.Proofs.Event.Announcing
import HostBridge.Session.Machine

/-!
# What a session does to its bus

Besides subscribing and draining, a transition of a session puts events on the bus and does nothing
else to the bus and to the streams on it.

Main statement: a transition that performs neither airs some events (`Machine.airs_step`).
-/

namespace HostBridge

namespace Context

variable {σ : Type} (context : Context σ)

theorem bus_outbound (view : View σ) (call : Outbound) :
    (context.outbound view call).1.bus = context.bus := by
  unfold outbound
  split <;> rfl

theorem bus_issueCallback (key : ObjectKey) (continuation : Option (Continuation σ)) :
    (context.issueCallback key continuation).1.bus = context.bus := by
  cases continuation <;> rfl

theorem bus_beginDestroy (key : ObjectKey) :
    (context.beginDestroy key).1.bus = context.bus := by
  unfold beginDestroy
  split
  · rfl
  · split
    · rfl
    · dsimp only
      split <;> rfl

/-- The end of a destruction is announced. -/
theorem bus_endDestroy (key : ObjectKey) : ∃ events,
    (context.endDestroy key).1.bus = context.bus.announceAll events := by
  unfold endDestroy
  split
  · exact ⟨[], rfl⟩
  · exact ⟨[_], rfl⟩

/-- The creation of a view is announced. -/
theorem bus_createView (answer : Except EngineError UInt64) : ∃ events,
    (context.createView answer).1.bus = context.bus.announceAll events := by
  unfold createView
  split
  · exact ⟨[], rfl⟩
  · split
    · exact ⟨[], rfl⟩
    · exact ⟨[_], rfl⟩

end Context

namespace Inbound

variable (inbound : Inbound) (bus : Bus)

/-- What is refused is announced as dropped. -/
theorem bus_admit (target : Option ObjectKey) : ∃ events,
    ( inbound.admit bus target).bus = bus.announceAll events := by
  unfold Inbound.admit
  split
  · exact ⟨[_], rfl⟩
  · split
    · exact ⟨[_], rfl⟩
    · exact ⟨[], rfl⟩

/-- What is not routed is announced as dropped. -/
theorem bus_conclude (handled : Except String Delivery) : ∃ events,
    (inbound.conclude bus handled).bus = bus.announceAll events := by
  have kept_or_dropped (delivery : Delivery) : ∃ events,
      (if delivery.isRouted then bus else bus.announce inbound.droppedEvent) =
        bus.announceAll events := by
    split
    · exact ⟨[], rfl⟩
    · exact ⟨[_], rfl⟩
  cases handled with
  | ok delivery => exact kept_or_dropped delivery
  | error reason => exact kept_or_dropped .panicked

end Inbound

namespace Session

namespace State

/-- The bus of a session with the streams on it. -/
def air (state : State) : BusSession := ⟨state.context.bus, state.streams⟩

/-- Events were put on the bus, and streams were left alone. -/
structure Airs (before : State) (events : List Event) (after : State) : Prop where
  bus : after.context.bus = before.context.bus.announceAll events
  streams : after.streams = before.streams

namespace Airs

variable {before middle after : State} {events more : List Event}

/-- Nothing was done to the bus and the streams. -/
theorem still (same : after.air = before.air) : Airs before [] after :=
  ⟨congrArg BusSession.bus same, congrArg BusSession.streams same⟩

/-- What is aired in two stretches is aired in one. -/
theorem trans (first : Airs before events middle) (second : Airs middle more after) :
    Airs before (events ++ more) after where
  bus := by rw [second.bus, first.bus, Bus.announceAll_append]
  streams := second.streams.trans first.streams

/-- Nothing more was done to the bus and the streams. -/
theorem of_air (airs : Airs before events middle) (same : after.air = middle.air) :
    Airs before events after where
  bus := (congrArg BusSession.bus same).trans airs.bus
  streams := (congrArg BusSession.streams same).trans airs.streams

/-- Announcing one event airs that event. -/
theorem announce (state : State) (event : Event) : Airs state [event] (state.announce event) :=
  ⟨rfl, rfl⟩

/-- What is aired is among all that was put on the bus. -/
theorem emitted (airs : Airs before events after) :
    after.context.bus.emitted = before.context.bus.emitted ++ events := by
  rw [airs.bus, Bus.emitted_announceAll]

end Airs

variable (state : State)

/-! ### Bitmaps -/

theorem air_releaseBitmap (bitmap : Bitmap) : (state.releaseBitmap bitmap).1.air = state.air := by
  unfold releaseBitmap
  split <;> rfl

theorem air_holdBitmap (name : String) (bitmap : Bitmap) :
    (state.holdBitmap name bitmap).air = state.air := by
  unfold holdBitmap
  dsimp only
  split
  · rfl
  · exact air_releaseBitmap _ _

theorem air_makeBitmap (name : String)
    (make : ImageBackend → EngineReply ImageBackend (Except BridgeError Bitmap)) :
    (state.makeBitmap name make).1.air = state.air := by
  unfold makeBitmap
  split
  · rfl
  · rfl
  next backend _ _ =>
    have same : (state.withEngine backend make).1.air = state.air := rfl
    split
    next made => rwa [made] at same
    next made =>
      rw [made] at same
      exact (air_holdBitmap _ _ _).trans same

theorem air_decodeBitmap (name : String) (source : ImageSource) :
    (state.decodeBitmap name source).1.air = state.air := by
  cases source <;> exact air_makeBitmap _ _ _

theorem air_draw (target source : String) (part place : Rect) (answer : Bitmap → Bool → Reply) :
    (state.draw target source part place answer).1.air = state.air := by
  unfold draw
  split
  · rfl
  · rfl
  · split <;> rfl

theorem air_compress (name : String) (format : ImageFormat) (quality : Int)
    (answer : Except BridgeError Encoded → Reply) :
    (state.compress name format quality answer).1.air = state.air := by
  unfold compress
  split <;> rfl

theorem air_release (name : String) : (state.release name).1.air = state.air := by
  unfold release
  split
  · rfl
  · exact air_releaseBitmap _ _

theorem air_dropBitmap (name : String) : (state.dropBitmap name).1.air = state.air := by
  unfold dropBitmap
  split
  · rfl
  · exact air_releaseBitmap _ _

theorem air_callRaster (call : RasterCall) : (state.callRaster call).1.air = state.air := by
  unfold callRaster
  split
  · cases call <;> rfl
  · rfl

theorem air_scriptImages (script : ImageScript) : (state.scriptImages script).air = state.air := by
  unfold scriptImages
  split <;> rfl

/-! ### Requests, cookies and messages -/

/-- A request that comes back is announced. -/
theorem airs_request (request : NetRequest) (lookups : Option (List String)) : ∃ events,
    Airs state events (state.request request lookups).1 := by
  unfold State.request
  split
  · exact ⟨[], .still rfl⟩
  · split
    · exact ⟨[], .still rfl⟩
    · exact ⟨[_], rfl, rfl⟩

theorem air_setCookie (url value : String) : (state.setCookie url value).1.air = state.air := by
  unfold setCookie
  dsimp only
  split
  · rfl
  · split <;> rfl

theorem air_getCookie (url : String) : (state.getCookie url).1.air = state.air := by
  unfold getCookie
  dsimp only
  split
  · rfl
  · split <;> rfl

theorem air_post (message : HostMessage) : (state.post message).1.air = state.air := by
  unfold post
  dsimp only
  split
  · split <;> rfl
  · rfl

/-! ### Views -/

/-- An outbound call to the web engine is not heard on the bus. -/
theorem air_invoke (view : View Action) (call : Outbound) :
    (state.invoke view call).1.air = state.air := by
  have same := state.context.bus_outbound view call
  unfold invoke
  rcases called : state.context.outbound view call with ⟨context, _ | address⟩
  · rw [called] at same
    exact congrArg (BusSession.mk · state.streams) same
  · rw [called] at same
    dsimp only
    split
    · exact congrArg (BusSession.mk · state.streams) same
    · exact congrArg (BusSession.mk · state.streams) same

theorem air_call (name : String) (call : Outbound) :
    (state.call name call).1.air = state.air := by
  unfold State.call
  split
  · rfl
  · exact air_invoke _ _ _

theorem air_abandonAll (continuations : List (Continuation Action)) :
    (state.abandonAll continuations).air = state.air := by
  induction continuations generalizing state with
  | nil => rfl
  | cons continuation continuations ih =>
      refine (ih (state.abandon continuation)).trans ?_
      cases continuation <;> rfl

/-- An evaluation is not heard on the bus. -/
theorem air_evaluate (key : ObjectKey) (script : String)
    (continuation : Option (Continuation Action)) :
    (state.evaluate key script continuation).1.air = state.air := by
  have issued : ({ state with
      context := (state.context.issueCallback key continuation).1 } : State).air = state.air :=
    congrArg (BusSession.mk · state.streams) (state.context.bus_issueCallback key continuation)
  unfold evaluate
  dsimp only
  split
  · exact issued
  next view _ =>
    have invoked := ({ state with
      context := (state.context.issueCallback key continuation).1 } : State).air_invoke view
        (.evaluate script (state.context.issueCallback key continuation).2)
    split
    next sent =>
      rw [sent] at invoked
      exact invoked.trans issued
    next result _ sent =>
      rw [sent] at invoked
      exact (air_abandonAll _ _).trans (invoked.trans issued)

theorem air_evaluateOn (name script : String) (continuation : Option (Continuation Action)) :
    (state.evaluateOn name script continuation).1.air = state.air := by
  unfold evaluateOn
  split
  · rfl
  · exact air_evaluate _ _ _ _

theorem air_evaluateLater (name script slot : String) :
    (state.evaluateLater name script slot).1.air = state.air := by
  unfold evaluateLater
  split
  · rfl
  next key view _ =>
    have same := ({ state.setSlot state.nextSlot .waiting with
      nextSlot := state.nextSlot + 1 } : State).air_evaluate key script
        (some (.slot state.nextSlot))
    dsimp only
    split
    next evaluated =>
      rw [evaluated] at same
      exact same
    next evaluated =>
      rw [evaluated] at same
      exact same

theorem air_poll (slot : String) : (state.poll slot).1.air = state.air := by
  unfold poll
  split
  · rfl
  · split <;> rfl

theorem air_addInterface (name interface : String) (target : ScriptTarget Action) :
    (state.addInterface name interface target).1.air = state.air := by
  unfold addInterface
  split
  · rfl
  · exact air_invoke _ _ _

theorem air_removeInterface (name interface : String) :
    (state.removeInterface name interface).1.air = state.air := by
  unfold removeInterface
  split <;> rfl

theorem air_setClient (name : String) (client : Option (Client Action)) :
    (state.setClient name client).1.air = state.air := by
  unfold setClient
  split <;> rfl

theorem air_inspect (name : String) (answer : View Action → Reply) :
    (state.inspect name answer).1.air = state.air := by
  unfold inspect
  split <;> rfl

end State

/-- The stream that an action subscribes or reads. -/
def Action.stream? : Action → Option String
  | .subscribe name _ => some name
  | .drain name => some name
  | _ => none

namespace Machine

open State (Airs)

variable (machine : Machine)

/-- A destroy is heard on the bus only when it ends. -/
theorem air_destroying (state : State) (key : ObjectKey) (reply : Reply) :
    (machine.destroying state key reply).state.air = state.air := by
  have same := state.context.bus_beginDestroy key
  unfold destroying
  rcases begun : state.context.beginDestroy key with ⟨context, _ | address⟩
  · rw [begun] at same
    exact congrArg (BusSession.mk · state.streams) same
  · rw [begun] at same
    exact congrArg (BusSession.mk · state.streams) same

/-- A drop is heard on the bus only when it ends. -/
theorem air_dropping (state : State) (key : ObjectKey) (reply : Reply) :
    (machine.dropping state key reply).state.air = state.air :=
  machine.air_destroying _ key reply

/-- Creating a view airs a registration, or nothing when it is refused. -/
theorem airs_creating (name : String) : ∃ events,
    Airs machine.state events (machine.creating name).state := by
  unfold creating
  dsimp only
  split
  · exact ⟨[], .still rfl⟩
  · obtain ⟨events, bus⟩ :=
      machine.state.context.bus_createView machine.state.web.create.2
    refine ⟨events, ?_⟩
    have asked : (({ machine.state with web := machine.state.web.create.1 } : State).saw
        [.webCreate machine.state.web.create.2.toOption]).context.createView
          machine.state.web.create.2 =
        machine.state.context.createView machine.state.web.create.2 := rfl
    rw [asked]
    rcases made : machine.state.context.createView machine.state.web.create.2
      with ⟨context, error | key⟩
    · rw [made] at bus
      exact ⟨bus, rfl⟩
    · rw [made] at bus
      dsimp only
      split
      · exact ⟨bus, rfl⟩
      · have dropped : Airs machine.state events
            { machine.state with
              web := machine.state.web.create.1
              context := context
              viewNames := machine.state.viewNames.insert name key
              seen := machine.state.seen ++ [.webCreate machine.state.web.create.2.toOption] } :=
          ⟨bus, rfl⟩
        exact dropped.of_air (machine.air_dropping _ _ _)

/-- Receiving a progress report is not yet heard on the bus. -/
theorem air_handlingProgress (view : View Action) (payload : Json) :
    (machine.handlingProgress view payload).state.air = machine.state.air := by
  unfold handlingProgress
  split <;> rfl

/-- Handling a script result airs events one after another. -/
theorem airs_handlingResult (key : ObjectKey) (view : View Action) (payload : Json) : ∃ events,
    Airs machine.state events (machine.handlingResult key view payload).state := by
  unfold handlingResult
  split
  · exact ⟨[], .still rfl⟩
  next id _ =>
    dsimp only
    split
    next context taken =>
      have same : context = (machine.state.context.takeCallback key id).1 := by rw [taken]
      subst same
      exact ⟨[_], rfl, rfl⟩
    next context slot taken =>
      have same : context = (machine.state.context.takeCallback key id).1 := by rw [taken]
      subst same
      exact ⟨[_], rfl, rfl⟩
    next context name steps ending taken =>
      have same : context = (machine.state.context.takeCallback key id).1 := by rw [taken]
      subst same
      exact ⟨[], .still rfl⟩

/-- Handling a script message airs events one after another. -/
theorem airs_handlingMessage (key : ObjectKey) (view : View Action) (payload : Json) : ∃ events,
    Airs machine.state events (machine.handlingMessage key view payload).state := by
  unfold handlingMessage
  split
  · exact ⟨[], .still rfl⟩
  · dsimp only
    split
    · exact ⟨[_], rfl, rfl⟩
    · exact ⟨[], .still rfl⟩

/-- Whatever method is handled, events are aired one after another. -/
theorem airs_handling (key : ObjectKey) (method : String) (payload : Json) : ∃ events,
    Airs machine.state events (machine.handling key method payload).state := by
  unfold handling
  split
  · exact ⟨[], .still rfl⟩
  · split
    · exact ⟨[], .still rfl⟩
    · exact ⟨[], .still (machine.air_handlingProgress _ _)⟩
    · exact machine.airs_handlingResult _ _ _
    · exact machine.airs_handlingMessage _ _ _

/-- A delivery airs events one after another. -/
theorem airs_delivering (inbound : Inbound) : ∃ events,
    Airs machine.state events (machine.delivering inbound).state := by
  obtain ⟨events, bus⟩ := inbound.bus_admit machine.state.context.bus
    (machine.state.context.registry.lookup machine.state.context.alive inbound.objectId)
  unfold delivering
  dsimp only
  split
  · exact ⟨events, bus, rfl⟩
  next key payload _ =>
    have admitted : Airs machine.state events
        (({ machine.state with context := { machine.state.context with
          bus := ( inbound.admit machine.state.context.bus
            (machine.state.context.registry.lookup machine.state.context.alive
              inbound.objectId)).bus } } : State).note
          ( inbound.admit machine.state.context.bus
            (machine.state.context.registry.lookup machine.state.context.alive
              inbound.objectId)).log) := ⟨bus, rfl⟩
    obtain ⟨more, handled⟩ := Machine.airs_handling { machine with
      state := _, stack := .handler inbound :: machine.stack } key inbound.method payload
    exact ⟨_, admitted.trans handled⟩

/-- The conclusion of a delivery airs events one after another. -/
theorem airs_concluding (inbound : Inbound) (rest : List Frame)
    (handled : Except String Delivery) : ∃ events,
    Airs machine.state events (machine.concluding inbound rest handled).state := by
  obtain ⟨events, bus⟩ := inbound.bus_conclude machine.state.context.bus handled
  exact ⟨events, bus, rfl⟩

/-- The tasks of a progress report air events one after another. -/
theorem airs_progressing (objectId : UInt64) (value : Int32) (client : Option (Client Action))
    (rest : List Frame) (tasks : List ProgressTask) : ∃ events,
    Airs machine.state events (machine.progressing objectId value client rest tasks).state := by
  unfold progressing
  split
  · exact ⟨[], .still rfl⟩
  · exact ⟨_, Airs.announce _ _⟩
  · split
    · exact ⟨[], .still rfl⟩
    · exact ⟨[], .still rfl⟩

/-- Resuming an interrupted frame airs events one after another. -/
theorem airs_resuming (ending : Ending) (rest : List Frame) (frame : Frame) : ∃ events,
    Airs machine.state events (machine.resuming ending rest frame).state := by
  cases frame with
  | release key =>
      obtain ⟨events, bus⟩ := machine.state.context.bus_endDestroy key
      let retired : State :=
        { machine.state with context := (machine.state.context.endDestroy key).1 }
      have ended : Airs machine.state events retired := ⟨bus, rfl⟩
      exact ⟨_, ended.of_air (retired.air_abandonAll _)⟩
  | script objectId interface method => exact ⟨[_], rfl, rfl⟩
  | handler inbound =>
      cases ending with
      | panics reason => exact machine.airs_concluding inbound rest (.error reason)
      | returns => exact machine.airs_concluding inbound rest (.ok .routed)
      | fails reason => exact machine.airs_concluding inbound rest (.ok .routed)
  | result objectId id =>
      cases ending with
      | panics reason => exact ⟨[], .still rfl⟩
      | returns => exact ⟨_, Airs.announce _ _⟩
      | fails reason => exact ⟨_, Airs.announce _ _⟩
  | progress objectId value client tasks => cases ending <;> exact ⟨[], .still rfl⟩
  | code steps ending => exact ⟨[], .still rfl⟩
  | answer reply => exact ⟨[], .still rfl⟩

/-- An action on no stream puts events on the bus, and leaves the streams alone. -/
theorem airs_perform {action : Action} (apart : action.stream? = none) : ∃ events,
    Airs machine.state events (machine.perform action).state := by
  cases action with
  | subscribe stream filters => cases apart
  | drain stream => cases apart
  | deliver whom method payload => exact machine.airs_delivering _
  | createView name => exact machine.airs_creating name
  | destroy name =>
      rw [perform]
      split
      · exact ⟨[], .still rfl⟩
      · exact ⟨[], .still (machine.air_destroying _ _ _)⟩
  | dropView name =>
      rw [perform]
      split
      · exact ⟨[], .still rfl⟩
      · exact ⟨[], .still (machine.air_dropping _ _ _)⟩
  | net request lookups => exact machine.state.airs_request request lookups
  | loadUrl name url headers => exact ⟨[], .still (State.air_call _ _ _)⟩
  | loadData name data baseUrl mimeType encoding historyUrl =>
      exact ⟨[], .still (State.air_call _ _ _)⟩
  | run name script => exact ⟨[], .still (State.air_evaluateOn _ _ _ _)⟩
  | evaluate name script label steps ending =>
      exact ⟨[], .still (State.air_evaluateOn _ _ _ _)⟩
  | evaluateLater name script slot => exact ⟨[], .still (State.air_evaluateLater _ _ _ _)⟩
  | poll slot => exact ⟨[], .still (State.air_poll _ _)⟩
  | addInterface name interface target => exact ⟨[], .still (State.air_addInterface _ _ _ _)⟩
  | removeInterface name interface => exact ⟨[], .still (State.air_removeInterface _ _ _)⟩
  | hasInterface name interface => exact ⟨[], .still (State.air_inspect _ _ _)⟩
  | setClient name client => exact ⟨[], .still (State.air_setClient _ _ _)⟩
  | clearClient name => exact ⟨[], .still (State.air_setClient _ _ _)⟩
  | viewInfo name => exact ⟨[], .still (State.air_inspect _ _ _)⟩
  | imageScript script => exact ⟨[], .still (State.air_scriptImages _ _)⟩
  | decode bitmap source => exact ⟨[], .still (State.air_decodeBitmap _ _ _)⟩
  | createBitmap bitmap width height => exact ⟨[], .still (State.air_makeBitmap _ _ _)⟩
  | draw bitmap source part place => exact ⟨[], .still (State.air_draw _ _ _ _ _ _)⟩
  | canvasDraw bitmap source part place => exact ⟨[], .still (State.air_draw _ _ _ _ _ _)⟩
  | compress bitmap format quality => exact ⟨[], .still (State.air_compress _ _ _ _ _)⟩
  | compressTo bitmap format quality room failure =>
      exact ⟨[], .still (State.air_compress _ _ _ _ _)⟩
  | release bitmap => exact ⟨[], .still (State.air_release _ _)⟩
  | dropBitmap bitmap => exact ⟨[], .still (State.air_dropBitmap _ _)⟩
  | raster call => exact ⟨[], .still (State.air_callRaster _ _)⟩
  | cookieSet url value => exact ⟨[], .still (State.air_setCookie _ _ _)⟩
  | cookieGet url => exact ⟨[], .still (State.air_getCookie _ _)⟩
  | post message => exact ⟨[], .still (State.air_post _ _)⟩
  | _ => exact ⟨[], .still rfl⟩

/-- A transition that is about no stream puts events on the bus, and leaves the streams alone. -/
theorem airs_step (apart : ∀ action, machine.mode = .perform action → action.stream? = none) :
    ∃ events, Airs machine.state events machine.step.state := by
  obtain ⟨state, stack, mode⟩ := machine
  cases mode with
  | perform action => exact airs_perform _ (apart action rfl)
  | proceed =>
      rcases stack with _ | ⟨frame, rest⟩
      · exact ⟨[], .still rfl⟩
      · cases frame with
        | code steps ending => cases steps <;> exact ⟨[], .still rfl⟩
        | progress objectId value client tasks => exact airs_progressing _ _ _ _ _ _
        | _ => exact ⟨[], .still rfl⟩
  | reply reply =>
      rcases stack with _ | ⟨frame, rest⟩
      · exact ⟨[], .still rfl⟩
      · cases frame <;> exact ⟨[], .still rfl⟩
  | ended ending =>
      rcases stack with _ | ⟨frame, rest⟩
      · exact ⟨[], .still rfl⟩
      · exact airs_resuming _ _ _ _
  | handled delivery =>
      rcases stack with _ | ⟨frame, rest⟩
      · exact ⟨[], .still rfl⟩
      · cases frame with
        | handler inbound => exact airs_concluding _ _ _ _
        | _ => exact ⟨[], .still rfl⟩

end Machine

end Session

end HostBridge
