import HostBridge.Session.Machine

/-!
# Sessions without their observers

The bus, the streams on it and the number of events that it keeps are there for observers.  Two
sessions without these are the same if the sessions differ in nothing else, and then every operation
does the same to both.

Main statement: a transition that is no observation does not depend on observers
(`Machine.unobserved_step`).
-/

namespace HostBridge

/-- A context without its observers. -/
def Context.unobserved {σ : Type} (context : Context σ) : Context σ :=
  { context with bus := Bus.new 0, config := { context.config with bufferSize := 0 } }

namespace Session

/-- A session without its observers. -/
def State.unobserved (state : State) : State :=
  { state with context := state.context.unobserved, streams := Table.empty }

/-- A session under way, without its observers. -/
def Machine.unobserved (machine : Machine) : Machine :=
  { machine with state := machine.state.unobserved }

/-- Whether an action asks about the bridge and its bus only. -/
def Action.observes : Action → Bool
  | .subscribe _ _ => true
  | .drain _ => true
  | .shown => true
  | _ => false

end Session

namespace Context

variable {σ : Type} (context : Context σ)

theorem require_unobserved (capability : Capability) :
    context.unobserved.require capability = context.require capability := by
  cases capability <;> rfl

/-- A view is created or refused whoever listens; only the bus tells the difference. -/
theorem createView_unobserved (answer : Except EngineError UInt64) : ∃ bus,
    context.unobserved.createView answer =
      ({ (context.createView answer).1.unobserved with bus := bus },
        (context.createView answer).2) := by
  unfold createView
  cases answer with
  | error error => exact ⟨_, rfl⟩
  | ok address =>
      dsimp only
      split
      · exact ⟨_, rfl⟩
      · exact ⟨_, rfl⟩

/-- A view is torn down whoever listens. -/
theorem unobserved_beginDestroy (key : ObjectKey) :
    (context.beginDestroy key).map unobserved id = context.unobserved.beginDestroy key := by
  unfold beginDestroy
  dsimp only [unobserved, view?]
  split
  · rfl
  · split
    · rfl
    · split
      · rfl
      · rfl

/-- A view is retired whoever listens; only the bus tells the difference. -/
theorem endDestroy_unobserved (key : ObjectKey) : ∃ bus,
    context.unobserved.endDestroy key =
      ({ (context.endDestroy key).1.unobserved with bus := bus },
        (context.endDestroy key).2) := by
  unfold endDestroy
  dsimp only [unobserved, view?]
  split
  · exact ⟨_, rfl⟩
  · exact ⟨_, rfl⟩

/-- An id is issued whoever listens. -/
theorem unobserved_issueCallback (key : ObjectKey) (continuation : Option (Continuation σ)) :
    (context.issueCallback key continuation).map unobserved id =
      context.unobserved.issueCallback key continuation := by
  cases continuation <;> rfl

/-- A call to the engine depends on the view only. -/
theorem unobserved_outbound (view : View σ) (call : Outbound) :
    (context.outbound view call).map unobserved id = context.unobserved.outbound view call := by
  unfold outbound
  split
  · rfl
  · rfl

end Context

namespace Inbound

variable (inbound : Inbound) (bus other : Bus)

/-- Whether an event goes on does not depend on who is told of it. -/
theorem admit_eq (target : Option ObjectKey) : ∃ told,
    inbound.admit other target = { inbound.admit bus target with bus := told } := by
  unfold Inbound.admit
  split
  · exact ⟨_, rfl⟩
  · split
    · exact ⟨_, rfl⟩
    · exact ⟨_, rfl⟩

/-- What a delivery concludes is told to the bus and changes nothing else. -/
theorem conclude_eq (handled : Except String Delivery) : ∃ told,
    inbound.conclude other handled = { inbound.conclude bus handled with bus := told } := ⟨_, rfl⟩

end Inbound

namespace Session.State

variable (state : State)

theorem context_unobserved : state.unobserved.context = state.context.unobserved := rfl

theorem bitmaps_unobserved : state.unobserved.bitmaps = state.bitmaps := rfl

theorem view?_unobserved (name : String) : state.unobserved.view? name = state.view? name := rfl

theorem unobserved_abandonAll (continuations : List (Continuation Action)) :
    (state.abandonAll continuations).unobserved =
      state.unobserved.abandonAll continuations := by
  induction continuations generalizing state with
  | nil => rfl
  | cons continuation continuations ih =>
      have first : (state.abandon continuation).unobserved =
          state.unobserved.abandon continuation := by
        cases continuation <;> rfl
      have rest := ih (state.abandon continuation)
      rw [first] at rest
      exact rest

theorem unobserved_withEngine {α : Type} (backend : ImageBackend)
    (run : ImageBackend → EngineReply ImageBackend α) :
    (state.withEngine backend run).map unobserved id = state.unobserved.withEngine backend run :=
  rfl

theorem unobserved_releaseBitmap (bitmap : Bitmap) :
    (state.releaseBitmap bitmap).map unobserved id = state.unobserved.releaseBitmap bitmap := by
  unfold releaseBitmap
  dsimp only [unobserved]
  split
  · rfl
  · rfl

theorem unobserved_holdBitmap (name : String) (bitmap : Bitmap) :
    (state.holdBitmap name bitmap).unobserved = state.unobserved.holdBitmap name bitmap := by
  unfold holdBitmap
  dsimp only [unobserved]
  split
  · rfl
  · exact congrArg Prod.fst (unobserved_releaseBitmap _ _)

/-- A bitmap is made or refused whoever listens. -/
theorem unobserved_makeBitmap (name : String)
    (make : ImageBackend → EngineReply ImageBackend (Except BridgeError Bitmap)) :
    (state.makeBitmap name make).map unobserved id = state.unobserved.makeBitmap name make := by
  unfold makeBitmap
  have required : state.unobserved.context.require .image = state.context.require .image :=
    state.context.require_unobserved .image
  have images : state.unobserved.images = state.images := rfl
  rw [required, images]
  split
  · rfl
  · rfl
  next backend _ _ =>
    rw [← unobserved_withEngine]
    rcases state.withEngine backend make with ⟨after, _ | bitmap⟩
    · rfl
    · exact Prod.ext (after.unobserved_holdBitmap name bitmap) rfl

theorem unobserved_draw (target source : String) (part place : Rect)
    (answer : Bitmap → Bool → Reply) :
    (state.draw target source part place answer).map unobserved id =
      state.unobserved.draw target source part place answer := by
  unfold draw
  dsimp only [unobserved]
  split
  · rfl
  · rfl
  · split
    · rfl
    · rfl

theorem unobserved_compress (name : String) (format : ImageFormat) (quality : Int)
    (answer : Except BridgeError Encoded → Reply) :
    (state.compress name format quality answer).map unobserved id =
      state.unobserved.compress name format quality answer := by
  unfold compress
  dsimp only [unobserved]
  split
  · rfl
  · rfl

theorem unobserved_release (name : String) :
    (state.release name).map unobserved id = state.unobserved.release name := by
  rw [release, release, bitmaps_unobserved]
  cases state.bitmaps.find? name with
  | none => rfl
  | some bitmap =>
      dsimp only
      rw [← unobserved_releaseBitmap]
      rfl

theorem unobserved_dropBitmap (name : String) :
    (state.dropBitmap name).map unobserved id = state.unobserved.dropBitmap name := by
  rw [dropBitmap, dropBitmap, bitmaps_unobserved]
  cases state.bitmaps.find? name with
  | none => rfl
  | some bitmap =>
      dsimp only
      rw [← unobserved_releaseBitmap]
      rfl

theorem unobserved_callRaster (call : RasterCall) :
    (state.callRaster call).map unobserved id = state.unobserved.callRaster call := by
  unfold callRaster
  dsimp only [unobserved]
  split
  · split <;> rfl
  · rfl

theorem unobserved_scriptImages (script : ImageScript) :
    (state.scriptImages script).unobserved = state.unobserved.scriptImages script := by
  unfold scriptImages
  dsimp only [unobserved]
  split
  · rfl
  · rfl

/-- A request answers the same and is counted alike, with or without anybody to announce it to. -/
theorem unobserved_request (request : NetRequest) (lookups : Option (List String)) :
    (state.request request lookups).map unobserved id =
      (state.unobserved.request request lookups).map unobserved id := by
  unfold State.request
  have client : state.unobserved.context.client = state.context.client := rfl
  have replies : state.unobserved.replies = state.replies := rfl
  rw [client, replies]
  split
  · rfl
  · split
    · rfl
    · rfl

theorem unobserved_setCookie (url value : String) :
    (state.setCookie url value).map unobserved id = state.unobserved.setCookie url value := by
  unfold setCookie
  dsimp only [unobserved, Context.unobserved, saw, note, Context.note]
  split
  · rfl
  · split <;> rfl

theorem unobserved_getCookie (url : String) :
    (state.getCookie url).map unobserved id = state.unobserved.getCookie url := by
  unfold getCookie
  dsimp only [unobserved, Context.unobserved, saw, note, Context.note]
  split
  · rfl
  · split <;> rfl

theorem unobserved_getDisabledCookie (url : String) :
    (state.getDisabledCookie url).map unobserved id = state.unobserved.getDisabledCookie url :=
  rfl

theorem unobserved_post (message : HostMessage) :
    (state.post message).map unobserved id = state.unobserved.post message := by
  unfold post
  dsimp only [unobserved, Context.unobserved, saw, note, Context.note]
  split
  · split <;> rfl
  · rfl

/-! ### Views -/

/-- A call of a view reaches the engine, or is ignored, whoever listens. -/
theorem unobserved_invoke (view : View Action) (call : Outbound) :
    (state.invoke view call).map unobserved id = state.unobserved.invoke view call := by
  rw [invoke, invoke, State.context_unobserved, ← Context.unobserved_outbound]
  rcases state.context.outbound view call with ⟨context, _ | address⟩
  · rfl
  · dsimp only [Prod.map, id, unobserved, saw]
    cases state.web.failure <;> rfl

theorem unobserved_call (name : String) (call : Outbound) :
    (state.call name call).map unobserved id = state.unobserved.call name call := by
  rw [State.call, State.call, view?_unobserved]
  cases state.view? name with
  | none => rfl
  | some found =>
      dsimp only
      rw [← unobserved_invoke]
      rfl

/-- A script is evaluated, and its continuation tracked or abandoned, whoever listens. -/
theorem unobserved_evaluate (key : ObjectKey) (script : String)
    (continuation : Option (Continuation Action)) :
    (state.evaluate key script continuation).map unobserved id =
      state.unobserved.evaluate key script continuation := by
  rw [evaluate, evaluate, State.context_unobserved, ← Context.unobserved_issueCallback]
  rcases state.context.issueCallback key continuation with ⟨issued, callback⟩
  dsimp only [Prod.map, id]
  have view : issued.unobserved.view? key = issued.view? key := rfl
  rw [view]
  cases issued.view? key with
  | none => rfl
  | some found =>
      have calling : ({ state.unobserved with context := issued.unobserved } : State) =
          ({ state with context := issued } : State).unobserved := rfl
      dsimp only
      rw [calling, ← unobserved_invoke]
      rcases ({ state with context := issued } : State).invoke found (.evaluate script callback)
        with ⟨after, error | _ | _⟩
      · exact Prod.ext (unobserved_abandonAll _ _) rfl
      · exact Prod.ext (unobserved_abandonAll _ _) rfl
      · rfl

theorem unobserved_evaluateOn (name script : String)
    (continuation : Option (Continuation Action)) :
    (state.evaluateOn name script continuation).map unobserved id =
      state.unobserved.evaluateOn name script continuation := by
  rw [evaluateOn, evaluateOn, view?_unobserved]
  cases state.view? name with
  | none => rfl
  | some found =>
      dsimp only
      rw [← unobserved_evaluate]
      rfl

theorem unobserved_evaluateLater (name script slot : String) :
    (state.evaluateLater name script slot).map unobserved id =
      state.unobserved.evaluateLater name script slot := by
  rw [evaluateLater, evaluateLater, view?_unobserved]
  cases state.view? name with
  | none => rfl
  | some found =>
      have waiting : ({ state.unobserved.setSlot state.nextSlot .waiting with
          nextSlot := state.nextSlot + 1 } : State) =
        ({ state.setSlot state.nextSlot .waiting with
          nextSlot := state.nextSlot + 1 } : State).unobserved := rfl
      have next : state.unobserved.nextSlot = state.nextSlot := rfl
      dsimp only
      rw [next, waiting, ← unobserved_evaluate]
      rcases ({ state.setSlot state.nextSlot .waiting with
          nextSlot := state.nextSlot + 1 } : State).evaluate found.1 script
        (some (.slot state.nextSlot)) with ⟨after, _ | _⟩
      · rfl
      · rfl

theorem unobserved_poll (slot : String) :
    (state.poll slot).map unobserved id = state.unobserved.poll slot := by
  unfold poll
  dsimp only [unobserved]
  split
  · rfl
  · split
    · rfl
    · rfl

theorem unobserved_addInterface (name interface : String) (target : ScriptTarget Action) :
    (state.addInterface name interface target).map unobserved id =
      state.unobserved.addInterface name interface target := by
  rw [addInterface, addInterface, view?_unobserved]
  cases state.view? name with
  | none => rfl
  | some found =>
      let bound := { found.2 with bindings := (found.2.bindings.bind interface target).1 }
      let holding : State :=
        { state with context := state.context.modifyView found.1 (fun _ => bound) }
      have invoked := holding.unobserved_invoke bound (.addInterface interface)
      exact congrArg (fun result => (result.1, okReply (result.2.map fun _ => ()))) invoked

theorem unobserved_removeInterface (name interface : String) :
    (state.removeInterface name interface).map unobserved id =
      state.unobserved.removeInterface name interface := by
  rw [removeInterface, removeInterface, view?_unobserved]
  cases state.view? name <;> rfl

theorem unobserved_setClient (name : String) (client : Option (Client Action)) :
    (state.setClient name client).map unobserved id = state.unobserved.setClient name client := by
  rw [setClient, setClient, view?_unobserved]
  cases state.view? name <;> rfl

theorem unobserved_inspect (name : String) (answer : View Action → Reply) :
    (state.inspect name answer).map unobserved id = state.unobserved.inspect name answer := by
  rw [inspect, inspect, view?_unobserved]
  cases state.view? name <;> rfl

end Session.State

namespace Session.Machine

variable (machine : Machine)

theorem viewNames_unobserved :
    machine.unobserved.state.viewNames = machine.state.viewNames := rfl

/-- What an answer tells. -/
theorem unobserved_answering {first second : State × Reply}
    (same : first.map State.unobserved id = second.map State.unobserved id) :
    (machine.answering first).unobserved = (machine.unobserved.answering second).unobserved := by
  obtain ⟨state, reply⟩ := Prod.mk.inj same
  dsimp only [id] at reply
  rw [answering, answering, reply]
  dsimp only [unobserved]
  rw [state]

/-- An operation that does the same whether it is observed or not. -/
theorem unobserved_answering_of_map {first second : State × Reply}
    (same : first.map State.unobserved id = second) :
    (machine.answering first).unobserved = (machine.unobserved.answering second).unobserved := by
  subst same
  exact machine.unobserved_answering rfl

/-- Destroying a view comes to the same, observed or not. -/
theorem unobserved_destroying (state : State) (key : ObjectKey) (reply : Reply) :
    (machine.destroying state key reply).unobserved =
      (machine.unobserved.destroying state.unobserved key reply).unobserved := by
  rw [destroying, destroying, State.context_unobserved, ← Context.unobserved_beginDestroy]
  rcases state.context.beginDestroy key with ⟨context, _ | address⟩
  · rfl
  · rfl

/-- Letting go of a view comes to the same, observed or not. -/
theorem unobserved_dropping (state : State) (key : ObjectKey) (reply : Reply) :
    (machine.dropping state key reply).unobserved =
      (machine.unobserved.dropping state.unobserved key reply).unobserved :=
  machine.unobserved_destroying _ key reply

/-- Creating a view comes to the same, observed or not. -/
theorem unobserved_creating (name : String) :
    (machine.creating name).unobserved = (machine.unobserved.creating name).unobserved := by
  have required : machine.unobserved.state.context.require .web =
      machine.state.context.require .web := machine.state.context.require_unobserved .web
  obtain ⟨bus, made⟩ := machine.state.context.createView_unobserved machine.state.web.create.2
  rw [creating, creating, required]
  cases machine.state.context.require .web with
  | error error => rfl
  | ok _ =>
      have asked : (({ machine.state with web := machine.state.web.create.1 } : State).saw
          [.webCreate machine.state.web.create.2.toOption]).context.createView
            machine.state.web.create.2 =
          machine.state.context.createView machine.state.web.create.2 := rfl
      have also : (({ machine.unobserved.state with
          web := machine.unobserved.state.web.create.1 } : State).saw
            [.webCreate machine.unobserved.state.web.create.2.toOption]).context.createView
              machine.unobserved.state.web.create.2 = _ := made
      dsimp only
      rw [asked, also]
      rcases machine.state.context.createView machine.state.web.create.2
        with ⟨context, error | key⟩
      · rfl
      · dsimp only [State.saw]
        rw [viewNames_unobserved]
        cases machine.state.viewNames.find? name with
        | none => rfl
        | some old =>
            dsimp only
            rw [unobserved_dropping]
            symm
            rw [unobserved_dropping]
            rfl

/-- A reported progress is taken up in the same way, observed or not. -/
theorem unobserved_handlingProgress (view : View Action) (payload : Json) :
    (machine.handlingProgress view payload).unobserved =
      (machine.unobserved.handlingProgress view payload).unobserved := by
  unfold handlingProgress
  split
  · rfl
  · rfl

/-- A result reaches the same continuation, observed or not. -/
theorem unobserved_handlingResult (key : ObjectKey) (view : View Action) (payload : Json) :
    (machine.handlingResult key view payload).unobserved =
      (machine.unobserved.handlingResult key view payload).unobserved := by
  unfold handlingResult
  split
  · rfl
  next id _ =>
    dsimp only [unobserved, State.unobserved, Context.unobserved, Context.takeCallback]
    rcases (machine.state.context.callbacks.resolve id).2 with _ | _ | _
    · rfl
    · rfl
    · rfl

/-- A script call reaches the same target, observed or not. -/
theorem unobserved_handlingMessage (key : ObjectKey) (view : View Action) (payload : Json) :
    (machine.handlingMessage key view payload).unobserved =
      (machine.unobserved.handlingMessage key view payload).unobserved := by
  unfold handlingMessage
  split
  · rfl
  next message _ =>
    dsimp only
    split
    · rfl
    · rfl

/-- The handlers of a view do the same, observed or not. -/
theorem unobserved_handling (key : ObjectKey) (method : String) (payload : Json) :
    (machine.handling key method payload).unobserved =
      (machine.unobserved.handling key method payload).unobserved := by
  have view : machine.unobserved.state.context.view? key = machine.state.context.view? key := rfl
  rw [handling, handling, view]
  cases machine.state.context.view? key with
  | none => rfl
  | some view =>
      dsimp only
      split
      · rfl
      · exact machine.unobserved_handlingProgress view payload
      · exact machine.unobserved_handlingResult key view payload
      · exact machine.unobserved_handlingMessage key view payload

/-- A delivery is taken in, or refused, in the same way, observed or not. -/
theorem unobserved_delivering (inbound : Inbound) :
    (machine.delivering inbound).unobserved =
      (machine.unobserved.delivering inbound).unobserved := by
  obtain ⟨bus, same⟩ := inbound.admit_eq machine.state.context.bus
    machine.unobserved.state.context.bus
    (machine.state.context.registry.lookup machine.state.context.alive inbound.objectId)
  have also : inbound.admit machine.unobserved.state.context.bus
      (machine.unobserved.state.context.registry.lookup machine.unobserved.state.context.alive
        inbound.objectId) = _ := same
  rw [delivering, delivering]
  dsimp only
  rw [also]
  rcases inbound.admit machine.state.context.bus
    (machine.state.context.registry.lookup machine.state.context.alive inbound.objectId)
    with ⟨told, log, delivery | ⟨key, payload⟩⟩
  · rfl
  · dsimp only
    rw [unobserved_handling]
    symm
    rw [unobserved_handling]
    rfl

/-- A delivery is concluded in the same way, observed or not. -/
theorem unobserved_concluding (inbound : Inbound) (rest : List Frame)
    (handled : Except String Delivery) :
    (machine.concluding inbound rest handled).unobserved =
      (machine.unobserved.concluding inbound rest handled).unobserved := by
  obtain ⟨bus, same⟩ := inbound.conclude_eq machine.state.context.bus
    machine.unobserved.state.context.bus handled
  rw [concluding, concluding, same]
  rfl

/-- A progress is told to the same client, observed or not. -/
theorem unobserved_progressing (objectId : UInt64) (value : Int32)
    (client : Option (Client Action)) (rest : List Frame) (tasks : List ProgressTask) :
    (machine.progressing objectId value client rest tasks).unobserved =
      (machine.unobserved.progressing objectId value client rest tasks).unobserved := by
  rcases tasks with _ | ⟨phase | event, tasks⟩
  · rfl
  · rcases client with _ | client
    · rfl
    · cases client <;> rfl
  · rfl

/-- Every frame is resumed in the same way, observed or not. -/
theorem unobserved_resuming (ending : Ending) (rest : List Frame) (frame : Frame) :
    (machine.resuming ending rest frame).unobserved =
      (machine.unobserved.resuming ending rest frame).unobserved := by
  cases frame with
  | release key =>
      obtain ⟨bus, ended⟩ := machine.state.context.endDestroy_unobserved key
      have context : machine.unobserved.state.context = machine.state.context.unobserved := rfl
      rw [resuming, resuming, context, ended]
      rcases machine.state.context.endDestroy key with ⟨context, abandoned⟩
      dsimp only [unobserved]
      rw [State.unobserved_abandonAll, State.unobserved_abandonAll]
      rfl
  | script objectId interface method => rfl
  | handler inbound =>
      cases ending with
      | panics reason => exact machine.unobserved_concluding inbound rest (.error reason)
      | returns => exact machine.unobserved_concluding inbound rest (.ok .routed)
      | fails reason => exact machine.unobserved_concluding inbound rest (.ok .routed)
  | result objectId id => cases ending <;> rfl
  | progress objectId value client tasks => cases ending <;> rfl
  | code steps ending => rfl
  | answer reply => rfl

/-- An action that does not look at the bus does the same, observed or not. -/
theorem unobserved_perform {action : Action} (operates : action.observes = false) :
    (machine.perform action).unobserved = (machine.unobserved.perform action).unobserved := by
  cases action with
  | subscribe stream filters => cases operates
  | drain stream => cases operates
  | shown => cases operates
  | deliver whom method payload => exact machine.unobserved_delivering _
  | createView view => exact machine.unobserved_creating view
  | destroy view =>
      rw [perform, perform, viewNames_unobserved]
      cases machine.state.viewNames.find? view with
      | none => rfl
      | some key => exact machine.unobserved_destroying _ key _
  | dropView view =>
      rw [perform, perform, viewNames_unobserved]
      cases machine.state.viewNames.find? view with
      | none => rfl
      | some key => exact machine.unobserved_dropping _ key _
  | loadUrl view url headers =>
      exact machine.unobserved_answering_of_map (State.unobserved_call _ _ _)
  | loadData view data baseUrl mimeType encoding historyUrl =>
      exact machine.unobserved_answering_of_map (State.unobserved_call _ _ _)
  | run view script =>
      exact machine.unobserved_answering_of_map (State.unobserved_evaluateOn _ _ _ _)
  | evaluate view script name steps ending =>
      exact machine.unobserved_answering_of_map (State.unobserved_evaluateOn _ _ _ _)
  | evaluateLater view script slot =>
      exact machine.unobserved_answering_of_map (State.unobserved_evaluateLater _ _ _ _)
  | poll slot => exact machine.unobserved_answering_of_map (State.unobserved_poll _ _)
  | addInterface view name target =>
      exact machine.unobserved_answering_of_map (State.unobserved_addInterface _ _ _ _)
  | removeInterface view name =>
      exact machine.unobserved_answering_of_map (State.unobserved_removeInterface _ _ _)
  | hasInterface view name =>
      exact machine.unobserved_answering_of_map (State.unobserved_inspect _ _ _)
  | setClient view client =>
      exact machine.unobserved_answering_of_map (State.unobserved_setClient _ _ _)
  | clearClient view =>
      exact machine.unobserved_answering_of_map (State.unobserved_setClient _ _ _)
  | viewInfo view => exact machine.unobserved_answering_of_map (State.unobserved_inspect _ _ _)
  | decode bitmap source =>
      cases source with
      | data bytes => exact machine.unobserved_answering_of_map (State.unobserved_makeBitmap _ _ _)
      | range bytes offset length =>
          exact machine.unobserved_answering_of_map (State.unobserved_makeBitmap _ _ _)
      | reader chunks failure =>
          exact machine.unobserved_answering_of_map (State.unobserved_makeBitmap _ _ _)
  | createBitmap bitmap width height =>
      exact machine.unobserved_answering_of_map (State.unobserved_makeBitmap _ _ _)
  | draw bitmap source part place =>
      exact machine.unobserved_answering_of_map (State.unobserved_draw _ _ _ _ _ _)
  | canvasDraw bitmap source part place =>
      exact machine.unobserved_answering_of_map (State.unobserved_draw _ _ _ _ _ _)
  | compress bitmap format quality =>
      exact machine.unobserved_answering_of_map (State.unobserved_compress _ _ _ _ _)
  | compressTo bitmap format quality room failure =>
      exact machine.unobserved_answering_of_map (State.unobserved_compress _ _ _ _ _)
  | release bitmap => exact machine.unobserved_answering_of_map (State.unobserved_release _ _)
  | dropBitmap bitmap => exact machine.unobserved_answering_of_map (State.unobserved_dropBitmap _ _)
  | raster call => exact machine.unobserved_answering_of_map (State.unobserved_callRaster _ _)
  | net request lookups => exact machine.unobserved_answering (State.unobserved_request _ _ _)
  | cookieSet url value =>
      exact machine.unobserved_answering_of_map (State.unobserved_setCookie _ _ _)
  | cookieGet url =>
      have same := machine.state.unobserved_getCookie url
      exact machine.unobserved_answering_of_map
        (congrArg (Prod.map id Reply.cookie) same)
  | cookieDisabled url =>
      exact machine.unobserved_answering_of_map (State.unobserved_getDisabledCookie _ _)
  | post message => exact machine.unobserved_answering_of_map (State.unobserved_post _ _)
  | imageScript script =>
      exact machine.unobserved_answering_of_map
        (congrArg (·, Reply.nothing) (machine.state.unobserved_scriptImages script))
  | webAddresses answers => rfl
  | webFail error => rfl
  | onRelease steps => rfl
  | netReply segments => rfl
  | jarPut url value => rfl
  | jarFail error => rfl
  | counts => rfl
  | bitmapInfo bitmap => rfl
  | cookieInfo => rfl
  | channelInfo => rfl

/-- A transition that is no observation does not depend on observers. -/
theorem unobserved_step
    (operates : ∀ action, machine.mode = .perform action → action.observes = false) :
    machine.step.unobserved = machine.unobserved.step.unobserved := by
  obtain ⟨state, stack, mode⟩ := machine
  cases mode with
  | perform action => exact unobserved_perform _ (operates action rfl)
  | proceed =>
      rcases stack with _ | ⟨frame, rest⟩
      · rfl
      · cases frame with
        | code steps ending => cases steps <;> rfl
        | progress objectId value client tasks => exact unobserved_progressing _ _ _ _ _ _
        | _ => rfl
  | reply reply =>
      rcases stack with _ | ⟨frame, rest⟩
      · rfl
      · cases frame <;> rfl
  | ended ending =>
      rcases stack with _ | ⟨frame, rest⟩
      · rfl
      · exact unobserved_resuming _ _ _ _
  | handled delivery =>
      rcases stack with _ | ⟨frame, rest⟩
      · rfl
      · cases frame with
        | handler inbound => exact unobserved_concluding _ _ _ _
        | _ => rfl

end Session.Machine

end HostBridge
