import HostBridge.Proofs.Session.Calls
import HostBridge.Proofs.Session.Frame
import HostBridge.Proofs.Session.Stack

/-!
# What a session does to its core

A transition of a session takes its core along the deeds of the machine, one after the other.
Whatever holds of all cores that deeds can lead to therefore holds of every session.

Main statements: one transition follows its deeds (`Machine.path_step`), and the core of every run
is reached by its history (`Run.reached`).
-/

namespace HostBridge

namespace Context

variable {σ : Type} (context : Context σ) {key : ObjectKey} {view : View σ}

/-- There is nothing to tear down under a key that no view has. -/
theorem beginDestroy_of_absent (absent : context.view? key = none) :
    context.beginDestroy key = (context, none) := by
  simp only [beginDestroy, absent]

/-- A destroyed view is not torn down again. -/
theorem beginDestroy_of_destroyed (found : context.view? key = some view)
    (destroyed : view.isDestroyed = true) : context.beginDestroy key = (context, none) := by
  have released : view.handle.address = 0 := of_decide_eq_true destroyed
  simp only [beginDestroy, found, Handle.release, Handle.clear, released, ↓reduceIte]

/-- The handle of a living view is cleared, and the entry is removed if it is the view's own. -/
theorem beginDestroy_of_living (found : context.view? key = some view)
    (living : view.isDestroyed = false) :
    ∃ log, context.beginDestroy key =
      ({ context with
          registry := (context.registry.removeOwned view.objectId key).1
          views := context.views.insert key { view with handle := Handle.empty }
          log := log },
        some view.handle.address) := by
  have held : view.handle.address ≠ 0 := of_decide_eq_false living
  simp only [beginDestroy, found, Handle.release, Handle.clear, held, ↓reduceIte]
  split
  · exact ⟨context.log, rfl⟩
  · exact ⟨_, rfl⟩

end Context

namespace Session

variable {rule : Core → UInt64 → Prop}

namespace State

variable (state : State)

/-- The session after the application let go of a view. -/
def lettingGo (key : ObjectKey) : State :=
  { state with context := state.context.modifyView key (fun view => { view with held := false }) }

/-- A view that the application let go of is still there, and no longer held. -/
theorem view?_lettingGo {key : ObjectKey} {view : View Action}
    (found : state.context.view? key = some view) :
    (state.lettingGo key).context.view? key = some { view with held := false } := by
  have present : state.context.views.find? key = some view := found
  simp only [lettingGo, Context.modifyView, Context.view?, Table.find?_modify, ↓reduceIte, present,
    Option.map_some]

/-- In the core letting go of a view takes away that it is held. -/
theorem core_lettingGo (key : ObjectKey) (releasing : List ObjectKey) :
    (state.lettingGo key).core releasing =
      { state.core releasing with
        views := (state.core releasing).views.modify key
          (fun view => { view with held := false }) } := by
  have mapped := Table.mapValues_modify state.context.views View.bare key
    (fun view => { view with held := false }) (fun view => { view with held := false })
    fun _ _ => rfl
  simp only [core, lettingGo, Context.modifyView, mapped]

/-- In the core a view at a given address is registered under that address. -/
theorem core_adopt {address : UInt64} (instance_given : address ≠ 0) (amid : Bool)
    (releasing : List ObjectKey) :
    (({ state with context := (state.context.adopt address).1 } : State).saw
        [.webCreate (some address)]).core releasing =
      (state.core releasing).after (.create address amid) := by
  have views := Table.mapValues_insert state.context.views View.bare state.context.nextView
    (View.new address)
  rw [core_saw]
  simp only [Core.record, instance_given, ↓reduceIte, core, Context.adopt, Context.note,
    Context.announce, Bus.emitted_announce, List.filterMap_append, List.filterMap_cons,
    Event.reachability?, List.filterMap_nil, Registry.insert, views, Core.after]
  rfl

end State

namespace Machine

/-- The core of a session under way. -/
def core (machine : Machine) : Core := machine.state.core machine.releasing

variable (machine : Machine) (state : State)

/-! ### Destruction and creation -/

/-- Destroying no view leaves the core as it is. -/
theorem core_destroying_of_absent {key : ObjectKey} (absent : state.context.view? key = none)
    (reply : Reply) :
    (machine.destroying state key reply).core = state.core machine.releasing := by
  simp only [destroying, Context.beginDestroy_of_absent state.context absent]
  rfl

/-- Destroying a view again leaves the core as it is. -/
theorem core_destroying_of_destroyed {key : ObjectKey} {view : View Action}
    (found : state.context.view? key = some view) (destroyed : view.isDestroyed = true)
    (reply : Reply) :
    (machine.destroying state key reply).core = state.core machine.releasing := by
  simp only [destroying, Context.beginDestroy_of_destroyed state.context found destroyed]
  rfl

/-- In the core the handle of a destroyed view is cleared, its entry is removed if it is its own,
and its release has begun. -/
theorem core_destroying_of_living {key : ObjectKey} {view : View Action}
    (found : state.context.view? key = some view) (living : view.isDestroyed = false)
    (reply : Reply) :
    (machine.destroying state key reply).core =
      { state.core machine.releasing with
        registry := ((state.core machine.releasing).registry.removeOwned view.objectId key).1
        views := (state.core machine.releasing).views.insert key
          { view.bare with handle := Handle.empty }
        releasing := key :: machine.releasing
        released := (state.core machine.releasing).released ++ [view.handle.address] } := by
  obtain ⟨log, begun⟩ := Context.beginDestroy_of_living state.context found living
  have views := Table.mapValues_insert state.context.views View.bare key
    { view with handle := Handle.empty }
  simp only [destroying, begun]
  refine (State.core_saw _ _ _).trans ?_
  simp only [Core.record, State.core, views]
  rfl

/-- Destroying a view takes the core along what the view's handle says there is to clear. -/
theorem path_destroying (key : ObjectKey) (reply : Reply) :
    Core.Path rule (state.core machine.releasing) (state.clearing false key)
      (machine.destroying state key reply).core := by
  unfold State.clearing
  cases found : state.context.view? key with
  | none =>
      rw [core_destroying_of_absent machine state found]
      exact .nil
  | some view =>
      have listed := state.find?_core_of_view? machine.releasing found
      by_cases gone : view.isDestroyed = true
      · simp only [gone, Bool.false_eq_true, ↓reduceIte]
        rw [core_destroying_of_destroyed machine state found gone]
        exact .nil
      · have living : view.isDestroyed = false := Bool.eq_false_iff.mpr gone
        simp only [living, Bool.false_eq_true, ↓reduceIte]
        refine .single ⟨view.bare, listed, living⟩ ?_
        rw [core_destroying_of_living machine state found living]
        simp only [Core.after, listed, Bool.not_false, Bool.and_true]
        rfl

/-- Letting go of a view takes the core along what there is to let go of and to clear. -/
theorem path_dropping (key : ObjectKey) (reply : Reply) :
    Core.Path rule (state.core machine.releasing) (state.clearing true key)
      (machine.dropping state key reply).core := by
  change Core.Path rule _ _ (machine.destroying (state.lettingGo key) key reply).core
  unfold State.clearing
  cases found : state.context.view? key with
  | none =>
      have absent : state.context.views.find? key = none := found
      have same : state.lettingGo key = state := by
        simp only [State.lettingGo, Context.modifyView, Table.modify_of_absent _ _ absent]
      rw [same, core_destroying_of_absent machine state found]
      exact .nil
  | some view =>
      have listed := state.find?_core_of_view? machine.releasing found
      have changed := state.view?_lettingGo found
      by_cases gone : view.isDestroyed = true
      · have still : ({ view with held := false } : View Action).isDestroyed = true := gone
        simp only [gone, ↓reduceIte]
        refine .single ⟨view.bare, listed, gone⟩ ?_
        rw [core_destroying_of_destroyed machine _ changed still, State.core_lettingGo]
        rfl
      · have living : view.isDestroyed = false := Bool.eq_false_iff.mpr gone
        have still : ({ view with held := false } : View Action).isDestroyed = false := living
        simp only [living, Bool.false_eq_true, ↓reduceIte]
        refine .single ⟨view.bare, listed, living⟩ ?_
        rw [core_destroying_of_living machine _ changed still, State.core_lettingGo]
        simp only [Core.after, listed, Bool.not_true, Bool.and_false,
          Table.modify_of_present _ _ listed, Table.insert_insert]
        rfl

/-- The core counts the releases under way as the machine does. -/
theorem releases_core (address : UInt64) :
    machine.core.releases address = machine.releases address := by
  have same : (fun key => (machine.core.views.find? key).any fun view => view.objectId = address) =
      fun key => (machine.state.context.view? key).any fun view => view.objectId = address := by
    funext key
    have mapped : machine.core.views.find? key = _ := machine.state.find?_core machine.releasing key
    rw [mapped, Option.any_map]
    rfl
  exact congrArg machine.releasing.any same

/-- Creating a view takes the core along the creation, if the rule admits the address. -/
theorem path_creating (name : String)
    (ruled : ∀ address amid,
      .create address amid ∈ machine.state.creating machine.releases name →
        rule machine.core address) :
    Core.Path rule machine.core (machine.state.creating machine.releases name)
      (machine.creating name).core := by
  let asking : State := { machine.state with web := machine.state.web.create.1 }
  cases required : machine.state.context.require .web with
  | error error =>
      simp only [creating, State.creating, required]
      exact .nil
  | ok granted =>
      cases answer : machine.state.web.create.2 with
      | error error =>
          simp only [creating, State.creating, required, answer, Context.createView]
          exact .still (State.core_saw asking machine.releasing (.webCreate none))
      | ok address =>
          by_cases null : address = 0
          · simp only [creating, State.creating, required, answer, Context.createView, null,
              ↓reduceIte]
            exact .still (State.core_saw asking machine.releasing (.webCreate (some 0)))
          · have enabled :
                machine.core.Enables rule (.create address (machine.releases address)) := by
              refine ⟨null, (releases_core machine address).symm, ?_⟩
              apply ruled address (machine.releases address)
              simp only [State.creating, required, answer, null, ↓reduceIte, List.mem_cons, true_or]
            have adopted : _ = machine.core.after _ :=
              machine.state.core_adopt null (machine.releases address) machine.releasing
            simp only [creating, State.creating, required, answer, Context.createView, null,
              ↓reduceIte, State.saw]
            cases machine.state.viewNames.find? name with
            | none => exact .single enabled adopted
            | some old =>
                let named : State := { asking with
                  context := (machine.state.context.adopt address).1
                  viewNames := machine.state.viewNames.insert name machine.state.context.nextView
                  seen := machine.state.seen ++ [.webCreate (some address)] }
                refine .cons enabled ?_
                rw [← adopted]
                simp only [Option.toList_some, List.flatMap_cons, List.flatMap_nil, List.append_nil]
                exact path_dropping machine named old _

/-! ### Delivery -/

/-- A view that is found by its id is there. -/
theorem view?_of_lookup {context : Context Action} {id : UInt64} {key : ObjectKey}
    (found : context.registry.lookup context.alive id = some key) :
    ∃ view, context.view? key = some view := by
  have alive := (Option.filter_eq_some_iff.mp found).2
  obtain ⟨view, present, _⟩ := (Option.any_eq_true _ _).mp alive
  exact ⟨view, present⟩

/-- Announcing a result leaves the core as it is. -/
theorem core_announcingResult (objectId : UInt64) (id : CallbackId) (delivered : Bool) :
    (machine.announcingResult state objectId id delivered).core =
      state.core machine.releasing :=
  congrFun (State.core_announce_of_silent state rfl) machine.releasing

/-- Announcing a script call leaves the core as it is. -/
theorem core_announcingCall (objectId : UInt64) (interface method : String)
    (result : Except DispatchError Unit) :
    (machine.announcingCall state objectId interface method result).core =
      state.core machine.releasing :=
  congrFun (State.core_announce_of_silent (state.note _) (by cases result <;> rfl))
    machine.releasing

/-- A reported progress leaves the core as it is. -/
theorem core_handlingProgress (view : View Action) (payload : Json) :
    (machine.handlingProgress view payload).core = machine.core := by
  unfold handlingProgress
  split
  · rfl
  · rfl

/-- A script call leaves the core as it is: bindings are no part of it. -/
theorem core_handlingMessage (key : ObjectKey) (view : View Action) (payload : Json) :
    (machine.handlingMessage key view payload).core = machine.core := by
  unfold handlingMessage
  split
  · rfl
  next message _ =>
    let claimed : State := { machine.state with
      context := machine.state.context.modifyView key
        (fun other => { other with bindings := (view.bindings.claim message.interface
          message.method).1 }) }
    have unseen : claimed.core = machine.state.core :=
      State.core_modifyView_of_unseen _ fun _ _ => rfl
    dsimp only
    split
    · rw [core_announcingCall]
      exact congrFun unseen machine.releasing
    next invocation _ =>
      refine (congrFun ?_ machine.releasing).trans (congrFun unseen machine.releasing)
      apply State.core_saw_of_unrecorded (claimed.note _)
      intro sighting member core
      split at member
      · cases member
      · cases List.mem_singleton.mp member
        rfl

/-- A well-formed result takes its continuation out of the table and calls it. -/
theorem path_handlingResult (key : ObjectKey) (view : View Action) (payload : Json)
    (found : machine.state.context.view? key = some view) :
    Core.Path rule machine.core
      (((payload.get? "callbackId").bind CallbackId.ofJson?).toList.map
        (fun id => .answer key id (scriptResult payload)))
      (machine.handlingResult key view payload).core := by
  unfold handlingResult
  cases read : (payload.get? "callbackId").bind CallbackId.ofJson? with
  | none => exact .nil
  | some id =>
      have listed := machine.state.find?_core_of_view? machine.releasing found
      have taken := machine.state.core_taking machine.releasing key id
      have parts : machine.state.context.takeCallback key id =
        ((machine.state.taking key id).context, (machine.core.callbacks.resolve id).2) := rfl
      refine .single ⟨view.bare, listed⟩ ?_
      dsimp only
      rw [parts]
      simp only [Core.after]
      cases (machine.core.callbacks.resolve id).2 with
      | none =>
          dsimp only
          rw [core_announcingResult]
          exact taken
      | some continuation => cases continuation with
        | slot slot =>
            dsimp only
            rw [core_announcingResult]
            have before : (machine.state.taking key id).core machine.releasing =
              machine.core.take key id := taken
            change _ = (machine.core.take key id).fulfil (scriptResult payload) (.slot slot)
            rw [← before]
            rfl
        | reaction name steps ending =>
            refine (State.core_saw (machine.state.taking key id) machine.releasing
              (.continued name (scriptResult payload))).trans ?_
            rw [taken]
            rfl

/-- A handler takes the core along the answer to a continuation, if it comes to one. -/
theorem path_handling {key : ObjectKey} {view : View Action}
    (found : machine.state.context.view? key = some view) (method : String) (payload : Json) :
    Core.Path rule machine.core
      (match InboundMethod.ofName? method with
        | some .evaluateResult => ((payload.get? "callbackId").bind CallbackId.ofJson?).toList.map
          (fun id => .answer key id (scriptResult payload))
        | _ => [])
      (machine.handling key method payload).core := by
  unfold handling
  rw [found]
  cases InboundMethod.ofName? method with
  | none => exact .nil
  | some known => cases known with
    | loadProgress => exact .still (core_handlingProgress machine view payload)
    | evaluateResult => exact path_handlingResult machine key view payload found
    | scriptMessage => exact .still (core_handlingMessage machine key view payload)

end Machine

namespace State

variable (state : State)

/-- A bus on which the same was announced about the reachability of objects. -/
theorem core_bus {bus : Bus}
    (same : bus.emitted.filterMap Event.reachability? =
      state.context.bus.emitted.filterMap Event.reachability?) :
    ({ state with context := { state.context with bus := bus } } : State).core = state.core := by
  funext releasing
  simp only [core, same]

/-- An announcement that an event was dropped says nothing of who can be reached. -/
theorem reachability_dropped (inbound : Inbound) (bus : Bus) :
    (bus.announce inbound.droppedEvent).emitted.filterMap Event.reachability? =
      bus.emitted.filterMap Event.reachability? := by
  rw [Bus.emitted_announce, List.filterMap_append]
  exact List.append_nil _

/-- Taking in an event says nothing of who can be reached. -/
theorem reachability_admit (inbound : Inbound) (bus : Bus) (target : Option ObjectKey) :
    ( Inbound.admit inbound bus target).bus.emitted.filterMap Event.reachability? =
      bus.emitted.filterMap Event.reachability? := by
  unfold Inbound.admit
  split
  · exact reachability_dropped inbound bus
  · split
    · exact reachability_dropped inbound bus
    · rfl

/-- Concluding a delivery says nothing of who can be reached. -/
theorem reachability_conclude (inbound : Inbound) (bus : Bus) (handled : Except String Delivery) :
    (inbound.conclude bus handled).bus.emitted.filterMap Event.reachability? =
      bus.emitted.filterMap Event.reachability? := by
  have kept_or_dropped (delivery : Delivery) :
      (if delivery.isRouted then bus else bus.announce inbound.droppedEvent).emitted.filterMap
          Event.reachability? = bus.emitted.filterMap Event.reachability? := by
    split
    · rfl
    · exact reachability_dropped inbound bus
  cases handled with
  | ok delivery => exact kept_or_dropped delivery
  | error reason => exact kept_or_dropped .panicked

end State

namespace Machine

variable (machine : Machine)

/-- Concluding a delivery leaves the core as it is. -/
theorem core_concluding (inbound : Inbound) (rest : List Frame)
    (handled : Except String Delivery) :
    (machine.concluding inbound rest handled).core =
      machine.state.core (rest.filterMap Frame.release?) :=
  congrFun (State.core_bus machine.state (State.reachability_conclude inbound _ handled)) _

/-- A delivery takes the core along the answer that it brings, if any. -/
theorem path_delivering (inbound : Inbound) :
    Core.Path rule machine.core (machine.state.answering inbound)
      (machine.delivering inbound).core := by
  have routed := State.core_bus machine.state (State.reachability_admit inbound
    machine.state.context.bus
    (machine.state.context.registry.lookup machine.state.context.alive inbound.objectId))
  have same := congrFun routed machine.releasing
  unfold delivering State.answering
  dsimp only
  cases listed : machine.state.context.registry.lookup machine.state.context.alive
      inbound.objectId with
  | none =>
      rw [listed] at same
      exact .still same
  | some key =>
      rw [listed] at same
      cases read : inbound.value? with
      | none =>
          simp only [read, Inbound.admit] at same ⊢
          exact .still same
      | some payload =>
          obtain ⟨view, found⟩ := view?_of_lookup listed
          let handler : Machine := { machine with
            state := machine.state.note [inbound.arrivedEntry]
            stack := .handler inbound :: machine.stack }
          have handled : Core.Path rule machine.core _ _ :=
            path_handling handler found inbound.method payload
          simp only [read, Inbound.admit]
          cases method : InboundMethod.ofName? inbound.method with
          | none =>
              rw [method] at handled
              exact handled
          | some known =>
              rw [method] at handled
              cases known with
              | loadProgress => exact handled
              | evaluateResult => exact handled
              | scriptMessage => exact handled

/-! ### Application code -/

/-- Telling a client of a progress leaves the core as it is. -/
theorem core_progressing (objectId : UInt64) (value : Int32) (client : Option (Client Action))
    (rest : List Frame) (tasks : List ProgressTask) :
    (machine.progressing objectId value client rest tasks).core =
      machine.state.core (rest.filterMap Frame.release?) := by
  unfold progressing
  split
  · rfl
  · exact congrFun (State.core_announce_of_silent machine.state rfl) _
  · split
    · exact State.core_saw machine.state _ (.client _ _ _ _)
    · rfl

/-- In the core the end of a destruction retires the view and abandons what it waited for. -/
theorem core_endDestroy (state : State) (key : ObjectKey) (releasing : List ObjectKey) :
    (({ state with context := (state.context.endDestroy key).1 } : State).abandonAll
        (state.context.endDestroy key).2).core releasing =
      (state.core (key :: releasing)).after (.retire key) := by
  have mapped := state.find?_core (key :: releasing) key
  rw [State.core_abandonAll]
  cases found : state.context.view? key with
  | none =>
      rw [found, Option.map_none] at mapped
      simp only [Core.after, mapped, Context.endDestroy, found]
      rfl
  | some view =>
      rw [found, Option.map_some] at mapped
      have views := Table.mapValues_insert state.context.views View.bare key
        { view with pending := [] }
      simp only [Core.after, mapped, Context.endDestroy, found]
      congr 1
      simp only [State.core, Context.announce, Context.note, Bus.emitted_announce,
        List.filterMap_append, List.filterMap_cons, List.filterMap_nil, Event.reachability?, views,
        List.tail_cons]
      rfl

/-- Whatever waits for application code goes on without a deed, except for a destruction. -/
theorem path_resuming {ending : Ending} {frame : Frame} {rest : List Frame}
    (mode : machine.mode = .ended ending) (stack : machine.stack = frame :: rest)
    (waiting : Waiting ending (frame :: rest)) :
    Core.Path rule machine.core machine.deeds (machine.resuming ending rest frame).core := by
  obtain ⟨state, frames, current⟩ := machine
  subst mode stack
  cases waiting with
  | release view reply calm => exact .single rfl (core_endDestroy state view _)
  | progress objectId value client tasks inbound calm =>
      cases ending with
      | panics reason => exact .nil
      | _ => exact .nil
  | result objectId id inbound calm =>
      cases ending with
      | panics reason => exact .nil
      | _ => exact .still (core_announcingResult _ state objectId id true)
  | script objectId interface method inbound calm =>
      exact .still (core_announcingCall _ (state.note _) objectId interface method _)

/-! ### Transitions -/

/-- An action takes the core along its deeds. -/
theorem path_perform (action : Action)
    (ruled : ∀ address amid, .create address amid ∈ machine.state.deeds machine.releases action →
      rule machine.core address) :
    Core.Path rule machine.core (machine.state.deeds machine.releases action)
      (machine.perform action).core := by
  cases action with
  | createView name => exact path_creating machine name ruled
  | destroy name =>
      simp only [perform, State.deeds]
      cases machine.state.viewNames.find? name with
      | none => exact .nil
      | some key =>
          rw [Option.toList_some, List.flatMap_cons, List.flatMap_nil, List.append_nil]
          exact path_destroying machine machine.state key .nothing
  | dropView name =>
      simp only [perform, State.deeds]
      cases machine.state.viewNames.find? name with
      | none => exact .nil
      | some key =>
          rw [Option.toList_some, List.flatMap_cons, List.flatMap_nil, List.append_nil]
          exact path_dropping machine
            { machine.state with viewNames := machine.state.viewNames.erase name } key (.flag true)
  | deliver whom method payload => exact path_delivering machine _
  | loadUrl name url headers => exact State.path_call machine.state _ name _
  | loadData name data baseUrl mimeType encoding historyUrl =>
      exact State.path_call machine.state _ name _
  | addInterface name interface target =>
      exact State.path_addInterface machine.state _ name interface target
  | run name script =>
      apply State.path_evaluateOn machine.state _ name script none
      intro slot same
      cases same
  | evaluate name script label steps ending =>
      apply State.path_evaluateOn machine.state _ name script (some (.reaction label steps ending))
      intro slot same
      cases same
  | evaluateLater name script slot =>
      exact State.path_evaluateLater machine.state _ name script slot
  | poll slot => exact State.path_poll machine.state _ slot
  | imageScript script => exact .still (congrFun (State.core_scriptImages machine.state script) _)
  | subscribe stream filters =>
      exact .still (congrFun (State.core_subscribe machine.state stream filters) _)
  | drain stream => exact .still (congrFun (State.core_drain machine.state stream) _)
  | removeInterface name interface =>
      exact .still (congrFun (State.core_removeInterface machine.state name interface) _)
  | hasInterface name interface =>
      exact .still (congrFun (State.core_inspect machine.state name _) _)
  | setClient name client =>
      exact .still (congrFun (State.core_setClient machine.state name _) _)
  | clearClient name => exact .still (congrFun (State.core_setClient machine.state name none) _)
  | viewInfo name => exact .still (congrFun (State.core_inspect machine.state name _) _)
  | decode bitmap source =>
      exact .still (congrFun (State.core_decodeBitmap machine.state bitmap source) _)
  | createBitmap bitmap width height =>
      exact .still (congrFun (State.core_makeBitmap machine.state bitmap _) _)
  | draw bitmap source part place =>
      exact .still (congrFun (State.core_draw machine.state bitmap source part place _) _)
  | canvasDraw bitmap source part place =>
      exact .still (congrFun (State.core_draw machine.state bitmap source part place _) _)
  | compress bitmap format quality =>
      exact .still (congrFun (State.core_compress machine.state bitmap format quality _) _)
  | compressTo bitmap format quality room failure =>
      exact .still (congrFun (State.core_compress machine.state bitmap format quality _) _)
  | release bitmap => exact .still (congrFun (State.core_release machine.state bitmap) _)
  | dropBitmap bitmap => exact .still (congrFun (State.core_dropBitmap machine.state bitmap) _)
  | raster call => exact .still (congrFun (State.core_callRaster machine.state call) _)
  | net request lookups =>
      exact .still (congrFun (State.core_request machine.state request lookups) _)
  | cookieSet url value =>
      exact .still (congrFun (State.core_setCookie machine.state url value) _)
  | cookieGet url => exact .still (congrFun (State.core_getCookie machine.state url) _)
  | cookieDisabled url =>
      exact .still (congrFun (State.core_getDisabledCookie machine.state url) _)
  | post message => exact .still (congrFun (State.core_post machine.state message) _)
  | _ => exact .nil

/-- One transition takes the core along what the machine does. -/
theorem path_step (ordered : machine.IsOrdered)
    (ruled : ∀ address amid, .create address amid ∈ machine.deeds → rule machine.core address) :
    Core.Path rule machine.core machine.deeds machine.step.core := by
  obtain ⟨state, stack, mode⟩ := machine
  -- No transition is left that pops a frame without resuming its operation.
  cases ordered with
  | perform action calm => exact path_perform _ action ruled
  | reply reply calm =>
      cases calm with
      | empty => exact .nil
      | code steps waiting => exact .still (State.core_saw state _ (.nested reply))
  | answer reply answer calm => exact .nil
  | code steps waiting =>
      cases steps with
      | nil => exact .nil
      | cons first others => exact .nil
  | progress objectId value client tasks inbound calm =>
      exact .still (core_progressing _ objectId value client _ tasks)
  | ended waiting =>
      cases stack with
      | nil => nomatch waiting
      | cons frame rest => exact path_resuming _ rfl rfl waiting
  | unwound reason inbound calm => exact .still (core_concluding _ inbound _ _)
  | handled delivery inbound calm => exact .still (core_concluding _ inbound _ _)

end Machine

/-- The engine hands out no address that an undestroyed view holds. -/
def Machine.HandsOutFree (machine : Machine) : Prop :=
  ∀ address amid, .create address amid ∈ machine.deeds → ∀ key view,
    machine.state.context.view? key = some view → view.isDestroyed = false →
      view.handle.address ≠ address

/-- Whether a deed creates a view at the address of an undestroyed one. -/
def Deed.takes (deed : Deed) (view : View Action) : Bool :=
  match deed with
  | .create address _ => !view.isDestroyed && view.handle.address = address
  | _ => false

/-- The engine hands out free addresses if no deed takes one that a living view has. -/
theorem Machine.handsOutFree_iff (machine : Machine) :
    machine.HandsOutFree ↔ ∀ deed ∈ machine.deeds, ∀ view ∈ machine.state.context.views.values,
      deed.takes view = false := by
  constructor
  · intro free deed member view listed
    obtain ⟨key, found⟩ := (Table.mem_values_iff _ view).mp listed
    cases deed with
    | create address amid =>
        cases living : view.isDestroyed with
        | true => simp only [Deed.takes, living, Bool.not_true, Bool.false_and]
        | false =>
            simp only [Deed.takes, living, Bool.not_false, Bool.true_and]
            exact decide_eq_false (free address amid member key view found living)
    | _ => rfl
  · intro free address amid member key view found living same
    have taken := free _ member view ((Table.mem_values_iff _ view).mpr ⟨key, found⟩)
    simp only [Deed.takes, living, Bool.not_false, Bool.true_and, same, decide_true] at taken
    cases taken

instance : DecidablePred Machine.HandsOutFree := fun machine =>
  decidable_of_iff _ machine.handsOutFree_iff.symm

namespace Run

variable {visited : List Machine} {machine : Machine}

/-- In every run the releases under way are those on the stack, in order. -/
theorem isOrdered (run : Run visited machine) : machine.IsOrdered := by
  induction run with
  | start created action => exact Machine.isOrdered_start _ action
  | step run ih => exact ih.step
  | next run idle action ih => exact Machine.isOrdered_start _ action

/-- The core of a new session is the initial one. -/
theorem core_new {config : Config} {images : Images} {channel : ChannelKind}
    {complain : Complaint} {state : State}
    (created : State.new config images channel complain = .ok state) :
    state.core [] = Core.initial := by
  unfold State.new Context.new at created
  cases valid : config.validate with
  | error error =>
      rw [valid] at created
      cases created
  | ok accepted =>
      rw [valid] at created
      cases created
      rfl

/-- The core of every run is reached by its history. -/
theorem reached (run : Run visited machine)
    (ruled : ∀ earlier ∈ visited, ∀ address amid, .create address amid ∈ earlier.deeds →
      rule earlier.core address) :
    Core.Reached rule (history visited) machine.core := by
  induction run with
  | start created action =>
      have initial : (Machine.start _ action).core = Core.initial := core_new created
      rw [initial]
      exact .initial
  | @step visited machine run ih =>
      have before := ih fun earlier member => ruled earlier (List.mem_append_left _ member)
      rw [history_snoc]
      exact before.path (machine.path_step run.isOrdered
        (ruled machine (List.mem_append_right _ List.mem_cons_self)))
  | @next visited machine run idle action ih =>
      have before := ih fun earlier member => ruled earlier (List.mem_append_left _ member)
      -- The next action starts on an empty stack, and so did the machine end.
      have same : (Machine.start machine.state action).core = machine.core := by
        unfold Machine.core Machine.releasing
        rw [Machine.stack_of_idle idle]
        rfl
      rw [history_snoc, Machine.deeds_of_idle idle, List.append_nil, same]
      exact before

/-- The core of every run is reached, whatever the engine hands out. -/
theorem reached_unruled (run : Run visited machine) :
    Core.Reached Core.Unruled (history visited) machine.core :=
  run.reached fun _ _ _ _ _ => trivial

/-- The core of a run is reached by free addresses if the engine hands out no others. -/
theorem reached_free (run : Run visited machine)
    (exclusive : ∀ earlier ∈ visited, earlier.HandsOutFree) :
    Core.Reached Core.Free (history visited) machine.core := by
  apply run.reached
  intro earlier member address amid asked key bare listed living
  have mapped := earlier.state.find?_core earlier.releasing key
  obtain ⟨view, found, same⟩ := Option.map_eq_some_iff.mp (mapped.symm.trans listed)
  subst same
  exact exclusive earlier member address amid asked key view found living

end Run

end Session

end HostBridge
