import HostBridge.Proofs.Session.Airing
import HostBridge.Proofs.Session.Delivery

/-!
# What a handler does in its view

The three handlers of a view change nothing but the view that is addressed, the bus, the log, and
what waits under the id that the event carries.

Main statement: everything that is seen of a handler is its client, the continuation under the id
that the event carries or the target of the script call, and everything it announces is about its
view; a handler that does not come to an announcement changes nothing (`State.handles_handled`).
-/

namespace HostBridge.Session

/-- The id that the payload of a script's result carries. -/
def carriedId? (payload : Json) : Option CallbackId :=
  (payload.get? "callbackId").bind CallbackId.ofJson?

namespace State

/-- What one view does: other views, the registry and the streams are as they were, and what was
seen and announced is added. -/
structure Alters (before after : State) (key : ObjectKey) (seen : List Sighting)
    (events : List ViewEvent) : Prop where
  registry : after.context.registry = before.context.registry
  others : ∀ other, other ≠ key → after.context.view? other = before.context.view? other
  seen : after.seen = before.seen ++ seen
  airs : Airs before (events.map Event.view) after

namespace Alters

variable {before after : State} {key : ObjectKey} {seen : List Sighting}
  {events : List ViewEvent}

theorem refl (state : State) (key : ObjectKey) : Alters state state key [] [] where
  registry := rfl
  others _ _ := rfl
  seen := (List.append_nil _).symm
  airs := .still rfl

theorem note (alters : Alters before after key seen events) (entries : List Logging.Entry) :
    Alters before (after.note entries) key seen events :=
  ⟨alters.registry, alters.others, alters.seen, alters.airs.of_air rfl⟩

theorem saw (alters : Alters before after key seen events) (sightings : List Sighting) :
    Alters before (after.saw sightings) key (seen ++ sightings) events where
  registry := alters.registry
  others := alters.others
  seen := by rw [State.saw, alters.seen, List.append_assoc]
  airs := alters.airs.of_air rfl

/-- An announcement alters what was announced. -/
theorem announce (alters : Alters before after key seen events) (event : ViewEvent) :
    Alters before (after.announce (.view event)) key seen (events ++ [event]) where
  registry := alters.registry
  others := alters.others
  seen := alters.seen
  airs := by
    rw [List.map_append]
    exact alters.airs.trans (.announce after _)

theorem setSlot (alters : Alters before after key seen events) (slot : Nat) (content : Slot) :
    Alters before (after.setSlot slot content) key seen events :=
  ⟨alters.registry, alters.others, alters.seen, alters.airs.of_air rfl⟩

/-- Taking an id alters the view that waited for it only. -/
theorem taking (state : State) (key : ObjectKey) (id : CallbackId) :
    Alters state (state.taking key id) key [] [] where
  registry := rfl
  others _ apart := (Table.find?_modify _ _ _ _).trans (if_neg apart)
  seen := (List.append_nil _).symm
  airs := .still rfl

/-- A change of bindings alters the view that has them only. -/
theorem rebinding (state : State) (key : ObjectKey) (bindings : Bindings Action) :
    Alters state (state.rebinding key bindings) key [] [] where
  registry := rfl
  others _ apart := (Table.find?_modify _ _ _ _).trans (if_neg apart)
  seen := (List.append_nil _).symm
  airs := .still rfl

end Alters

/-- The application code that a handler of a view may run, as it is seen: the client of the view,
the continuation that is parked under the id of a result, and the target of a script call. -/
inductive Runs (callbacks : CallbackTable (Continuation Action)) (view : View Action)
    (method : String) (payload : Json) : Sighting → Prop where
  | client {name : String} {hooks : List (Phase × List Action)} {panics : Option (Phase × String)}
      (reports : InboundMethod.ofName? method = some .loadProgress)
      (held : view.client = some (.observer name hooks panics)) (phase : Phase)
      (progress : Option Int32) :
      Runs callbacks view method payload (.client name phase view.objectId progress)
  | continuation {id : CallbackId} {name : String} {steps : List Action} {ending : Ending}
      (answers : InboundMethod.ofName? method = some .evaluateResult)
      (carried : carriedId? payload = some id)
      (parked : callbacks.parked.find? id.value = some (.reaction name steps ending)) :
      Runs callbacks view method payload (.continued name (scriptResult payload))
  | script {message : ScriptMessage} {target : ScriptTarget Action} {operation : Operation Action}
      (calls : InboundMethod.ofName? method = some .scriptMessage)
      (read : ScriptMessage.ofJson? payload = some message)
      (bound : view.bindings.table.find? message.interface = some target)
      (found : target.operation? message.method = some operation) :
      Runs callbacks view method payload (.script target.label message.method message.args)

/-- What a handler comes to. -/
structure Handles (state : State) (key : ObjectKey) (view : View Action) (method : String)
    (payload : Json) (result : State × Handling) (seen : List Sighting) (events : List ViewEvent) :
    Prop where
  alters : Alters state result.1 key seen events
  runs : ∀ sighting ∈ seen, Runs state.context.callbacks view method payload sighting
  about : ∀ event ∈ events, event.objectId = view.objectId
  routed : result.2 = .ok .routed → events ≠ []
  unrouted : ∀ delivery, result.2 = .ok delivery → delivery ≠ .routed → result.1 = state

/-- A refusal handles a delivery by altering nothing. -/
theorem Handles.refusal (state : State) (key : ObjectKey) (view : View Action) (method : String)
    (payload : Json) {delivery : Delivery} (refused : delivery ≠ .routed) :
    Handles state key view method payload (state, .ok delivery) [] [] where
  alters := .refl state key
  runs _ member := nomatch member
  about _ member := nomatch member
  routed ends := absurd (Except.ok.inj ends) refused
  unrouted _ _ _ := rfl

/-- Telling a client of progress is seen, and nothing else. -/
theorem exists_telling (state : State) (view : View Action) {method : String} (payload : Json)
    (reports : InboundMethod.ofName? method = some .loadProgress) (told : State) (value : Int32)
    (phase : Phase) :
    ∃ seen, (told.telling view.objectId value phase view.client).1 = told.saw seen ∧
      ∀ sighting ∈ seen, Runs state.context.callbacks view method payload sighting := by
  have nobody : told = told.saw [] := by
    rw [saw, List.append_nil]
  cases held : view.client with
  | none => exact ⟨[], nobody, List.forall_mem_nil _⟩
  | some client =>
      cases client with
      | silent => exact ⟨[], nobody, List.forall_mem_nil _⟩
      | observer name hooks panics =>
          refine ⟨_, rfl, fun sighting member => ?_⟩
          rw [List.mem_singleton.mp member]
          exact .client reports held _ _

variable {state : State} {key : ObjectKey} {view : View Action} {method : String} {payload : Json}

/-- The tasks of a progress report alter only what the report is about. -/
theorem handles_progressed (reports : InboundMethod.ofName? method = some .loadProgress)
    {value : Int32} {tasks : List ProgressTask}
    (about : ∀ event, .announce event ∈ tasks → event.objectId = view.objectId)
    {told : State} {seen : List Sighting} {events : List ViewEvent}
    (alters : Alters state told key seen events)
    (runs : ∀ sighting ∈ seen, Runs state.context.callbacks view method payload sighting)
    (before : ∀ event ∈ events, event.objectId = view.objectId)
    (announces : events ≠ [] ∨ ∃ event, .announce event ∈ tasks) :
    ∃ seen events, Handles state key view method payload
      (progressed view.objectId value view.client told tasks) seen events := by
  induction tasks generalizing told seen events with
  | nil =>
      have announced : events ≠ [] := by
        rcases announces with announced | ⟨event, member⟩
        · exact announced
        · cases member
      exact ⟨seen, events, alters, runs, before, fun _ => announced,
        fun delivery ends refused => absurd (Except.ok.inj ends).symm refused⟩
  | cons task tasks ih =>
      have rest : ∀ event, .announce event ∈ tasks → event.objectId = view.objectId :=
        fun event member => about event (List.mem_cons_of_mem _ member)
      cases task with
      | announce event =>
          refine ih rest (alters.announce event) runs ?_ (.inl (by simp))
          intro other member
          rcases List.mem_append.mp member with earlier | last
          · exact before other earlier
          · rw [List.mem_singleton.mp last]
            exact about event List.mem_cons_self
      | notify phase =>
          obtain ⟨more, tells, added⟩ := exists_telling state view payload reports told value phase
          have further := alters.saw more
          rw [← tells] at further
          have both : ∀ sighting ∈ seen ++ more,
              Runs state.context.callbacks view method payload sighting := by
            intro sighting member
            rcases List.mem_append.mp member with earlier | later
            · exact runs sighting earlier
            · exact added sighting later
          rw [progressed]
          split
          next after reason same =>
            rw [same] at further
            refine ⟨_, _, further, both, before, ?_, ?_⟩
            · intro ends
              cases ends
            · intro delivery ends
              cases ends
          next after ending _ same =>
            rw [same] at further
            refine ih rest further both before ?_
            rcases announces with announced | ⟨event, member⟩
            · exact .inl announced
            · rcases List.mem_cons.mp member with head | tail
              · cases head
              · exact .inr ⟨event, tail⟩

/-- A script result alters only the view it came to. -/
theorem handles_answered (state : State) (key : ObjectKey) (view : View Action) (payload : Json)
    (answers : InboundMethod.ofName? method = some .evaluateResult) :
    ∃ seen events, Handles state key view method payload (state.answered key view payload) seen
      events := by
  unfold answered
  cases carried : (payload.get? "callbackId").bind CallbackId.ofJson? with
  | none => exact ⟨[], [], .refusal state key view method payload Delivery.noConfusion⟩
  | some id =>
      have taken := Alters.taking state key id
      -- Whatever is announced, it is the result under this id.
      have resolves (after : State) (seen : List Sighting) (delivered : Bool)
          (alters : Alters state after key seen [])
          (runs : ∀ sighting ∈ seen, Runs state.context.callbacks view method payload sighting) :
          ∃ seen events, Handles state key view method payload
            (after.resolved view.objectId id delivered) seen events := by
        refine ⟨seen, _, alters.announce _, runs, ?_, fun _ => List.cons_ne_nil _ _,
          fun delivery ends refused => absurd (Except.ok.inj ends).symm refused⟩
        intro event member
        rw [List.mem_singleton.mp member]
        rfl
      dsimp only
      cases parked : state.context.callbacks.parked.find? id.value with
      | none => exact resolves _ [] false (taken.note _) fun _ member => nomatch member
      | some continuation =>
          cases continuation with
          | slot slot => exact resolves _ [] true (taken.setSlot _ _) fun _ member => nomatch member
          | reaction name steps ending =>
              have runs : ∀ sighting ∈ ([.continued name (scriptResult payload)] : List Sighting),
                  Runs state.context.callbacks view method payload sighting := by
                intro sighting member
                rw [List.mem_singleton.mp member]
                exact .continuation answers carried parked
              cases ending with
              | returns => exact resolves _ _ true (taken.saw _) runs
              | fails reason => exact resolves _ _ true (taken.saw _) runs
              | panics reason =>
                  exact ⟨_, [], taken.saw _, runs, (fun _ member => nomatch member),
                    (nomatch ·), fun _ => (nomatch ·)⟩

/-- A script message alters only the view it came to. -/
theorem handles_messaged (state : State) (key : ObjectKey) (view : View Action) (payload : Json)
    (calls : InboundMethod.ofName? method = some .scriptMessage) :
    ∃ seen events, Handles state key view method payload (state.messaged key view payload) seen
      events := by
  unfold messaged
  cases read : ScriptMessage.ofJson? payload with
  | none => exact ⟨[], [], .refusal state key view method payload Delivery.noConfusion⟩
  | some message =>
      have bound := Alters.rebinding state key
      have dispatches (after : State) (seen : List Sighting) (result : Except DispatchError Unit)
          (alters : Alters state after key seen [])
          (runs : ∀ sighting ∈ seen, Runs state.context.callbacks view method payload sighting) :
          ∃ seen events, Handles state key view method payload
            (after.dispatched view.objectId message.interface message.method result) seen
            events := by
        refine ⟨seen, _, (alters.note _).announce _, runs, ?_, fun _ => List.cons_ne_nil _ _,
          fun delivery ends refused => absurd (Except.ok.inj ends).symm refused⟩
        intro event member
        rw [List.mem_singleton.mp member]
        cases result with
        | ok value => rfl
        | error error => rfl
      dsimp only
      cases held : view.bindings.table.find? message.interface with
      | none =>
          rw [Bindings.claim_of_absent held]
          exact dispatches _ [] _ (bound _) fun _ member => nomatch member
      | some target =>
          cases claimed : target.hasMethod message.method with
          | false =>
              rw [Bindings.claim_of_unclaimed held claimed]
              exact dispatches _ [] _ (bound _) fun _ member => nomatch member
          | true =>
              rw [Bindings.claim_of_claimed held claimed]
              refine dispatches _ _ _ ((((bound _).note _).saw _).note _) ?_
              intro sighting member
              cases found : target.operation? message.method with
              | none =>
                  rw [List.nil_append, invocationSeen, found] at member
                  cases member
              | some operation =>
                  rw [List.nil_append, invocationSeen, found] at member
                  rw [List.mem_singleton.mp member]
                  exact .script calls read held found

/-- The events of a progress report are about the view it came to. -/
theorem objectId_of_mem_progressTasks {objectId : UInt64} {value : Int32} {event : ViewEvent}
    (member : .announce event ∈ progressTasks objectId value) : event.objectId = objectId := by
  rcases List.mem_append.mp member with early | last
  · rcases List.mem_append.mp early with complete | started
    · split at complete
      · simp only [List.mem_cons, reduceCtorEq, ProgressTask.announce.injEq, false_or,
          List.not_mem_nil, or_false] at complete
        rcases complete with rfl | rfl
        · rfl
        · rfl
      · cases complete
    · split at started
      · simp only [List.mem_cons, reduceCtorEq, ProgressTask.announce.injEq, false_or,
          List.not_mem_nil, or_false] at started
        rw [started]
        rfl
      · cases started
  · simp only [List.mem_cons, reduceCtorEq, ProgressTask.announce.injEq, false_or,
      List.not_mem_nil, or_false] at last
    rw [last]
    rfl

/-- Whatever the event is, its handler comes to something in the view only. -/
theorem handles_handled (found : state.context.view? key = some view) (method : String)
    (payload : Json) :
    ∃ seen events, Handles state key view method payload (state.handled key method payload) seen
      events := by
  unfold handled
  rw [found]
  cases named : InboundMethod.ofName? method with
  | none => exact ⟨[], [], .refusal state key view method payload Delivery.noConfusion⟩
  | some kind =>
      cases kind with
      | loadProgress =>
          dsimp only
          cases loadProgress? payload with
          | none => exact ⟨[], [], .refusal state key view method payload Delivery.noConfusion⟩
          | some value =>
              refine handles_progressed named (fun event => objectId_of_mem_progressTasks)
                ((Alters.refl state key).note _) (fun _ member => nomatch member)
                (fun _ member => nomatch member) (.inr ⟨.progressChanged view.objectId value, ?_⟩)
              exact List.mem_append_right _ (by simp)
      | evaluateResult => exact handles_answered state key view payload named
      | scriptMessage => exact handles_messaged state key view payload named

end State

end HostBridge.Session
