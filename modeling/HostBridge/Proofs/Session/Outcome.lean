import HostBridge.Proofs.Payload
import HostBridge.Proofs.Session.Handling
import HostBridge.Proofs.Session.Listening
import HostBridge.Proofs.Session.Registration

/-!
# How a delivery ends

The end of an inbound event is decided in a fixed order: by the registry, by whether the payload can
be read, by the name of the method, and by what the payload lacks.  Nothing is changed, called or
used up before the last of these is decided.

Main statement: in every run a delivery to code that takes no steps and does not panic ends as the
event and the registry say; an event that is not routed leaves nothing but the announcement that it
was dropped, and a routed one is announced by its view (`Run.outcome`).
-/

namespace HostBridge.Session

/-- A living view is registered under an id. -/
def Registered (context : Context Action) (id : UInt64) : Prop :=
  ∃ key, context.registry.entries.find? id = some key ∧ context.alive key = true

/-- A view is registered under an id when a look-up finds it. -/
theorem registered_iff {context : Context Action} {id : UInt64} :
    Registered context id ↔ ∃ key, context.registry.lookup context.alive id = some key := by
  simp only [Registered, Registry.lookup_eq_some_iff]

/-- What a view says of a method and its payload. -/
inductive Verdict (method : String) (payload : Json) : Delivery → Prop where
  | unknown (unnamed : ∀ kind : InboundMethod, kind.name ≠ method) :
      Verdict method payload .unknownMethod
  | lacking {kind : InboundMethod} (named : kind.name = method) (lacks : ¬ kind.Fits payload) :
      Verdict method payload .malformedPayload
  | fitting {kind : InboundMethod} (named : kind.name = method) (fits : kind.Fits payload) :
      Verdict method payload .routed

/-- How the delivery of an event ends. -/
inductive Ends (context : Context Action) (inbound : Inbound) : Delivery → Prop where
  | absent (missing : ¬ Registered context inbound.objectId) : Ends context inbound .unknownObject
  | unreadable (present : Registered context inbound.objectId)
      (garbled : ∀ payload, ¬ Json.Reads inbound.payload payload) :
      Ends context inbound .malformedPayload
  | read {payload : Json} {delivery : Delivery} (present : Registered context inbound.objectId)
      (reads : Json.Reads inbound.payload payload)
      (verdict : Verdict inbound.method payload delivery) : Ends context inbound delivery

/-- A method and a payload have one verdict. -/
theorem Verdict.unique {method : String} {payload : Json} {first second : Delivery}
    (one : Verdict method payload first) (other : Verdict method payload second) :
    first = second := by
  have same {kind another : InboundMethod} (named : kind.name = method)
      (again : another.name = method) : kind = another :=
    InboundMethod.name_injective (named.trans again.symm)
  cases one with
  | unknown unnamed =>
      cases other with
      | unknown _ => rfl
      | lacking named _ => exact absurd named (unnamed _)
      | fitting named _ => exact absurd named (unnamed _)
  | lacking named lacks =>
      cases other with
      | unknown unnamed => exact absurd named (unnamed _)
      | lacking _ _ => rfl
      | fitting again fits => exact absurd (same again named ▸ fits) lacks
  | fitting named fits =>
      cases other with
      | unknown unnamed => exact absurd named (unnamed _)
      | lacking again lacks => exact absurd (same named again ▸ fits) lacks
      | fitting _ _ => rfl

section

variable {context : Context Action} {inbound : Inbound} {delivery : Delivery}

/-- A delivery ends in one way. -/
theorem Ends.unique {other : Delivery} (ends : Ends context inbound delivery)
    (again : Ends context inbound other) : delivery = other := by
  cases ends with
  | absent missing =>
      cases again with
      | absent _ => rfl
      | unreadable present _ => exact absurd present missing
      | read present _ _ => exact absurd present missing
  | unreadable present garbled =>
      cases again with
      | absent missing => exact absurd present missing
      | unreadable _ _ => rfl
      | read _ reads _ => exact absurd reads (garbled _)
  | read present reads verdict =>
      cases again with
      | absent missing => exact absurd present missing
      | unreadable _ garbled => exact absurd reads (garbled _)
      | read _ rereads another => exact verdict.unique (reads.unique rereads ▸ another)

/-- The object is unknown exactly when nothing is registered under the id. -/
theorem Ends.unknownObject_iff (ends : Ends context inbound delivery) :
    delivery = .unknownObject ↔ ¬ Registered context inbound.objectId := by
  constructor
  · rintro rfl
    cases ends with
    | absent missing => exact missing
    | read _ _ verdict => cases verdict
  · intro missing
    exact ends.unique (.absent missing)

/-- The payload is malformed exactly when it is no JSON, or does not fit its method. -/
theorem Ends.malformedPayload_iff (ends : Ends context inbound delivery) :
    delivery = .malformedPayload ↔ Registered context inbound.objectId ∧
      ((∀ payload, ¬ Json.Reads inbound.payload payload) ∨
        ∃ payload kind, Json.Reads inbound.payload payload ∧
          InboundMethod.name kind = inbound.method ∧ ¬ kind.Fits payload) := by
  constructor
  · rintro rfl
    cases ends with
    | unreadable present garbled => exact ⟨present, .inl garbled⟩
    | read present reads verdict =>
        cases verdict with
        | lacking named lacks => exact ⟨present, .inr ⟨_, _, reads, named, lacks⟩⟩
  · rintro ⟨present, garbled | ⟨payload, kind, reads, named, lacks⟩⟩
    · exact ends.unique (.unreadable present garbled)
    · exact ends.unique (.read present reads (.lacking named lacks))

/-- The method is unknown exactly when it is none of the names, whatever the payload. -/
theorem Ends.unknownMethod_iff (ends : Ends context inbound delivery) :
    delivery = .unknownMethod ↔ Registered context inbound.objectId ∧
      (∃ payload, Json.Reads inbound.payload payload) ∧
        ∀ kind : InboundMethod, kind.name ≠ inbound.method := by
  constructor
  · rintro rfl
    cases ends with
    | read present reads verdict =>
        cases verdict with
        | unknown unnamed => exact ⟨present, ⟨_, reads⟩, unnamed⟩
  · rintro ⟨present, ⟨payload, reads⟩, unnamed⟩
    exact ends.unique (.read present reads (.unknown unnamed))

/-- A delivery is routed exactly when view, payload and method are all as they should be. -/
theorem Ends.routed_iff (ends : Ends context inbound delivery) :
    delivery = .routed ↔ Registered context inbound.objectId ∧
      ∃ payload kind, Json.Reads inbound.payload payload ∧
        InboundMethod.name kind = inbound.method ∧ kind.Fits payload := by
  constructor
  · rintro rfl
    cases ends with
    | read present reads verdict =>
        cases verdict with
        | fitting named fits => exact ⟨present, _, _, reads, named, fits⟩
  · rintro ⟨present, payload, kind, reads, named, fits⟩
    exact ends.unique (.read present reads (.fitting named fits))

end

namespace State

/-- The code that an event reaches does not panic; a target may. -/
structure Steady (state : State) (inbound : Inbound) : Prop where
  client : ∀ key view name hooks panics,
    state.context.registry.lookup state.context.alive inbound.objectId = some key →
    state.context.view? key = some view → view.client = some (.observer name hooks panics) →
    panics = none
  continuation : ∀ payload id name steps reason, inbound.value? = some payload →
    carriedId? payload = some id →
    state.context.callbacks.parked.find? id.value ≠ some (.reaction name steps (.panics reason))

/-- Under a client that does not panic a progress report is routed. -/
theorem result_progressed {objectId : UInt64} {value : Int32} {client : Option (Client Action)}
    (steady : ∀ name hooks panics, client = some (.observer name hooks panics) → panics = none)
    (state : State) (tasks : List ProgressTask) :
    (progressed objectId value client state tasks).2 = .ok .routed := by
  induction tasks generalizing state with
  | nil => rfl
  | cons task tasks ih =>
      cases task with
      | announce event => exact ih _
      | notify phase =>
          have calm : (state.telling objectId value phase client).2 = .returns := by
            unfold telling
            split
            next name hooks panics =>
              rw [steady name hooks panics rfl]
              rfl
            next => rfl
          rw [progressed]
          split
          next after reason same =>
            rw [same] at calm
            cases calm
          next after ending _ same => exact ih after

/-- Under a continuation that does not panic a script result is routed exactly when it carries an
id. -/
theorem result_answered (state : State) (key : ObjectKey) (view : View Action) {payload : Json}
    (steady : ∀ id name steps reason, carriedId? payload = some id →
      state.context.callbacks.parked.find? id.value ≠
        some (.reaction name steps (.panics reason))) :
    (state.answered key view payload).2 =
      .ok (if (carriedId? payload).isSome then .routed else .malformedPayload) := by
  unfold answered carriedId?
  cases carried : (payload.get? "callbackId").bind CallbackId.ofJson? with
  | none => rfl
  | some id =>
      dsimp only
      split
      · rfl
      · rfl
      next name steps reason parked => exact absurd parked (steady id name steps reason carried)
      · rfl

/-- A script call is dispatched, or has no names; a target that panics fails its call. -/
theorem result_messaged (state : State) (key : ObjectKey) (view : View Action) (payload : Json) :
    (state.messaged key view payload).2 =
      .ok (if (ScriptMessage.ofJson? payload).isSome then .routed else .malformedPayload) := by
  unfold messaged
  cases ScriptMessage.ofJson? payload with
  | none => rfl
  | some message =>
      dsimp only
      split
      · rfl
      · rfl

/-- A view says of a method and its payload what its handler comes to. -/
theorem verdict_handled {state : State} {inbound : Inbound} (steady : state.Steady inbound)
    {key : ObjectKey} {view : View Action} {payload : Json}
    (listed : state.context.registry.lookup state.context.alive inbound.objectId = some key)
    (found : state.context.view? key = some view) (read : inbound.value? = some payload) :
    ∃ delivery, (state.handled key inbound.method payload).2 = .ok delivery ∧
      Verdict inbound.method payload delivery := by
  -- A handler routes its event if and only if the payload fits.
  have decides {kind : InboundMethod} {fits : Bool} (named : kind.name = inbound.method)
      (exact : fits = true ↔ kind.Fits payload) :
      Verdict inbound.method payload (if fits then .routed else .malformedPayload) := by
    cases fits with
    | true => exact .fitting named (exact.mp rfl)
    | false => exact .lacking named fun fits => nomatch exact.mpr fits
  unfold handled
  rw [found]
  cases named : InboundMethod.ofName? inbound.method with
  | none => exact ⟨_, rfl, .unknown (InboundMethod.ofName?_eq_none_iff.mp named)⟩
  | some kind =>
      have named := InboundMethod.ofName?_eq_some_iff.mp named
      cases kind with
      | loadProgress =>
          refine ⟨_, ?_, decides named InboundMethod.isSome_loadProgress?_iff⟩
          cases loadProgress? payload with
          | none => rfl
          | some value =>
              exact result_progressed (fun name hooks panics =>
                steady.client key view name hooks panics listed found) _ _
      | evaluateResult =>
          refine ⟨_, ?_, decides named InboundMethod.isSome_callbackId?_iff⟩
          exact result_answered state key view fun id name steps reason =>
            steady.continuation payload id name steps reason read
      | scriptMessage =>
          exact ⟨_, result_messaged state key view payload,
            decides named InboundMethod.isSome_scriptMessage?_iff⟩

/-- An event that is not routed leaves nothing but the announcement that it was dropped, and the
log. -/
structure Drops (before : State) (inbound : Inbound) (after : State) : Prop where
  changed : ∃ bus log,
    after = { before with context := { before.context with bus := bus, log := log } }
  emitted : after.context.bus.emitted = before.context.bus.emitted ++
    [.lifecycle (.eventDropped inbound.objectId inbound.method)]
  airs : before.Airs [.lifecycle (.eventDropped inbound.objectId inbound.method)] after

/-- A routed event is announced by its view, and not as dropped. -/
def Announces (before : State) (inbound : Inbound) (after : State) : Prop :=
  ∃ events : List ViewEvent, events ≠ [] ∧
    (∀ event ∈ events, event.objectId = inbound.objectId) ∧
      after.context.bus.emitted = before.context.bus.emitted ++ events.map Event.view ∧
        before.Airs (events.map Event.view) after

/-- A delivery that is turned away announces its drop and changes nothing more. -/
theorem drops_routing {α : Type} (state : State) (inbound : Inbound) (log : List Logging.Entry)
    (result : α) :
    Drops state inbound
      (state.routing ⟨state.context.bus.announce inbound.droppedEvent, log, result⟩) where
  changed := ⟨_, _, rfl⟩
  emitted := Bus.emitted_announce _ _
  airs := ⟨rfl, rfl⟩

/-- An undisturbed delivery ends as the registry, its method and its payload say. -/
theorem ends_delivered {state : State} {inbound : Inbound} (steady : state.Steady inbound)
    (about : ∀ key view,
      state.context.registry.lookup state.context.alive inbound.objectId = some key →
      state.context.view? key = some view → view.objectId = inbound.objectId) :
    Ends state.context inbound (state.delivered inbound).2 ∧
      ((state.delivered inbound).2 ≠ .routed → Drops state inbound (state.delivered inbound).1) ∧
      ((state.delivered inbound).2 = .routed →
        Announces state inbound (state.delivered inbound).1) := by
  cases listed : state.context.registry.lookup state.context.alive inbound.objectId with
  | none =>
      have missing : ¬ Registered state.context inbound.objectId := by
        rw [registered_iff, listed]
        exact fun ⟨_, same⟩ => nomatch same
      rw [delivered_of_absent listed]
      exact ⟨.absent missing, fun _ => drops_routing _ _ _ _, (nomatch ·)⟩
  | some key =>
      have present : Registered state.context inbound.objectId :=
        registered_iff.mpr ⟨key, listed⟩
      cases read : inbound.value? with
      | none =>
          have garbled (payload : Json) : ¬ Json.Reads inbound.payload payload := by
            rw [← Inbound.value?_eq_some_iff, read]
            exact (nomatch ·)
          rw [delivered_of_unreadable listed read]
          exact ⟨.unreadable present garbled, fun _ => drops_routing _ _ _ _, (nomatch ·)⟩
      | some payload =>
          obtain ⟨view, found⟩ := Machine.view?_of_lookup listed
          rw [delivered_of_readable listed read]
          let entered := state.note [inbound.arrivedEntry]
          have calm : entered.Steady inbound := ⟨steady.client, steady.continuation⟩
          have foundThere : entered.context.view? key = some view := found
          obtain ⟨delivery, ended, verdict⟩ := verdict_handled calm listed foundThere read
          obtain ⟨seen, events, handles⟩ := handles_handled foundThere inbound.method payload
          dsimp only
          rw [ended]
          refine ⟨.read present (Inbound.value?_eq_some_iff.mp read) verdict, ?_, ?_⟩
          · intro unrouted
            -- The view left the session as it was, so only the conclusion shows.
            have refused : delivery.isRouted = false := decide_eq_false unrouted
            rw [handles.unrouted delivery ended unrouted]
            simp only [Inbound.conclude, refused, Bool.false_eq_true, ↓reduceIte]
            exact ⟨⟨_, _, rfl⟩, Bus.emitted_announce _ _, rfl, rfl⟩
          · intro routed
            obtain rfl : delivery = .routed := routed
            have airs := handles.alters.airs
            refine ⟨events, handles.routed ended, ?_, airs.emitted, airs.bus, airs.streams⟩
            intro event member
            exact (handles.about event member).trans (about key view listed found)

/-! ### Sessions in which nothing panics -/

/-- Whether a client never panics. -/
def isCalmClient : Client Action → Bool
  | .observer _ _ (some _) => false
  | _ => true

/-- Whether a continuation does not panic. -/
def isCalmContinuation : Continuation Action → Bool
  | .reaction _ _ (.panics _) => false
  | _ => true

/-- Whether no client and no continuation of a session panics. -/
def isCalm (state : State) : Bool :=
  state.context.views.values.all (fun view => view.client.all isCalmClient) &&
    state.context.callbacks.parked.values.all isCalmContinuation

/-- A calm state is steady under every delivery. -/
theorem steady_of_isCalm {state : State} (calm : state.isCalm = true) (inbound : Inbound) :
    state.Steady inbound := by
  obtain ⟨clients, parked⟩ := (Bool.and_eq_true _ _).mp calm
  constructor
  · intro key view name hooks panics _ found held
    have client := List.all_eq_true.mp clients view
      ((Table.mem_values_iff _ _).mpr ⟨key, found⟩)
    rw [held] at client
    cases panics with
    | none => rfl
    | some panic => cases client
  · intro payload id name steps reason _ _ held
    have continuation := List.all_eq_true.mp parked _
      ((Table.mem_values_iff _ _).mpr ⟨_, held⟩)
    cases continuation

end State

/-- What a delivery comes to. -/
structure Outcome (before : State) (inbound : Inbound) (after : State) (delivery : Delivery) :
    Prop where
  unknownObject : delivery = .unknownObject ↔ ¬ Registered before.context inbound.objectId
  malformedPayload : delivery = .malformedPayload ↔ Registered before.context inbound.objectId ∧
    ((∀ payload, ¬ Json.Reads inbound.payload payload) ∨
      ∃ payload kind, Json.Reads inbound.payload payload ∧
        InboundMethod.name kind = inbound.method ∧ ¬ kind.Fits payload)
  unknownMethod : delivery = .unknownMethod ↔ Registered before.context inbound.objectId ∧
    (∃ payload, Json.Reads inbound.payload payload) ∧
      ∀ kind : InboundMethod, kind.name ≠ inbound.method
  routed : delivery = .routed ↔ Registered before.context inbound.objectId ∧
    ∃ payload kind, Json.Reads inbound.payload payload ∧
      InboundMethod.name kind = inbound.method ∧ kind.Fits payload
  dropped : delivery ≠ .routed → before.Drops inbound after
  announced : delivery = .routed → before.Announces inbound after
  /-- Each stream on the bus finds what is announced. -/
  found : ∀ events, after.context.bus.emitted = before.context.bus.emitted ++ events →
    before.Finds events after

/-- In every run a delivery to code that takes no steps and does not panic ends as the registry, the
payload and the method say, and changes nothing unless the event is routed. -/
theorem Run.outcome {visited : List Machine} {machine : Machine} (run : Run visited machine)
    {inbound : Inbound} (delivers : machine.Delivers inbound) (inert : machine.state.Inert inbound)
    (steady : machine.state.Steady inbound) :
    ∃ after delivery, machine.Leads ⟨after, machine.stack, .reply (.delivery delivery)⟩ ∧
      Outcome machine.state inbound after delivery := by
  refine ⟨_, _, delivers.leads inert, ?_⟩
  have about : ∀ key view, machine.state.context.registry.lookup machine.state.context.alive
        inbound.objectId = some key →
      machine.state.context.view? key = some view → view.objectId = inbound.objectId := by
    intro key view listed found
    obtain ⟨other, present, named, _⟩ := run.view_of_lookup listed
    cases found.symm.trans present
    exact named
  obtain ⟨ends, dropped, announced⟩ := State.ends_delivered steady about
  refine ⟨ends.unknownObject_iff, ends.malformedPayload_iff, ends.unknownMethod_iff,
    ends.routed_iff, dropped, announced, fun events emitted => ?_⟩
  by_cases routed : (machine.state.delivered inbound).2 = .routed
  · obtain ⟨told, _, _, _, airs⟩ := announced routed
    rw [List.append_cancel_left (emitted.symm.trans airs.emitted)]
    exact run.finds airs
  · have airs := (dropped routed).airs
    rw [List.append_cancel_left (emitted.symm.trans airs.emitted)]
    exact run.finds airs

/-- A blank payload is read, but reports no progress. -/
theorem Run.outcome_of_blank : ∃ visited machine inbound, Run visited machine ∧
    machine.Delivers inbound ∧ machine.state.Inert inbound ∧ machine.state.Steady inbound ∧
    Json.Reads inbound.payload (.object []) ∧
    ∃ after delivery, machine.Leads ⟨after, machine.stack, .reply (.delivery delivery)⟩ ∧
      Outcome machine.state inbound after delivery := by
  have created := Run.step (.start State.new_withWeb (.createView "page"))
  have observed := (created.next rfl (.setClient "page" (.observer "client" [] none))).step
  have waiting := (observed.next rfl (.evaluate "page" "1" "later" [] .returns)).step
  have blank := waiting.next rfl (.deliver ⟨some "page", 0⟩ "onNativeLoadProgress" " \n")
  refine ⟨_, _, ⟨0x1000, _, _⟩, blank, ⟨_, rfl, rfl⟩, ?inert, ?steady, ?_,
    blank.outcome ⟨_, rfl, rfl⟩ ?inert ?steady⟩
  · exact State.inert_of_isIdle (by decide +kernel) _
  · exact State.steady_of_isCalm (by decide +kernel) _
  · exact .inl ⟨by decide +kernel, rfl⟩

end HostBridge.Session
