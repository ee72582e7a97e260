import HostBridge.Proofs.Session.Outcome

/-!
# What a client is told and what its view announces

A reported progress is told twice: the client of the view is called, and the view announces events
on the bus, where each stream finds them.  Both follow one list of events, whether a client is
installed or not and whichever clients were installed before.

Main statements: a progress is told to the client and announced event by event
(`State.follows_delivered`), a delivery that reports none is only announced as dropped
(`State.follows_refused`), and in every run of reports and of clients that are set and cleared the
client that was installed last hears of the events that its view announces
(`State.Attained.concordance`).
-/

namespace HostBridge

/-- What a view announces of a reported progress. -/
def progressEvents (objectId : UInt64) (value : Int32) : List ViewEvent :=
  (if value = 100 then [.loadResource objectId, .pageFinished objectId] else []) ++
    (if value = 0 then [.pageStarted objectId] else []) ++ [.progressChanged objectId value]

namespace Session

/-- A client is told of an event of its view. -/
inductive Tells (name : String) : ViewEvent → Sighting → Prop where
  | started (objectId : UInt64) :
      Tells name (.pageStarted objectId) (.client name .started objectId none)
  | resource (objectId : UInt64) :
      Tells name (.loadResource objectId) (.client name .resource objectId none)
  | finished (objectId : UInt64) :
      Tells name (.pageFinished objectId) (.client name .finished objectId none)
  | progress (objectId : UInt64) (value : Int32) :
      Tells name (.progressChanged objectId value) (.client name .progress objectId (some value))

/-- The client that is installed is told of events, one after another; nobody is told if there is
none, and nothing is seen of one that does nothing. -/
def Hears (client : Option (Client Action)) (events : List ViewEvent) (seen : List Sighting) :
    Prop :=
  match client with
  | some (.observer name _ _) => List.Forall₂ (Tells name) events seen
  | _ => seen = []

/-- A client neither uses the bridge nor panics. -/
def IsMeek (client : Client Action) : Prop :=
  ∀ name hooks panics, client = .observer name hooks panics →
    (∀ phase, hookSteps hooks phase = []) ∧ panics = none

namespace State

/-! ### What a progress leads to -/

/-- What was seen and announced since, where nothing else has changed. -/
structure Follows (before after : State) (seen : List Sighting) (events : List Event) : Prop where
  changed : ∃ bus log, after = { before with
    context := { before.context with bus := bus, log := log }
    seen := before.seen ++ seen }
  emitted : after.context.bus.emitted = before.context.bus.emitted ++ events
  airs : before.Airs events after

namespace Follows

variable {before middle after : State} {seen more : List Sighting} {events further : List Event}

theorem refl (state : State) : Follows state state [] [] where
  changed := ⟨_, _, by rw [List.append_nil]⟩
  emitted := (List.append_nil _).symm
  airs := .still rfl

/-- What follows in two stretches follows in one. -/
theorem trans (first : Follows before middle seen events)
    (second : Follows middle after more further) :
    Follows before after (seen ++ more) (events ++ further) where
  changed := by
    obtain ⟨_, _, rfl⟩ := first.changed
    obtain ⟨bus, log, rfl⟩ := second.changed
    exact ⟨bus, log, by rw [List.append_assoc]⟩
  emitted := by rw [second.emitted, first.emitted, List.append_assoc]
  airs := first.airs.trans second.airs

theorem note (state : State) (entries : List Logging.Entry) :
    Follows state (state.note entries) [] [] where
  changed := ⟨_, _, by rw [List.append_nil]; rfl⟩
  emitted := (List.append_nil _).symm
  airs := .still rfl

theorem saw (state : State) (sightings : List Sighting) :
    Follows state (state.saw sightings) sightings [] where
  changed := ⟨_, _, rfl⟩
  emitted := (List.append_nil _).symm
  airs := .still rfl

theorem announce (state : State) (event : Event) :
    Follows state (state.announce event) [] [event] where
  changed := ⟨_, _, by rw [List.append_nil]; rfl⟩
  emitted := Bus.emitted_announce _ _
  airs := .announce _ _

/-- A dropped delivery announces its drop and lets nobody observe anything. -/
theorem of_drops {inbound : Inbound} (drops : Drops before inbound after) :
    Follows before after [] [.lifecycle (.eventDropped inbound.objectId inbound.method)] where
  changed := by
    obtain ⟨bus, log, rfl⟩ := drops.changed
    exact ⟨bus, log, by rw [List.append_nil]⟩
  emitted := drops.emitted
  airs := drops.airs

end Follows

/-- What is announced by a task. -/
def announced? : ProgressTask → Option ViewEvent
  | .notify _ => none
  | .announce event => some event

/-- What is seen of a task. -/
def heard? (objectId : UInt64) (value : Int32) (client : Option (Client Action)) :
    ProgressTask → Option Sighting
  | .announce _ => none
  | .notify phase =>
    match client with
    | some (.observer name _ _) =>
      some (.client name phase objectId (if phase = .progress then some value else none))
    | _ => none

/-- The events among the tasks of a progress report are those of its value. -/
theorem announced_progressTasks (objectId : UInt64) (value : Int32) :
    (progressTasks objectId value).filterMap announced? = progressEvents objectId value := by
  unfold progressTasks progressEvents
  rw [List.filterMap_append, List.filterMap_append, apply_ite (List.filterMap announced?),
    apply_ite (List.filterMap announced?)]
  rfl

/-- The calls of a client match the events of its view. -/
theorem hears_progressTasks (objectId : UInt64) (value : Int32) (client : Option (Client Action)) :
    Hears client (progressEvents objectId value)
      ((progressTasks objectId value).filterMap (heard? objectId value client)) := by
  match client with
  | none | some .silent =>
      refine List.filterMap_eq_nil_iff.mpr fun task _ => ?_
      cases task <;> rfl
  | some (.observer name hooks panics) =>
      unfold progressTasks progressEvents
      rw [List.filterMap_append, List.filterMap_append]
      refine List.rel_append (List.rel_append ?_ ?_) (.cons (.progress objectId value) .nil)
      · by_cases complete : value = 100
        · rw [if_pos complete, if_pos complete]
          exact .cons (.resource objectId) (.cons (.finished objectId) .nil)
        · rw [if_neg complete, if_neg complete]
          exact .nil
      · by_cases begun : value = 0
        · rw [if_pos begun, if_pos begun]
          exact .cons (.started objectId) .nil
        · rw [if_neg begun, if_neg begun]
          exact .nil

/-- A progress report lets the client observe, and announces, one task after another. -/
theorem follows_progressed {objectId : UInt64} {value : Int32} {client : Option (Client Action)}
    (meek : ∀ installed, client = some installed → IsMeek installed) (state : State)
    (tasks : List ProgressTask) :
    Follows state (progressed objectId value client state tasks).1
      (tasks.filterMap (heard? objectId value client))
      ((tasks.filterMap announced?).map Event.view) := by
  induction tasks generalizing state with
  | nil => exact .refl state
  | cons task tasks ih =>
      cases task with
      | announce event => exact (Follows.announce state _).trans (ih _)
      | notify phase =>
          match client with
          | none | some .silent => exact ih _
          | some (.observer name hooks panics) =>
              obtain ⟨_, rfl⟩ := meek _ rfl name hooks panics rfl
              exact (Follows.saw state _).trans (ih _)

/-! ### Deliveries -/

section Deliveries

variable {state : State} {inbound : Inbound}
  (reports : inbound.method = InboundMethod.loadProgress.name)

include reports

/-- A progress report is refused when it has no value, and worked off task by task when it has. -/
theorem handled_of_reports {key : ObjectKey} {view : View Action}
    (found : state.context.view? key = some view) (payload : Json) :
    state.handled key inbound.method payload =
      (loadProgress? payload).elim (state, .ok .malformedPayload) fun value =>
        progressed view.objectId value view.client
          (state.note [ViewLog.progress view.objectId value])
          (progressTasks view.objectId value) := by
  have named : InboundMethod.ofName? inbound.method = some .loadProgress :=
    InboundMethod.ofName?_eq_some_iff.mpr reports.symm
  unfold handled
  rw [found, named]
  cases loadProgress? payload with
  | none => rfl
  | some value => rfl

/-- A reported progress is told to the client of the view, and announced. -/
theorem follows_delivered {key : ObjectKey} {view : View Action} {payload : Json} {value : Int32}
    (meek : ∀ installed, view.client = some installed → IsMeek installed)
    (listed : state.context.registry.lookup state.context.alive inbound.objectId = some key)
    (found : state.context.view? key = some view) (read : inbound.value? = some payload)
    (progress : loadProgress? payload = some value) :
    ∃ seen, Hears view.client (progressEvents view.objectId value) seen ∧
      Follows state (state.delivered inbound).1 seen
        ((progressEvents view.objectId value).map Event.view) := by
  refine ⟨_, hears_progressTasks view.objectId value view.client, ?_⟩
  let entered := state.note [inbound.arrivedEntry]
  let noted := entered.note [ViewLog.progress view.objectId value]
  let after := progressed view.objectId value view.client noted (progressTasks view.objectId value)
  have present : entered.context.view? key = some view := found
  have told : Follows noted after.1 _ _ := follows_progressed meek noted _
  have ended : after.2 = .ok .routed :=
    result_progressed (fun name hooks panics held => (meek _ held name hooks panics rfl).2) _ _
  -- What is logged before and after the view is called is not seen.
  have whole := ((Follows.note state _).trans ((Follows.note entered _).trans told)).trans
    (.note after.1 [])
  rw [announced_progressTasks, List.nil_append, List.nil_append, List.nil_append, List.nil_append,
    List.append_nil, List.append_nil] at whole
  rw [delivered_of_readable listed read, handled_of_reports reports present, progress]
  dsimp only [Option.elim_some]
  rw [ended]
  exact whole

/-- A report of no progress, or to no view, is dropped. -/
theorem follows_refused
    (refused : ∀ key payload,
      state.context.registry.lookup state.context.alive inbound.objectId = some key →
      inbound.value? = some payload → loadProgress? payload = none) :
    Follows state (state.delivered inbound).1 []
      [.lifecycle (.eventDropped inbound.objectId inbound.method)] := by
  apply Follows.of_drops
  cases listed : state.context.registry.lookup state.context.alive inbound.objectId with
  | none =>
      rw [delivered_of_absent listed]
      exact drops_routing _ _ _ _
  | some key =>
      cases read : inbound.value? with
      | none =>
          rw [delivered_of_unreadable listed read]
          exact drops_routing _ _ _ _
      | some payload =>
          obtain ⟨view, found⟩ := Machine.view?_of_lookup listed
          have present : (state.note [inbound.arrivedEntry]).context.view? key = some view := found
          have nothing := refused key payload listed read
          rw [delivered_of_readable listed read, handled_of_reports reports present, nothing]
          exact ⟨⟨_, _, rfl⟩, Bus.emitted_announce _ _, rfl, rfl⟩

end Deliveries

/-! ### Clients -/

/-- The client that is installed in a view. -/
def client? (state : State) (key : ObjectKey) : Option (Client Action) :=
  (state.context.view? key).bind View.client

/-- No client of a session uses the bridge or panics. -/
def MeekClients (state : State) : Prop :=
  ∀ key view client, state.context.view? key = some view → view.client = some client → IsMeek client

/-- In an idle and calm state every client is meek. -/
theorem meekClients_of_isIdle {state : State} (idle : state.isIdle = true)
    (calm : state.isCalm = true) : state.MeekClients := by
  rintro key view _ found held name hooks panics rfl
  have listed : view ∈ state.context.views.values := (Table.mem_values_iff _ _).mpr ⟨key, found⟩
  obtain ⟨views, _⟩ := (Bool.and_eq_true _ _).mp idle
  obtain ⟨clients, _⟩ := (Bool.and_eq_true _ _).mp calm
  have still := ((Bool.and_eq_true _ _).mp (List.all_eq_true.mp views view listed)).1
  have steady := List.all_eq_true.mp clients view listed
  rw [held] at still steady
  refine ⟨hookSteps_of_idle still, ?_⟩
  cases panics with
  | none => rfl
  | some panic => cases steady

/-- Setting a client sets that of the view under the name. -/
theorem exists_view_of_setClient {state : State} {name : String} {client : Option (Client Action)}
    {key : ObjectKey} {view : View Action}
    (found : (state.setClient name client).1.context.view? key = some view) :
    ∃ old, state.context.view? key = some old ∧
      view.client = if state.viewNames.find? name = some key then client else old.client := by
  unfold setClient at found
  cases named : state.view? name with
  | none =>
      rw [named] at found
      refine ⟨view, found, (if_neg fun same => ?_).symm⟩
      rw [view?, same, Option.bind_some, found] at named
      cases named
  | some entry =>
      obtain ⟨other, held⟩ := entry
      rw [named] at found
      obtain ⟨_, same, listed⟩ := Option.bind_eq_some_iff.mp named
      obtain ⟨_, _, equal⟩ := Option.map_eq_some_iff.mp listed
      cases equal
      have changed := (Table.find?_modify _ _ _ _).symm.trans found
      by_cases here : key = other
      · subst here
        rw [if_pos rfl] at changed
        obtain ⟨old, present, rfl⟩ := Option.map_eq_some_iff.mp changed
        exact ⟨old, present, (if_pos same).symm⟩
      · rw [if_neg here] at changed
        refine ⟨view, changed, (if_neg fun again => here ?_).symm⟩
        exact Option.some.inj (again.symm.trans same)

end State

/-- The client of a view after an action. -/
def installed (names : Table String ObjectKey) (key : ObjectKey)
    (client : Option (Client Action)) : Action → Option (Client Action)
  | .setClient name next => if names.find? name = some key then some next else client
  | .clearClient name => if names.find? name = some key then none else client
  | _ => client

/-- A report of a progress, with any payload, or a client that is set or cleared. -/
inductive IsReporting : Action → Prop where
  | reports (whom : Addressee) (payload : String) :
      IsReporting (.deliver whom InboundMethod.loadProgress.name payload)
  | sets (name : String) {client : Client Action} (meek : IsMeek client) :
      IsReporting (.setClient name client)
  | clears (name : String) : IsReporting (.clearClient name)

/-- A session performs an action and comes to another one. -/
def Performs (before : State) (action : Action) (after : State) : Prop :=
  ∃ reply, (Machine.start before action).Leads ⟨after, [], .reply reply⟩

/-- What an action tells clients and announces, after earlier ones. -/
structure Concords (start : State) (earlier : List Action) (before : State) (action : Action)
    (after : State) : Prop where
  /-- The client that was installed last hears of the events that the view announces. -/
  reported : ∀ whom payload json value key,
    action = .deliver whom InboundMethod.loadProgress.name payload →
    before.context.registry.lookup before.context.alive (Machine.addressee before whom) =
      some key →
    Json.Reads payload json → (json.get? "progress").bind Json.asInt? = some value.toInt →
    ∃ seen, Hears (earlier.foldl (installed start.viewNames key) (start.client? key))
        (progressEvents (Machine.addressee before whom) value) seen ∧
      before.Follows after seen
        ((progressEvents (Machine.addressee before whom) value).map Event.view)
  /-- A report of no progress, or to no view, is only announced as dropped. -/
  refused : ∀ whom payload, action = .deliver whom InboundMethod.loadProgress.name payload →
    (∀ key json,
      before.context.registry.lookup before.context.alive (Machine.addressee before whom) =
        some key →
      Json.Reads payload json → ∀ value : Int32,
        (json.get? "progress").bind Json.asInt? ≠ some value.toInt) →
    before.Follows after []
      [.lifecycle (.eventDropped (Machine.addressee before whom) InboundMethod.loadProgress.name)]
  /-- Nothing is heard or announced when a client is set or cleared. -/
  unheard : (∀ whom payload, action ≠ .deliver whom InboundMethod.loadProgress.name payload) →
    after.seen = before.seen ∧ after.context.bus.emitted = before.context.bus.emitted
  /-- Each stream on the bus finds what is announced, and nothing else. -/
  found : ∀ events, after.context.bus.emitted = before.context.bus.emitted ++ events →
    before.Finds events after

/-- Actions in a row from a session to another one, each of them telling clients what it
announces. -/
inductive Concordance (start : State) : List Action → State → Prop where
  | nil : Concordance start [] start
  | snoc {earlier : List Action} {before after : State} {action : Action}
      (concordance : Concordance start earlier before) (performs : Performs before action after)
      (concords : Concords start earlier before action after) :
      Concordance start (earlier ++ [action]) after

/-- A session in which the application may go on with any action. -/
def State.Attained (state : State) : Prop :=
  ∀ action, ∃ visited, Run visited (Machine.start state action)

/-- A run goes on to whatever its last machine leads to. -/
theorem Run.exists_of_leads {visited : List Machine} {machine later : Machine}
    (run : Run visited machine) (leads : machine.Leads later) : ∃ visited, Run visited later := by
  obtain ⟨count, rfl⟩ := leads
  induction count generalizing visited machine with
  | zero => exact ⟨visited, run⟩
  | succ count ih => exact ih run.step

namespace State.Attained

variable {state : State}

/-- A state in which a run comes to rest is attained. -/
theorem of_idle {visited : List Machine} {machine : Machine} (run : Run visited machine)
    (idle : machine.reply?.isSome) : machine.state.Attained :=
  fun action => ⟨_, run.next idle action⟩

/-- What an action makes of an attained state is attained. -/
theorem of_performs (attained : state.Attained) {action : Action} {after : State}
    (performs : Performs state action after) : after.Attained := by
  obtain ⟨visited, run⟩ := attained action
  obtain ⟨reply, leads⟩ := performs
  obtain ⟨visited, run⟩ := run.exists_of_leads leads
  exact of_idle run rfl

/-- The view that the registry finds under an id has that id. -/
theorem objectId_of_lookup (attained : state.Attained) {id : UInt64} {key : ObjectKey}
    {view : View Action} (listed : state.context.registry.lookup state.context.alive id = some key)
    (found : state.context.view? key = some view) : view.objectId = id := by
  obtain ⟨visited, run⟩ := attained .counts
  obtain ⟨other, present, named, _⟩ := run.view_of_lookup listed
  cases found.symm.trans present
  exact named

/-- What is aired is what each stream finds. -/
theorem finds (attained : state.Attained) {events : List Event} {after : State}
    (airs : state.Airs events after) : state.Finds events after := by
  obtain ⟨visited, run⟩ := attained .counts
  exact run.finds airs

end State.Attained

/-- What holds of a session after actions of this kind. -/
structure State.Keeps (start : State) (actions : List Action) (state : State) : Prop where
  attained : state.Attained
  meek : state.MeekClients
  names : state.viewNames = start.viewNames
  /-- The client of a view is the one that was installed last. -/
  clients : ∀ key view, state.context.view? key = some view →
    view.client = actions.foldl (installed start.viewNames key) (start.client? key)

namespace State.Keeps

variable {start before after : State} {earlier : List Action}

theorem refl (attained : start.Attained) (meek : start.MeekClients) : start.Keeps [] start where
  attained := attained
  meek := meek
  names := rfl
  clients key view found := by rw [List.foldl_nil, client?, found, Option.bind_some]

/-- An action under which observations and events agree keeps them in agreement. -/
theorem of_follows (keeps : start.Keeps earlier before) {action : Action}
    (performs : Performs before action after)
    (idle : ∀ names key client, installed names key client action = client)
    {seen : List Sighting} {events : List Event} (follows : before.Follows after seen events) :
    start.Keeps (earlier ++ [action]) after := by
  have attained := keeps.attained.of_performs performs
  obtain ⟨bus, log, rfl⟩ := follows.changed
  refine ⟨attained, keeps.meek, keeps.names, fun key view found => ?_⟩
  rw [List.foldl_append, List.foldl_cons, List.foldl_nil, idle]
  exact keeps.clients key view found

/-- A page reports a progress. -/
theorem reports (keeps : start.Keeps earlier before) (whom : Addressee) (payload : String) :
    ∃ after, Performs before (.deliver whom InboundMethod.loadProgress.name payload) after ∧
      Concords start earlier before (.deliver whom InboundMethod.loadProgress.name payload) after ∧
      start.Keeps (earlier ++ [.deliver whom InboundMethod.loadProgress.name payload]) after := by
  let inbound : Inbound := ⟨Machine.addressee before whom, InboundMethod.loadProgress.name, payload⟩
  have named : InboundMethod.ofName? inbound.method = some .loadProgress :=
    InboundMethod.ofName?_eq_some_iff.mpr rfl
  have quiet : before.Quiet inbound := by
    refine ⟨fun _ key view name hooks panics phase _ found held => ?_, fun other => ?_,
      fun other => ?_⟩
    · exact (keeps.meek key view _ found held name hooks panics rfl).1 phase
    · exact nomatch Option.some.inj (named.symm.trans other)
    · exact nomatch Option.some.inj (named.symm.trans other)
  have delivers : (Machine.start before
      (.deliver whom InboundMethod.loadProgress.name payload)).Delivers inbound :=
    ⟨whom, rfl, rfl⟩
  have performs : Performs before (.deliver whom InboundMethod.loadProgress.name payload)
      (before.delivered inbound).1 := ⟨_, delivers.leads_of_quiet quiet⟩
  let after := (before.delivered inbound).1
  have told {json : Json} {value : Int32} {key : ObjectKey}
      (listed : before.context.registry.lookup before.context.alive inbound.objectId = some key)
      (reads : Json.Reads payload json)
      (progress : (json.get? "progress").bind Json.asInt? = some value.toInt) :
      ∃ seen, Hears (earlier.foldl (installed start.viewNames key) (start.client? key))
          (progressEvents inbound.objectId value) seen ∧
        before.Follows after seen ((progressEvents inbound.objectId value).map Event.view) := by
    obtain ⟨view, found⟩ := Machine.view?_of_lookup listed
    have named := keeps.attained.objectId_of_lookup listed found
    have read : inbound.value? = some json := Inbound.value?_eq_some_iff.mpr reads
    have told := follows_delivered rfl (keeps.meek key view · found) listed found read
      (InboundMethod.loadProgress?_eq_some_iff.mpr progress)
    rw [named] at told
    rw [← keeps.clients key view found]
    exact told
  have dropped (refused : ∀ key json,
      before.context.registry.lookup before.context.alive inbound.objectId = some key →
      Json.Reads payload json → ∀ value : Int32,
        (json.get? "progress").bind Json.asInt? ≠ some value.toInt) :
      before.Follows after [] [.lifecycle (.eventDropped inbound.objectId inbound.method)] := by
    refine follows_refused rfl fun key json listed read => ?_
    refine Option.eq_none_iff_forall_ne_some.mpr fun value progress => ?_
    have reads : Json.Reads inbound.payload json := Inbound.value?_eq_some_iff.mp read
    exact refused key json listed reads value (InboundMethod.loadProgress?_eq_some_iff.mp progress)
  obtain ⟨seen, events, follows⟩ : ∃ seen events, before.Follows after seen events := by
    by_cases reported : ∃ json key, ∃ value : Int32,
        before.context.registry.lookup before.context.alive inbound.objectId = some key ∧
        Json.Reads payload json ∧ (json.get? "progress").bind Json.asInt? = some value.toInt
    · obtain ⟨json, key, value, listed, reads, progress⟩ := reported
      obtain ⟨seen, _, follows⟩ := told listed reads progress
      exact ⟨seen, _, follows⟩
    · refine ⟨_, _, dropped fun key json listed reads value progress => ?_⟩
      exact reported ⟨json, key, value, listed, reads, progress⟩
  refine ⟨after, performs, ⟨?_, ?_, ?_, ?_⟩, keeps.of_follows performs (fun _ _ _ => rfl) follows⟩
  · rintro _ _ json value key ⟨⟩ listed reads progress
    exact told listed reads progress
  · rintro _ _ ⟨⟩ refused
    exact dropped refused
  · intro other
    exact absurd rfl (other whom payload)
  · intro announced emitted
    rw [List.append_cancel_left (emitted.symm.trans follows.emitted)]
    exact keeps.attained.finds follows.airs

/-- A client is set or cleared. -/
theorem sets (keeps : start.Keeps earlier before) {action : Action} {name : String}
    {next : Option (Client Action)}
    (performs : Performs before action (before.setClient name next).1)
    (silent : ∀ whom payload, action ≠ .deliver whom InboundMethod.loadProgress.name payload)
    (meek : ∀ client, next = some client → IsMeek client)
    (installs : ∀ names key client, installed names key client action =
      if names.find? name = some key then next else client) :
    ∃ after, Performs before action after ∧ Concords start earlier before action after ∧
      start.Keeps (earlier ++ [action]) after := by
  have same : (before.setClient name next).1.seen = before.seen ∧
      (before.setClient name next).1.viewNames = before.viewNames := by
    unfold setClient
    cases before.view? name with
    | none => exact ⟨rfl, rfl⟩
    | some entry => exact ⟨rfl, rfl⟩
  have still : before.Airs [] (before.setClient name next).1 := .still (before.air_setClient _ _)
  have emitted := still.emitted.trans (List.append_nil _)
  refine ⟨_, performs, ⟨?_, ?_, fun _ => ⟨same.1, emitted⟩, ?_⟩,
    keeps.attained.of_performs performs, ?_, same.2.trans keeps.names, ?_⟩
  · intro whom payload _ _ _ delivers
    exact absurd delivers (silent whom payload)
  · intro whom payload delivers
    exact absurd delivers (silent whom payload)
  · intro events announced
    rw [List.append_cancel_left (announced.symm.trans still.emitted)]
    exact keeps.attained.finds still
  · intro key view client found held
    obtain ⟨old, present, becomes⟩ := exists_view_of_setClient found
    rw [held] at becomes
    split at becomes
    · exact meek client becomes.symm
    · exact keeps.meek key old client present becomes.symm
  · intro key view found
    obtain ⟨old, present, becomes⟩ := exists_view_of_setClient found
    rw [becomes, List.foldl_append, List.foldl_cons, List.foldl_nil, installs, keeps.names,
      keeps.clients key old present]

end State.Keeps

/-- From any session without clients that use the bridge or panic, whatever pages report and
whichever such clients are set and cleared: the client that was installed last hears of the events
that its view announces, and each stream on the bus finds them. -/
theorem State.Attained.concordance {start : State} (attained : start.Attained)
    (meek : start.MeekClients) {actions : List Action}
    (reporting : ∀ action ∈ actions, IsReporting action) :
    ∃ after, Concordance start actions after := by
  have whole : ∃ after, Concordance start actions after ∧ start.Keeps actions after := by
    induction actions using List.reverseRecOn with
    | nil => exact ⟨start, .nil, .refl attained meek⟩
    | append_singleton earlier action ih =>
        obtain ⟨before, concordance, keeps⟩ :=
          ih fun other member => reporting other (List.mem_append_left _ member)
        have performed : ∃ after, Performs before action after ∧
            Concords start earlier before action after ∧
              start.Keeps (earlier ++ [action]) after := by
          cases reporting action (by simp) with
          | reports whom payload => exact keeps.reports whom payload
          | sets name meek =>
              refine keeps.sets ⟨_, .step (.refl _)⟩ (fun _ _ => (nomatch ·)) ?_ fun _ _ _ => rfl
              rintro _ ⟨⟩
              exact meek
          | clears name =>
              exact keeps.sets ⟨_, .step (.refl _)⟩ (fun _ _ => (nomatch ·)) (fun _ => (nomatch ·))
                fun _ _ _ => rfl
        obtain ⟨after, performs, concords, kept⟩ := performed
        exact ⟨after, concordance.snoc performs concords, kept⟩
  obtain ⟨after, concordance, _⟩ := whole
  exact ⟨after, concordance⟩

/-- Two views of which one has an observer, which is replaced and cleared while pages report and a
stream listens. -/
theorem State.Attained.concordance_of_replacement : ∃ start actions, State.Attained start ∧
    State.MeekClients start ∧ (∀ action ∈ actions, IsReporting action) ∧ actions.length = 6 ∧
    start.context.liveObjects = 2 ∧ (start.streams.find? "all").isSome ∧
    ∃ after, Concordance start actions after := by
  have listened := Run.step (.start State.new_withWeb (.subscribe "all" []))
  have first := (listened.next rfl (.createView "first")).step
  have second := (first.next rfl (.createView "second")).step
  have attained := State.Attained.of_idle second rfl
  have observer (name : String) : IsMeek (.observer name [] none) := by
    rintro _ _ _ ⟨⟩
    exact ⟨fun _ => rfl, rfl⟩
  have old := IsReporting.sets "first" (observer "old")
  have complete := IsReporting.reports ⟨some "first", 0⟩ "\x7b\"progress\":100\x7d"
  have new := IsReporting.sets "first" (observer "new")
  have begun := IsReporting.reports ⟨some "second", 0⟩ "\x7b\"progress\":0\x7d"
  have cleared := IsReporting.clears "first"
  have blank := IsReporting.reports ⟨some "first", 0⟩ ""
  have reporting : ∀ action ∈ [_, _, _, _, _, _], IsReporting action :=
    List.forall_mem_cons.mpr ⟨old, List.forall_mem_cons.mpr ⟨complete, List.forall_mem_cons.mpr
      ⟨new, List.forall_mem_cons.mpr ⟨begun, List.forall_mem_cons.mpr ⟨cleared,
        List.forall_mem_singleton.mpr blank⟩⟩⟩⟩⟩
  refine ⟨_, _, attained, ?meek, reporting, rfl, ?_, ?_, attained.concordance ?meek reporting⟩
  · exact State.meekClients_of_isIdle (by decide +kernel) (by decide +kernel)
  · decide +kernel
  · decide +kernel

end Session

end HostBridge
