import HostBridge.Proofs.Event.Following

/-!
# What a stream has read

Over any steps of a session, whoever else reads, emits, subscribes or leaves meanwhile, a stream
goes through what was emitted since its subscription in order and leaves nothing out without saying
so.

Main statement: the accounts of every stream, of a filtered stream beside one without a filter, and
of a reader that waits beside one that does not (`perusal`).
-/

namespace HostBridge

/-- The least power of two that is at least `n` is less than twice `n`. -/
theorem roundUpToPowerOfTwo_spec {n : Nat} (positive : 0 < n) : ∃ exponent,
    roundUpToPowerOfTwo n = Nat.pow 2 exponent ∧ n ≤ roundUpToPowerOfTwo n ∧
      roundUpToPowerOfTwo n < 2 * n := by
  by_cases one : n ≤ 1
  · rw [roundUpToPowerOfTwo, if_pos one]
    exact ⟨0, rfl, one, by omega⟩
  · rw [roundUpToPowerOfTwo, if_neg one]
    refine ⟨(n - 1).log2 + 1, rfl, ?_, ?_⟩
    · have above : n - 1 < Nat.pow 2 ((n - 1).log2 + 1) := Nat.lt_log2_self
      omega
    · have below : Nat.pow 2 (n - 1).log2 ≤ n - 1 := Nat.log2_self_le (by omega)
      have double : Nat.pow 2 ((n - 1).log2 + 1) = Nat.pow 2 (n - 1).log2 * 2 := rfl
      omega

/-- Whether an event passes the filter that was set last. -/
def EventFilter.passing (filters : List EventFilter) (event : Event) : Bool :=
  filters.getLast?.all (fun filter => filter.accepts event)

/-- What a stream accepts is up to its filter alone. -/
theorem Stream.accepts_of_filter {stream other : Stream} (same : stream.filter = other.filter) :
    stream.accepts = other.accepts := by
  funext event
  rw [accepts, accepts, same]

/-- Of the filters that a subscription gives only the last one counts. -/
theorem Stream.accepts_eq_passing {stream : Stream} {filters : List EventFilter}
    (filter : stream.filter = filters.getLast?) :
    stream.accepts = EventFilter.passing filters := by
  funext event
  rw [accepts, filter]
  rfl

/-- Setting filters one after another leaves the last one in force. -/
theorem Stream.foldl_withFilter (filters : List EventFilter) (stream : Stream) :
    filters.foldl withFilter stream =
      { stream with filter := filters.getLast?.or stream.filter } := by
  induction filters generalizing stream with
  | nil => rfl
  | cons filter filters ih =>
      rw [List.foldl_cons, ih, List.getLast?_cons]
      cases filters.getLast? <;> rfl

/-- What a filtered stream drains is what one without a filter does, less the events that do not
pass. -/
theorem Bus.drained_filter (bus : Bus) (accepts : Event → Bool) (backlog : List Event) :
    bus.drained accepts backlog =
      (bus.drained (fun _ => true) backlog).filter (StreamItem.passes accepts) := by
  have lagged (missed : Nat) : [StreamItem.report (.lagged missed)].filter
      (StreamItem.passes accepts) = [.report (.lagged missed)] := rfl
  have closed : [StreamItem.report .closed].filter (StreamItem.passes accepts) =
      [.report .closed] := rfl
  have events (kept : List Event) : (kept.map StreamItem.event).filter
      (StreamItem.passes accepts) = (kept.filter accepts).map .event := List.filter_map
  have all (kept : List Event) : kept.filter (fun _ => true) = kept :=
    List.filter_eq_self.mpr (fun _ _ => rfl)
  rw [drained, drained, List.filter_append, List.filter_append, all, events]
  congr 2
  · split
    · exact (lagged _).symm
    · rfl
  · split
    · exact closed.symm
    · rfl

namespace BusSession

def steps (session : BusSession) (commands : List Command) : BusSession :=
  commands.foldl (fun session command => (session.perform command).1) session

/-- The steps with the sessions that take them. -/
def visits : BusSession → List Command → List Visit
  | _, [] => []
  | session, command :: commands =>
    ⟨session, command⟩ :: visits (session.perform command).1 commands

/-- What steps put on the bus. -/
def emissions (session : BusSession) (commands : List Command) : List Event :=
  (session.visits commands).flatMap Visit.emitted

/-- What steps gave the reader of a stream. -/
def handed (session : BusSession) (name : String) (commands : List Command) : List StreamItem :=
  (session.visits commands).flatMap (Visit.given name)

variable {session : BusSession} {name : String} {stream : Stream} {backlog : List Event}

theorem steps_append (session : BusSession) (earlier later : List Command) :
    session.steps (earlier ++ later) = (session.steps earlier).steps later := List.foldl_append

theorem visits_append (session : BusSession) (earlier later : List Command) :
    session.visits (earlier ++ later) =
      session.visits earlier ++ (session.steps earlier).visits later := by
  induction earlier generalizing session with
  | nil => rfl
  | cons command earlier ih =>
      rw [List.cons_append, visits, visits, ih, List.cons_append]
      rfl

/-- Every run of commands keeps a session sound. -/
theorem Sound.steps (sound : session.Sound) (commands : List Command) :
    (session.steps commands).Sound := by
  induction commands generalizing session with
  | nil => exact sound
  | cons command commands ih => exact ih (sound.perform command)

theorem capacity_perform (session : BusSession) (command : Command) :
    (session.perform command).1.bus.capacity = session.bus.capacity := by
  by_cases emits : ∃ event, command = .emit event
  · obtain ⟨event, rfl⟩ := emits
    have same : (session.bus.emit event).1.capacity = session.bus.capacity := by
      by_cases unheard : session.bus.subscribers = 0
      · rw [Bus.emit_of_unheard unheard]
      · rw [Bus.emit_of_listened unheard]
    rw [perform, owned]
    split
    · rfl
    · rcases emitted : session.bus.emit event with ⟨bus, _ | _⟩
      · rw [emitted] at same
        exact same
      · rw [emitted] at same
        exact same
  · obtain ⟨subscribers, owners, same⟩ :=
      session.bus_perform (fun event same => emits ⟨event, same⟩)
    rw [same]

/-- No run changes the capacity of the bus. -/
theorem capacity_steps (session : BusSession) (commands : List Command) :
    (session.steps commands).bus.capacity = session.bus.capacity := by
  induction commands generalizing session with
  | nil => rfl
  | cons command commands ih => exact (ih _).trans (session.capacity_perform command)

/-- A stream goes through its backlog in order, over any steps that it lives through. -/
theorem Follows.steps (sound : session.Sound) (follows : session.Follows name stream backlog)
    {commands : List Command} (lives : ∀ command ∈ commands, command.ends? ≠ some name) :
    ∃ next left stretches, (session.steps commands).Follows name next left ∧
      next.filter = stream.filter ∧
        stream.Reads next (backlog ++ session.emissions commands) left
          (session.handed name commands) stretches := by
  induction commands generalizing session stream backlog with
  | nil =>
      refine ⟨stream, backlog, [], follows, rfl, ?_⟩
      rw [emissions, handed, visits, List.flatMap_nil, List.flatMap_nil, List.append_nil]
      exact .none stream backlog
  | cons command commands ih =>
      obtain ⟨here, others⟩ := List.forall_mem_cons.mp lives
      obtain ⟨middle, between, first, serves⟩ := follows.perform sound here
      obtain ⟨next, left, rest, ends, filter, reads⟩ :=
        ih (sound.perform command) serves.follows others
      refine ⟨next, left, first ++ rest, ends, filter.trans serves.filter, ?_⟩
      rw [emissions, handed, visits, List.flatMap_cons, List.flatMap_cons, ← List.append_assoc]
      exact serves.reads.trans reads

/-- A subscription to a bus that has a publisher is followed from its end. -/
theorem Follows.subscribe (sound : session.Sound) (owned : session.bus.owners ≠ 0)
    (name : String) (filters : List EventFilter) :
    (session.steps [.subscribe name filters]).Follows name
      ⟨session.bus.tail, filters.getLast?⟩ [] := by
  have done : session.steps [.subscribe name filters] =
      ⟨if session.streams.contains name then session.bus.subscribe.1.removeSubscriber
          else session.bus.subscribe.1,
        session.streams.insert name (filters.foldl Stream.withFilter session.bus.subscribe.2)⟩ := by
    rw [BusSession.steps, List.foldl_cons, List.foldl_nil, BusSession.perform, BusSession.owned,
      if_neg owned]
  have filtered : filters.foldl Stream.withFilter session.bus.subscribe.2 =
      ⟨session.bus.tail, filters.getLast?⟩ := by
    rw [Stream.foldl_withFilter]
    exact congrArg (Stream.mk _) (Option.or_none)
  rw [done, filtered]
  refine ⟨Table.find?_insert_self _ _ _, ?_⟩
  have owes := Bus.Owes.subscribe sound.bus
  dsimp only
  split
  · exact owes.of_same rfl rfl rfl rfl
  · exact owes.of_same rfl rfl rfl rfl

/-! ### The account of a stream -/

/-- The account of a stream from its subscription on: some stretches of what was emitted since then
are behind it, and a backlog is not. -/
structure Account (subscribed : BusSession) (name : String) (filters : List EventFilter)
    (later : List Command) (stretches : List Stretch) (backlog : List Event) : Prop where
  /-- It goes through what was emitted in order, each event once. -/
  order : subscribed.emissions later = stretches.flatMap Stretch.events ++ backlog
  /-- It hands out what its stretches show. -/
  shown : subscribed.handed name later =
    stretches.filterMap (Stretch.shown (EventFilter.passing filters))
  /-- The events that it hands out are the matching ones among those that it came to. -/
  matching : (subscribed.handed name later).filterMap StreamItem.event? =
    (stretches.filterMap Stretch.seen?).filter (EventFilter.passing filters)
  /-- Its filter hides no report. -/
  reports : (subscribed.handed name later).filterMap StreamItem.report? =
    stretches.filterMap Stretch.report?
  /-- It has come as far as the events it came to and the events it was told are gone. -/
  place : ∃ stream, (subscribed.steps later).streams.find? name = some stream ∧
    stream.position = subscribed.bus.tail + ((stretches.filterMap Stretch.seen?).length +
      ((subscribed.handed name later).map StreamItem.missed).sum) ∧
    stream.position + backlog.length = (subscribed.steps later).bus.tail
  /-- Its backlog says what it hands out next. -/
  next : ((subscribed.steps later).perform (.receive name)).2 =
    .received ((subscribed.steps later).bus.nextItem (EventFilter.passing filters) backlog)

/-- From its subscription to any later moment of its life a stream has an account of all it was owed
and all it was told. -/
theorem Sound.account (sound : session.Sound) (owned : session.bus.owners ≠ 0)
    (filters : List EventFilter) {later : List Command}
    (lives : ∀ command ∈ later, command.ends? ≠ some name) : ∃ stretches backlog,
      Account (session.steps [.subscribe name filters]) name filters later stretches backlog := by
  have tail : (session.steps [.subscribe name filters]).bus.tail = session.bus.tail := by
    have quiet (event : Event) : Command.subscribe name filters ≠ .emit event := nofun
    obtain ⟨subscribers, owners, same⟩ := session.bus_perform quiet
    change (session.perform (.subscribe name filters)).1.bus.tail = session.bus.tail
    rw [same]
  obtain ⟨next, backlog, stretches, ends, filter, reads⟩ :=
    (Follows.subscribe sound owned name filters).steps (sound.steps _) lives
  have accepts := Stream.accepts_eq_passing filter
  have shown := reads.items
  have place : next.position = session.bus.tail + _ := congrArg Stream.position reads.next
  refine ⟨stretches, backlog, reads.split, shown, ?_, ?_, ⟨next, ends.found, ?_, ?_⟩, ?_⟩
  · rw [shown]
    exact Stretch.shown_event? _ _
  · rw [shown]
    exact Stretch.shown_report? _ _
  · rw [tail, place, shown]
    exact congrArg _ (Stretch.length_events _ _).symm
  · exact ends.owes.reaches
  · rw [perform_receive, reading_of_found ends, ← accepts, ← Stream.receive_eq_nextItem ends.owes]
    rfl

/-! ### A filtered stream beside one without a filter -/

/-- Two steps, in one order or the other. -/
def EitherOrder (first second : Command) (pair : List Command) : Prop :=
  pair = [first, second] ∨ pair = [second, first]

/-- What a drain of a stream finds. -/
def Visit.drained? (name : String) (visit : Visit) : Option (List StreamItem) :=
  match visit.command with
  | .drain reader => if reader = name then some visit.answer.items else none
  | _ => none

/-- Some steps that concern neither of two streams, and a drain of both. -/
structure IsRound (plain picky : String) (round : List Command × List Command) : Prop where
  before : ∀ command ∈ round.1, command.Spares plain ∧ command.Spares picky
  drains : EitherOrder (.drain plain) (.drain picky) round.2

/-- Drained together, a filtered stream finds what one without a filter does, less the events that
do not pass. -/
structure Alike (session : BusSession) (plain picky : String) (accepts : Event → Bool)
    (rounds : List (List Command × List Command)) : Prop where
  drained : ((session.visits (rounds.flatMap fun round => round.1 ++ round.2)).filterMap
    (Visit.drained? plain)).length = rounds.length
  filtered : (session.visits (rounds.flatMap fun round => round.1 ++ round.2)).filterMap
      (Visit.drained? picky) =
    ((session.visits (rounds.flatMap fun round => round.1 ++ round.2)).filterMap
      (Visit.drained? plain)).map (List.filter (StreamItem.passes accepts))

/-- Two streams with the same backlog, the first of them without a filter. -/
structure Beside (session : BusSession) (plain picky : String) (accepts : Event → Bool)
    (backlog : List Event) : Prop where
  sound : session.Sound
  apart : plain ≠ picky
  plain : ∃ stream, session.Follows plain stream backlog ∧ stream.filter = none
  picky : ∃ stream, session.Follows picky stream backlog ∧ stream.accepts = accepts

variable {plain picky : String} {accepts : Event → Bool}

/-- Two streams side by side stay so under every command that spares them both. -/
theorem Beside.spared (beside : session.Beside plain picky accepts backlog) {command : Command}
    (first : command.Spares plain) (second : command.Spares picky) :
    (session.perform command).1.Beside plain picky accepts
      (backlog ++ Visit.emitted ⟨session, command⟩) := by
  obtain ⟨stream, follows, unfiltered⟩ := beside.plain
  obtain ⟨viewer, beholds, filtered⟩ := beside.picky
  exact ⟨beside.sound.perform command, beside.apart,
    ⟨stream, follows.spared beside.sound first, unfiltered⟩,
    ⟨viewer, beholds.spared beside.sound second, filtered⟩⟩

/-- Two streams side by side stay so over every run that spares them both. -/
theorem Beside.steps (beside : session.Beside plain picky accepts backlog)
    {commands : List Command}
    (spared : ∀ command ∈ commands, command.Spares plain ∧ command.Spares picky) :
    ∃ backlog, (session.steps commands).Beside plain picky accepts backlog := by
  induction commands generalizing session backlog with
  | nil => exact ⟨backlog, beside⟩
  | cons command commands ih =>
      obtain ⟨⟨first, second⟩, others⟩ := List.forall_mem_cons.mp spared
      exact ih (beside.spared first second) others

/-- Steps that spare a stream do not drain it. -/
theorem filterMap_drained?_of_spared {commands : List Command}
    (spared : ∀ command ∈ commands, command.Spares name) :
    (session.visits commands).filterMap (Visit.drained? name) = [] := by
  induction commands generalizing session with
  | nil => rfl
  | cons command commands ih =>
      obtain ⟨here, others⟩ := List.forall_mem_cons.mp spared
      have silent : Visit.drained? name ⟨session, command⟩ = none := by
        unfold Visit.drained?
        split
        next reader drains =>
          dsimp only at drains
          subst drains
          exact if_neg (fun same => here.reader (congrArg some same))
        next => rfl
      rw [visits, List.filterMap_cons, silent]
      exact ih others

/-- An emission leaves all streams where they are. -/
theorem emit_spares (event : Event) (name : String) : (Command.emit event).Spares name :=
  ⟨(Option.some_ne_none _).symm, (Option.some_ne_none _).symm⟩

theorem drain_spares {reader : String} (other : reader ≠ name) :
    (Command.drain reader).Spares name :=
  ⟨fun same => other (Option.some.inj same), (Option.some_ne_none _).symm⟩

theorem bus_drain (session : BusSession) (name : String) :
    (session.perform (.drain name)).1.bus = session.bus := bus_reading _ _

/-- A drain answers with what the bus owes the stream. -/
theorem answer_drain (follows : session.Follows name stream backlog) :
    (session.perform (.drain name)).2 = .drained (session.bus.drained stream.accepts backlog) := by
  rw [perform_drain, reading_of_found follows, Stream.drain_eq_drained follows.owes]
  rfl

/-- A drain of a stream is what it is drained of on that visit. -/
theorem drained?_drain_self (follows : session.Follows name stream backlog) :
    Visit.drained? name ⟨session, .drain name⟩ =
      some (session.bus.drained stream.accepts backlog) := by
  have drained : Visit.drained? name ⟨session, .drain name⟩ =
      some (session.perform (.drain name)).2.items := if_pos rfl
  rw [drained, answer_drain follows]
  rfl

theorem drained?_drain_of_ne {reader : String} (other : reader ≠ name) :
    Visit.drained? name ⟨session, .drain reader⟩ = none := if_neg other

/-- Two streams with the same backlog that are drained in turn find what they would find alone. -/
theorem drain_pair {first second : String} {viewer : Stream} (sound : session.Sound)
    (apart : first ≠ second) (follows : session.Follows first stream backlog)
    (beholds : session.Follows second viewer backlog) :
    (session.visits [.drain first, .drain second]).filterMap (Visit.drained? first) =
        [session.bus.drained stream.accepts backlog] ∧
      (session.visits [.drain first, .drain second]).filterMap (Visit.drained? second) =
        [session.bus.drained viewer.accepts backlog] ∧
      (∃ next, (session.steps [.drain first, .drain second]).Follows first next [] ∧
        next.filter = stream.filter) ∧
      ∃ next, (session.steps [.drain first, .drain second]).Follows second next [] ∧
        next.filter = viewer.filter := by
  have between := sound.perform (.drain first)
  obtain ⟨_, serves⟩ := follows.drain
  have waits := beholds.spared sound (drain_spares apart)
  have silent : backlog ++ Visit.emitted ⟨session, .drain first⟩ = backlog := List.append_nil _
  rw [silent] at waits
  obtain ⟨_, served⟩ := waits.drain
  have kept := serves.follows.spared between (drain_spares (Ne.symm apart))
  refine ⟨?_, ?_, ⟨_, kept, serves.filter⟩, ⟨_, served.follows, served.filter⟩⟩
  · rw [visits, visits, visits, List.filterMap_cons, List.filterMap_cons, List.filterMap_nil,
      drained?_drain_self follows, drained?_drain_of_ne (Ne.symm apart)]
  · have found := drained?_drain_self waits
    rw [Visit.after, bus_drain] at found
    rw [visits, visits, visits, List.filterMap_cons, List.filterMap_cons, List.filterMap_nil,
      drained?_drain_of_ne apart, found]

/-- A drain of both streams leaves them beside each other, and says what both found. -/
theorem Beside.drain (beside : session.Beside plain picky accepts backlog)
    {drains : List Command} (both : EitherOrder (.drain plain) (.drain picky) drains) :
    (session.steps drains).Beside plain picky accepts [] ∧
      (session.visits drains).filterMap (Visit.drained? plain) =
        [session.bus.drained (fun _ => true) backlog] ∧
      (session.visits drains).filterMap (Visit.drained? picky) =
        [session.bus.drained accepts backlog] := by
  obtain ⟨sound, apart, ⟨stream, follows, unfiltered⟩, ⟨viewer, beholds, filtered⟩⟩ := beside
  have all : stream.accepts = fun _ => true := by
    funext event
    rw [Stream.accepts, unfiltered]
    rfl
  have kept {next : Stream} (same : next.filter = viewer.filter) : next.accepts = accepts :=
    (Stream.accepts_of_filter same).trans filtered
  rw [← all, ← filtered]
  rcases both with rfl | rfl
  · obtain ⟨found, also, ⟨next, ends, same⟩, ⟨other, stays, alike⟩⟩ :=
      drain_pair sound apart follows beholds
    rw [filtered]
    rw [filtered] at also
    exact ⟨⟨sound.steps _, apart, ⟨next, ends, same.trans unfiltered⟩, ⟨other, stays, kept alike⟩⟩,
      found, also⟩
  · obtain ⟨also, found, ⟨other, stays, alike⟩, ⟨next, ends, same⟩⟩ :=
      drain_pair sound (Ne.symm apart) beholds follows
    rw [filtered]
    rw [filtered] at also
    exact ⟨⟨sound.steps _, apart, ⟨next, ends, same.trans unfiltered⟩, ⟨other, stays, kept alike⟩⟩,
      found, also⟩

/-- Over any rounds the two streams stay beside each other. -/
theorem Beside.alike (beside : session.Beside plain picky accepts backlog)
    {rounds : List (List Command × List Command)}
    (fair : ∀ round ∈ rounds, IsRound plain picky round) :
    session.Alike plain picky accepts rounds := by
  induction rounds generalizing session backlog with
  | nil => exact ⟨rfl, rfl⟩
  | cons round rounds ih =>
      obtain ⟨⟨spared, both⟩, later⟩ := List.forall_mem_cons.mp fair
      obtain ⟨grown, meanwhile⟩ := beside.steps spared
      obtain ⟨after, found, also⟩ := meanwhile.drain both
      obtain ⟨drained, filtered⟩ := ih after later
      have plainly : (session.visits round.1).filterMap (Visit.drained? plain) = [] :=
        filterMap_drained?_of_spared (fun command listed => (spared command listed).1)
      have pickily : (session.visits round.1).filterMap (Visit.drained? picky) = [] :=
        filterMap_drained?_of_spared (fun command listed => (spared command listed).2)
      constructor
      · rw [List.flatMap_cons, List.append_assoc, visits_append, visits_append,
          List.filterMap_append, List.filterMap_append, plainly, found, List.nil_append,
          List.length_append, drained, List.length_singleton, List.length_cons, Nat.add_comm]
      · rw [List.flatMap_cons, List.append_assoc, visits_append, visits_append,
          List.filterMap_append, List.filterMap_append, List.filterMap_append,
          List.filterMap_append, plainly, pickily, found, also, filtered, List.nil_append,
          List.nil_append, List.map_append, Bus.drained_filter]
        rfl

theorem subscribe_spares {reader : String} (other : reader ≠ name) (filters : List EventFilter) :
    (Command.subscribe reader filters).Spares name :=
  ⟨(Option.some_ne_none _).symm, fun same => other (Option.some.inj same)⟩

theorem owners_subscribe (session : BusSession) (name : String) (filters : List EventFilter) :
    (session.perform (.subscribe name filters)).1.bus.owners = session.bus.owners := by
  rw [BusSession.perform, BusSession.owned]
  split
  · rfl
  · dsimp only
    split
    · rfl
    · rfl

/-- Two streams that are subscribed in turn have the same backlog. -/
theorem subscribe_pair {first second : String} (sound : session.Sound)
    (owned : session.bus.owners ≠ 0) (apart : first ≠ second) (filters others : List EventFilter) :
    let session := session.steps [.subscribe first filters, .subscribe second others]
    (∃ stream, session.Follows first stream [] ∧ stream.filter = filters.getLast?) ∧
      ∃ stream, session.Follows second stream [] ∧ stream.filter = others.getLast? := by
  have follows := Follows.subscribe sound owned first filters
  have between := sound.perform (.subscribe first filters)
  rw [← session.owners_subscribe first filters] at owned
  have kept := follows.spared between (subscribe_spares (Ne.symm apart) others)
  exact ⟨⟨_, kept, rfl⟩, ⟨_, Follows.subscribe between owned second others, rfl⟩⟩

/-- Two streams that are subscribed together are beside each other. -/
theorem Sound.beside (sound : session.Sound) (owned : session.bus.owners ≠ 0)
    (apart : plain ≠ picky) {filters : List EventFilter} {subscriptions : List Command}
    (both : EitherOrder (.subscribe plain []) (.subscribe picky filters) subscriptions) :
    (session.steps subscriptions).Beside plain picky (EventFilter.passing filters) [] := by
  rcases both with rfl | rfl
  · obtain ⟨plainly, ⟨viewer, beholds, filter⟩⟩ := subscribe_pair sound owned apart [] filters
    exact ⟨sound.steps _, apart, plainly, ⟨viewer, beholds, Stream.accepts_eq_passing filter⟩⟩
  · obtain ⟨⟨viewer, beholds, filter⟩, plainly⟩ :=
      subscribe_pair sound owned (Ne.symm apart) filters []
    exact ⟨sound.steps _, apart, plainly, ⟨viewer, beholds, Stream.accepts_eq_passing filter⟩⟩

/-! ### A reader that waits -/

/-- The answer to a reader that waits where one that does not wait finds nothing. -/
def Answer.waiting : Answer → Answer
  | .received none => .pending
  | answer => answer

/-- Waiting for an item shows what receiving one shows, once there is something to show. -/
theorem awaited_eq_waiting (given : Option (Except BusReport Event)) :
    awaited given = Answer.waiting (.received (given.map StreamItem.ofAwaited)) := by
  cases given <;> rfl

/-- A reader that waits does what one that does not wait does, and waits where that one finds
nothing. -/
theorem perform_await_eq_waiting (session : BusSession) (name : String) :
    session.perform (.await name) = (session.perform (.receive name)).map id Answer.waiting := by
  rw [perform_await, perform_receive, reading, reading]
  cases session.streams.find? name with
  | none => rfl
  | some stream =>
      obtain ⟨item, next⟩ := stream.await_eq_receive session.bus
      dsimp only [Prod.map]
      rw [item, next, awaited_eq_waiting]
      rfl

/-! ### All accounts -/

/-- On a bus with the room of a power of two, in every course of steps: a stream accounts for all
that was emitted since its subscription; drained together with a stream without a filter, it finds
what that one does less what does not match; and a reader that waits is given what one that does not
wait would be. -/
theorem perusal {capacity : Nat} {start : BusSession} (opened : new capacity = .ok start) :
    (∃ exponent, ∀ steps, (start.steps steps).bus.capacity = Nat.pow 2 exponent ∧
        capacity ≤ Nat.pow 2 exponent ∧ Nat.pow 2 exponent < 2 * capacity) ∧
      (∀ earlier name filters later, (start.steps earlier).bus.owners ≠ 0 →
        (∀ command ∈ later, command.ends? ≠ some name) → ∃ stretches backlog,
          Account (start.steps (earlier ++ [.subscribe name filters])) name filters later
            stretches backlog) ∧
      (∀ earlier plain picky filters subscriptions rounds,
        (start.steps earlier).bus.owners ≠ 0 → plain ≠ picky →
          EitherOrder (.subscribe plain []) (.subscribe picky filters) subscriptions →
            (∀ round ∈ rounds, IsRound plain picky round) →
              Alike (start.steps (earlier ++ subscriptions)) plain picky
                (EventFilter.passing filters) rounds) ∧
      ∀ earlier name, (start.steps earlier).perform (.await name) =
        ((start.steps earlier).perform (.receive name)).map id Answer.waiting := by
  have sound := Sound.of_new opened
  refine ⟨?_, ?_, ?_, ?_⟩
  · have positive : 0 < capacity := by
      apply Nat.pos_of_ne_zero
      rintro rfl
      cases opened
    have room : start.bus.capacity = roundUpToPowerOfTwo capacity := by
      rw [new, if_neg (Nat.ne_of_gt positive)] at opened
      cases opened
      rfl
    obtain ⟨exponent, same, atLeast, below⟩ := roundUpToPowerOfTwo_spec positive
    rw [same] at room atLeast below
    exact ⟨exponent, fun steps => ⟨(start.capacity_steps steps).trans room, atLeast, below⟩⟩
  · intro earlier name filters later owned lives
    rw [steps_append]
    exact (sound.steps earlier).account owned filters lives
  · intro earlier plain picky filters subscriptions rounds owned apart both fair
    rw [steps_append]
    exact ((sound.steps earlier).beside owned apart both).alike fair
  · intro earlier name
    exact perform_await_eq_waiting _ name

/-- On a bus with room for four, a stream of one object's events that is six events behind and then
sees the bus end. -/
theorem perusal_of_lag :
    let start : BusSession := ⟨Bus.new 3, Table.empty⟩
    let seen (id : UInt64) : Event := .lifecycle (.registered id)
    let filters : List EventFilter := [.kind .net, .object 1]
    let later : List Command := [.emit (seen 1), .emit (seen 2), .emit (seen 1), .receive "picky",
      .emit (seen 2), .emit (seen 2), .emit (seen 2), .emit (seen 1), .receive "picky",
      .removeOwner, .await "picky", .await "picky"]
    let round : List Command × List Command :=
      ([.emit (seen 1), .emit (seen 2)], [.drain "picky", .drain "plain"])
    new 3 = .ok start ∧ (start.steps []).bus.owners ≠ 0 ∧
      (∀ command ∈ later, command.ends? ≠ some "picky") ∧ IsRound "plain" "picky" round ∧
      (start.steps [.subscribe "picky" filters]).handed "picky" later =
        [.event (seen 1), .report (.lagged 2), .event (seen 1), .report .closed] ∧
      (∃ stretches backlog, Account (start.steps [.subscribe "picky" filters]) "picky" filters later
        stretches backlog) ∧
      Alike (start.steps [.subscribe "plain" [], .subscribe "picky" filters]) "plain" "picky"
        (EventFilter.passing filters) [round] := by
  intro start seen filters later round
  have opened : new 3 = .ok start := rfl
  have owned : (start.steps []).bus.owners ≠ 0 := Nat.one_ne_zero
  have lives : ∀ command ∈ later, command.ends? ≠ some "picky" := by
    simp only [later, List.forall_mem_cons, Command.ends?]
    decide
  have fair : IsRound "plain" "picky" round := by
    refine ⟨?_, .inr rfl⟩
    simp only [round, List.forall_mem_cons]
    exact ⟨⟨emit_spares _ _, emit_spares _ _⟩, ⟨emit_spares _ _, emit_spares _ _⟩,
      List.forall_mem_nil _⟩
  obtain ⟨_, accounts, alike, _⟩ := perusal opened
  refine ⟨opened, owned, lives, fair, by decide +kernel, ?_, ?_⟩
  · exact accounts [] "picky" filters later owned lives
  · apply alike [] "plain" "picky" filters _ [round] owned (by decide) (.inl rfl)
    exact List.forall_mem_singleton.mpr fair

end BusSession

end HostBridge
