import HostBridge.Proofs.Event.Perusal

/-!
# What announcements come to

Whatever is announced on a bus is written down among all that was put on it, and joins the backlog
of every stream that listens: the stream comes to it after what it had not come to before.  The list
of all that was put on a bus is therefore what its streams find, as far as the bus keeps it for
them.

Main statements: announced events join every backlog (`Bus.Owes.announceAll`), so a stream that had
read everything before finds just them (`Bus.Owes.drain_again`); in a session with a bus
announcements are steps like any other (`BusSession.steps_emit`), and whatever steps it takes, each
stream still has the end of all that was put on the bus before it (`BusSession.Attended.steps`).
-/

namespace HostBridge

namespace Bus

/-- Announce events one after another. -/
def announceAll (bus : Bus) (events : List Event) : Bus := events.foldl announce bus

theorem announceAll_append (bus : Bus) (events more : List Event) :
    bus.announceAll (events ++ more) = (bus.announceAll events).announceAll more :=
  List.foldl_append

/-- Whatever is announced is written down. -/
@[simp] theorem emitted_announceAll (bus : Bus) (events : List Event) :
    (bus.announceAll events).emitted = bus.emitted ++ events := by
  induction events generalizing bus with
  | nil => exact (List.append_nil _).symm
  | cons event events ih =>
      rw [announceAll, List.foldl_cons, ← announceAll, ih, emitted_announce, List.append_assoc]
      rfl

/-- An announcement changes neither who listens nor who may announce. -/
theorem same_announce (bus : Bus) (event : Event) :
    (bus.announce event).subscribers = bus.subscribers ∧
      (bus.announce event).owners = bus.owners := by
  by_cases unheard : bus.subscribers = 0
  · rw [announce, emit_of_unheard unheard]
    exact ⟨rfl, rfl⟩
  · rw [announce, emit_of_listened unheard]
    exact ⟨rfl, rfl⟩

theorem same_announceAll (bus : Bus) (events : List Event) :
    (bus.announceAll events).subscribers = bus.subscribers ∧
      (bus.announceAll events).owners = bus.owners := by
  induction events generalizing bus with
  | nil => exact ⟨rfl, rfl⟩
  | cons event events ih =>
      obtain ⟨subscribers, owners⟩ := bus.same_announce event
      obtain ⟨listen, announce⟩ := ih (bus.announce event)
      exact ⟨listen.trans subscribers, announce.trans owners⟩

variable {bus : Bus} {stream : Stream} {backlog : List Event}

/-- Announced events are what a stream that listens comes to after its backlog. -/
theorem Owes.announceAll (owes : bus.Owes stream backlog) (listened : bus.subscribers ≠ 0)
    (events : List Event) : (bus.announceAll events).Owes stream (backlog ++ events) := by
  induction events generalizing bus backlog with
  | nil =>
      rw [List.append_nil]
      exact owes
  | cons event events ih =>
      have still : (bus.announce event).subscribers ≠ 0 := (bus.same_announce event).1 ▸ listened
      have rest := ih (owes.emit listened event) still
      rw [List.append_assoc] at rest
      exact rest

/-- A stream that had read everything before drains just what was announced since. -/
theorem Owes.drain_again (owes : bus.Owes stream backlog) (listened : bus.subscribers ≠ 0)
    (events : List Event) :
    ((stream.drain bus).2.drain (bus.announceAll events)).1 =
      (bus.announceAll events).drained stream.accepts events := by
  -- The first drain takes the stream to the end of its backlog.
  have read : (stream.drain bus).2 = stream.forward backlog.length :=
    congrArg Prod.snd (Stream.drain_eq_drained owes)
  have nothing : bus.Owes (stream.forward backlog.length) [] := by
    rw [← List.append_nil backlog] at owes
    exact owes.forward
  rw [read, Stream.drain_eq_drained (nothing.announceAll listened events), List.nil_append,
    Stream.accepts_forward]

end Bus

namespace BusSession

variable {session : BusSession}

/-- Announcing an event on a bus that somebody owns is a step of a session with that bus. -/
theorem perform_emit (owned : session.bus.owners ≠ 0) (event : Event) :
    (session.perform (.emit event)).1 = { session with bus := session.bus.announce event } := by
  rw [perform, BusSession.owned, if_neg owned, Bus.announce]
  rcases session.bus.emit event with ⟨bus, _ | _⟩
  · rfl
  · rfl

/-- Announcements are steps, and put on the bus what is announced. -/
theorem steps_emit (owned : session.bus.owners ≠ 0) (events : List Event) :
    session.steps (events.map .emit) =
        { session with bus := session.bus.announceAll events } ∧
      session.emissions (events.map .emit) = events := by
  induction events generalizing session with
  | nil => exact ⟨rfl, rfl⟩
  | cons event events ih =>
      have done := session.perform_emit owned event
      have still : (session.perform (.emit event)).1.bus.owners ≠ 0 := by
        rw [done]
        exact (session.bus.same_announce event).2 ▸ owned
      obtain ⟨steps, emissions⟩ := ih still
      have told : Visit.emitted ⟨session, .emit event⟩ = [event] := if_neg owned
      constructor
      · rw [List.map_cons, BusSession.steps, List.foldl_cons, ← BusSession.steps, steps, done]
        rfl
      · rw [List.map_cons, BusSession.emissions, visits, List.flatMap_cons, told,
          ← BusSession.emissions, emissions]
        rfl

/-! ### All that was put on the bus -/

/-- The events emitted grow by those of the command, at their end. -/
theorem emitted_perform (session : BusSession) (command : Command) :
    (session.perform command).1.bus.emitted =
      session.bus.emitted ++ Visit.emitted ⟨session, command⟩ := by
  by_cases emits : ∃ event, command = .emit event
  · obtain ⟨event, rfl⟩ := emits
    by_cases ownerless : session.bus.owners = 0
    · have same : session.perform (.emit event) = (session, .noBus) := if_pos ownerless
      have silent : Visit.emitted ⟨session, .emit event⟩ = [] := if_pos ownerless
      rw [same, silent, List.append_nil]
    · have told : Visit.emitted ⟨session, .emit event⟩ = [event] := if_neg ownerless
      rw [perform_emit ownerless, told]
      exact Bus.emitted_announce _ _
  · have quiet (event : Event) : command ≠ .emit event := fun same => emits ⟨event, same⟩
    obtain ⟨subscribers, owners, same⟩ := session.bus_perform quiet
    rw [same, emitted_of_quiet quiet, List.append_nil]

/-- All that was put on a bus is what its steps put there. -/
theorem emitted_steps (session : BusSession) (commands : List Command) :
    (session.steps commands).bus.emitted = session.bus.emitted ++ session.emissions commands := by
  induction commands generalizing session with
  | nil => exact (List.append_nil _).symm
  | cons command commands ih =>
      have later := ih (session.perform command).1
      rw [emitted_perform, List.append_assoc] at later
      exact later

/-- A stream that is not there comes by a subscription only. -/
theorem find?_perform_of_absent {name : String} (absent : session.streams.find? name = none)
    {command : Command} (other : ∀ filters, command ≠ .subscribe name filters) :
    (session.perform command).1.streams.find? name = none := by
  have untouched (read : Stream → Answer × Stream) :
      (session.reading name read).1.streams.find? name = none := by
    rw [reading, absent]
    exact absent
  by_cases ends : command.ends? = some name
  · rcases Command.ends?_eq_some_iff.mp ends with ⟨filters, same⟩ | rfl
    · exact absurd same (other filters)
    · rw [perform, Table.contains, absent, Option.isSome_none, if_neg Bool.false_ne_true]
      exact absent
  · by_cases reads : command.reader? = some name
    · rcases Command.reader?_eq_some_iff.mp reads with rfl | rfl | rfl
      · exact untouched _
      · exact untouched _
      · exact untouched _
    · rw [session.find?_perform_of_spares ⟨reads, ends⟩]
      exact absent

/-- While a stream is spared, what is put on the bus joins its backlog. -/
theorem Follows.spared_steps {name : String} {stream : Stream} {backlog : List Event}
    (sound : session.Sound) (follows : session.Follows name stream backlog)
    {commands : List Command} (spared : ∀ command ∈ commands, command.Spares name) :
    (session.steps commands).Follows name stream (backlog ++ session.emissions commands) := by
  induction commands generalizing session backlog with
  | nil =>
      rw [emissions, visits, List.flatMap_nil, List.append_nil]
      exact follows
  | cons command commands ih =>
      obtain ⟨here, others⟩ := List.forall_mem_cons.mp spared
      have later := ih (sound.perform command) (follows.spared sound here) others
      rw [List.append_assoc] at later
      exact later

/-- A spared stream stays as it is. -/
theorem find?_steps_of_spared (session : BusSession) {name : String} {commands : List Command}
    (spared : ∀ command ∈ commands, command.Spares name) :
    (session.steps commands).streams.find? name = session.streams.find? name := by
  induction commands generalizing session with
  | nil => rfl
  | cons command commands ih =>
      obtain ⟨here, others⟩ := List.forall_mem_cons.mp spared
      exact (ih _ others).trans (session.find?_perform_of_spares here)

/-- Each stream has a backlog, which is the end of all that was put on the bus. -/
def Attended (session : BusSession) : Prop :=
  ∀ name stream, session.streams.find? name = some stream →
    ∃ backlog, session.Follows name stream backlog ∧ backlog <:+ session.bus.emitted

/-- A new subscriber is followed from the end of what was emitted. -/
theorem Attended.subscribe (attended : session.Attended) (sound : session.Sound) {name : String}
    {filters : List EventFilter} {stream : Stream}
    (found : (session.perform (.subscribe name filters)).1.streams.find? name = some stream) :
    ∃ backlog, (session.perform (.subscribe name filters)).1.Follows name stream backlog ∧
      backlog <:+ (session.perform (.subscribe name filters)).1.bus.emitted := by
  by_cases ownerless : session.bus.owners = 0
  · have same : session.perform (.subscribe name filters) = (session, .noBus) := if_pos ownerless
    rw [same] at found ⊢
    exact attended name stream found
  · have follows := Follows.subscribe sound ownerless name filters
    obtain rfl := Option.some.inj (follows.found.symm.trans found)
    exact ⟨[], follows, List.nil_suffix⟩

/-- Every step leaves each stream the end of what was put on the bus. -/
theorem Attended.perform (attended : session.Attended) (sound : session.Sound)
    (command : Command) : (session.perform command).1.Attended := by
  intro name next found
  by_cases subscribes : ∃ filters, command = .subscribe name filters
  · obtain ⟨filters, rfl⟩ := subscribes
    exact attended.subscribe sound found
  · have other (filters : List EventFilter) : command ≠ .subscribe name filters :=
      fun same => subscribes ⟨filters, same⟩
    -- Only a subscription brings a stream, so this one was there before.
    cases present : session.streams.find? name with
    | none => cases (find?_perform_of_absent present other).symm.trans found
    | some stream =>
        have lives : command.ends? ≠ some name := by
          intro ends
          rcases Command.ends?_eq_some_iff.mp ends with ⟨filters, same⟩ | rfl
          · exact other filters same
          · rw [BusSession.perform, Table.contains, present, Option.isSome_some, if_pos rfl] at found
            cases ((Table.find?_erase _ _ _).trans (if_pos rfl)).symm.trans found
        obtain ⟨backlog, follows, before, split⟩ := attended name stream present
        obtain ⟨last, left, stretches, serves⟩ := follows.perform sound lives
        obtain rfl := Option.some.inj (serves.follows.found.symm.trans found)
        refine ⟨left, serves.follows, before ++ stretches.flatMap Stretch.events, ?_⟩
        rw [emitted_perform, ← split, List.append_assoc, List.append_assoc, serves.reads.split]

/-- Over every run each stream that is found is owed an end of what was emitted. -/
theorem Attended.steps (attended : session.Attended) (sound : session.Sound)
    (commands : List Command) : (session.steps commands).Attended := by
  induction commands generalizing session with
  | nil => exact attended
  | cons command commands ih => exact ih (attended.perform sound command) (sound.perform command)

/-- A new session has no streams. -/
theorem Attended.of_new {capacity : Nat} (opened : new capacity = .ok session) :
    session.Attended := by
  intro name stream found
  rw [new] at opened
  split at opened
  · cases opened
  · cases opened
    cases found

end BusSession

end HostBridge
