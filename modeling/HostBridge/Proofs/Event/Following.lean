import HostBridge.Event.Session
import HostBridge.Proofs.Event.Stretch
import HostBridge.Proofs.Table

/-!
# Streams in a session

A stream that is neither dropped nor replaced follows the bus: whatever is put on the bus joins its
backlog, and it goes through the backlog when it is read and at no other time.

Main statements: every step keeps a session sound (`Sound.perform`), and says of each stream that
lives on what it went through (`Follows.perform`).
-/

namespace HostBridge.BusSession

/-- The stream that a step reads from. -/
def Command.reader? : Command → Option String
  | .receive name => some name
  | .await name => some name
  | .drain name => some name
  | _ => none

/-- A stream is read by receiving, awaiting or draining. -/
theorem Command.reader?_eq_some_iff {command : Command} {name : String} :
    command.reader? = some name ↔
      command = .receive name ∨ command = .await name ∨ command = .drain name := by
  cases command <;> simp [Command.reader?]

/-- What an answer hands out. -/
def Answer.items : Answer → List StreamItem
  | .received item => item.toList
  | .drained items => items
  | _ => []

/-- A step on a session. -/
structure Visit where
  before : BusSession
  command : Command

namespace Visit

def after (visit : Visit) : BusSession := (visit.before.perform visit.command).1

def answer (visit : Visit) : Answer := (visit.before.perform visit.command).2

/-- The event that a step put on the bus. -/
def emitted (visit : Visit) : List Event :=
  match visit.command with
  | .emit event => if visit.before.bus.owners = 0 then [] else [event]
  | _ => []

/-- What a step gave the reader of a stream. -/
def given (name : String) (visit : Visit) : List StreamItem :=
  if visit.command.reader? = some name then visit.answer.items else []

end Visit

/-- The stream whose life a step ends, by dropping it or by putting another one in its place. -/
def Command.ends? : Command → Option String
  | .subscribe name _ => some name
  | .dropStream name => some name
  | _ => none

/-- A stream ends by being dropped, or by a new subscription under its name. -/
theorem Command.ends?_eq_some_iff {command : Command} {name : String} :
    command.ends? = some name ↔
      (∃ filters, command = .subscribe name filters) ∨ command = .dropStream name := by
  cases command <;> simp [Command.ends?]

/-- A step that neither reads from a stream nor ends its life. -/
structure Command.Spares (command : Command) (name : String) : Prop where
  reader : command.reader? ≠ some name
  ends : command.ends? ≠ some name

/-- The subscribers are the streams. -/
structure Sound (session : BusSession) : Prop where
  bus : session.bus.Sound
  counted : session.bus.subscribers = session.streams.size

/-- A new session is sound. -/
theorem Sound.of_new {capacity : Nat} {session : BusSession} (opened : new capacity = .ok session) :
    session.Sound := by
  unfold new at opened
  split at opened
  · cases opened
  · cases opened
    exact ⟨Bus.Sound.new capacity, rfl⟩

/-- A stream with a filter is there, and it has a backlog. -/
structure Follows (session : BusSession) (name : String) (stream : Stream)
    (backlog : List Event) : Prop where
  found : session.streams.find? name = some stream
  owes : session.bus.Owes stream backlog

variable {session : BusSession} {name : String} {stream : Stream} {backlog : List Event}

theorem Sound.owned (sound : session.Sound) {use : BusSession × Answer} (used : use.1.Sound) :
    (session.owned use).1.Sound := by
  unfold BusSession.owned
  split
  · exact sound
  · exact used

theorem Sound.reading (sound : session.Sound) (name : String) (read : Stream → Answer × Stream) :
    (session.reading name read).1.Sound := by
  unfold BusSession.reading
  split
  · exact sound
  next stream found =>
    refine ⟨sound.bus, ?_⟩
    exact sound.counted.trans (Table.size_insert_of_present _ _ found).symm

theorem Sound.subscribe (sound : session.Sound) (name : String) (filters : List EventFilter) :
    (session.perform (.subscribe name filters)).1.Sound := by
  refine sound.owned ?_
  dsimp only [Bus.subscribe]
  cases found : session.streams.find? name with
  | none =>
      rw [Table.contains, found, Option.isSome_none, if_neg Bool.false_ne_true]
      refine ⟨⟨sound.bus.fits, sound.bus.counted⟩, ?_⟩
      dsimp only
      rw [sound.counted, Table.size_insert_of_absent _ _ found]
  | some stream =>
      rw [Table.contains, found, Option.isSome_some, if_pos rfl]
      refine ⟨⟨sound.bus.fits, sound.bus.counted⟩, ?_⟩
      dsimp only [Bus.removeSubscriber]
      rw [sound.counted, Table.size_insert_of_present _ _ found, Nat.add_sub_cancel]

theorem Sound.emit (sound : session.Sound) (event : Event) :
    (session.perform (.emit event)).1.Sound := by
  refine sound.owned ?_
  have bus := sound.bus.emit event
  have same : (session.bus.emit event).1.subscribers = session.bus.subscribers := by
    unfold Bus.emit
    dsimp only
    split
    · rfl
    · rfl
  rcases emitted : session.bus.emit event with ⟨bus', _ | _⟩
  · rw [emitted] at bus same
    exact ⟨bus, same.trans sound.counted⟩
  · rw [emitted] at bus same
    exact ⟨bus, same.trans sound.counted⟩

theorem Sound.dropStream (sound : session.Sound) (name : String) :
    (session.perform (.dropStream name)).1.Sound := by
  unfold perform
  cases found : session.streams.find? name with
  | none =>
      dsimp only
      rw [Table.contains, found, Option.isSome_none, if_neg Bool.false_ne_true]
      exact sound
  | some stream =>
      dsimp only
      rw [Table.contains, found, Option.isSome_some, if_pos rfl]
      refine ⟨⟨sound.bus.fits, sound.bus.counted⟩, ?_⟩
      dsimp only [Bus.removeSubscriber]
      rw [sound.counted, Table.size_erase_of_present _ found]

/-- Every step keeps a session sound. -/
theorem Sound.perform (sound : session.Sound) (command : Command) :
    (session.perform command).1.Sound := by
  cases command with
  | addOwner =>
      unfold BusSession.perform
      dsimp only
      split
      · exact sound
      · exact ⟨⟨sound.bus.fits, sound.bus.counted⟩, sound.counted⟩
  | removeOwner => exact ⟨⟨sound.bus.fits, sound.bus.counted⟩, sound.counted⟩
  | subscribe name filters => exact sound.subscribe name filters
  | emit event => exact sound.emit event
  | count => exact sound.owned sound
  | shown => exact sound.owned sound
  | receive name => exact sound.reading name _
  | await name => exact sound.reading name _
  | drain name => exact sound.reading name _
  | dropStream name => exact sound.dropStream name
  | streamShown name =>
      unfold BusSession.perform
      dsimp only
      split
      · exact sound
      · exact sound

/-! ### A stream that lives on -/

/-- A session that a stream follows has a subscriber on its bus. -/
theorem Sound.heard (sound : session.Sound) (follows : session.Follows name stream backlog) :
    session.bus.subscribers ≠ 0 := by
  have listed := (Table.mem_entries_iff _ _ _).mpr follows.found
  rw [sound.counted]
  exact Nat.ne_of_gt (List.length_pos_of_mem listed)

/-- What a step did with a stream: from its backlog, which what was put on the bus has joined, to
what is left of it. -/
structure Serves (visit : Visit) (name : String) (stream : Stream) (backlog : List Event)
    (next : Stream) (left : List Event) (stretches : List Stretch) : Prop where
  follows : visit.after.Follows name next left
  filter : next.filter = stream.filter
  reads : stream.Reads next (backlog ++ visit.emitted) left (visit.given name) stretches

/-- Asking a question of a publisher changes nothing. -/
theorem fst_owned_same (answer : Answer) : (session.owned (session, answer)).1 = session := by
  unfold BusSession.owned
  split
  · rfl
  · rfl

theorem bus_reading (reader : String) (read : Stream → Answer × Stream) :
    (session.reading reader read).1.bus = session.bus := by
  unfold BusSession.reading
  split
  · rfl
  · rfl

/-- Only an emission changes what the bus keeps. -/
theorem bus_perform (session : BusSession) {command : Command}
    (quiet : ∀ event, command ≠ .emit event) : ∃ subscribers owners,
      (session.perform command).1.bus =
        { session.bus with subscribers := subscribers, owners := owners } := by
  cases command with
  | addOwner =>
      rw [perform]
      dsimp only
      split
      · exact ⟨_, _, rfl⟩
      · exact ⟨_, _, rfl⟩
  | removeOwner => exact ⟨_, _, rfl⟩
  | subscribe name filters =>
      rw [perform, owned]
      dsimp only
      split
      · exact ⟨_, _, rfl⟩
      · split
        · exact ⟨_, _, rfl⟩
        · exact ⟨_, _, rfl⟩
  | emit event => exact absurd rfl (quiet event)
  | count => exact ⟨_, _, congrArg BusSession.bus (fst_owned_same _)⟩
  | shown => exact ⟨_, _, congrArg BusSession.bus (fst_owned_same _)⟩
  | receive name => exact ⟨_, _, bus_reading _ _⟩
  | await name => exact ⟨_, _, bus_reading _ _⟩
  | drain name => exact ⟨_, _, bus_reading _ _⟩
  | dropStream name =>
      rw [perform]
      split
      · exact ⟨_, _, rfl⟩
      · exact ⟨_, _, rfl⟩
  | streamShown name =>
      rw [perform]
      split
      · exact ⟨_, _, rfl⟩
      · exact ⟨_, _, rfl⟩

/-- Only the command `emit` emits. -/
theorem emitted_of_quiet {command : Command} (quiet : ∀ event, command ≠ .emit event) :
    Visit.emitted ⟨session, command⟩ = [] := by
  unfold Visit.emitted
  split
  next event emits => exact absurd emits (quiet event)
  next => rfl

/-- A stream that a command without an emission leaves alone is owed what it was owed. -/
theorem Follows.of_quiet {command : Command} (follows : session.Follows name stream backlog)
    (quiet : ∀ event, command ≠ .emit event)
    (found : (session.perform command).1.streams.find? name = some stream) :
    (Visit.after ⟨session, command⟩).Follows name stream
      (backlog ++ Visit.emitted ⟨session, command⟩) := by
  obtain ⟨subscribers, owners, same⟩ := session.bus_perform quiet
  refine ⟨found, ?_⟩
  rw [Visit.after, same, emitted_of_quiet quiet, List.append_nil]
  exact follows.owes.of_same rfl rfl rfl rfl

/-- A stream is owed an emitted event after what it was owed before. -/
theorem Follows.emit (sound : session.Sound) (follows : session.Follows name stream backlog)
    (event : Event) :
    (Visit.after ⟨session, .emit event⟩).Follows name stream
      (backlog ++ Visit.emitted ⟨session, .emit event⟩) := by
  by_cases ownerless : session.bus.owners = 0
  · have same : session.perform (.emit event) = (session, .noBus) := if_pos ownerless
    have silent : Visit.emitted ⟨session, .emit event⟩ = [] := if_pos ownerless
    rw [silent, List.append_nil, Visit.after, same]
    exact follows
  · have heard := sound.heard follows
    have sent : (session.bus.emit event).2 = true := by
      rw [Bus.emit, if_neg heard]
    have done : session.perform (.emit event) =
        ({ session with bus := (session.bus.emit event).1 },
          .count (session.bus.emit event).1.subscribers) := by
      rw [BusSession.perform, BusSession.owned, if_neg ownerless]
      rcases emitted : session.bus.emit event with ⟨bus, _ | _⟩
      · rw [emitted] at sent
        cases sent
      · rfl
    have told : Visit.emitted ⟨session, .emit event⟩ = [event] := if_neg ownerless
    rw [told, Visit.after, done]
    exact ⟨follows.found, follows.owes.emit heard event⟩

/-- Reading from another stream. -/
theorem find?_reading_of_ne {reader : String} (read : Stream → Answer × Stream)
    (other : reader ≠ name) :
    (session.reading reader read).1.streams.find? name = session.streams.find? name := by
  unfold BusSession.reading
  split
  · rfl
  · exact Table.find?_insert_of_ne _ _ (Ne.symm other)

/-- Reading through a stream that is found moves that stream only. -/
theorem reading_of_found (follows : session.Follows name stream backlog)
    (read : Stream → Answer × Stream) :
    session.reading name read =
      ({ session with streams := session.streams.insert name (read stream).2 },
        (read stream).1) := by
  rw [BusSession.reading, follows.found]

theorem perform_receive (session : BusSession) (reader : String) :
    session.perform (.receive reader) =
      session.reading reader (fun stream => (stream.receive session.bus).map .received id) := rfl

theorem perform_await (session : BusSession) (reader : String) :
    session.perform (.await reader) =
      session.reading reader (fun stream => (stream.await session.bus).map awaited id) := rfl

theorem perform_drain (session : BusSession) (reader : String) :
    session.perform (.drain reader) =
      session.reading reader (fun stream => (stream.drain session.bus).map .drained id) := rfl

theorem items_awaited (given : Option (Except BusReport Event)) :
    (awaited given).items = (given.map StreamItem.ofAwaited).toList := by
  cases given <;> rfl

/-- Subscribing under one name leaves the streams of the other names. -/
theorem find?_subscribe_of_ne {reader : String} (other : reader ≠ name)
    (filters : List EventFilter) :
    (session.perform (.subscribe reader filters)).1.streams.find? name =
      session.streams.find? name := by
  rw [BusSession.perform, BusSession.owned]
  split
  · rfl
  · exact Table.find?_insert_of_ne _ _ (Ne.symm other)

theorem find?_dropStream_of_ne {reader : String} (other : reader ≠ name) :
    (session.perform (.dropStream reader)).1.streams.find? name =
      session.streams.find? name := by
  rw [BusSession.perform]
  split
  · exact (Table.find?_erase _ _ _).trans (if_neg (Ne.symm other))
  · rfl

/-- A spared stream stays as it is. -/
theorem find?_perform_of_spares (session : BusSession) {command : Command}
    (spares : command.Spares name) :
    (session.perform command).1.streams.find? name = session.streams.find? name := by
  cases command with
  | addOwner => rfl
  | removeOwner => rfl
  | subscribe reader filters =>
      exact find?_subscribe_of_ne (fun same => spares.ends (congrArg some same)) filters
  | emit event =>
      rw [BusSession.perform, BusSession.owned]
      split
      · rfl
      · rcases session.bus.emit event with ⟨bus, _ | _⟩
        · rfl
        · rfl
  | count => rw [BusSession.perform, fst_owned_same]
  | shown => rw [BusSession.perform, fst_owned_same]
  | receive reader =>
      exact find?_reading_of_ne _ (fun same => spares.reader (congrArg some same))
  | await reader =>
      exact find?_reading_of_ne _ (fun same => spares.reader (congrArg some same))
  | drain reader =>
      exact find?_reading_of_ne _ (fun same => spares.reader (congrArg some same))
  | dropStream reader =>
      exact find?_dropStream_of_ne (fun same => spares.ends (congrArg some same))
  | streamShown reader =>
      rw [BusSession.perform]
      split
      · rfl
      · rfl

/-- While a stream is spared, what is put on the bus joins its backlog. -/
theorem Follows.spared (sound : session.Sound) (follows : session.Follows name stream backlog)
    {command : Command} (spares : command.Spares name) :
    (Visit.after ⟨session, command⟩).Follows name stream
      (backlog ++ Visit.emitted ⟨session, command⟩) := by
  by_cases emits : ∃ event, command = .emit event
  · obtain ⟨event, rfl⟩ := emits
    exact follows.emit sound event
  · apply follows.of_quiet (fun event same => emits ⟨event, same⟩)
    rw [session.find?_perform_of_spares spares]
    exact follows.found

/-- A step that reads from a stream goes through the first part of its backlog. -/
theorem Follows.read {command : Command} {read : Stream → Answer × Stream}
    {left : List Event} {stretches : List Stretch}
    (follows : session.Follows name stream backlog)
    (performs : session.perform command = session.reading name read)
    (quiet : ∀ event, command ≠ .emit event) (reads : command.reader? = some name)
    (through : stream.Reads (read stream).2 backlog left (read stream).1.items stretches) :
    Serves ⟨session, command⟩ name stream backlog (read stream).2 left stretches := by
  have done := performs.trans (reading_of_found follows read)
  refine ⟨⟨?_, ?_⟩, ?_, ?_⟩
  · rw [Visit.after, done]
    exact Table.find?_insert_self _ _ _
  · rw [Visit.after, done]
    exact through.owes follows.owes
  · rw [through.next]
    rfl
  · rw [emitted_of_quiet quiet, List.append_nil, Visit.given, reads, if_pos rfl, Visit.answer,
      done]
    exact through

/-- Draining serves a stream all that it is owed, in stretches that account for every event. -/
theorem Follows.drain (follows : session.Follows name stream backlog) : ∃ stretches,
    Serves ⟨session, .drain name⟩ name stream backlog (stream.drain session.bus).2 []
      stretches := by
  obtain ⟨stretches, through⟩ := Stream.drain_reads follows.owes
  exact ⟨stretches, follows.read (perform_drain session name) nofun rfl through⟩

/-- Every step says what a stream that lives on went through. -/
theorem Follows.perform (sound : session.Sound) (follows : session.Follows name stream backlog)
    {command : Command} (lives : command.ends? ≠ some name) :
    ∃ next left stretches, Serves ⟨session, command⟩ name stream backlog next left stretches := by
  by_cases reads : command.reader? = some name
  · rcases Command.reader?_eq_some_iff.mp reads with rfl | rfl | rfl
    · obtain ⟨left, stretches, through⟩ := Stream.receive_reads follows.owes
      exact ⟨_, _, _, follows.read (perform_receive session name) nofun rfl through⟩
    · obtain ⟨left, stretches, through⟩ := Stream.receive_reads follows.owes
      obtain ⟨item, next⟩ := Stream.await_eq_receive session.bus stream
      rw [item, next, ← items_awaited] at through
      exact ⟨_, _, _, follows.read (perform_await session name) nofun rfl through⟩
    · obtain ⟨stretches, serves⟩ := follows.drain
      exact ⟨_, _, _, serves⟩
  · refine ⟨stream, _, [], follows.spared sound ⟨reads, lives⟩, rfl, ?_⟩
    rw [Visit.given, if_neg reads]
    exact .none stream _

end HostBridge.BusSession
