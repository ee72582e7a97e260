import HostBridge.Event.Bus
import Mathlib.Data.List.DropRight
import Mathlib.Data.List.Infix

/-!
# The backlog of a stream

The backlog of a stream is what was put on the bus since the stream was there and what it has not
come to yet.  The bus keeps only the end of a long backlog.

Main statements: what a stream finds next depends on its backlog only (`receive_eq_nextItem`), a
drain finds all that the bus still keeps of it (`drain_eq_drained`), and a reader that waits is
given what one that does not wait would find (`await_eq_receive`).
-/

namespace HostBridge

open List (rtake)

/-- A bus keeps no more events than it has room for, and none but those that it accepted. -/
structure Bus.Sound (bus : Bus) : Prop where
  fits : bus.kept.length ≤ bus.capacity
  counted : bus.kept.length ≤ bus.tail

/-- The backlog of a stream: it reaches to the end of the sequence of events, and its last events,
as many as the bus has room for, are the last that are kept. -/
structure Bus.Owes (bus : Bus) (stream : Stream) (backlog : List Event) : Prop
    extends bus.Sound where
  reaches : stream.position + backlog.length = bus.tail
  keeps : rtake backlog bus.capacity <:+ bus.kept

/-- The stream, further on in the sequence of events. -/
def Stream.forward (stream : Stream) (count : Nat) : Stream :=
  { stream with position := stream.position + count }

theorem Stream.forward_forward (stream : Stream) (first second : Nat) :
    (stream.forward first).forward second = stream.forward (first + second) := by
  rw [forward, forward, forward, Nat.add_assoc]

@[simp] theorem Stream.accepts_forward (stream : Stream) (count : Nat) :
    (stream.forward count).accepts = stream.accepts := rfl

/-! ### What becomes of a backlog -/

theorem length_rtake {α : Type} (l : List α) (n : Nat) : (rtake l n).length = min n l.length := by
  rw [rtake, List.length_drop]
  omega

theorem length_rtake_le {α : Type} (l : List α) (n : Nat) : (rtake l n).length ≤ n :=
  (length_rtake l n).trans_le (Nat.min_le_left _ _)

theorem rtake_of_short {α : Type} {l : List α} {n : Nat} (short : l.length ≤ n) :
    rtake l n = l := by
  rw [rtake, Nat.sub_eq_zero_of_le short, List.drop_zero]

theorem length_take_sub {α : Type} (l : List α) (n : Nat) :
    (l.take (l.length - n)).length = l.length - n := by
  rw [List.length_take]
  omega

/-- A suffix that fits is a suffix of what is kept. -/
theorem suffix_rtake {α : Type} {tail whole : List α} {n : Nat} (suffix : tail <:+ whole)
    (short : tail.length ≤ n) : tail <:+ rtake whole n := by
  have bound := suffix.length_le
  have long : tail.length ≤ (rtake whole n).length := by
    rw [length_rtake]
    omega
  exact List.suffix_of_suffix_length_le suffix (List.drop_suffix _ _) long

namespace Bus

variable {bus : Bus}

/-- A new bus is sound: it keeps nothing and has published nothing. -/
theorem Sound.new (capacity : Nat) : (new capacity).Sound :=
  ⟨Nat.zero_le _, Nat.zero_le _⟩

/-- With a listener the event is kept, the oldest kept event is dropped past the capacity, and the
tail moves by one. -/
theorem emit_of_listened (listened : bus.subscribers ≠ 0) (event : Event) :
    (bus.emit event).1 =
      { bus with
        kept := rtake (bus.kept ++ [event]) bus.capacity
        tail := bus.tail + 1
        emitted := bus.emitted ++ [event] } := by
  rw [Bus.emit, if_neg listened]
  rfl

/-- With no listener an event is only noted as emitted. -/
theorem emit_of_unheard (unheard : bus.subscribers = 0) (event : Event) :
    (bus.emit event).1 = { bus with emitted := bus.emitted ++ [event] } := by
  rw [Bus.emit, if_pos unheard]

theorem Sound.emit (sound : bus.Sound) (event : Event) : (bus.emit event).1.Sound := by
  by_cases unheard : bus.subscribers = 0
  · rw [emit_of_unheard unheard]
    exact ⟨sound.fits, sound.counted⟩
  · have counted := sound.counted
    rw [emit_of_listened unheard]
    constructor
    · exact length_rtake_le _ _
    · simp only [length_rtake, List.length_append, List.length_singleton]
      omega

/-- A new subscriber is owed nothing. -/
theorem Owes.subscribe (sound : bus.Sound) : (bus.subscribe).1.Owes (bus.subscribe).2 [] :=
  ⟨⟨sound.fits, sound.counted⟩, rfl, by
    rw [List.rtake_nil]
    exact List.nil_suffix⟩

variable {stream : Stream} {backlog : List Event}

/-- A backlog speaks of the events, whoever is subscribed and whatever the filter. -/
theorem Owes.of_same (owes : bus.Owes stream backlog) {other : Bus} {viewer : Stream}
    (capacity : other.capacity = bus.capacity) (kept : other.kept = bus.kept)
    (tail : other.tail = bus.tail) (position : viewer.position = stream.position) :
    other.Owes viewer backlog := by
  obtain ⟨⟨fits, counted⟩, reaches, keeps⟩ := owes
  rw [← capacity, ← kept] at fits
  rw [← kept, ← tail] at counted
  rw [← position, ← tail] at reaches
  rw [← capacity, ← kept] at keeps
  exact ⟨⟨fits, counted⟩, reaches, keeps⟩

/-- Every listener is owed an event as soon as it is emitted. -/
theorem Owes.emit (owes : bus.Owes stream backlog) (listened : bus.subscribers ≠ 0)
    (event : Event) : (bus.emit event).1.Owes stream (backlog ++ [event]) := by
  have sound := owes.toSound.emit event
  rw [emit_of_listened listened] at sound ⊢
  refine ⟨sound, ?_, ?_⟩
  · rw [List.length_append, List.length_singleton, ← Nat.add_assoc, owes.reaches]
  · have grown : rtake (backlog ++ [event]) bus.capacity <:+ bus.kept ++ [event] := by
      cases room : bus.capacity with
      | zero =>
          rw [List.rtake_zero]
          exact List.nil_suffix
      | succ n =>
          have keeps := owes.keeps
          rw [room] at keeps
          have shorter : rtake backlog n <:+ rtake backlog (n + 1) := by
            apply suffix_rtake (List.drop_suffix _ _)
            exact (length_rtake_le backlog n).trans (Nat.le_succ n)
          obtain ⟨before, split⟩ := shorter.trans keeps
          rw [List.rtake_concat_succ, ← split, List.append_assoc]
          exact List.suffix_append _ _
    exact suffix_rtake grown (length_rtake_le _ _)

/-- A stream that moved past a part of its backlog is owed the rest. -/
theorem Owes.forward {passed : List Event} (owes : bus.Owes stream (passed ++ backlog)) :
    bus.Owes (stream.forward passed.length) backlog := by
  refine ⟨owes.toSound, ?_, ?_⟩
  · rw [← owes.reaches, List.length_append, ← Nat.add_assoc]
    rfl
  · have suffix : rtake backlog bus.capacity <:+ passed ++ backlog :=
      (List.drop_suffix _ _).trans (List.suffix_append _ _)
    exact (suffix_rtake suffix (length_rtake_le _ _)).trans owes.keeps

/-- A stream that took one event is owed the rest. -/
theorem Owes.tail {event : Event} (owes : bus.Owes stream (event :: backlog)) :
    bus.Owes (stream.forward 1) backlog := by
  rw [← List.singleton_append] at owes
  exact owes.forward

end Bus

namespace Stream

variable {bus : Bus} {stream : Stream} {backlog hidden rest : List Event} {event : Event}

/-! ### One poll -/

/-- A stream owed more than the bus keeps is told by how much it lags, and skips exactly that many.
-/
theorem poll_of_behind (owes : bus.Owes stream backlog)
    (behind : bus.capacity < backlog.length) :
    stream.poll bus =
      (some (.report (.lagged (backlog.length - bus.capacity))),
        stream.forward (backlog.length - bus.capacity)) := by
  have reaches := owes.reaches
  have next : bus.tail - bus.capacity = stream.position + (backlog.length - bus.capacity) := by
    omega
  rw [poll, if_pos (by omega)]
  dsimp only
  rw [next, Nat.add_sub_cancel_left, forward]

/-- The event at the position of a stream that is near is the first it is owed. -/
theorem eventAt?_position (owes : bus.Owes stream backlog)
    (near : backlog.length ≤ bus.capacity) : bus.eventAt? stream.position = backlog.head? := by
  have reaches := owes.reaches
  have counted := owes.counted
  have keeps := owes.keeps
  rw [rtake_of_short near] at keeps
  obtain ⟨older, split⟩ := keeps
  have length : older.length + backlog.length = bus.kept.length := by
    rw [← split, List.length_append]
  have index : stream.position - bus.oldest = older.length := by
    rw [Bus.oldest]
    omega
  have reached : ¬ stream.position < bus.oldest := by
    rw [Bus.oldest]
    omega
  rw [Bus.eventAt?, if_neg reached, index, ← split,
    List.getElem?_append_right (Nat.le_refl older.length), Nat.sub_self, List.head?_eq_getElem?]

/-- A stream that is near takes the first event it is owed. -/
theorem poll_of_cons (owes : bus.Owes stream (event :: rest))
    (near : (event :: rest).length ≤ bus.capacity) :
    stream.poll bus = (some (.event event), stream.forward 1) := by
  have reaches := owes.reaches
  rw [poll, if_neg (by omega), eventAt?_position owes near]
  rfl

/-- A stream owed nothing waits, unless no publisher is left. -/
theorem poll_of_nil (owes : bus.Owes stream []) :
    stream.poll bus = (if bus.owners = 0 then some (.report .closed) else none, stream) := by
  have reaches := owes.reaches
  rw [List.length_nil] at reaches
  rw [poll, if_neg (by omega), eventAt?_position owes (Nat.zero_le _)]
  rfl

/-! ### One receipt -/

/-- Events that do not pass the filter are skipped one by one. -/
theorem receiveWith_append (fuel : Nat) (owes : bus.Owes stream (hidden ++ rest))
    (near : (hidden ++ rest).length ≤ bus.capacity)
    (refused : ∀ event ∈ hidden, stream.accepts event = false) :
    receiveWith (hidden.length + fuel) bus stream =
      receiveWith fuel bus (stream.forward hidden.length) := by
  induction hidden generalizing stream with
  | nil => rw [List.length_nil, Nat.zero_add, forward, Nat.add_zero]
  | cons event hidden ih =>
      obtain ⟨here, others⟩ := List.forall_mem_cons.mp refused
      have onward : bus.Owes (stream.forward 1) (hidden ++ rest) := owes.tail
      have nearer : (hidden ++ rest).length ≤ bus.capacity := (Nat.le_succ _).trans near
      rw [List.length_cons, Nat.add_right_comm, receiveWith, poll_of_cons owes near]
      dsimp only
      rw [accepts_forward, if_neg (Bool.eq_false_iff.mp here), ih onward nearer others,
        forward_forward, Nat.add_comm 1]

/-- A stream that lags is told so before it is given any event. -/
theorem receive_of_behind (owes : bus.Owes stream backlog)
    (behind : bus.capacity < backlog.length) :
    stream.receive bus =
      (some (.report (.lagged (backlog.length - bus.capacity))),
        stream.forward (backlog.length - bus.capacity)) := by
  rw [receive, receiveWith, poll_of_behind owes behind]

/-- A stream that accepts nothing it is owed passes it all by and then waits. -/
theorem receive_of_refused (owes : bus.Owes stream backlog)
    (near : backlog.length ≤ bus.capacity)
    (refused : ∀ event ∈ backlog, stream.accepts event = false) :
    stream.receive bus =
      (if bus.owners = 0 then some (.report .closed) else none,
        stream.forward backlog.length) := by
  have fuel : bus.tail - stream.position + 2 = backlog.length + 2 := by
    rw [← owes.reaches, Nat.add_sub_cancel_left]
  rw [← List.append_nil backlog] at owes near
  rw [receive, fuel, receiveWith_append 2 owes near refused, receiveWith,
    poll_of_nil owes.forward]
  by_cases ended : bus.owners = 0
  · rw [if_pos ended]
  · rw [if_neg ended]

/-- A stream is given the first event it accepts, and passes by those before it. -/
theorem receive_of_accepted (owes : bus.Owes stream (hidden ++ event :: rest))
    (near : (hidden ++ event :: rest).length ≤ bus.capacity)
    (refused : ∀ event ∈ hidden, stream.accepts event = false)
    (accepted : stream.accepts event = true) :
    stream.receive bus = (some (.event event), stream.forward (hidden.length + 1)) := by
  have fuel : bus.tail - stream.position + 2 = hidden.length + (rest.length + 2 + 1) := by
    rw [← owes.reaches, Nat.add_sub_cancel_left, List.length_append, List.length_cons]
    omega
  have nearer : (event :: rest).length ≤ bus.capacity := by
    rw [List.length_append] at near
    omega
  rw [receive, fuel, receiveWith_append _ owes near refused, receiveWith,
    poll_of_cons owes.forward nearer]
  dsimp only
  rw [accepts_forward, accepts_forward, if_pos accepted, forward_forward]

end Stream

/-- What a stream with a backlog finds next on a bus. -/
def Bus.nextItem (bus : Bus) (accepts : Event → Bool) (backlog : List Event) :
    Option StreamItem :=
  if bus.capacity < backlog.length then
    some (.report (.lagged (backlog.length - bus.capacity)))
  else
    match backlog.find? accepts with
    | some event => some (.event event)
    | none => if bus.owners = 0 then some (.report .closed) else none

/-- What a stream with a backlog finds on a bus until nothing is left. -/
def Bus.drained (bus : Bus) (accepts : Event → Bool) (backlog : List Event) : List StreamItem :=
  (if bus.capacity < backlog.length then
      [.report (.lagged (backlog.length - bus.capacity))] else []) ++
    ((rtake backlog bus.capacity).filter accepts).map .event ++
    (if bus.owners = 0 then [.report .closed] else [])

namespace Stream

variable {bus : Bus} {stream : Stream} {backlog : List Event}

/-- Within the room of the bus the rest of a backlog holds nothing that passes the filter, or it is
skipped up to the first event that does. -/
theorem refused_or_accepted (stream : Stream) (backlog : List Event) :
    (backlog.find? stream.accepts = none ∧ ∀ event ∈ backlog, stream.accepts event = false) ∨
      ∃ hidden event rest, backlog = hidden ++ event :: rest ∧
        backlog.find? stream.accepts = some event ∧ stream.accepts event = true ∧
          ∀ event ∈ hidden, stream.accepts event = false := by
  cases found : backlog.find? stream.accepts with
  | none =>
      refine .inl ⟨rfl, fun event listed => ?_⟩
      exact Bool.eq_false_iff.mpr (List.find?_eq_none.mp found event listed)
  | some event =>
      obtain ⟨accepted, hidden, rest, split, refused⟩ := List.find?_eq_some_iff_append.mp found
      refine .inr ⟨hidden, event, rest, split, rfl, accepted, fun event listed => ?_⟩
      have refused := refused event listed
      rwa [Bool.not_eq_true'] at refused

/-- Nothing is left of events that are all refused. -/
theorem filter_of_refused {events : List Event}
    (refused : ∀ event ∈ events, stream.accepts event = false) :
    events.filter stream.accepts = [] :=
  List.filter_eq_nil_iff.mpr fun event listed => Bool.eq_false_iff.mp (refused event listed)

/-- What a stream finds next depends on its backlog only. -/
theorem receive_eq_nextItem (owes : bus.Owes stream backlog) :
    (stream.receive bus).1 = bus.nextItem stream.accepts backlog := by
  by_cases behind : bus.capacity < backlog.length
  · rw [receive_of_behind owes behind, Bus.nextItem, if_pos behind]
  · have near := Nat.le_of_not_lt behind
    rw [Bus.nextItem, if_neg behind]
    rcases stream.refused_or_accepted backlog with ⟨found, refused⟩ |
      ⟨hidden, event, rest, rfl, found, accepted, refused⟩
    · rw [receive_of_refused owes near refused, found]
    · rw [receive_of_accepted owes near refused accepted, found]

/-- A reader that waits is given what one that does not wait would find, and waits on where that one
would find nothing. -/
theorem await_eq_receive (bus : Bus) (stream : Stream) :
    (stream.receive bus).1 = (stream.await bus).1.map StreamItem.ofAwaited ∧
      (stream.receive bus).2 = (stream.await bus).2 := by
  rw [receive, await]
  induction bus.tail - stream.position + 2 generalizing stream with
  | zero => exact ⟨rfl, rfl⟩
  | succ fuel ih =>
      rw [receiveWith, awaitWith]
      rcases stream.poll bus with ⟨_ | event | report, next⟩
      · exact ⟨rfl, rfl⟩
      · by_cases accepted : next.accepts event = true
        · dsimp only
          rw [if_pos accepted, if_pos accepted]
          exact ⟨rfl, rfl⟩
        · dsimp only
          rw [if_neg accepted, if_neg accepted]
          exact ih next
      · exact ⟨rfl, rfl⟩

/-! ### A drain -/

/-- Draining a stream that is near gives every accepted event it is owed, in order, and leaves it
owed nothing. -/
theorem drainWith_of_near {fuel : Nat} (enough : backlog.length < fuel)
    (owes : bus.Owes stream backlog) (near : backlog.length ≤ bus.capacity) :
    drainWith fuel bus stream =
      ((backlog.filter stream.accepts).map .event ++
          (if bus.owners = 0 then [.report .closed] else []),
        stream.forward backlog.length) := by
  induction fuel generalizing stream backlog with
  | zero => exact absurd enough (Nat.not_lt_zero _)
  | succ fuel ih =>
      rcases stream.refused_or_accepted backlog with ⟨found, refused⟩ |
        ⟨hidden, event, rest, rfl, found, accepted, refused⟩
      · rw [drainWith, receive_of_refused owes near refused, filter_of_refused refused]
        by_cases ended : bus.owners = 0
        · rw [if_pos ended, if_pos ended]
          rfl
        · rw [if_neg ended, if_neg ended]
          rfl
      · have regrouped : hidden ++ event :: rest = (hidden ++ [event]) ++ rest := by
          rw [List.append_assoc, List.singleton_append]
        have passed : (hidden ++ [event]).length = hidden.length + 1 := by
          rw [List.length_append, List.length_singleton]
        have onward : bus.Owes (stream.forward (hidden.length + 1)) rest := by
          rw [regrouped] at owes
          rw [← passed]
          exact owes.forward
        have length : (hidden ++ event :: rest).length = hidden.length + 1 + rest.length := by
          rw [regrouped, List.length_append, passed]
        rw [drainWith, receive_of_accepted owes near refused accepted, length]
        dsimp only
        rw [ih (by omega) onward (by omega), accepts_forward, forward_forward, List.filter_append,
          filter_of_refused refused, List.nil_append, List.filter_cons_of_pos accepted,
          List.map_cons, List.cons_append]

/-- A drain finds all that the bus still keeps of a backlog. -/
theorem drain_eq_drained (owes : bus.Owes stream backlog) :
    stream.drain bus = (bus.drained stream.accepts backlog, stream.forward backlog.length) := by
  have fuel : bus.tail - stream.position + 3 = backlog.length + 2 + 1 := by
    rw [← owes.reaches, Nat.add_sub_cancel_left]
  rw [drain, fuel, Bus.drained]
  by_cases behind : bus.capacity < backlog.length
  · have split : backlog = backlog.take (backlog.length - bus.capacity) ++
        rtake backlog bus.capacity := (List.take_append_drop _ _).symm
    have passed := length_take_sub backlog bus.capacity
    have onward : bus.Owes (stream.forward (backlog.length - bus.capacity))
        (rtake backlog bus.capacity) := by
      rw [split] at owes
      rw [← passed]
      exact owes.forward
    have left := length_rtake backlog bus.capacity
    rw [drainWith, receive_of_behind owes behind]
    dsimp only
    rw [drainWith_of_near (by omega) onward (by omega), accepts_forward, forward_forward, left,
      if_pos behind]
    have all : backlog.length - bus.capacity + min bus.capacity backlog.length =
        backlog.length := by omega
    rw [all, List.singleton_append, List.cons_append]
  · have near := Nat.le_of_not_lt behind
    rw [drainWith_of_near (by omega) owes near, if_neg behind, rtake_of_short near,
      List.nil_append]

end Stream

end HostBridge
