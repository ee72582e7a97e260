import HostBridge.Proofs.Event.Backlog
import Mathlib.Algebra.GroupWithZero.Nat

/-!
# What a stream does with its backlog

A stream goes through its backlog in stretches: an event that it comes to, or events that were gone
when it came to them.  What it hands out is told by its stretches and its filter, and how far it has
come is told by the stretches alone.

Main statements: a receipt and a drain each go through the first part of the backlog
(`receive_reads`, `drain_reads`), and the accounts of what was handed out follow from the stretches
(`Stretch.shown_event?`, `Stretch.shown_report?`, `Stretch.length_events`).
-/

namespace HostBridge

open List (rtake)

/-- What a stream did with a part of its backlog. -/
inductive Stretch where
  /-- It came to an event. -/
  | seen (event : Event)
  /-- It was told how many events are gone. -/
  | missed (events : List Event)
  /-- It was told that the bus has ended. -/
  | ended

/-- The event that was found, if it is one. -/
def StreamItem.event? : StreamItem → Option Event
  | .event found => some found
  | .report _ => none

/-- The report that was found, if it is one. -/
def StreamItem.report? : StreamItem → Option BusReport
  | .event _ => none
  | .report found => some found

/-- The number of events that a report says are gone. -/
def StreamItem.missed : StreamItem → Nat
  | .report (.lagged missed) => missed
  | _ => 0

/-- Whether a stream with a filter hands out what one without finds. -/
def StreamItem.passes (accepts : Event → Bool) : StreamItem → Bool
  | .event found => accepts found
  | .report _ => true

namespace Stretch

/-- The part of the backlog that a stretch goes through. -/
def events : Stretch → List Event
  | seen event => [event]
  | missed events => events
  | ended => []

/-- The event that a stretch comes to. -/
def seen? : Stretch → Option Event
  | seen event => some event
  | _ => none

/-- What a stretch tells about the bus. -/
def report? : Stretch → Option BusReport
  | seen _ => none
  | missed events => some (.lagged events.length)
  | ended => some .closed

/-- What is handed out for a stretch: an event if it passes the filter, a report in any case. -/
def shown (accepts : Event → Bool) : Stretch → Option StreamItem
  | seen event => if accepts event then some (.event event) else none
  | missed events => some (.report (.lagged events.length))
  | ended => some (.report .closed)

variable (accepts : Event → Bool) (stretches : List Stretch)

@[simp] theorem events_map_seen (events : List Event) :
    (events.map seen).flatMap Stretch.events = events := by
  induction events with
  | nil => rfl
  | cons event events ih => rw [List.map_cons, List.flatMap_cons, ih, Stretch.events,
      List.singleton_append]

@[simp] theorem shown_map_seen (events : List Event) :
    (events.map seen).filterMap (shown accepts) = (events.filter accepts).map .event := by
  induction events with
  | nil => rfl
  | cons event events ih =>
      rw [List.map_cons, List.filterMap_cons, shown, ih]
      by_cases accepted : accepts event = true
      · rw [if_pos accepted, List.filter_cons_of_pos accepted, List.map_cons]
      · rw [if_neg accepted, List.filter_cons_of_neg accepted]

/-- The events that are handed out are those that were come to and pass the filter. -/
theorem shown_event? :
    (stretches.filterMap (shown accepts)).filterMap StreamItem.event? =
      (stretches.filterMap seen?).filter accepts := by
  induction stretches with
  | nil => rfl
  | cons stretch stretches ih =>
      cases stretch with
      | seen event =>
          by_cases accepted : accepts event = true
          · simp [shown, seen?, StreamItem.event?, accepted, ih]
          · simp [shown, seen?, accepted, ih]
      | missed events => simpa [List.filterMap_cons, shown, seen?, StreamItem.event?] using ih
      | ended => simpa [List.filterMap_cons, shown, seen?, StreamItem.event?] using ih

/-- The reports that are handed out are all that there were. -/
theorem shown_report? :
    (stretches.filterMap (shown accepts)).filterMap StreamItem.report? =
      stretches.filterMap report? := by
  induction stretches with
  | nil => rfl
  | cons stretch stretches ih =>
      cases stretch with
      | seen event =>
          by_cases accepted : accepts event = true
          · simpa [List.filterMap_cons, shown, report?, StreamItem.report?, accepted] using ih
          · simpa [List.filterMap_cons, shown, report?, accepted] using ih
      | missed events => simpa [List.filterMap_cons, shown, report?, StreamItem.report?] using ih
      | ended => simpa [List.filterMap_cons, shown, report?, StreamItem.report?] using ih

/-- A stream has come as far as the events it came to and the events it was told are gone. -/
theorem length_events :
    (stretches.filterMap seen?).length +
        ((stretches.filterMap (shown accepts)).map StreamItem.missed).sum =
      (stretches.flatMap events).length := by
  induction stretches with
  | nil => rfl
  | cons stretch stretches ih =>
      rw [List.flatMap_cons, List.length_append, ← ih]
      cases stretch with
      | seen event =>
          by_cases accepted : accepts event = true
          · simp [shown, seen?, StreamItem.missed, Stretch.events, accepted]
            omega
          · simp [shown, seen?, Stretch.events, accepted]
            omega
      | missed events =>
          simp [List.filterMap_cons, shown, seen?, StreamItem.missed, Stretch.events]
          omega
      | ended => simp [List.filterMap_cons, shown, seen?, StreamItem.missed, Stretch.events]

end Stretch

/-- A stream goes through the first part of its backlog and hands out some items. -/
structure Stream.Reads (stream next : Stream) (backlog left : List Event)
    (items : List StreamItem) (stretches : List Stretch) : Prop where
  split : backlog = stretches.flatMap Stretch.events ++ left
  items : items = stretches.filterMap (Stretch.shown stream.accepts)
  next : next = stream.forward (stretches.flatMap Stretch.events).length

namespace Stream

variable {bus : Bus} {stream next : Stream} {backlog left : List Event}
  {items : List StreamItem} {stretches : List Stretch}

theorem Reads.none (stream : Stream) (backlog : List Event) :
    stream.Reads stream backlog backlog [] [] :=
  ⟨rfl, rfl, rfl⟩

/-- What a read leaves of the backlog is what the stream is owed after it. -/
theorem Reads.owes (reads : stream.Reads next backlog left items stretches)
    (owes : bus.Owes stream backlog) : bus.Owes next left := by
  rw [reads.split] at owes
  rw [reads.next]
  exact owes.forward

/-- Reading leaves the filter of the stream. -/
theorem Reads.accepts_next (reads : stream.Reads next backlog left items stretches) :
    next.accepts = stream.accepts := by
  rw [reads.next, accepts_forward]

/-- What joins a backlog is gone through after all that was there before. -/
theorem Reads.trans {last : Stream} {joined rest : List Event} {more : List StreamItem}
    {further : List Stretch} (first : stream.Reads next backlog left items stretches)
    (second : next.Reads last (left ++ joined) rest more further) :
    stream.Reads last (backlog ++ joined) rest (items ++ more) (stretches ++ further) := by
  refine ⟨?_, ?_, ?_⟩
  · rw [first.split, List.append_assoc, second.split, List.flatMap_append, List.append_assoc]
  · rw [first.items, second.items, first.accepts_next, List.filterMap_append]
  · rw [second.next, first.next, forward_forward, List.flatMap_append, List.length_append]

/-- The stretches of a part of the backlog that the bus keeps, with the end of the bus if it
shows. -/
def skimmed (bus : Bus) (events : List Event) : List Stretch :=
  events.map .seen ++ if bus.owners = 0 then [.ended] else []

/-- The stretches that a drain skims account for every event that was owed. -/
theorem events_skimmed (bus : Bus) (events : List Event) :
    (skimmed bus events).flatMap Stretch.events = events := by
  rw [skimmed, List.flatMap_append, Stretch.events_map_seen]
  split
  · exact List.append_nil _
  · exact List.append_nil _

/-- What a drain shows are the accepted events, and the end of the bus when no publisher is left. -/
theorem shown_skimmed (bus : Bus) (accepts : Event → Bool) (events : List Event) :
    (skimmed bus events).filterMap (Stretch.shown accepts) =
      (events.filter accepts).map .event ++
        if bus.owners = 0 then [.report .closed] else [] := by
  rw [skimmed, List.filterMap_append, Stretch.shown_map_seen]
  split
  · rfl
  · rfl

/-- A receipt goes through the first part of the backlog. -/
theorem receive_reads (owes : bus.Owes stream backlog) : ∃ left stretches,
    stream.Reads (stream.receive bus).2 backlog left (stream.receive bus).1.toList stretches := by
  by_cases behind : bus.capacity < backlog.length
  · have passed := length_take_sub backlog bus.capacity
    refine ⟨rtake backlog bus.capacity,
      [.missed (backlog.take (backlog.length - bus.capacity))], ?_⟩
    rw [receive_of_behind owes behind]
    refine ⟨?_, ?_, ?_⟩
    · rw [List.flatMap_singleton]
      exact (List.take_append_drop _ _).symm
    · rw [List.filterMap_cons]
      dsimp only [Stretch.shown]
      rw [passed]
      rfl
    · rw [List.flatMap_singleton, Stretch.events, passed]
  · have near := Nat.le_of_not_lt behind
    rcases stream.refused_or_accepted backlog with ⟨_, refused⟩ |
      ⟨hidden, event, rest, rfl, _, accepted, refused⟩
    · refine ⟨[], skimmed bus backlog, ?_⟩
      rw [receive_of_refused owes near refused]
      refine ⟨?_, ?_, ?_⟩
      · rw [events_skimmed, List.append_nil]
      · rw [shown_skimmed, filter_of_refused refused]
        split
        · rfl
        · rfl
      · rw [events_skimmed]
    · refine ⟨rest, (hidden ++ [event]).map .seen, ?_⟩
      rw [receive_of_accepted owes near refused accepted]
      refine ⟨?_, ?_, ?_⟩
      · rw [Stretch.events_map_seen, List.append_assoc, List.singleton_append]
      · rw [Stretch.shown_map_seen, List.filter_append, filter_of_refused refused,
          List.nil_append, List.filter_cons_of_pos accepted]
        rfl
      · rw [Stretch.events_map_seen, List.length_append, List.length_singleton]

/-- A drain goes through the whole backlog. -/
theorem drain_reads (owes : bus.Owes stream backlog) : ∃ stretches,
    stream.Reads (stream.drain bus).2 backlog [] (stream.drain bus).1 stretches := by
  have whole := List.take_append_drop (backlog.length - bus.capacity) backlog
  rw [drain_eq_drained owes, Bus.drained]
  by_cases behind : bus.capacity < backlog.length
  · have passed := length_take_sub backlog bus.capacity
    have events : (Stretch.missed (backlog.take (backlog.length - bus.capacity)) ::
        skimmed bus (rtake backlog bus.capacity)).flatMap Stretch.events = backlog := by
      rw [List.flatMap_cons, events_skimmed]
      exact whole
    refine ⟨.missed (backlog.take (backlog.length - bus.capacity)) ::
      skimmed bus (rtake backlog bus.capacity), ?_, ?_, ?_⟩
    · rw [events, List.append_nil]
    · dsimp only
      rw [if_pos behind, List.filterMap_cons, shown_skimmed, List.append_assoc]
      dsimp only [Stretch.shown]
      rw [passed, List.singleton_append]
    · rw [events]
  · have near := Nat.le_of_not_lt behind
    refine ⟨skimmed bus backlog, ?_, ?_, ?_⟩
    · rw [events_skimmed, List.append_nil]
    · rw [if_neg behind, shown_skimmed, rtake_of_short near, List.nil_append]
    · rw [events_skimmed]

end Stream

end HostBridge
