import HostBridge.Event.Basic
import HostBridge.Text.Quoted

/-!
# The event bus

A bus keeps the last events for its subscribers, up to its capacity, which is rounded up to a power
of two.  Each subscriber has a position in the sequence of events.  One that is further behind than
the bus keeps is told once how many events it missed and goes on with the oldest event that is kept;
the end of the bus shows only after the events that are still there.  With nobody subscribed an
event is refused: no subscriber will ever find it.

A `Stream` is a subscriber with a filter; a filter hides events, never a report.
-/

namespace HostBridge

/-- The number of events that a bus keeps if nothing else is asked for. -/
def defaultBusCapacity : Nat := 100

/-- The least power of two that is at least `n`. -/
def roundUpToPowerOfTwo (n : Nat) : Nat := if n ≤ 1 then 1 else Nat.pow 2 ((n - 1).log2 + 1)

/-- A bus with its subscribers counted. -/
structure Bus where
  /-- The number of events that are kept. -/
  capacity : Nat
  /-- The last events, oldest first, at most `capacity` of them. -/
  kept : List Event
  /-- The position of the next event: the number of events accepted so far. -/
  tail : Nat
  /-- The number of subscribers. -/
  subscribers : Nat
  /-- The number of owners that can still emit. -/
  owners : Nat
  /-- Every event that was put on the bus, oldest first, also those that nobody was subscribed
  to. -/
  emitted : List Event

/-- A subscriber that is behind the bus, or the end of the bus. -/
inductive BusReport where
  | lagged (missed : Nat)
  | closed
deriving DecidableEq, Repr

namespace Bus

/-- A bus with one owner and no subscribers. -/
def new (capacity : Nat) : Bus := ⟨roundUpToPowerOfTwo capacity, [], 0, 0, 1, []⟩

/-- Put an event on the bus; false if nobody is subscribed. -/
def emit (bus : Bus) (event : Event) : Bus × Bool :=
  let emitted := bus.emitted ++ [event]
  if bus.subscribers = 0 then ({ bus with emitted := emitted }, false)
  else
    let kept := bus.kept ++ [event]
    ({ bus with
        kept := kept.drop (kept.length - bus.capacity)
        tail := bus.tail + 1
        emitted := emitted }, true)

/-- Put an event on the bus and forget it if nobody is subscribed. -/
def announce (bus : Bus) (event : Event) : Bus := (bus.emit event).1

/-- Whatever is put on a bus becomes the last event that was. -/
@[simp] theorem emitted_announce (bus : Bus) (event : Event) :
    (bus.announce event).emitted = bus.emitted ++ [event] := by
  unfold announce emit
  dsimp only
  split <;> rfl

/-- The position of the oldest event that is kept. -/
def oldest (bus : Bus) : Nat := bus.tail - bus.kept.length

/-- The event at a position, if it is kept. -/
def eventAt? (bus : Bus) (position : Nat) : Option Event :=
  if position < bus.oldest then none else bus.kept[position - bus.oldest]?

/-- The diagnostic text of a bus. -/
def shown (bus : Bus) : String :=
  Text.showRecord "EventBus" [("subscriber_count", toString bus.subscribers)]

/-- Add an owner. -/
def addOwner (bus : Bus) : Bus := { bus with owners := bus.owners + 1 }

/-- Remove an owner. -/
def removeOwner (bus : Bus) : Bus := { bus with owners := bus.owners - 1 }

/-- Remove a subscriber. -/
def removeSubscriber (bus : Bus) : Bus := { bus with subscribers := bus.subscribers - 1 }

end Bus

/-- Which events a stream shows: those that pass a test. -/
structure EventFilter where
  /-- Whether an event passes. -/
  accepts : Event → Bool

/-- The events about an object. -/
def EventFilter.object (id : UInt64) : EventFilter := ⟨fun event => event.objectId? = some id⟩

/-- The events of a kind. -/
def EventFilter.kind (wanted : EventKind) : EventFilter := ⟨fun event => event.kind = wanted⟩

/-- A subscriber with its position in the sequence of events and the filter that was set last. -/
structure Stream where
  position : Nat
  filter : Option EventFilter

/-- What a stream finds. -/
inductive StreamItem where
  | event (event : Event)
  | report (report : BusReport)
deriving DecidableEq, Repr

/-- What a reader that waited was given. -/
def StreamItem.ofAwaited : Except BusReport Event → StreamItem
  | .ok found => .event found
  | .error found => .report found

/-- A new subscriber, which sees the events from now on. -/
def Bus.subscribe (bus : Bus) : Bus × Stream :=
  ({ bus with subscribers := bus.subscribers + 1 }, ⟨bus.tail, none⟩)

namespace Stream

/-- The diagnostic text of a stream. -/
def shown (stream : Stream) : String :=
  Text.showRecord "EventStream" [("has_filter", Text.showBool stream.filter.isSome)]

/-- Set the filter, in place of an earlier one. -/
def withFilter (stream : Stream) (filter : EventFilter) : Stream :=
  { stream with filter := some filter }

/-- Whether the stream shows an event. -/
def accepts (stream : Stream) (event : Event) : Bool :=
  stream.filter.all (fun filter => filter.accepts event)

/-- What the subscriber finds at its position, whatever the filter: an event, a report or
nothing. -/
def poll (bus : Bus) (stream : Stream) : Option StreamItem × Stream :=
  if stream.position + bus.capacity < bus.tail then
    let next := bus.tail - bus.capacity
    (some (.report (.lagged (next - stream.position))), { stream with position := next })
  else
    match bus.eventAt? stream.position with
    | some event => (some (.event event), { stream with position := stream.position + 1 })
    | none => (if bus.owners = 0 then some (.report .closed) else none, stream)

/-- Poll until the stream shows something or finds nothing, at most `fuel` times. -/
def receiveWith : Nat → Bus → Stream → Option StreamItem × Stream
  | 0, _, stream => (none, stream)
  | fuel + 1, bus, stream =>
    match stream.poll bus with
    | (some (.event event), next) =>
      if next.accepts event then (some (.event event), next) else receiveWith fuel bus next
    | result => result

/-- The next event that passes the filter, or a report; nothing if the stream would have to wait. -/
def receive (bus : Bus) (stream : Stream) : Option StreamItem × Stream :=
  receiveWith (bus.tail - stream.position + 2) bus stream

/-- A turn of a reader that waits for an event to pass its filter, with at most `fuel` polls: a
report ends the wait, and where there is nothing the reader waits on from where it has come to. -/
def awaitWith : Nat → Bus → Stream → Option (Except BusReport Event) × Stream
  | 0, _, stream => (none, stream)
  | fuel + 1, bus, stream =>
    match stream.poll bus with
    | (none, next) => (none, next)
    | (some (.report report), next) => (some (.error report), next)
    | (some (.event event), next) =>
      if next.accepts event then (some (.ok event), next) else awaitWith fuel bus next

/-- A turn of a reader that waits for the next event that passes the filter, or for a report;
nothing if the wait goes on. -/
def await (bus : Bus) (stream : Stream) : Option (Except BusReport Event) × Stream :=
  awaitWith (bus.tail - stream.position + 2) bus stream

/-- Receive until nothing is left or the end is reported, at most `fuel` times. -/
def drainWith : Nat → Bus → Stream → List StreamItem × Stream
  | 0, _, stream => ([], stream)
  | fuel + 1, bus, stream =>
    match stream.receive bus with
    | (none, next) => ([], next)
    | (some (.report .closed), next) => ([.report .closed], next)
    | (some item, next) =>
      let (items, last) := drainWith fuel bus next
      (item :: items, last)

/-- Everything that the stream has to show now. -/
def drain (bus : Bus) (stream : Stream) : List StreamItem × Stream :=
  drainWith (bus.tail - stream.position + 3) bus stream

end Stream

end HostBridge
