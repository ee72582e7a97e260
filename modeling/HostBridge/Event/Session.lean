import HostBridge.Event.Bus
import HostBridge.Table

/-!
# Sessions with a bus

Named streams on one bus, and the owners through which it can be used.  Once the last owner is gone
nothing can be emitted or subscribed any more, but the streams still show what was kept for them.
-/

namespace HostBridge

/-- A bus with its named streams. -/
structure BusSession where
  bus : Bus
  streams : Table String Stream

namespace BusSession

/-- The wording of a bus without room. -/
def noRoomText : String := "broadcast channel capacity cannot be zero"

/-- A session with a new bus; a bus needs room for at least one event. -/
def new (capacity : Nat) : Except String BusSession :=
  if capacity = 0 then .error noRoomText else .ok ⟨Bus.new capacity, Table.empty⟩

/-- A step on a bus and its streams. -/
inductive Command where
  | addOwner
  | removeOwner
  | subscribe (stream : String) (filters : List EventFilter)
  | emit (event : Event)
  | count
  | shown
  | receive (stream : String)
  | await (stream : String)
  | drain (stream : String)
  | dropStream (stream : String)
  | streamShown (stream : String)

/-- What a step answers. -/
inductive Answer where
  | noBus
  | noStream
  | count (n : Nat)
  | flag (b : Bool)
  | text (s : String)
  | refused (event : Event)
  | received (item : Option StreamItem)
  /-- There is nothing to receive, and somebody could still emit. -/
  | pending
  | drained (items : List StreamItem)

/-- Use the bus, if an owner is left. -/
def owned (session : BusSession) (use : BusSession × Answer) : BusSession × Answer :=
  if session.bus.owners = 0 then (session, .noBus) else use

/-- Read from a stream. -/
def reading (session : BusSession) (name : String) (read : Stream → Answer × Stream) :
    BusSession × Answer :=
  match session.streams.find? name with
  | none => (session, .noStream)
  | some stream =>
    let (answer, stream) := read stream
    ({ session with streams := session.streams.insert name stream }, answer)

/-- The answer to a reader that is given something or has to wait. -/
def awaited : Option (Except BusReport Event) → Answer
  | none => .pending
  | some given => .received (some (.ofAwaited given))

/-- Take one step. -/
def perform (session : BusSession) : Command → BusSession × Answer
  | .addOwner =>
    let bus := if session.bus.owners = 0 then session.bus else session.bus.addOwner
    ({ session with bus := bus }, .count bus.owners)
  | .removeOwner =>
    let bus := session.bus.removeOwner
    ({ session with bus := bus }, .count bus.owners)
  | .subscribe name filters =>
    session.owned
      (let (bus, stream) := session.bus.subscribe
       let bus := if session.streams.contains name then bus.removeSubscriber else bus
       (⟨bus, session.streams.insert name (filters.foldl Stream.withFilter stream)⟩,
         .count bus.subscribers))
  | .emit event =>
    session.owned
      (match session.bus.emit event with
       | (bus, true) => ({ session with bus := bus }, .count bus.subscribers)
       | (bus, false) => ({ session with bus := bus }, .refused event))
  | .count => session.owned (session, .count session.bus.subscribers)
  | .shown => session.owned (session, .text session.bus.shown)
  | .receive name =>
    session.reading name (fun stream => (stream.receive session.bus).map .received id)
  | .await name => session.reading name (fun stream => (stream.await session.bus).map awaited id)
  | .drain name =>
    session.reading name (fun stream => (stream.drain session.bus).map .drained id)
  | .dropStream name =>
    if session.streams.contains name then
      (⟨session.bus.removeSubscriber, session.streams.erase name⟩, .flag true)
    else (session, .flag false)
  | .streamShown name =>
    match session.streams.find? name with
    | none => (session, .noStream)
    | some stream => (session, .text stream.shown)

end BusSession

end HostBridge
