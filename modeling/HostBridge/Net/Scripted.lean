import HostBridge.Event.Bus
import HostBridge.Net.Client

/-!
# Calls through a scripted engine

A request client in front of an engine that answers from a queue, with a clock that reads what it is
told.  A call that is refused reaches neither the engine nor the clock.
-/

namespace HostBridge

/-- A clock that reads what it is told: each reading takes the next value, the last one stays, and
without any the clock reads 0. -/
structure ScriptedClock where
  readings : List Int64

/-- Read the clock. -/
def ScriptedClock.now : ScriptedClock → ScriptedClock × Int64
  | ⟨[]⟩ => (⟨[]⟩, 0)
  | ⟨[last]⟩ => (⟨[last]⟩, last)
  | ⟨first :: rest⟩ => (⟨rest⟩, first)

/-- A client, its engine's queue, its clock and, if it announces its calls, the bus with a stream
that may listen to it. -/
structure NetSession where
  client : NetClient
  replies : List (List Bytes)
  clock : ScriptedClock
  bus : Option Bus
  stream : Option Stream
  log : List Logging.Entry

/-- How a call ends. -/
inductive NetOutcome where
  /-- The request was refused. -/
  | refused (error : BridgeError)
  | answered (response : NetResponse)
  /-- The readings of the clock are too far apart to be subtracted. -/
  | overflowed

/-- The wording of readings that cannot be subtracted. -/
def clockOverflowText : String := "attempt to subtract with overflow"

namespace NetSession

/-- The number of events that the bus of a session keeps. -/
def busCapacity : Nat := 64

/-- A session in which nothing happened; the client may announce its calls, and somebody may
listen. -/
def new (logPayloads : Bool) (complain : Complaint) (announces listens : Bool)
    (readings : List Int64) : NetSession :=
  let (bus, stream) := (Bus.new busCapacity).subscribe
  ⟨NetClient.new logPayloads complain, [], ⟨readings⟩,
    if announces then some (if listens then bus else bus.removeSubscriber) else none,
    if announces && listens then some stream else none, []⟩

/-- Queue a reply of the engine. -/
def queue (session : NetSession) (segments : List Bytes) : NetSession :=
  { session with replies := session.replies ++ [segments] }

/-- Take the next reply of the engine; without one it answers with no segments. -/
def takeReply (session : NetSession) : NetSession × List Bytes :=
  match session.replies with
  | [] => (session, [])
  | reply :: rest => ({ session with replies := rest }, reply)

/-- Make a call.  The request is handed back if it reached the engine. -/
def call (session : NetSession) (request : NetRequest) :
    NetSession × Option NetRequest × NetOutcome :=
  match request.refusal? with
  | some error => (session, none, .refused error)
  | none =>
    let outgoing := session.client.outgoingEntries request
    let (clock, started) := session.clock.now
    let (session, reply) := { session with log := session.log ++ outgoing }.takeReply
    let (clock, ended) := clock.now
    let session := { session with clock := clock }
    match elapsedMs? started ended with
    | none => (session, some request, .overflowed)
    | some elapsed =>
      let settled := session.client.settle request elapsed reply
      ({ session with
          client := settled.client
          bus := session.bus.map (·.announce (.net settled.event))
          log := session.log ++ settled.log },
        some request, .answered settled.response)

/-- Take what was announced and logged since the last time. -/
def takeTraces (session : NetSession) : NetSession × List StreamItem × List Logging.Entry :=
  match session.bus, session.stream with
  | some bus, some stream =>
    let (items, stream) := stream.drain bus
    ({ session with stream := some stream, log := [] }, items, session.log)
  | _, _ => ({ session with log := [] }, [], session.log)

end NetSession

end HostBridge
