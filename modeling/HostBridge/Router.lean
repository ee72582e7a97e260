import HostBridge.Event.Bus
import HostBridge.Json.Parser
import HostBridge.Registry
import HostBridge.Text.Blank

/-!
# Routing inbound events

The native side delivers events addressed by object id, with a method and a JSON payload.  Routing
never fails: an unknown object, an unreadable payload, an unknown method and a handler that panics
each have an outcome, and whatever is not routed is announced as dropped.
-/

namespace HostBridge

/-- The outcome of an inbound event. -/
inductive Delivery where
  | routed
  /-- No living object is registered under the id. -/
  | unknownObject
  /-- The object does not handle the method. -/
  | unknownMethod
  /-- The payload is no JSON, or lacks what the method needs. -/
  | malformedPayload
  /-- The object panicked. -/
  | panicked
deriving DecidableEq, Repr

namespace Delivery

/-- Whether the event was handled. -/
def isRouted (delivery : Delivery) : Bool := delivery = .routed

/-- The word for an outcome. -/
def word : Delivery → String
  | routed => "routed"
  | unknownObject => "unknown_object"
  | unknownMethod => "unknown_method"
  | malformedPayload => "malformed_payload"
  | panicked => "panicked"

end Delivery

/-- An inbound event. -/
structure Inbound where
  objectId : UInt64
  method : String
  payload : String

namespace Inbound

open Logging (Level Entry Component)

/-- The value of the payload; a blank payload is an empty object. -/
def value? (inbound : Inbound) : Option Json :=
  if Text.isBlankText inbound.payload then some (.object []) else Json.parse inbound.payload

/-- The announcement that the event was dropped. -/
def droppedEvent (inbound : Inbound) : Event :=
  .lifecycle (.eventDropped inbound.objectId inbound.method)

/-- A log entry about the event. -/
def log (inbound : Inbound) (level : Level) (message : String) (more : List (String × String)) :
    Entry :=
  Component.router.log level message
    ([("object_id", toString inbound.objectId.toNat), ("method", inbound.method)] ++ more)

/-- What is logged first. -/
def arrivedEntry (inbound : Inbound) : Entry :=
  inbound.log .trace "Inbound native event"
    [("payload_len", toString (Text.byteLength inbound.payload))]

/-- What is logged when nothing handles the event; the cause of an unreadable payload is not part of
the record. -/
def refusedEntry (inbound : Inbound) : Delivery → Entry
  | .unknownObject => inbound.log .debug "No live object for inbound event; dropping" []
  | _ => inbound.log .warn "Malformed inbound payload; dropping" [("error", "")]

/-- What is logged when the handler panics. -/
def panickedEntry (inbound : Inbound) (reason : String) : Entry :=
  inbound.log .error "Inbound event handler panicked" [("reason", reason)]

/-- What is logged about the outcome of the handler. -/
def outcomeEntries (inbound : Inbound) : Delivery → List Entry
  | .routed => []
  | .unknownMethod => [inbound.log .warn "Unhandled inbound method; ignoring" []]
  | other =>
    [inbound.log .debug "Inbound event not handled" [("outcome", other.word)]]

end Inbound

/-- An event on its way through a router: the bus, and what was logged. -/
structure Routing (α : Type) where
  bus : Bus
  log : List Logging.Entry
  result : α

/-- Find the object and read the payload; or the outcome of an event that goes no further. -/
def Inbound.admit (inbound : Inbound) (bus : Bus) (target : Option ObjectKey) :
    Routing (Except Delivery (ObjectKey × Json)) :=
  match target with
  | none =>
    ⟨bus.announce inbound.droppedEvent, [inbound.arrivedEntry, inbound.refusedEntry .unknownObject],
      .error .unknownObject⟩
  | some key =>
    match inbound.value? with
    | none =>
      ⟨bus.announce inbound.droppedEvent,
        [inbound.arrivedEntry, inbound.refusedEntry .malformedPayload], .error .malformedPayload⟩
    | some payload => ⟨bus, [inbound.arrivedEntry], .ok (key, payload)⟩

/-- The outcome of an event whose handler returned or panicked. -/
def Inbound.conclude (inbound : Inbound) (bus : Bus) (handled : Except String Delivery) :
    Routing Delivery :=
  let (delivery, entries) := match handled with
    | .ok delivery => (delivery, [])
    | .error reason => (Delivery.panicked, [inbound.panickedEntry reason])
  ⟨if delivery.isRouted then bus else bus.announce inbound.droppedEvent,
    entries ++ inbound.outcomeEntries delivery, delivery⟩

end HostBridge
