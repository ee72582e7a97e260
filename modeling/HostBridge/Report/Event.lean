import HostBridge.Event.Codec
import HostBridge.Event.Session

/-!
# Reports of events

What streams and buses answer, as JSON.
-/

namespace HostBridge

/-- An event as an object, with its meaning. -/
def Event.report (event : Event) : Json :=
  .object [("json", .string event.toJson.render), ("description", .string event.description),
    ("severity", .string event.severity.name),
    ("object_id", .ofOption .ofUInt64 event.objectId?)]

/-- A report of the bus as an object. -/
def BusReport.toJson : BusReport → Json
  | .lagged missed => .object [("error", .string "Lagged"), ("missed", .ofNat missed)]
  | .closed => .object [("error", .string "Closed")]

/-- What a stream found: the event in its wire form, or a report. -/
def StreamItem.toJson : StreamItem → Json
  | .event found => found.toJson
  | .report found => found.toJson

/-- Everything that a stream found. -/
def itemsReport (items : List StreamItem) : Json := .array (items.map StreamItem.toJson)

/-- The same event without the time that its request took. -/
def Event.timeless : Event → Event
  | .net (.completed url code _ cost) => .net (.completed url code 0 cost)
  | other => other

/-- The same item without the time that its request took. -/
def StreamItem.timeless : StreamItem → StreamItem
  | .event found => .event found.timeless
  | other => other

/-- The answer of a step on a bus. -/
def BusSession.Answer.report : BusSession.Answer → Json
  | .noBus => .string "no bus"
  | .noStream => .string "no stream"
  | .count n => .ofNat n
  | .flag b => .bool b
  | .text s => .string s
  | .refused event => .object [("error", .string "SendError"), ("event", event.toJson)]
  | .received item => .ofOption StreamItem.toJson item
  | .pending => .string "pending"
  | .drained items => itemsReport items

end HostBridge
