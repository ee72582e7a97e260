import HostBridge.Report.Event
import HostBridge.Report.Image
import HostBridge.Session.Action

/-!
# Reports of sessions

What a session answers and what its collaborators saw, as JSON.
-/

namespace HostBridge

/-- A signed integer of 32 bits as a number. -/
def int32Report (n : Int32) : Json := .ofInt n.toInt

/-- The name of a phase. -/
def Phase.name : Phase → String
  | .started => "started"
  | .resource => "resource"
  | .finished => "finished"
  | .progress => "progress"

/-- The phase with a name. -/
def Phase.ofName? (text : String) : Option Phase :=
  [Phase.started, .resource, .finished, .progress].find? (fun phase => phase.name = text)

namespace Session

/-- What a slot holds, if there is one. -/
def slotReport : Option Slot → Json
  | none => .string "unknown"
  | some .waiting => .string "empty"
  | some .closed => .string "closed"
  | some (.filled result) => .object [("value", .ofOption .string result)]

/-- The answer of an action.  The times that requests took are left out. -/
def Reply.report : Reply → Json
  | .nothing => .null
  | .flag b => .bool b
  | .count n => .ofNat n
  | .text s => .string s
  | .cookie value => .ofOption .string value
  | .failed error => error.report
  | .engineFailed error => error.report
  | .counts objects waiting => .object [("live", .ofNat objects), ("pending", .ofNat waiting)]
  | .items found => itemsReport (found.map StreamItem.timeless)
  | .delivery outcome => .string outcome.word
  | .slot held => slotReport held
  | .view objectId destroyed shown =>
    .object [("object_id", .ofUInt64 objectId), ("destroyed", .bool destroyed),
      ("debug", .string shown)]
  | .bitmap made => made.report
  | .canvas width height drawn => .array [.ofNat width.toNat, .ofNat height.toNat, .bool drawn]
  | .encoded result => result.report
  | .written result sink =>
    .object [("result", resultReport BridgeError.report .ofNat result), ("sink", bytesReport sink)]
  | .decoded image =>
    .array [.ofUInt64 image.address, .ofNat image.width.toNat, .ofNat image.height.toNat]
  | .live images surfaces => .array [.ofNat images, .ofNat surfaces]
  | .response received lookups stats =>
    .object [("response", received.report lookups),
      ("stats", .array [.ofUInt64 stats.calls, .ofUInt64 stats.transportFailures,
        .ofUInt64 stats.totalNativeMs])]
  | .cookieBridge bridge => .array [.bool bridge.isEnabled, .string bridge.shown]
  | .cookieBridgeWith bridge found =>
    .array [.bool bridge.isEnabled, .ofOption .string found, .string bridge.shown]

/-- What was seen. -/
def Sighting.report : Sighting → Json
  | .webCreate none => .array [.string "web.create", .string "error"]
  | .webCreate (some address) => .array [.string "web.create", .ofUInt64 address]
  | .webInvoke address method payload =>
    .array [.string "web.invoke", .ofUInt64 address, .string method,
      .string (sortedText "headers" payload)]
  | .webRelease address => .array [.string "web.release", .ofUInt64 address]
  | .image call => call.report
  | .jarGet url => .array [.string "jar.get", .string url]
  | .jarSet url value => .array [.string "jar.set", .string url, .string value]
  | .posted message =>
    .array [.string "post", .string message.topic,
      .string (sortedText "params" message.content)]
  | .netCall request => request.callReport
  | .continued name result => .array [.string "cb", .string name, .ofOption .string result]
  | .abandoned name => .array [.string "cb.dropped", .string name]
  | .client name phase objectId progress =>
    .array [.string "client", .string name, .string phase.name, .ofUInt64 objectId,
      .ofOption int32Report progress]
  | .script label method args =>
    .array [.string "script", .string label, .string method, .array args]
  | .nested reply => .array [.string "nested", reply.report]

/-- Insert a continuation that is gone into those that follow, by its name. -/
def insertAbandoned (name : String) : List Sighting → List Sighting
  | .abandoned other :: rest =>
    if other < name then .abandoned other :: insertAbandoned name rest
    else .abandoned name :: .abandoned other :: rest
  | rest => .abandoned name :: rest

/-- Sort continuations that were gone at the same time by name, since their order is nobody's
promise. -/
def sortAbandoned : List Sighting → List Sighting
  | [] => []
  | .abandoned name :: rest => insertAbandoned name (sortAbandoned rest)
  | other :: rest => other :: sortAbandoned rest

/-- Everything that was seen. -/
def seenReport (seen : List Sighting) : List Json := (sortAbandoned seen).map Sighting.report

end Session

end HostBridge
