import HostBridge.Callback
import HostBridge.Handle
import HostBridge.Report.Event
import HostBridge.Report.Failure
import HostBridge.Router.Recorder
import HostBridge.Script.Run

/-!
# Reports of the small parts

What handles, registries, callback tables, script interfaces and routers answer, as JSON.
-/

namespace HostBridge

/-- What the callback of a release did on its handle. -/
def Handle.nestedReport : Option (UInt64 × List Handle.Answer) → Json
  | some (_, [.address address, .released ran _]) => .array [.ofUInt64 address, .bool ran]
  | _ => .null

/-- The answer of a step on a handle. -/
def Handle.Answer.report (nested : Bool) : Handle.Answer → Json
  | .address value => .ofUInt64 value
  | .flag b => .bool b
  | .text s => .string s
  | .cleared previous => .ofUInt64 previous
  | .released ran callback =>
    .object [("ran", .bool ran),
      if nested then ("inner", Handle.nestedReport callback)
      else ("address", .ofOption (fun received => .ofUInt64 received.1) callback)]

/-- The answer of a step on a registry. -/
def Ownership.Answer.report : Ownership.Answer String → Json
  | .noOwner => .string "no owner"
  | .flag b => .bool b
  | .object value => .ofOption .string value
  | .count n => .ofNat n
  | .text s => .string s

/-- The answer of a step on a callback table. -/
def CallbackTable.Answer.report : CallbackTable.Answer String → Json
  | .id fresh => fresh.toJson
  | .parked => .null
  | .resolved found => .ofOption .string found
  | .count n => .ofNat n
  | .text s => .string s

/-- A callback id as an object. -/
def CallbackId.report (id : CallbackId) : Json :=
  .object [("id", id.toJson), ("text", .string id.text), ("json", .string id.toJson.render),
    ("debug", .string id.shown)]

/-- The answer of a step on script interfaces. -/
def ScriptAnswer.report : ScriptAnswer → Json
  | .bound replaced object => .object [("replaced", .bool replaced), ("object", .string object)]
  | .flag b => .bool b
  | .size n => .array [.ofNat n, .bool (n = 0)]
  | .dispatched result => okReport DispatchError.report result
  | .text s => .string s

/-- What was seen during a run. -/
def ScriptSighting.report : ScriptSighting → Json
  | .call label method args => .array [.string label, .string method, .array args]
  | .nested answer => .array [.string "nested", answer.report]

/-- The answer of a step on a recording router. -/
def RecordingRouter.Answer.report : RecordingRouter.Answer → Json
  | .noTarget => .string "no target"
  | .flag b => .bool b
  | .live count pruned => .array [.ofNat count, .ofNat pruned]
  | .delivered delivery => .array [.string delivery.word, .bool delivery.isRouted]
  | .text s => .string s

/-- An event as a target saw it. -/
def RecordedEvent.report (event : RecordedEvent) : Json :=
  .array [.string event.target, .string event.method, .string event.payload.render]

end HostBridge
