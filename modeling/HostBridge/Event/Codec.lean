import HostBridge.Event.Basic
import HostBridge.Json.Decode
import HostBridge.Json.Printer

/-!
# The wire form of events

An event is an object with its kind under `type` and a payload under `payload`; the payload has the
name of the event under `event` and its fields beside it.  The members may come in any order.
Either object may be written as an array: the kind and the payload, or the name and the fields in
their order.  The kind is a text or an object with that one member and null.  A payload is read as a
value before its name is known, so unlike other ignored members its unknown ones have to be in range
and well encoded.
-/

namespace HostBridge

/-- The name of a kind on the wire. -/
def EventKind.name : EventKind → String
  | .view => "WebView"
  | .net => "Net"
  | .lifecycle => "Lifecycle"

/-- The kind with a name. -/
def EventKind.ofName? (text : String) : Option EventKind :=
  [EventKind.view, .net, .lifecycle].find? (fun kind => kind.name = text)

/-- The payload with an event's name and fields. -/
def eventPayload (name : String) (fields : List (String × Json)) : Json :=
  .object (("event", .string name) :: fields)

/-- The payload of a notification about a view. -/
def ViewEvent.payload : ViewEvent → Json
  | pageStarted id => eventPayload "PageStarted" [("object_id", .ofUInt64 id)]
  | loadResource id => eventPayload "LoadResource" [("object_id", .ofUInt64 id)]
  | pageFinished id => eventPayload "PageFinished" [("object_id", .ofUInt64 id)]
  | progressChanged id progress =>
    eventPayload "ProgressChanged" [("object_id", .ofUInt64 id), ("progress", .ofInt progress.toInt)]
  | scriptResult id callback delivered =>
    eventPayload "ScriptResult"
      [("object_id", .ofUInt64 id), ("callback_id", .ofUInt64 callback), ("delivered", .bool delivered)]
  | scriptDispatched id interface method =>
    eventPayload "ScriptDispatched"
      [("object_id", .ofUInt64 id), ("interface", .string interface), ("method", .string method)]
  | scriptDispatchFailed id interface reason =>
    eventPayload "ScriptDispatchFailed"
      [("object_id", .ofUInt64 id), ("interface", .string interface), ("reason", .string reason)]

/-- The payload of a notification about a request. -/
def NetEvent.payload : NetEvent → Json
  | completed url code elapsed cost =>
    eventPayload "Completed"
      [("url", .string url), ("code", .ofNat code.toNat), ("elapsed_ms", .ofUInt64 elapsed),
        ("native_cost_ms", .ofOption .ofUInt64 cost)]
  | transportFailed url error =>
    eventPayload "TransportFailed" [("url", .string url), ("error", .string error)]

/-- The payload of a notification about an object's lifecycle. -/
def LifecycleEvent.payload : LifecycleEvent → Json
  | registered id => eventPayload "Registered" [("object_id", .ofUInt64 id)]
  | released id => eventPayload "Released" [("object_id", .ofUInt64 id)]
  | eventDropped id method =>
    eventPayload "EventDropped" [("object_id", .ofUInt64 id), ("method", .string method)]

/-- The wire form of an event. -/
def Event.toJson (event : Event) : Json :=
  let payload := match event with
    | view event => event.payload
    | net event => event.payload
    | lifecycle event => event.payload
  .object [("type", .string event.kind.name), ("payload", payload)]

namespace EventCodec

open Json (Tree Decoder Record)

/-- The reader of an event's fields once its name is known. -/
structure Variant (α : Type) where
  name : String
  fields : List String
  read : Record → Option α

/-- The variants with only an object id. -/
def idVariant {α : Type} (name : String) (make : UInt64 → α) : Variant α :=
  ⟨name, ["object_id"], fun record => (record.required "object_id" Decoder.uint64).map make⟩

/-- The notifications about views. -/
def viewVariants : List (Variant ViewEvent) :=
  [idVariant "PageStarted" .pageStarted,
    idVariant "LoadResource" .loadResource,
    idVariant "PageFinished" .pageFinished,
    ⟨"ProgressChanged", ["object_id", "progress"], fun record => do
      let id ← record.required "object_id" Decoder.uint64
      let progress ← record.required "progress" Decoder.int32
      return .progressChanged id progress⟩,
    ⟨"ScriptResult", ["object_id", "callback_id", "delivered"], fun record => do
      let id ← record.required "object_id" Decoder.uint64
      let callback ← record.required "callback_id" Decoder.uint64
      let delivered ← record.required "delivered" Decoder.bool
      return .scriptResult id callback delivered⟩,
    ⟨"ScriptDispatched", ["object_id", "interface", "method"], fun record => do
      let id ← record.required "object_id" Decoder.uint64
      let interface ← record.required "interface" Decoder.string
      let method ← record.required "method" Decoder.string
      return .scriptDispatched id interface method⟩,
    ⟨"ScriptDispatchFailed", ["object_id", "interface", "reason"], fun record => do
      let id ← record.required "object_id" Decoder.uint64
      let interface ← record.required "interface" Decoder.string
      let reason ← record.required "reason" Decoder.string
      return .scriptDispatchFailed id interface reason⟩]

/-- The notifications about requests. -/
def netVariants : List (Variant NetEvent) :=
  [⟨"Completed", ["url", "code", "elapsed_ms", "native_cost_ms"], fun record => do
      let url ← record.required "url" Decoder.string
      let code ← record.required "code" Decoder.uint16
      let elapsed ← record.required "elapsed_ms" Decoder.uint64
      let cost ← record.nullable "native_cost_ms" Decoder.uint64
      return .completed url code elapsed cost⟩,
    ⟨"TransportFailed", ["url", "error"], fun record => do
      let url ← record.required "url" Decoder.string
      let error ← record.required "error" Decoder.string
      return .transportFailed url error⟩]

/-- The notifications about an object's lifecycle. -/
def lifecycleVariants : List (Variant LifecycleEvent) :=
  [idVariant "Registered" .registered,
    idVariant "Released" .released,
    ⟨"EventDropped", ["object_id", "method"], fun record => do
      let id ← record.required "object_id" Decoder.uint64
      let method ← record.required "method" Decoder.string
      return .eventDropped id method⟩]

/-- The variant that a tree names: by its name or, where `byPosition` allows it, by its position. -/
def chooseVariant {α : Type} (variants : List (Variant α)) (byPosition : Bool) :
    Tree → Option (Variant α)
  | .string pieces =>
    (Json.textOfPieces? pieces).bind (fun text => variants.find? (fun v => v.name = text))
  | .number n =>
    if byPosition then n.int?.bind (fun i => if 0 ≤ i then variants[i.toNat]? else none) else none
  | _ => none

/-- The name and the other members of a payload; the name may not be repeated. -/
def splitName : List (List Json.Piece × Tree) →
    Option (Option Tree × List (List Json.Piece × Tree))
  | [] => some (none, [])
  | (key, value) :: rest =>
    match Json.textOfPieces? key, splitName rest with
    | some "event", some (none, others) => some (some value, others)
    | some "event", some (some _, _) => none
    | some _, some (name, others) => some (name, (key, value) :: others)
    | _, _ => none

/-- Read a payload, which is nested one level below the event. -/
def readPayload {α : Type} (variants : List (Variant α)) (byPosition : Bool) (payload : Tree) :
    Option α :=
  match payload.valueWithin (Json.maxDepth - 1) with
  | none => none
  | some _ =>
    match payload with
    | .object members =>
      match splitName members with
      | some (some name, others) => do
        let variant ← chooseVariant variants byPosition name
        let record ← Record.ofTree? variant.fields (.object others)
        variant.read record
      | _ => none
    | .array (name :: items) => do
      let variant ← chooseVariant variants byPosition name
      let record ← Record.ofTree? variant.fields (.array items)
      variant.read record
    | _ => none

/-- Read the payload of an event of a kind. -/
def readKind (byPosition : Bool) (payload : Tree) : EventKind → Option Event
  | .view => (readPayload viewVariants byPosition payload).map .view
  | .net => (readPayload netVariants byPosition payload).map .net
  | .lifecycle => (readPayload lifecycleVariants byPosition payload).map .lifecycle

end EventCodec

/-- Read an event.  In a payload that comes before the kind the event may be given by its
position. -/
def Event.decode : Json.Decoder Event := fun tree => do
  let record ← Json.Record.ofTree? ["type", "payload"] tree
  let kind ← record.required "type" (Json.Decoder.oneOf EventKind.ofName?)
  let payload ← record.tree? "payload"
  let payloadFirst := record.found.head?.any (fun member => member.1 = "payload")
  EventCodec.readKind payloadFirst payload kind

end HostBridge
