import HostBridge.Net.Request
import HostBridge.Text.Utf8

/-!
# Responses

The native side answers with a list of segments: the metadata as JSON and, if there is one, the
body. A reply without readable metadata stands for a failed transport and becomes a synthetic
response.
-/

namespace HostBridge

/-- The metadata of a response. -/
structure NetMeta where
  code : UInt16
  message : Option String
  error : Option String
  headers : Headers
  contentLength : Option Int64
  /-- Where redirects led, if anywhere else. -/
  currentUrl : Option String

namespace NetMeta

/-- The wire form; what is missing is written as null. -/
def toJson (info : NetMeta) : Json :=
  .object [("code", .ofNat info.code.toNat), ("message", .ofOption .string info.message),
    ("error", .ofOption .string info.error), ("headers", .ofTexts info.headers.entries),
    ("contentLength", .ofOption (fun n => .ofInt n.toInt) info.contentLength),
    ("currentUrl", .ofOption .string info.currentUrl)]

/-- The wire text. -/
def render (info : NetMeta) : String := info.toJson.render

/-- Read metadata; only the code has to be there. -/
def decode : Json.Decoder NetMeta := fun tree => do
  let record ← Json.Record.ofTree?
    ["code", "message", "error", "headers", "contentLength", "currentUrl"] tree
  let code ← record.required "code" Json.Decoder.uint16
  let message ← record.withDefault "message" (Json.Decoder.nullable Json.Decoder.string) none
  let error ← record.withDefault "error" (Json.Decoder.nullable Json.Decoder.string) none
  let headers ← record.withDefault "headers" Json.Decoder.textTable Table.empty
  let length ← record.withDefault "contentLength" (Json.Decoder.nullable Json.Decoder.int64) none
  let url ← record.withDefault "currentUrl" (Json.Decoder.nullable Json.Decoder.string) none
  return ⟨code, message, error, headers, length, url⟩

/-- Read the wire form of metadata. -/
def ofBytes? (bytes : Bytes) : Option NetMeta := Json.decodeBytes decode bytes

/-- The segments of a reply. -/
def segments (info : NetMeta) (body : Option Bytes) : List Bytes :=
  Text.encodeUtf8 info.render :: body.toList

/-- The metadata of a request that failed within the native side. -/
def failure (error : String) : NetMeta := ⟨500, none, some error, Table.empty, none, none⟩

end NetMeta

/-- A response. -/
structure NetResponse where
  code : UInt16
  message : Option String
  error : Option String
  headers : Headers
  contentLength : Option Int64
  currentUrl : Option String
  body : Option Bytes

/-- The code of a synthetic response. -/
def transportFailureCode : UInt16 := 500

/-- The error of a reply without metadata. -/
def transportFailureText : String := "native net error"

/-- The error of a reply whose metadata cannot be read, with what their reader says. -/
def malformedMetadataText (why : String) : String := "malformed response metadata: " ++ why

/-- The header field with the time that a request took within the native side. -/
def nativeCostHeader : String := "x-native-cost"

/-- Two names that differ in the case of ASCII letters at most. -/
def sameIgnoringCase (a b : String) : Bool :=
  a.toList.map Char.toLower = b.toList.map Char.toLower

namespace NetResponse

/-- The response that stands for a failed transport. -/
def synthetic (error : String) : NetResponse :=
  ⟨transportFailureCode, none, some error, Table.empty, none, none, none⟩

/-- The response with given metadata and body. -/
def ofMeta (info : NetMeta) (body : Option Bytes) : NetResponse :=
  ⟨info.code, info.message, info.error, info.headers, info.contentLength, info.currentUrl, body⟩

/-- Read a reply: the response it carries, or else the synthetic one. -/
def ofSegments (complain : Complaint) : List Bytes → Except NetResponse NetResponse
  | [] => .error (synthetic transportFailureText)
  | [] :: _ => .error (synthetic transportFailureText)
  | head :: rest =>
    match NetMeta.ofBytes? head with
    | some info => .ok (ofMeta info rest.head?)
    | none => .error (synthetic (malformedMetadataText (complain head)))

/-- Whether the request succeeded. -/
def isSuccess (response : NetResponse) : Bool :=
  200 ≤ response.code && response.code < 300 && response.error.isNone

/-- The value of a header field, whatever the case of its name. -/
def header? (response : NetResponse) (name : String) : Option String :=
  (response.headers.entries.find? (fun entry => sameIgnoringCase entry.1 name)).map Prod.snd

/-- The milliseconds that the request took within the native side, where it says so. -/
def nativeCost? (response : NetResponse) : Option UInt64 :=
  (response.header? nativeCostHeader).bind (fun text => (Text.readUInt64 (Text.trim text)).toOption)

/-- The bytes of the body; none without a body. -/
def bytes (response : NetResponse) : Bytes := response.body.getD []

/-- The text of the body. -/
def text (response : NetResponse) : String := Text.decodeLossy response.bytes

/-- The response, or its error as a failure. -/
def result (response : NetResponse) : Except BridgeError NetResponse :=
  match response.error with
  | some error =>
    .error (.transport (error ++ " (" ++ toString response.code.toNat ++ ")"))
  | none => .ok response

end NetResponse

end HostBridge
