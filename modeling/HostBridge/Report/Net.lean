import HostBridge.Json.Parser
import HostBridge.Net.Client
import HostBridge.Report.Failure

/-!
# Reports of requests

Requests and responses as JSON.  Texts that were written from tables are reported with sorted names
where a table has several entries, since the order of a table is nobody's promise.
-/

namespace HostBridge

/-- A text of JSON, with the members of all its objects sorted if the member under `name` is an
object with several entries. -/
def sortedText (name text : String) : String :=
  match Json.parse text with
  | none => text
  | some value =>
    match value.get? name with
    | some (.object (_ :: _ :: _)) => value.render
    | _ => text

/-- Bytes as hexadecimal digits. -/
def bytesReport (bytes : Bytes) : Json := .string (Text.hexBytes bytes)

/-- The wire text of a request. -/
def NetRequest.textReport (request : NetRequest) : Json :=
  .string (sortedText "headers" request.render)

/-- A request as an object. -/
def NetRequest.report (request : NetRequest) : Json :=
  .object [("url", .string request.url), ("method", .string request.method.word),
    ("headers", .ofTexts request.headers.entries),
    ("follow_redirects", .ofOption .bool request.followRedirects),
    ("follows", .bool request.follows), ("body", .ofOption bytesReport request.body),
    ("json", request.textReport)]

/-- A call as an engine sees it: the wire text and the body. -/
def NetRequest.callReport (request : NetRequest) : Json :=
  .array [.string "net.call", request.textReport, .ofOption bytesReport request.body]

/-- Everything that a client has counted. -/
def NetStats.report (stats : NetStats) : Json :=
  .array [.ofUInt64 stats.calls, .ofUInt64 stats.transportFailures, .ofUInt64 stats.totalElapsedMs,
    .ofUInt64 stats.totalNativeMs]

/-- A response as an object, with the values of some of its header fields if they are asked for. -/
def NetResponse.report (response : NetResponse) (lookups : Option (List String)) : Json :=
  .object ([("code", .ofNat response.code.toNat), ("message", .ofOption .string response.message),
    ("error", .ofOption .string response.error), ("headers", .ofTexts response.headers.entries),
    ("content_length", .ofOption (fun n => .ofInt n.toInt) response.contentLength),
    ("current_url", .ofOption .string response.currentUrl),
    ("body", .ofOption bytesReport response.body), ("success", .bool response.isSuccess),
    ("native_cost_ms", .ofOption .ofUInt64 response.nativeCost?),
    ("redirected_to", .ofOption .string response.currentUrl),
    ("bytes_len", .ofNat response.bytes.length), ("text", .string response.text),
    ("into_result",
      resultReport BridgeError.report (fun r : NetResponse => .ofNat r.code.toNat) response.result)]
    ++ match lookups with
      | none => []
      | some names =>
        [("lookups", .array (names.map (fun name => .ofOption .string (response.header? name))))])

end HostBridge
