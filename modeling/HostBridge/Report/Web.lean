import HostBridge.Report.Net
import HostBridge.Web.Exchange

/-!
# Reports of exchanges

What the request engine of a desktop answers and what its peer saw, as JSON.
-/

namespace HostBridge.Web

/-- The header fields that depend on the connection alone. -/
def connectionFields : List String := ["host", "referer"]

/-- A request as a peer saw it. -/
def PeerRequest.report (request : PeerRequest) : Json :=
  .array [.string request.method, .string request.target,
    .ofTexts (request.fields.filter (fun field => field.1 ∉ connectionFields)),
    bytesReport request.body]

/-- The kind of an error, without what was said about it. -/
def errorKind (error : String) : String :=
  if "Connection failed".isPrefixOf error then "Connection failed"
  else if "Failed to read body".isPrefixOf error then "Failed to read body"
  else "other"

/-- The metadata of an exchange as an object.  Whether the time that it took is told stands for the
time itself. -/
def metaReport (info : NetMeta) : Json :=
  .object [("code", .ofNat info.code.toNat), ("message", .ofOption .string info.message),
    ("headers", .ofTexts (info.headers.erase nativeCostHeader).entries),
    ("cost_present", .bool (info.headers.contains nativeCostHeader)),
    ("content_length", .ofOption (fun n => .ofInt n.toInt) info.contentLength),
    ("current_url", .ofOption .string info.currentUrl),
    ("error", .ofOption (fun error => .string (errorKind error)) info.error)]

/-- The metadata in the first of some segments. -/
def metaOfSegments? (segments : List Bytes) : Option NetMeta :=
  segments.head?.bind NetMeta.ofBytes?

/-- Everything that an exchange came to. -/
def Exchange.report (exchange : Exchange) (segments : List Bytes) : Json :=
  .object [("seen", .array (exchange.seen.map PeerRequest.report)),
    ("meta", .ofOption metaReport (metaOfSegments? segments)),
    ("body", .ofOption bytesReport segments[1]?), ("segments", .ofNat segments.length)]

/-- What an exchange came to without a look at what it carried. -/
def segmentsReport (segments : List Bytes) : Json :=
  let info := metaOfSegments? segments
  .object [("segments", .ofNat segments.length),
    ("code", .ofOption (fun m : NetMeta => .ofNat m.code.toNat) info),
    ("has_error", .ofOption (fun m : NetMeta => .bool m.error.isSome) info),
    ("headers", .ofOption (fun m : NetMeta => .ofNat m.headers.size) info)]

end HostBridge.Web
