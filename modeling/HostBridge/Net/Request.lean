import HostBridge.Error
import HostBridge.Json.Decode
import HostBridge.Json.Printer
import HostBridge.Text.Blank

/-!
# Requests

A request crosses the boundary as JSON with its body beside it.  Whether redirects are followed is
written only where they are not, since following is what the native side does anyway.
-/

namespace HostBridge

/-- Raw bytes. -/
abbrev Bytes := List UInt8

/-- What a reader says about bytes that it cannot read. -/
abbrev Complaint := Bytes → String

/-- A reader that does not say what is wrong. -/
def Complaint.silent : Complaint := fun _ => ""

/-- The method of a request. -/
inductive NetMethod where
  | get
  | post
  | put
  | patch
  | delete
  | head
  | options
deriving DecidableEq, Repr

namespace NetMethod

/-- All methods. -/
def all : List NetMethod := [get, post, put, patch, delete, head, options]

/-- The word for a method. -/
def word : NetMethod → String
  | get => "GET"
  | post => "POST"
  | put => "PUT"
  | patch => "PATCH"
  | delete => "DELETE"
  | head => "HEAD"
  | options => "OPTIONS"

/-- The method with a word. -/
def ofWord? (text : String) : Option NetMethod := all.find? (fun method => method.word = text)

/-- Read a method by its word. -/
def decode : Json.Decoder NetMethod := Json.Decoder.oneOf ofWord?

end NetMethod

/-- Header fields by their names as written. -/
abbrev Headers := Table String String

/-- A request. -/
structure NetRequest where
  url : String
  method : NetMethod
  headers : Headers
  /-- Whether redirects are followed, where that was said. -/
  followRedirects : Option Bool
  body : Option Bytes

namespace NetRequest

/-- A request without headers and body. -/
def new (method : NetMethod) (url : String) : NetRequest :=
  ⟨url, method, Table.empty, none, none⟩

/-- A request to read. -/
def get (url : String) : NetRequest := new .get url

/-- Set the body. -/
def withBody (request : NetRequest) (body : Bytes) : NetRequest :=
  { request with body := some body }

/-- A request to post a body. -/
def post (url : String) (body : Bytes) : NetRequest := (new .post url).withBody body

/-- Set a header field. -/
def withHeader (request : NetRequest) (name value : String) : NetRequest :=
  { request with headers := request.headers.insert name value }

/-- Say whether redirects are followed; following is not written down. -/
def withFollow (request : NetRequest) (follow : Bool) : NetRequest :=
  { request with followRedirects := if follow then none else some false }

/-- Whether redirects are followed. -/
def follows (request : NetRequest) : Bool := request.followRedirects.getD true

/-- The wire form, without the body. -/
def toJson (request : NetRequest) : Json :=
  .object ([("url", .string request.url), ("method", .string request.method.word),
      ("headers", .ofTexts request.headers.entries)]
    ++ match request.followRedirects with
      | none => []
      | some follow => [("followRedirects", .bool follow)])

/-- The wire text. -/
def render (request : NetRequest) : String := request.toJson.render

/-- Read a request, which has no body. -/
def decode : Json.Decoder NetRequest := fun tree => do
  let record ← Json.Record.ofTree? ["url", "method", "headers", "followRedirects"] tree
  let url ← record.required "url" Json.Decoder.string
  let method ← record.required "method" NetMethod.decode
  let headers ← record.withDefault "headers" Json.Decoder.textTable Table.empty
  let follow ← record.withDefault "followRedirects" (Json.Decoder.nullable Json.Decoder.bool) none
  return ⟨url, method, headers, follow, none⟩

/-- Read the wire form of a request. -/
def ofBytes (complain : Complaint) (bytes : Bytes) : Except EngineError NetRequest :=
  match Json.decodeBytes decode bytes with
  | some request => .ok request
  | none => .error (.operationFailed ("JSON deserialization failed: " ++ complain bytes))

/-- Why a request is refused before it is sent. -/
def refusal? (request : NetRequest) : Option BridgeError :=
  if Text.isBlankText request.url then some (.validation "request URL is empty") else none

end NetRequest

end HostBridge
