import HostBridge.Net.Transport
import HostBridge.Web.CookieJar

/-!
# Exchanges with a peer

The transport of a desktop, with the peer on the other side as a list of replies.  It adds the usual
header fields and the cookies of its jar, keeps the cookies of every response, and follows up to ten
redirects if it is asked to.  It does not tell what is wrong.
-/

namespace HostBridge.Web

/-- What a peer does when a request arrives. -/
inductive PeerReply where
  | answer (status : Nat) (fields : List (String × Bytes)) (body : Bytes) (length : Option Nat)
  | hangUp

/-- A peer: where it listens, and what it does next. -/
structure Peer where
  authority : String
  replies : List PeerReply

/-- A request as a peer sees it. -/
structure PeerRequest where
  method : String
  target : String
  /-- The header fields with lower-case names. -/
  fields : List (String × String)
  body : Bytes

/-- How the transport presents itself. -/
def agentName : String := "native-bridge/0.1.0"

/-- The redirects that are followed. -/
def maxRedirects : Nat := 10

/-- The phrases of the status codes. -/
def reasonPhrases : List (Nat × String) :=
  [(100, "Continue"), (101, "Switching Protocols"), (102, "Processing"), (200, "OK"),
    (201, "Created"), (202, "Accepted"), (203, "Non Authoritative Information"),
    (204, "No Content"), (205, "Reset Content"), (206, "Partial Content"), (207, "Multi-Status"),
    (208, "Already Reported"), (226, "IM Used"), (300, "Multiple Choices"),
    (301, "Moved Permanently"), (302, "Found"), (303, "See Other"), (304, "Not Modified"),
    (305, "Use Proxy"), (307, "Temporary Redirect"), (308, "Permanent Redirect"),
    (400, "Bad Request"), (401, "Unauthorized"), (402, "Payment Required"), (403, "Forbidden"),
    (404, "Not Found"), (405, "Method Not Allowed"), (406, "Not Acceptable"),
    (407, "Proxy Authentication Required"), (408, "Request Timeout"), (409, "Conflict"),
    (410, "Gone"), (411, "Length Required"), (412, "Precondition Failed"),
    (413, "Payload Too Large"), (414, "URI Too Long"), (415, "Unsupported Media Type"),
    (416, "Range Not Satisfiable"), (417, "Expectation Failed"), (418, "I'm a teapot"),
    (421, "Misdirected Request"), (422, "Unprocessable Entity"), (423, "Locked"),
    (424, "Failed Dependency"), (425, "Too Early"), (426, "Upgrade Required"),
    (428, "Precondition Required"), (429, "Too Many Requests"),
    (431, "Request Header Fields Too Large"), (451, "Unavailable For Legal Reasons"),
    (500, "Internal Server Error"), (501, "Not Implemented"), (502, "Bad Gateway"),
    (503, "Service Unavailable"), (504, "Gateway Timeout"), (505, "HTTP Version Not Supported"),
    (506, "Variant Also Negotiates"), (507, "Insufficient Storage"), (508, "Loop Detected"),
    (510, "Not Extended"), (511, "Network Authentication Required")]

/-- The phrase of a status code, if it has one. -/
def reasonPhrase? (status : Nat) : Option String :=
  (reasonPhrases.find? (fun entry => entry.1 = status)).map Prod.snd

/-- A name with its ASCII letters in lower case. -/
def lowerName (name : String) : String := String.ofList (name.toList.map Char.toLower)

/-- Whether a text may be the name of a header field. -/
def isFieldName (name : String) : Bool :=
  name ≠ "" &&
    name.toList.all (fun c => c.isAlphanum || "!#$%&'*+-.^_\x60|~".toList.contains c)

/-- Whether a text may be the value of a header field. -/
def isFieldValue (value : String) : Bool :=
  value.toList.all (fun c => CookieJar.isFieldChar c || 0x80 ≤ c.toNat)

/-- Set a header field in place of all of its name. -/
def setField (name value : String) (fields : List (String × String)) : List (String × String) :=
  fields.filter (fun field => field.1 ≠ name) ++ [(name, value)]

/-- Set a header field that is not there. -/
def addMissing (name value : String) (fields : List (String × String)) : List (String × String) :=
  if fields.any (fun field => field.1 = name) then fields else fields ++ [(name, value)]

/-- The text of a header field's value, if it is plain text. -/
def fieldText? (value : Bytes) : Option String :=
  (Text.decodeUtf8? value).filter (fun text => text.toList.all CookieJar.isFieldChar)

/-- A response as it came over the wire. -/
structure RawResponse where
  url : Url
  status : Nat
  fields : List (String × Bytes)
  /-- The body, unless it broke off. -/
  body : Option Bytes

/-- An exchange under way: the jar, the peer, and the requests that it saw. -/
structure Exchange where
  jar : CookieJar
  peer : Peer
  seen : List PeerRequest

/-- A request that is about to be sent. -/
structure Outgoing where
  method : NetMethod
  url : Url
  fields : List (String × String)
  body : Option Bytes

/-- Whether a response of a status to a method has a body. -/
def hasBody (method : NetMethod) (status : Nat) : Bool :=
  method ≠ .head && status ≠ 204 && status ≠ 304

/-- The body that arrives of what was announced and sent; none if it breaks off. -/
def receivedBody? (method : NetMethod) (status : Nat) (body : Bytes) (length : Option Nat) :
    Option Bytes :=
  if hasBody method status then
    let announced := length.getD body.length
    if announced ≤ body.length then some (body.take announced) else none
  else some []

namespace Exchange

/-- The fields that a peer sends with an answer. -/
def sentFields (fields : List (String × Bytes)) (body : Bytes) (length : Option Nat) :
    List (String × Bytes) :=
  fields ++ [("content-length", Text.encodeUtf8 (toString (length.getD body.length))),
    ("connection", Text.encodeUtf8 "close")]

/-- Keep the cookies that a response sets. -/
def keepCookies (jar : CookieJar) (url : Url) (fields : List (String × Bytes)) : CookieJar :=
  fields.foldl (fun jar field =>
    if lowerName field.1 = "set-cookie" then
      match Text.decodeUtf8? field.2 with
      | some text => jar.addText url text
      | none => jar
    else jar) jar

/-- Send one request and wait for the response. -/
def send (exchange : Exchange) (outgoing : Outgoing) :
    Exchange × Except TransportFailure RawResponse :=
  let url := outgoing.url
  if url.scheme ≠ "http" ∧ url.scheme ≠ "https" then (exchange, .error (.other ""))
  else if url.scheme = "https" ∨ url.authority ≠ exchange.peer.authority then
    (exchange, .error (.connection ""))
  else
    let length := match outgoing.body with
      | none => []
      | some body => [("content-length", toString body.length)]
    let request : PeerRequest :=
      ⟨outgoing.method.word, url.target, outgoing.fields ++ length, outgoing.body.getD []⟩
    let exchange := { exchange with seen := exchange.seen ++ [request] }
    match exchange.peer.replies with
    | [] => (exchange, .error (.other ""))
    | .hangUp :: rest =>
      ({ exchange with peer := { exchange.peer with replies := rest } }, .error (.other ""))
    | .answer status fields body length :: rest =>
      let fields := sentFields fields body length
      ({ exchange with
          peer := { exchange.peer with replies := rest }
          jar := keepCookies exchange.jar url fields },
        .ok ⟨url, status, fields, receivedBody? outgoing.method status body length⟩)

/-- The address that a response redirects to. -/
def location? (response : RawResponse) : Option Url :=
  (response.fields.find? (fun field => lowerName field.1 = "location")).bind (fun field =>
    (Text.decodeUtf8? field.2).bind response.url.resolve?)

/-- Whether a status redirects, and keeps the method and the body or not. -/
def redirection? (status : Nat) : Option Bool :=
  if status = 301 ∨ status = 302 ∨ status = 303 then some false
  else if status = 307 ∨ status = 308 then some true
  else none

/-- The header fields that are about the body. -/
def bodyFields : List String :=
  ["transfer-encoding", "content-encoding", "content-type", "content-length"]

/-- The header fields that are not for other hosts. -/
def privateFields : List String :=
  ["authorization", "cookie", "cookie2", "proxy-authorization", "www-authenticate"]

/-- The request that follows a redirect. -/
def redirected (outgoing : Outgoing) (jar : CookieJar) (url : Url) (keeps : Bool) : Outgoing :=
  let plain :=
    if keeps then outgoing
    else
      { outgoing with
        method := if outgoing.method = .head then .head else .get
        body := none
        fields := outgoing.fields.filter (fun field => field.1 ∉ bodyFields) }
  let fields :=
    if url.authority = outgoing.url.authority then plain.fields
    else plain.fields.filter (fun field => field.1 ∉ privateFields)
  { plain with
    url := url
    fields := match jar.header? url with
      | none => fields
      | some cookie => setField "cookie" cookie fields }

/-- Send a request and follow redirects while there are some left. -/
def follow (exchange : Exchange) (outgoing : Outgoing) :
    Nat → Exchange × Except TransportFailure RawResponse
  | 0 =>
    match exchange.send outgoing with
    | (exchange, .error error) => (exchange, .error error)
    | (exchange, .ok response) =>
      if (redirection? response.status).isSome ∧ (location? response).isSome then
        (exchange, .error (.other ""))
      else (exchange, .ok response)
  | left + 1 =>
    match exchange.send outgoing with
    | (exchange, .error error) => (exchange, .error error)
    | (exchange, .ok response) =>
      match redirection? response.status, location? response with
      | some keeps, some url =>
        follow exchange (redirected outgoing exchange.jar url keeps) left
      | _, _ => (exchange, .ok response)

/-- The request that goes out first; none if an address or a header field is not one. -/
def outgoing? (request : NetRequest) (body : Option Bytes) (jar : CookieJar) : Option Outgoing :=
  match Url.parse? request.url with
  | none => none
  | some url =>
    let fields := request.headers.entries
    if url.host.isSome ∧ fields.all (fun f => isFieldName f.1 && isFieldValue f.2) then
      let own := fields.map (fun f => (lowerName f.1, f.2))
      let usual := addMissing "user-agent" agentName (addMissing "accept" "*/*" own)
      let withCookies := match jar.header? url with
        | none => usual
        | some cookie => addMissing "cookie" cookie usual
      some ⟨request.method, url, withCookies, body⟩
    else none

/-- A response as it is brought back: names in lower case, and values that are plain text. -/
def arrivalOf (response : RawResponse) : Arrival Url :=
  ⟨response.url, UInt16.ofNat response.status, reasonPhrase? response.status,
    response.fields.map (fun field => (lowerName field.1, fieldText? field.2)),
    match response.body with
    | some body => .ok body
    | none => .error ""⟩

/-- Carry a request. -/
def carry (exchange : Exchange) (follows : Bool) (request : NetRequest) (body : Option Bytes) :
    Exchange × Except TransportFailure (Arrival Url) :=
  match outgoing? request body exchange.jar with
  | none => (exchange, .error (.other ""))
  | some outgoing =>
    let (exchange, result) :=
      if follows then exchange.follow outgoing maxRedirects else exchange.send outgoing
    (exchange, result.map arrivalOf)

/-- The transport of a desktop. -/
def transport : Transport Exchange Url := ⟨Url.parse?, Url.text, carry⟩

end Exchange

/-- The failure of an address that cannot be read, with what its reader says. -/
def invalidUrl (text why : String) : EngineError :=
  .operationFailed ("Invalid URL " ++ text ++ ": " ++ why)

/-- The cookies of a jar for an address. -/
def CookieJar.get (jar : CookieJar) (url : String) : Except EngineError (Option String) :=
  match Url.parse? url with
  | none => .error (invalidUrl url "")
  | some url => .ok (jar.text? url)

/-- Set a cookie at an address. -/
def CookieJar.set (jar : CookieJar) (url value : String) : Except EngineError CookieJar :=
  match Url.parse? url with
  | none => .error (invalidUrl url "")
  | some url => .ok (jar.addText url value)

end HostBridge.Web
