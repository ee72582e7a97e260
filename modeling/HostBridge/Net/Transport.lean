import HostBridge.Net.Response

/-!
# Request engines

A request engine reads the wire form of a request, has a transport carry the request, and writes
what the transport brings back.  The transport is a parameter: it reads addresses, keeps cookies,
follows redirects if it is asked to, and words its own failures.  Whatever goes wrong on the way is
metadata with an error; only a request that cannot be read at all has no answer.
-/

namespace HostBridge

/-- Why a transport brings back no response. -/
inductive TransportFailure where
  | timedOut
  | connection (why : String)
  | other (why : String)

/-- The wording of a failed transport. -/
def TransportFailure.text : TransportFailure → String
  | .timedOut => "Request timed out"
  | .connection why => "Connection failed: " ++ why
  | .other why => why

/-- A response as a transport brings it back. -/
structure Arrival (Address : Type) where
  /-- The address that answered. -/
  address : Address
  status : UInt16
  /-- The phrase of the status, if it has one. -/
  phrase : Option String
  /-- The header fields with the values that are plain text. -/
  fields : List (String × Option String)
  /-- The body, or why it did not arrive. -/
  body : Except String Bytes

/-- What carries the requests of an engine. -/
structure Transport (σ Address : Type) where
  address? : String → Option Address
  shown : Address → String
  /-- Carry a request with a body, and follow redirects or not. -/
  send : σ → (follows : Bool) → NetRequest → (body : Option Bytes) →
    σ × Except TransportFailure (Arrival Address)

namespace Transport

/-- The wording of a body that did not arrive. -/
def bodyFailureText (why : String) : String := "Failed to read body: " ++ why

/-- The header fields of a response: repeated values joined, and without values that are no plain
text. -/
def collectFields (fields : List (String × Option String)) : Headers :=
  fields.foldl (fun table field =>
    match field.2 with
    | none => table
    | some value =>
      match table.find? field.1 with
      | none => table.insert field.1 value
      | some earlier => table.insert field.1 (earlier ++ ", " ++ value)) Table.empty

variable {σ Address : Type} [DecidableEq Address] (transport : Transport σ Address)

/-- Where a request was led, if anywhere else than it was sent. -/
def movedTo? (requested : String) (final : Address) : Option String :=
  if transport.address? requested = some final then none else some (transport.shown final)

/-- The metadata of a response with its body, after the milliseconds that it took. -/
def metaOf (requested : String) (arrival : Arrival Address) (body : Bytes) (elapsed : Nat) :
    NetMeta :=
  ⟨arrival.status, arrival.phrase, none,
    (collectFields arrival.fields).insert nativeCostHeader (toString elapsed),
    some (Int64.ofNat body.length), transport.movedTo? requested arrival.address⟩

/-- Make a request that was read. -/
def run (state : σ) (request : NetRequest) (body : Option Bytes) (elapsed : Nat) :
    σ × Except String (NetMeta × Bytes) :=
  let (state, result) := transport.send state request.follows request body
  match result with
  | .error failure => (state, .error failure.text)
  | .ok arrival =>
    match arrival.body with
    | .error why => (state, .error (bodyFailureText why))
    | .ok body => (state, .ok (transport.metaOf request.url arrival body elapsed, body))

/-- The segments that answer a result. -/
def segments : Except String (NetMeta × Bytes) → List Bytes
  | .error error => (NetMeta.failure error).segments none
  | .ok (info, body) => info.segments (some body)

/-- Make a request in its wire form; one that cannot be read has no answer. -/
def call (state : σ) (request : Bytes) (body : Option Bytes) (elapsed : Nat) : σ × List Bytes :=
  match NetRequest.ofBytes Complaint.silent request with
  | .error _ => (state, [])
  | .ok request => (transport.run state request body elapsed).map id segments

end Transport

end HostBridge
