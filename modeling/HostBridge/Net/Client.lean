import HostBridge.Event.Basic
import HostBridge.Logging.Entry
import HostBridge.Net.Response
import HostBridge.Number.Word
import HostBridge.Text.Quoted

/-!
# The request client

A client refuses requests without a URL, hands the others to the native side, and keeps count of the
calls, of failed transports and of the time they took.  The sums are of 64 bits and wrap around.
-/

namespace HostBridge

/-- What a client has counted. -/
structure NetStats where
  calls : UInt64
  transportFailures : UInt64
  totalElapsedMs : UInt64
  totalNativeMs : UInt64
deriving DecidableEq, Repr

/-- A client. -/
structure NetClient where
  logPayloads : Bool
  /-- What the reader of metadata says about those that it cannot read. -/
  complain : Complaint
  stats : NetStats

/-- The milliseconds between two readings of a clock: 0 if the clock went back, and undefined if the
difference of the readings does not fit into 64 bits. -/
def elapsedMs? (started ended : Int64) : Option UInt64 :=
  let difference := ended.toInt - started.toInt
  if int64Min ≤ difference ∧ difference ≤ int64Max then some (UInt64.ofNat difference.toNat)
  else none

namespace NetClient

open Logging (Level Entry Component)

/-- A client that has made no calls. -/
def new (logPayloads : Bool) (complain : Complaint) : NetClient :=
  ⟨logPayloads, complain, ⟨0, 0, 0, 0⟩⟩

/-- The span of a call. -/
def span : String := "native_net"

/-- A log entry within the span of a call. -/
def log (level : Level) (message : String) (fields : List (String × String)) : Entry :=
  .record level Component.net.path message fields (some span)

/-- The text of headers that may be logged. -/
def shownHeaders (headers : Headers) : String :=
  Text.showTextMap (Logging.redactHeaders headers.entries)

/-- What is logged before a request is sent. -/
def outgoingEntries (client : NetClient) (request : NetRequest) : List Entry :=
  if client.logPayloads then
    [log .debug "Outgoing native request"
      [("headers", shownHeaders request.headers),
        ("body_len", toString (request.body.getD []).length)]]
  else []

/-- A call that has come back: the client, the response, what is announced and what is logged. -/
structure Settled where
  client : NetClient
  response : NetResponse
  event : NetEvent
  log : List Entry

/-- What is logged about a response. -/
def completedEntries (client : NetClient) (response : NetResponse) (elapsed : UInt64) :
    List Entry :=
  let cost := match response.nativeCost? with
    | none => []
    | some cost => [("native_cost_ms", toString cost.toNat)]
  let redirected := match response.currentUrl with
    | none => []
    | some url => [("redirected_to", url)]
  log .debug "Native request completed"
      ([("code", toString response.code.toNat), ("elapsed_ms", toString elapsed.toNat)] ++ cost
        ++ [("body_len", toString response.bytes.length)] ++ redirected)
    :: (if client.logPayloads then
        [log .debug "Response headers" [("headers", shownHeaders response.headers)]]
      else [])

/-- Read a reply and count the call. -/
def settle (client : NetClient) (request : NetRequest) (elapsed : UInt64) (reply : List Bytes) :
    Settled :=
  match NetResponse.ofSegments client.complain reply with
  | .ok response =>
    let cost := response.nativeCost?
    let stats := client.stats
    { client := { client with
        stats :=
          ⟨stats.calls + 1, stats.transportFailures, stats.totalElapsedMs + elapsed,
            stats.totalNativeMs + cost.getD 0⟩ }
      response := response
      event := .completed request.url response.code elapsed cost
      log := client.completedEntries response elapsed }
  | .error response =>
    let stats := client.stats
    let error := response.error.getD ""
    { client := { client with
        stats :=
          ⟨stats.calls + 1, stats.transportFailures + 1, stats.totalElapsedMs + elapsed,
            stats.totalNativeMs⟩ }
      response := response
      event := .transportFailed request.url error
      log := [log .warn "Native request produced no response"
        [("error", error), ("elapsed_ms", toString elapsed.toNat)]] }

/-- The diagnostic text of a client. -/
def shown (client : NetClient) : String :=
  let stats := client.stats
  Text.showRecord "NetClient"
    [("log_payloads", Text.showBool client.logPayloads),
      ("stats", Text.showRecord "NetStats"
        [("calls", toString stats.calls.toNat),
          ("transport_failures", toString stats.transportFailures.toNat),
          ("total_elapsed_ms", toString stats.totalElapsedMs.toNat),
          ("total_native_ms", toString stats.totalNativeMs.toNat)])]

end NetClient

end HostBridge
