import HostBridge.Logging.Config
import HostBridge.Session.Machine

/-!
# The bridge service

A service sets up logging and a bridge context in one go, and is the point at which the native side
enters: the entry point takes plain bytes that end at their first NUL, and answers with a code.
-/

namespace HostBridge.Service

open Logging (Level Entry Component)

/-- Set up logging, if asked to, and then a bridge. -/
def bootstrap {σ : Type} (config : Config) (complain : Complaint)
    (logging : Option Logging.Config) (installed : Bool) : Except ServiceError (Context σ) := do
  if let some logging := logging then
    let _ ← (logging.install installed).mapError .setup
  let context ← (Context.new config complain).mapError .bridge
  return context.note [Component.service.log .info "Bridge service ready"
    [("native_cookie", Text.showBool context.cookies.isEnabled)]]

/-- Set up a bridge with the defaults of a desktop. -/
def bootstrapDesktop {σ : Type} (complain : Complaint) (logging : Option Logging.Config)
    (installed : Bool) : Except ServiceError (Context σ) := do
  let config ← (Config.build []).mapError .setup
  bootstrap config complain logging installed

/-- The diagnostic text of a service. -/
def shown {σ : Type} (context : Context σ) : String :=
  Text.showRecord "BridgeService" [("context", context.shown)]

/-- The code of an event that a living object handled. -/
def routedCode : Int := 0

/-- The code of an event that was dropped. -/
def droppedCode : Int := 1

/-- The code of an event that no service received. -/
def unavailableCode : Int := -1

/-- The bytes before the first NUL. -/
def upToNul (bytes : Bytes) : Bytes := bytes.takeWhile (· ≠ 0)

/-- A log entry of the entry point. -/
def entryPointLog (level : Level) (message : String) (id : UInt64)
    (more : List (String × String)) : Entry :=
  Component.entryPoint.log level message (("object_id", toString id.toNat) :: more)

/-- The text that the native side passed; none for a null pointer and for bytes that are no text. -/
def passedText? (bytes : Option Bytes) : Option String :=
  bytes.bind (fun bytes => Text.decodeUtf8? (upToNul bytes))

/-- The payload that the native side passed: a null pointer stands for the empty one. -/
def passedPayload? (bytes : Option Bytes) : Option String :=
  if bytes.isNone then some "" else passedText? bytes

/-- Hand an event to the service, if one is installed. -/
def deliver (fuel : Nat) (service : Option Session.State) (id : UInt64)
    (method payload : Option Bytes) : Option Session.State × Int :=
  match service with
  | none => (none, unavailableCode)
  | some state =>
    match passedText? method with
    | none =>
      (some (state.note
        [entryPointLog .warn "Inbound event with a null or non-UTF-8 method" id []]), droppedCode)
    | some method =>
      match passedPayload? payload with
      | none =>
        (some (state.note
          [entryPointLog .warn "Inbound payload is not UTF-8" id [("method", method)]]),
          droppedCode)
      | some payload =>
        match state.act fuel (.deliver ⟨none, id⟩ method payload) with
        | (state, some (.delivery delivery)) =>
          (some state, if delivery.isRouted then routedCode else droppedCode)
        | (state, _) => (some state, unavailableCode)

/-- Install a service for the process, which has room for one. -/
def install (installed : Option Session.State) (state : Session.State) :
    Except ServiceError Session.State :=
  if installed.isSome then .error .alreadyInstalled
  else
    .ok (state.note
      [Component.entryPoint.log .info "Bridge service installed for inbound delivery" []])

end HostBridge.Service
