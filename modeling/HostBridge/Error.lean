import HostBridge.Text.Digits

/-!
# Failures

Each layer has its own kinds of failure: the engines of the native side, the setup of a bridge, the
bridge itself and the service around it.  A failure of an inner layer is kept as the cause of the
outer one, and every failure has one wording, `message`.
-/

namespace HostBridge

/-- A failure that an engine of the native side reports. -/
inductive EngineError where
  | notAvailable (what : String)
  | operationFailed (why : String)
  | unknownHandle (address : UInt64)
  | io (why : String)
deriving DecidableEq, Repr

/-- The wording of an engine's failure. -/
def EngineError.message : EngineError → String
  | .notAvailable what => "Bridge capability not available: " ++ what
  | .operationFailed why => "Bridge operation failed: " ++ why
  | .unknownHandle address => "Unknown native handle: " ++ Text.hexNumber address
  | .io why => "IO error: " ++ why

/-- A capability that a bridge may lack. -/
inductive Capability where
  | image
  | net
  | web
deriving DecidableEq, Repr

/-- The name of a capability. -/
def Capability.name : Capability → String
  | .image => "ImageEngine"
  | .net => "NetEngine"
  | .web => "WebEngine"

/-- A failure of the setup of a bridge. -/
inductive SetupError where
  | config (why : String)
  | logging (why : String)
  | capabilityMissing (capability : Capability) (why : String)
deriving DecidableEq, Repr

/-- The wording of a missing capability. -/
def capabilityMissingMessage (capability : Capability) (why : String) : String :=
  "Capability missing: " ++ capability.name ++ " - " ++ why

/-- The wording of a failed setup. -/
def SetupError.message : SetupError → String
  | .config why => "Configuration error: " ++ why
  | .logging why => "Logging setup failed: " ++ why
  | .capabilityMissing capability why => capabilityMissingMessage capability why

/-- A failure of a bridge operation. -/
inductive BridgeError where
  /-- The input was refused before anything was asked of an engine. -/
  | validation (why : String)
  /-- The native counterpart of the object was released before. -/
  | staleReference (what : String)
  | capabilityMissing (capability : Capability) (why : String)
  | transport (why : String)
  | config (why : String)
  | serialization (why : String)
  | io (why : String)
  | engine (cause : EngineError)
deriving DecidableEq, Repr

/-- The wording of a failed bridge operation. -/
def BridgeError.message : BridgeError → String
  | .validation why => "Validation failed: " ++ why
  | .staleReference what => "Stale reference: " ++ what
  | .capabilityMissing capability why => capabilityMissingMessage capability why
  | .transport why => "Transport failure: " ++ why
  | .config why => "Configuration error: " ++ why
  | .serialization why => "Serialization error: " ++ why
  | .io why => "I/O error: " ++ why
  | .engine cause => "Native call failed: " ++ cause.message

/-- A failed setup as a failure of the bridge: a missing capability stays one, and everything else
is a matter of configuration. -/
def BridgeError.ofSetup : SetupError → BridgeError
  | .capabilityMissing capability why => .capabilityMissing capability why
  | .config why => .config (SetupError.config why).message
  | .logging why => .config (SetupError.logging why).message

/-- A failure of the service that owns a bridge. -/
inductive ServiceError where
  | alreadyInstalled
  | setup (cause : SetupError)
  | bridge (cause : BridgeError)
deriving DecidableEq, Repr

/-- The wording of a failed service. -/
def ServiceError.message : ServiceError → String
  | .alreadyInstalled => "A bridge service is already installed for this process"
  | .setup cause => "Runtime error: " ++ cause.message
  | .bridge cause => "Bridge error: " ++ cause.message

end HostBridge
