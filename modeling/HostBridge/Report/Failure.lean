import HostBridge.Error
import HostBridge.Json.Basic
import HostBridge.Script.Basic

/-!
# Reports of failures

Failures as JSON: an object with the kind of the failure and its wording.
-/

namespace HostBridge

/-- A failure as an object. -/
def failureReport (kind message : String) : Json :=
  .object [("error", .string kind), ("message", .string message)]

/-- The name of a failure's kind. -/
def EngineError.kind : EngineError → String
  | .notAvailable _ => "NotAvailable"
  | .operationFailed _ => "OperationFailed"
  | .unknownHandle _ => "UnknownHandle"
  | .io _ => "Io"

@[inherit_doc EngineError.kind]
def SetupError.kind : SetupError → String
  | .config _ => "Config"
  | .logging _ => "Logging"
  | .capabilityMissing _ _ => "CapabilityMissing"

@[inherit_doc EngineError.kind]
def BridgeError.kind : BridgeError → String
  | .validation _ => "Validation"
  | .staleReference _ => "StaleReference"
  | .capabilityMissing _ _ => "CapabilityMissing"
  | .transport _ => "Transport"
  | .config _ => "Config"
  | .serialization _ => "Serialization"
  | .io _ => "Io"
  | .engine _ => "Bridge"

@[inherit_doc EngineError.kind]
def ServiceError.kind : ServiceError → String
  | .alreadyInstalled => "AlreadyInstalled"
  | .setup _ => "Runtime"
  | .bridge _ => "Bridge"

@[inherit_doc EngineError.kind]
def DispatchError.kind : DispatchError → String
  | .unknownInterface _ => "UnknownInterface"
  | .unknownMethod _ _ => "UnknownMethod"
  | .invocationFailed _ _ _ => "InvocationFailed"

/-- A failure as an object. -/
def EngineError.report (error : EngineError) : Json := failureReport error.kind error.message

@[inherit_doc EngineError.report]
def SetupError.report (error : SetupError) : Json := failureReport error.kind error.message

@[inherit_doc EngineError.report]
def BridgeError.report (error : BridgeError) : Json := failureReport error.kind error.message

@[inherit_doc EngineError.report]
def ServiceError.report (error : ServiceError) : Json := failureReport error.kind error.message

@[inherit_doc EngineError.report]
def DispatchError.report (error : DispatchError) : Json := failureReport error.kind error.message

/-- A result with the reports of its two sides. -/
def resultReport {ε α : Type} (failed : ε → Json) (succeeded : α → Json) : Except ε α → Json
  | .ok a => succeeded a
  | .error error => failed error

/-- A result that has nothing to tell but its failure. -/
def okReport {ε : Type} (failed : ε → Json) (result : Except ε Unit) : Json :=
  resultReport failed (fun () => .string "ok") result

end HostBridge
