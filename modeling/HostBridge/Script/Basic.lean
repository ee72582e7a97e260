import HostBridge.Json.Basic
import HostBridge.Logging.Entry
import HostBridge.Table
import HostBridge.Text.Quoted

/-!
# Script interfaces

Scripts inside a web view call bound targets by interface and method name.  A binding serves one
call: a dispatch removes it before the method is even looked up.

What an operation does is data: the further steps it takes and how it ends.  The type of steps is a
parameter, so the same interfaces serve tables on their own and whole sessions.
-/

namespace HostBridge

/-- How a piece of application code ends. -/
inductive Ending where
  | returns
  | fails (reason : String)
  | panics (reason : String)
deriving DecidableEq, Repr

/-- An operation that scripts may call: the steps it takes, and then its ending. -/
structure Operation (σ : Type) where
  steps : List σ
  ending : Ending

/-- A target with its operations; of several operations of one name the last counts. -/
structure ScriptTarget (σ : Type) where
  /-- The name under which calls to the target are recorded. -/
  label : String
  operations : List (String × Operation σ)
  /-- Whether the target claims every method, also those without an operation. -/
  claimsAll : Bool

namespace ScriptTarget

variable {σ : Type}

/-- The operation under a name. -/
def operation? (target : ScriptTarget σ) (method : String) : Option (Operation σ) :=
  (target.operations.reverse.find? (fun entry => entry.1 = method)).map Prod.snd

/-- Whether the target claims to have a method. -/
def hasMethod (target : ScriptTarget σ) (method : String) : Bool :=
  target.claimsAll || (target.operation? method).isSome

/-- The diagnostic text of a target. -/
def shown (target : ScriptTarget σ) : String :=
  Text.showRecord "ScriptObject" [("methods", Text.showNames (target.operations.map Prod.fst))]

end ScriptTarget

/-- Why a script call had no success. -/
inductive DispatchError where
  | unknownInterface (interface : String)
  | unknownMethod (interface method : String)
  | invocationFailed (interface method reason : String)
deriving DecidableEq, Repr

/-- The wording of a failed script call. -/
def DispatchError.message : DispatchError → String
  | .unknownInterface interface => "No interface bound as '" ++ interface ++ "'"
  | .unknownMethod interface method =>
    "Interface '" ++ interface ++ "' has no method '" ++ method ++ "'"
  | .invocationFailed interface method reason =>
    "Call to '" ++ interface ++ "." ++ method ++ "' failed: " ++ reason

/-- The diagnostic text of a failed script call. -/
def DispatchError.shown : DispatchError → String
  | .unknownInterface interface => "UnknownInterface(" ++ Text.quote interface ++ ")"
  | .unknownMethod interface method =>
    Text.showRecord "UnknownMethod"
      [("interface", Text.quote interface), ("method", Text.quote method)]
  | .invocationFailed interface method reason =>
    Text.showRecord "InvocationFailed"
      [("interface", Text.quote interface), ("method", Text.quote method),
        ("reason", Text.quote reason)]

/-- What an operation's ending means for the call. -/
def Ending.result (interface method : String) : Ending → Except DispatchError Unit
  | .returns => .ok ()
  | .fails reason => .error (.invocationFailed interface method reason)
  | .panics reason => .error (.invocationFailed interface method reason)

/-- A call that reached its target: the target's label and the operation, if the target has it. -/
structure Invocation (σ : Type) where
  label : String
  operation : Option (Operation σ)

/-- The ending of a call to a method without an operation. -/
def missingOperation (method : String) : Ending :=
  .fails ("no operation named '" ++ method ++ "'")

/-- The steps that an invocation takes. -/
def Invocation.steps {σ : Type} (invocation : Invocation σ) : List σ :=
  match invocation.operation with
  | some operation => operation.steps
  | none => []

/-- How an invocation of a method ends. -/
def Invocation.ending {σ : Type} (invocation : Invocation σ) (method : String) : Ending :=
  match invocation.operation with
  | some operation => operation.ending
  | none => missingOperation method

/-- The targets that are bound, by interface name. -/
structure Bindings (σ : Type) where
  table : Table String (ScriptTarget σ)

namespace Bindings

variable {σ : Type}

/-- No bindings. -/
def empty : Bindings σ := ⟨Table.empty⟩

instance : Inhabited (Bindings σ) := ⟨empty⟩

/-- Bind a target; whether it replaced another one. -/
def bind (bindings : Bindings σ) (name : String) (target : ScriptTarget σ) : Bindings σ × Bool :=
  (⟨bindings.table.insert name target⟩, bindings.table.contains name)

/-- Remove a binding; whether there was one. -/
def unbind (bindings : Bindings σ) (name : String) : Bindings σ × Bool :=
  (⟨bindings.table.erase name⟩, bindings.table.contains name)

/-- Whether a target is bound. -/
def isBound (bindings : Bindings σ) (name : String) : Bool := bindings.table.contains name

/-- The number of bindings. -/
def size (bindings : Bindings σ) : Nat := bindings.table.size

/-- Use up a binding for a call.  The binding is gone whatever the outcome. -/
def claim (bindings : Bindings σ) (name method : String) :
    Bindings σ × Except DispatchError (Invocation σ) :=
  match bindings.table.find? name with
  | none => (bindings, .error (.unknownInterface name))
  | some target =>
    (⟨bindings.table.erase name⟩,
      if target.hasMethod method then .ok ⟨target.label, target.operation? method⟩
      else .error (.unknownMethod name method))

section Claim

variable {bindings : Bindings σ} {name method : String} {target : ScriptTarget σ}

theorem claim_of_absent (absent : bindings.table.find? name = none) :
    bindings.claim name method = (bindings, .error (.unknownInterface name)) := by
  simp only [claim, absent]

theorem claim_of_unclaimed (bound : bindings.table.find? name = some target)
    (unclaimed : target.hasMethod method = false) :
    bindings.claim name method =
      (⟨bindings.table.erase name⟩, .error (.unknownMethod name method)) := by
  simp only [claim, bound, unclaimed, Bool.false_eq_true, ↓reduceIte]

theorem claim_of_claimed (bound : bindings.table.find? name = some target)
    (claimed : target.hasMethod method = true) :
    bindings.claim name method =
      (⟨bindings.table.erase name⟩, .ok ⟨target.label, target.operation? method⟩) := by
  simp only [claim, bound, claimed, ↓reduceIte]

end Claim

/-- The diagnostic text of bindings. -/
def shown (bindings : Bindings σ) : String :=
  Text.showRecord "ScriptBridge" [("bindings", Text.showNames bindings.table.keys)]

end Bindings

/-- What is logged when a call reaches its target. -/
def dispatchingEntry (interface method : String) (args : List Json) : Logging.Entry :=
  Logging.Component.script.log .debug "Dispatching script call"
    [("interface", interface), ("method", method), ("args", toString args.length)]

/-- What is logged when a target panics. -/
def targetPanickedEntry (interface method reason : String) : Logging.Entry :=
  Logging.Component.script.log .warn "Script target panicked"
    [("interface", interface), ("method", method), ("reason", reason)]

/-- What is logged after an operation ended. -/
def Ending.entries (interface method : String) : Ending → List Logging.Entry
  | .panics reason => [targetPanickedEntry interface method reason]
  | _ => []

end HostBridge
