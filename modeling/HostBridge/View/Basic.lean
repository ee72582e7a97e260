import HostBridge.Error
import HostBridge.Handle
import HostBridge.Script.Basic
import HostBridge.View.Message

/-!
# Web views

The managed side of a native web view: its handle, its script bindings, its client and the ids of
the continuations that wait for it.  What application code does is data, and the type of the steps
it takes is a parameter.
-/

namespace HostBridge

open Logging (Level Entry Component)

/-- Application code that waits for the result of a script. -/
inductive Continuation (σ : Type) where
  /-- Code that is told the result, takes steps and ends. -/
  | reaction (name : String) (steps : List σ) (ending : Ending)
  /-- A slot that keeps the result until it is asked for. -/
  | slot (key : Nat)

/-- An observer of page loads. -/
inductive Client (σ : Type) where
  /-- An observer that does nothing. -/
  | silent
  /-- An observer that takes steps in some phases, and may panic after those of one phase. -/
  | observer (name : String) (hooks : List (Phase × List σ)) (panics : Option (Phase × String))

/-- The steps of an observer in a phase. -/
def hookSteps {σ : Type} (hooks : List (Phase × List σ)) (phase : Phase) : List σ :=
  ((hooks.find? (fun hook => hook.1 = phase)).map Prod.snd).getD []

/-- How an observer ends in a phase. -/
def hookEnding (panics : Option (Phase × String)) (phase : Phase) : Ending :=
  match panics with
  | some (last, reason) => if last = phase then .panics reason else .returns
  | none => .returns

/-- A web view. -/
structure View (σ : Type) where
  /-- The id under which inbound events address the view: its address at creation. -/
  objectId : UInt64
  handle : Handle
  bindings : Bindings σ
  client : Option (Client σ)
  /-- The ids of the continuations that wait for the view, oldest first. -/
  pending : List CallbackId
  /-- Whether the application still holds the view. -/
  held : Bool

namespace View

variable {σ : Type}

/-- A view on a fresh native instance. -/
def new (address : UInt64) : View σ := ⟨address, ⟨address⟩, Bindings.empty, none, [], true⟩

/-- Whether the view was destroyed. -/
def isDestroyed (view : View σ) : Bool := view.handle.isReleased

/-- Track a continuation. -/
def track (view : View σ) (id : CallbackId) : View σ :=
  { view with pending := view.pending.filter (· ≠ id) ++ [id] }

/-- Stop tracking a continuation. -/
def untrack (view : View σ) (id : CallbackId) : View σ :=
  { view with pending := view.pending.filter (· ≠ id) }

/-- The diagnostic text of a view. -/
def shown (view : View σ) : String :=
  Text.showRecord "WebView"
    [("object_id", Text.hexNumber view.objectId), ("handle", view.handle.shown),
      ("scripts", view.bindings.shown)]

end View

namespace ViewLog

/-- A log entry about the view with an id. -/
def entry (objectId : UInt64) (level : Level) (message : String) (more : List (String × String)) :
    Entry :=
  Component.view.log level message (("object_id", toString objectId.toNat) :: more)

/-- A view was created. -/
def created (objectId : UInt64) : Entry := entry objectId .info "Web view created" []

/-- A view was destroyed, and some continuations with it. -/
def destroyed (objectId : UInt64) (abandoned : Nat) : Entry :=
  entry objectId .info "Web view destroyed" [("abandoned", toString abandoned)]

/-- A call is ignored because the view was destroyed. -/
def ignored (objectId : UInt64) (method : String) : Entry :=
  entry objectId .warn "Ignoring call on destroyed web view"
    [("method", method),
      ("error", (BridgeError.staleReference
        ("web view " ++ Text.hexNumber objectId ++ " destroyed")).message)]

/-- A call is made. -/
def invoking (objectId : UInt64) (method : String) : Entry :=
  entry objectId .debug "Invoking native web view" [("method", method)]

/-- A page load makes progress. -/
def progress (objectId : UInt64) (progress : Int32) : Entry :=
  entry objectId .debug "Load progress" [("progress", toString progress.toInt)]

/-- Nothing waits for a result. -/
def unexpectedResult (objectId : UInt64) (id : CallbackId) : Entry :=
  entry objectId .debug "No continuation waiting for script result" [("callback_id", id.text)]

/-- A script call from the page ended. -/
def dispatched (objectId : UInt64) (interface method : String) :
    Except DispatchError Unit → Entry
  | .ok () =>
    entry objectId .debug "Script call dispatched" [("interface", interface), ("method", method)]
  | .error error =>
    entry objectId .warn "Script call not dispatched"
      [("interface", interface), ("method", method), ("error", error.message)]

end ViewLog

/-- The announcement that a script call from a page ended. -/
def dispatchEvent (objectId : UInt64) (interface method : String) :
    Except DispatchError Unit → ViewEvent
  | .ok () => .scriptDispatched objectId interface method
  | .error error => .scriptDispatchFailed objectId interface error.message

end HostBridge
