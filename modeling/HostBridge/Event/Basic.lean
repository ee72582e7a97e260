/-!
# Bridge events

What the bridge announces to its subscribers: page and script notifications of web views, completed
and failed requests, and the lifecycle of registered objects.
-/

namespace HostBridge

/-- A notification about one web view. -/
inductive ViewEvent where
  | pageStarted (objectId : UInt64)
  | loadResource (objectId : UInt64)
  | pageFinished (objectId : UInt64)
  | progressChanged (objectId : UInt64) (progress : Int32)
  | scriptResult (objectId callbackId : UInt64) (delivered : Bool)
  | scriptDispatched (objectId : UInt64) (interface method : String)
  | scriptDispatchFailed (objectId : UInt64) (interface reason : String)
deriving DecidableEq, Repr

/-- A notification about one request. -/
inductive NetEvent where
  | completed (url : String) (code : UInt16) (elapsedMs : UInt64) (nativeCostMs : Option UInt64)
  | transportFailed (url error : String)
deriving DecidableEq, Repr

/-- A notification about a registered object. -/
inductive LifecycleEvent where
  | registered (objectId : UInt64)
  | released (objectId : UInt64)
  | eventDropped (objectId : UInt64) (method : String)
deriving DecidableEq, Repr

/-- An event of the bridge. -/
inductive Event where
  | view (event : ViewEvent)
  | net (event : NetEvent)
  | lifecycle (event : LifecycleEvent)
deriving DecidableEq, Repr

/-- The three kinds of events. -/
inductive EventKind where
  | view
  | net
  | lifecycle
deriving DecidableEq, Repr

/-- How severe an event is, from least to most severe. -/
inductive Severity where
  | debug
  | info
  | warning
  | error
deriving DecidableEq, Repr

namespace Severity

/-- All severities in increasing order. -/
def all : List Severity := [debug, info, warning, error]

/-- The position in the order of severity. -/
def rank : Severity → Nat
  | debug => 0
  | info => 1
  | warning => 2
  | error => 3

/-- The name of a severity. -/
def name : Severity → String
  | debug => "Debug"
  | info => "Info"
  | warning => "Warning"
  | error => "Error"

/-- The severity with a name. -/
def ofName? (text : String) : Option Severity := all.find? (fun severity => severity.name = text)

instance : Ord Severity := ⟨fun a b => compare a.rank b.rank⟩

end Severity

/-- The id of the view that a notification is about. -/
def ViewEvent.objectId : ViewEvent → UInt64
  | pageStarted id => id
  | loadResource id => id
  | pageFinished id => id
  | progressChanged id _ => id
  | scriptResult id _ _ => id
  | scriptDispatched id _ _ => id
  | scriptDispatchFailed id _ _ => id

/-- The id of the object that a notification is about. -/
def LifecycleEvent.objectId : LifecycleEvent → UInt64
  | registered id => id
  | released id => id
  | eventDropped id _ => id

/-- What a notification about a view means. -/
def ViewEvent.description : ViewEvent → String
  | pageStarted _ => "Page load started"
  | loadResource _ => "Page resources loaded"
  | pageFinished _ => "Page load finished"
  | progressChanged _ _ => "Page load progress changed"
  | scriptResult _ _ _ => "Script evaluation result received"
  | scriptDispatched _ _ _ => "Script message dispatched"
  | scriptDispatchFailed _ _ _ => "Script message dispatch failed"

/-- What a notification about a request means. -/
def NetEvent.description : NetEvent → String
  | completed _ _ _ _ => "Native request completed"
  | transportFailed _ _ => "Native request transport failure"

/-- What a notification about an object's lifecycle means. -/
def LifecycleEvent.description : LifecycleEvent → String
  | registered _ => "Native object registered"
  | released _ => "Native object released"
  | eventDropped _ _ => "Inbound event dropped"

namespace Event

/-- What an event means. -/
def description : Event → String
  | view event => event.description
  | net event => event.description
  | lifecycle event => event.description

/-- The id of the object that an event is about; requests are about none. -/
def objectId? : Event → Option UInt64
  | view event => some event.objectId
  | net _ => none
  | lifecycle event => some event.objectId

/-- The kind of an event. -/
def kind : Event → EventKind
  | view _ => .view
  | net _ => .net
  | lifecycle _ => .lifecycle

/-- How severe an event is. -/
def severity : Event → Severity
  | net (.transportFailed _ _) => .error
  | view (.scriptDispatchFailed _ _ _) => .warning
  | lifecycle (.eventDropped _ _) => .warning
  | view (.pageFinished _) => .info
  | net (.completed _ _ _ _) => .info
  | _ => .debug

end Event

end HostBridge
