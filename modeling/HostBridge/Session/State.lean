import HostBridge.Image.Scripted
import HostBridge.Raster.Engine
import HostBridge.Session.Action

/-!
# Session state

A bridge context, its scripted collaborators, and the names under which the application holds its
views, streams, bitmaps and slots.
-/

namespace HostBridge.Session

/-- A web engine that answers from a queue.  Without a queued answer it hands out the addresses
0x1000, 0x1010 and so on. -/
structure ScriptedWeb where
  answers : List (Except EngineError UInt64)
  /-- The next address that is given without a queued answer. -/
  next : UInt64
  /-- How calls of views fail, while they do. -/
  failure : Option EngineError
  /-- What happens while the next instance is released. -/
  releaseHook : List Action

/-- A web engine without queued answers. -/
def ScriptedWeb.new : ScriptedWeb := ⟨[], 0x1000, none, []⟩

/-- The engine's answer to a request for an instance. -/
def ScriptedWeb.create (web : ScriptedWeb) : ScriptedWeb × Except EngineError UInt64 :=
  match web.answers with
  | answer :: rest => ({ web with answers := rest }, answer)
  | [] => ({ web with next := web.next + 0x10 }, .ok web.next)

/-- A cookie store that keeps cookies by their exact addresses. -/
structure ScriptedJar where
  cookies : Table String String
  /-- How the store fails, while it does. -/
  failure : Option EngineError

/-- The image engine of a session. -/
inductive Images where
  | none
  | scripted (engine : ScriptedImages)
  | raster (engine : Raster.Engine)

/-- Who is behind the host channel. -/
inductive ChannelKind where
  | none
  | recording
  | logging
deriving DecidableEq, Repr

/-- A session. -/
structure State where
  context : Context Action
  web : ScriptedWeb
  images : Images
  replies : List (List Bytes)
  jar : ScriptedJar
  channel : ChannelKind
  viewNames : Table String ObjectKey
  streams : Table String Stream
  bitmaps : Table String Bitmap
  slotNames : Table String Nat
  slots : Table Nat Slot
  /-- The key of the next slot. -/
  nextSlot : Nat
  /-- What was seen, oldest first. -/
  seen : List Sighting

/-- A session with a bridge context. -/
def State.ofContext (context : Context Action) (images : Images) (channel : ChannelKind) : State :=
  { context := context
    web := ScriptedWeb.new
    images := images
    replies := []
    jar := ⟨Table.empty, none⟩
    channel := channel
    viewNames := Table.empty
    streams := Table.empty
    bitmaps := Table.empty
    slotNames := Table.empty
    slots := Table.empty
    nextSlot := 0
    seen := [] }

/-- A session with a bridge of the given configuration. -/
def State.new (config : Config) (images : Images) (channel : ChannelKind)
    (complain : Complaint) : Except BridgeError State :=
  (Context.new config complain).map (State.ofContext · images channel)

namespace State

/-- Record what was seen. -/
def saw (state : State) (sightings : List Sighting) : State :=
  { state with seen := state.seen ++ sightings }

/-- Record what was logged. -/
def note (state : State) (entries : List Logging.Entry) : State :=
  { state with context := state.context.note entries }

/-- Announce an event. -/
def announce (state : State) (event : Event) : State :=
  { state with context := state.context.announce event }

/-- Forget what was seen and logged so far. -/
def forget (state : State) : State :=
  { state with seen := [], context := { state.context with log := [] } }

/-- The view under a name. -/
def view? (state : State) (name : String) : Option (ObjectKey × View Action) :=
  (state.viewNames.find? name).bind (fun key => (state.context.view? key).map (key, ·))

/-- Change what a slot holds. -/
def setSlot (state : State) (key : Nat) (slot : Slot) : State :=
  { state with slots := state.slots.insert key slot }

/-- A continuation is gone without having been called. -/
def abandon (state : State) : Continuation Action → State
  | .reaction name _ _ => state.saw [.abandoned name]
  | .slot key => state.setSlot key .closed

/-- Several continuations are gone. -/
def abandonAll (state : State) (continuations : List (Continuation Action)) : State :=
  continuations.foldl abandon state

/-- The answer for a name that no view has. -/
def noView : Reply := .text "no view"

/-- The answer of an operation that has nothing to tell. -/
def okReply : Except BridgeError Unit → Reply
  | .ok () => .text "ok"
  | .error error => .failed error

end State

end HostBridge.Session
