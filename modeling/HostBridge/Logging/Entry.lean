import HostBridge.Json.Decode
import HostBridge.Logging.Redaction

/-!
# Log entries

What a log sink receives: the level, where the event comes from, its message and fields and the
innermost span it was recorded in.  Fields reach a sink redacted.
-/

namespace HostBridge.Logging

/-- The severity of a log entry, from least to most severe. -/
inductive Level where
  | trace
  | debug
  | info
  | warn
  | error
deriving DecidableEq, Repr, Inhabited

namespace Level

/-- All levels in increasing order. -/
def all : List Level := [trace, debug, info, warn, error]

/-- The position of a level in the order of severity. -/
def rank : Level → Nat
  | trace => 0
  | debug => 1
  | info => 2
  | warn => 3
  | error => 4

/-- The name of a level. -/
def name : Level → String
  | trace => "Trace"
  | debug => "Debug"
  | info => "Info"
  | warn => "Warn"
  | error => "Error"

/-- The word for a level in filters. -/
def word : Level → String
  | trace => "trace"
  | debug => "debug"
  | info => "info"
  | warn => "warn"
  | error => "error"

/-- The level with a name. -/
def ofName? (text : String) : Option Level := all.find? (fun level => level.name = text)

instance : Ord Level := ⟨fun a b => compare a.rank b.rank⟩

instance : LE Level := ⟨fun a b => a.rank ≤ b.rank⟩

instance (a b : Level) : Decidable (a ≤ b) := inferInstanceAs (Decidable (a.rank ≤ b.rank))

/-- Read a level by its name. -/
def decode : Json.Decoder Level := Json.Decoder.oneOf ofName?

end Level

/-- A log entry. -/
structure Entry where
  level : Level
  target : String
  message : String
  fields : Table String String
  span : Option String

namespace Entry

/-- An entry without fields. -/
def new (level : Level) (target message : String) : Entry :=
  ⟨level, target, message, Table.empty, none⟩

/-- Set a field, in place of one of the same name. -/
def withField (entry : Entry) (name value : String) : Entry :=
  { entry with fields := entry.fields.insert name value }

/-- Set the span. -/
def withSpan (entry : Entry) (span : String) : Entry := { entry with span := some span }

/-- The entry of an event with the given fields, as a sink receives it. -/
def record (level : Level) (target message : String) (fields : List (String × String))
    (span : Option String) : Entry :=
  let entry := fields.foldl (fun entry field => entry.withField field.1 (redact field.1 field.2))
    (Entry.new level target message)
  { entry with span := span }

end Entry

/-- The parts of the bridge that log, with the paths under which filters know them. -/
inductive Component where
  | registry
  | script
  | router
  | view
  | bitmap
  | net
  | cookies
  | channel
  | context
  | raster
  | hostChannel
  | desktopNet
  | service
  | entryPoint
deriving DecidableEq, Repr

/-- The path of a component. -/
def Component.path : Component → String
  | registry => "core_bridge::registry"
  | script => "core_bridge::script"
  | router => "core_bridge::router"
  | view => "core_bridge::webview"
  | bitmap => "core_bridge::bitmap"
  | net => "core_bridge::net"
  | cookies => "core_bridge::cookies"
  | channel => "core_bridge::channel"
  | context => "core_bridge::context"
  | raster => "bridge_desktop::raster"
  | hostChannel => "bridge_desktop::channel"
  | desktopNet => "bridge_desktop::net"
  | service => "core_service"
  | entryPoint => "core_service::ffi"

/-- The entry of an event of a component outside of any span. -/
def Component.log (component : Component) (level : Level) (message : String)
    (fields : List (String × String)) : Entry :=
  .record level component.path message fields none

end HostBridge.Logging
