import HostBridge.Logging.Entry

/-!
# Reports of log entries

Log entries as JSON, and the part of a log from a level on.
-/

namespace HostBridge.Logging

/-- An entry as an object. -/
def Entry.toJson (entry : Entry) : Json :=
  .object [("level", .string entry.level.name), ("target", .string entry.target),
    ("message", .string entry.message), ("fields", .ofTexts entry.fields.entries),
    ("span_id", .ofOption .string entry.span)]

/-- The name of the field with the time that a request took. -/
def elapsedField : String := "elapsed_ms"

/-- The same entry without the time that a request took. -/
def Entry.timeless (entry : Entry) : Entry :=
  { entry with fields := entry.fields.modify elapsedField (fun _ => "0") }

/-- The entries of a level or a more severe one, without the times that requests took. -/
def logReport (least : Level) (entries : List Entry) : Json :=
  .array ((entries.filter (fun entry => least ≤ entry.level)).map (·.timeless.toJson))

end HostBridge.Logging
