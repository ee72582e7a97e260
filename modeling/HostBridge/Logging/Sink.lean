import HostBridge.Error
import HostBridge.Logging.Filter
import HostBridge.Text.Quoted

/-!
# Log sinks

How an event on its way through the log becomes the entry that a sink receives.  The event has to
pass the filter and the sink's own level; its values become texts, its sensitive fields are masked,
and the innermost span that itself passes the filter is named.
-/

namespace HostBridge.Logging

/-- A value that an event records. -/
inductive Value where
  | text (s : String)
  | quoted (s : String)
  | unsigned (n : UInt64)
  | signed (n : Int64)
  | flag (b : Bool)
  | numbers (ns : List UInt64)
  | failure (error : EngineError)
  /-- A value that may be missing, and is. -/
  | absent

/-- The text of a value; a missing one has none. -/
def Value.text? : Value → Option String
  | .text s => some s
  | .quoted s => some (Text.quote s)
  | .unsigned n => some (toString n.toNat)
  | .signed n => some (toString n.toInt)
  | .flag b => some (Text.showBool b)
  | .numbers ns => some (Text.showList (ns.map (fun n => toString n.toNat)))
  | .failure error => some error.message
  | .absent => none

/-- A span with the target and the level that it is filtered by. -/
structure Span where
  name : String
  target : String
  level : Level
deriving DecidableEq, Repr

/-- An event on its way through the log. -/
structure Emission where
  level : Level
  target : String
  /-- The name of the event itself, which stands in for a message. -/
  name : String
  message : Option String
  fields : List (String × Value)
  /-- The spans around the event, outermost first. -/
  spans : List Span

/-- The sink of the host: the least severe level it takes, and whether it takes anything at all. -/
structure Sink where
  least : Level
  accepts : Bool

/-- The fields of an event that have a text. -/
def Emission.texts (emission : Emission) : List (String × String) :=
  emission.fields.filterMap (fun field => field.2.text?.map (field.1, ·))

/-- The innermost span that passes the filter. -/
def Emission.span? (emission : Emission) (filter : Filter) : Option String :=
  (emission.spans.filter (fun span => filter.passes span.level span.target)).getLast?.map Span.name

/-- The entry that a sink is handed for an event. -/
def Emission.entry (emission : Emission) (filter : Filter) : Entry :=
  .record emission.level emission.target (emission.message.getD emission.name) emission.texts
    (emission.span? filter)

/-- What a sink keeps of an event. -/
def Sink.receive (sink : Sink) (filter : Filter) (emission : Emission) : List Entry :=
  if filter.passes emission.level emission.target ∧ sink.least ≤ emission.level ∧ sink.accepts then
    [emission.entry filter]
  else []

end HostBridge.Logging
