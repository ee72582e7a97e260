import HostBridge.Error
import HostBridge.Logging.Filter
import HostBridge.Text.Quoted

/-!
# The setup of logging

The settings of the process-wide log, and its installation.  A filter that cannot be read is found
out first; after that, logging can be installed once and never again.
-/

namespace HostBridge.Logging

/-- How entries are written. -/
inductive Format where
  | pretty
  | json
  | compact
deriving DecidableEq, Repr

/-- All formats. -/
def Format.all : List Format := [.pretty, .json, .compact]

/-- The name of a format. -/
def Format.name : Format → String
  | pretty => "Pretty"
  | json => "Json"
  | compact => "Compact"

/-- The format with a name. -/
def Format.ofName? (text : String) : Option Format := Format.all.find? (fun f => f.name = text)

/-- The settings of the log. -/
structure Config where
  format : Format
  /-- The least severe level of the bridge's own parts. -/
  level : Level
  /-- A filter that takes the place of the default one. -/
  filter : Option String
  /-- The least severe level of the host's sink, if there is one. -/
  sink : Option Level
  spans : Bool
  target : Bool
  threadInfo : Bool
deriving DecidableEq, Repr

/-- The least severe level of a sink that does not say otherwise. -/
def defaultSinkLevel : Level := .info

/-- The parts of the bridge, by the first segment of their paths. -/
def ownParts : List String :=
  ["native_bridge_workspace", "core_runtime", "core_bridge", "core_service", "bridge_desktop"]

/-- The parts beneath the desktop's request engine, of which only warnings are let through. -/
def quietParts : List String := ["h2", "hyper", "reqwest"]

namespace Config

/-- The settings that hold if nothing else is asked for. -/
def default : Config := ⟨.pretty, .info, none, none, false, true, true⟩

/-- The text of the filter that the settings ask for. -/
def filterText (config : Config) : String :=
  match config.filter with
  | some text => text
  | none =>
    ",".intercalate
      (ownParts.map (fun part => part ++ "=" ++ config.level.word)
        ++ quietParts.map (fun part => part ++ "=" ++ Level.word .warn))

/-- The filter that the settings ask for. -/
def filter? (config : Config) : Except SetupError Filter :=
  match Filter.parse? config.filterText with
  | some filter => .ok filter
  | none => .error (.config ("Invalid log filter '" ++ config.filterText ++ "': "))

/-- The wording of a second installation. -/
def installedText : String := "a global default trace dispatcher has already been set"

/-- Install the log in a process that may already have one. -/
def install (config : Config) (installed : Bool) : Except SetupError Filter :=
  match config.filter? with
  | .error error => .error error
  | .ok filter => if installed then .error (.logging installedText) else .ok filter

/-- The diagnostic text of the settings. -/
def shown (config : Config) : String :=
  let sink := config.sink.map (fun _ =>
    Text.quote ("LoggerSink " ++ Text.openBrace ++ " ... " ++ Text.closeBrace))
  Text.showRecord "LoggingConfig"
    [("format", config.format.name), ("level", config.level.name),
      ("filter", Text.showOption (config.filter.map Text.quote)),
      ("logger_sink", Text.showOption sink), ("enable_spans", Text.showBool config.spans),
      ("display_target", Text.showBool config.target),
      ("display_thread_info", Text.showBool config.threadInfo)]

end Config

end HostBridge.Logging
