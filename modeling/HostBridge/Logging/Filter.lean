import HostBridge.Logging.Directive

/-!
# Log filters

A filter is a list of directives, separated by commas.  A directive lets through the events of the
targets whose path begins with its name, from a level on; a directive without a level lets all of
them through, and one that is only a level speaks about every target.  A directive with a span
speaks only about what happens within that span.
-/

namespace HostBridge.Logging

/-- The rules of a filter. -/
structure Filter where
  directives : List Directive
deriving DecidableEq, Repr

namespace Filter

/-- Read directives, each of which has to be one. -/
def parseAll? : List (List Char) → Option (List Directive)
  | [] => some []
  | part :: parts =>
    match Directive.parse? part, parseAll? parts with
    | some directive, some directives => some (directive :: directives)
    | _, _ => none

/-- Read a filter; empty parts do not count. -/
def parse? (text : String) : Option Filter :=
  (parseAll? ((Text.splitAll (· = ',') text.toList).filter (· ≠ []))).map (⟨·⟩)

/-- Of two directives the one with the longer name, the later one of equal length. -/
def moreSpecific (best : Option Directive) (directive : Directive) : Option Directive :=
  match best with
  | none => some directive
  | some other =>
    if other.target.length ≤ directive.target.length then some directive else some other

/-- The directive that decides about a target outside of any span. -/
def directiveFor? (filter : Filter) (target : String) : Option Directive :=
  (filter.directives.filter (fun directive =>
    directive.span.isNone && directive.target.toList.isPrefixOf target.toList)).foldl
    moreSpecific none

/-- Whether events of a level and a target pass. -/
def passes (filter : Filter) (level : Level) (target : String) : Bool :=
  match (filter.directiveFor? target).bind Directive.least with
  | none => false
  | some least => decide (least ≤ level)

end Filter

end HostBridge.Logging
