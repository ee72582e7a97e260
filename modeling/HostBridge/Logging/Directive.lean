import HostBridge.Logging.Entry
import HostBridge.Logging.Pattern
import HostBridge.Text.Split

/-!
# Directives

A directive of a log filter names a target, a span in brackets, or both, and a level behind an
equals sign.  A span may have a condition on one of its fields in braces.  A directive that is only
a level speaks about every target.

The parts of a directive are found in its text without the blanks around it, and are then taken from
the text with those blanks at the same places.  A directive with a level behind an equals sign has
therefore no blanks around it.
-/

namespace HostBridge.Logging

/-- A condition on a field: that it is there, or that it has a value. -/
structure Condition where
  field : String
  /-- A number or a pattern. -/
  value : Option String
deriving DecidableEq, Repr

/-- What a span has to be. -/
structure SpanMatch where
  name : String
  condition : Option Condition
deriving DecidableEq, Repr

/-- One rule of a filter. -/
structure Directive where
  /-- What the path of a target has to begin with. -/
  target : String
  /-- The span that the directive is bound to, if it is bound to one. -/
  span : Option SpanMatch
  /-- The least severe level that passes; none if nothing passes. -/
  least : Option Level
deriving DecidableEq, Repr

/-- The words of thresholds in the order of their numbers. -/
def thresholds : List (String × Option Level) :=
  [("off", none), ("error", some .error), ("warn", some .warn), ("info", some .info),
    ("debug", some .debug), ("trace", some .trace)]

/-- The threshold that a number or a word in any case names. -/
def thresholdOf? (text : List Char) : Option (Option Level) :=
  match Text.readNumeral UInt64.size text with
  | .ok number => (thresholds[number]?).map Prod.snd
  | .error _ =>
    (thresholds.find? (fun entry => entry.1.toList = text.map Char.toLower)).map Prod.snd

/-- The threshold behind an equals sign: the most verbose one if nothing stands there. -/
def thresholdAfterEquals? (text : List Char) : Option (Option Level) :=
  if text.isEmpty then some (some .trace) else thresholdOf? text

/-- Whether a text is a sign, if there is one, and then digits. -/
def isExponent : List Char → Bool
  | '+' :: digits => !digits.isEmpty && digits.all Char.isDigit
  | '-' :: digits => !digits.isEmpty && digits.all Char.isDigit
  | digits => !digits.isEmpty && digits.all Char.isDigit

/-- Whether a text is a number without a sign: digits with a point among them and an exponent behind
them, both of which may be missing, or a word for a number that has no digits. -/
def isUnsignedNumber (text : List Char) : Bool :=
  let (whole, rest) := text.span Char.isDigit
  let (fraction, rest) :=
    match rest with
    | '.' :: rest => rest.span Char.isDigit
    | rest => ([], rest)
  let ending :=
    match rest with
    | [] => true
    | c :: exponent => c.toLower = 'e' && isExponent exponent
  (!(whole ++ fraction).isEmpty && ending) ||
    ["inf", "infinity", "nan"].contains (String.ofList (text.map Char.toLower))

/-- Whether a text is a number. -/
def isNumber : List Char → Bool
  | '+' :: text => isUnsignedNumber text
  | '-' :: text => isUnsignedNumber text
  | text => isUnsignedNumber text

/-- Read a condition: the name of a field, and its value behind an equals sign.  What stands behind
a second one does not count. -/
def Condition.parse? (text : List Char) : Option Condition :=
  if text.isEmpty then none
  else
    match Text.splitAll (· = '=') text with
    | [] => none
    | [field] => some ⟨String.ofList field, none⟩
    | field :: value :: _ =>
      if isNumber value || Pattern.isPattern value then
        some ⟨String.ofList field, some (String.ofList value)⟩
      else none

namespace Directive

/-- A place in a directive: the character by which the parts are found, and the one that is
taken. -/
abbrev Place := Char × Char

/-- The text that is taken at places. -/
def taken (places : List Place) : List Char := places.map Prod.snd

/-- Whether a directive may begin with a character. -/
def isStart (c : Char) : Bool := c = '-' || c = ':' || c = '_' || Text.isAlphanumeric c

/-- Read what follows the name and the span: nothing, or an equals sign and a threshold. -/
def withLevel? (directive : Directive) (behind : List Char) : List Place → Option Directive
  | [] => some directive
  | ('=', _) :: rest =>
    (thresholdAfterEquals? (taken rest ++ behind)).map (fun least => { directive with least := least })
  | _ => none

/-- Read a span behind its bracket, and what follows it. -/
def withSpan? (target : String) (behind : List Char) (places : List Place) : Option Directive :=
  let (name, rest) := places.span (fun place => place.1 ≠ ']' && place.1 ≠ '\x7b')
  let bound (condition : Option Condition) : Directive :=
    ⟨target, some ⟨String.ofList (taken name), condition⟩, some .trace⟩
  match rest with
  | [] => none
  | (']', _) :: rest => (bound none).withLevel? behind rest
  | _ :: rest =>
    let (text, rest) := rest.span (fun place => place.1 ≠ '\x7d')
    match Condition.parse? (taken text), rest with
    | some condition, _ :: (']', _) :: rest => (bound (some condition)).withLevel? behind rest
    | _, _ => none

/-- Read a directive that is a level or the name of a target. -/
def ofName (text : List Char) : Directive :=
  match thresholdOf? text with
  | some least => ⟨"", none, least⟩
  | none => ⟨String.ofList text, none, some .trace⟩

/-- Read a directive. -/
def parse? (text : List Char) : Option Directive :=
  let seen := Text.trimChars text
  let behind := text.drop seen.length
  match seen.zip text with
  | [] => none
  | ('[', _) :: rest => withSpan? "" behind rest
  | first :: rest =>
    if !isStart first.1 then none
    else
      let (name, rest) := (first :: rest).span (fun place => place.1 ≠ '=' && place.1 ≠ '[')
      match rest with
      | [] => some (ofName (taken name ++ behind))
      | ('[', _) :: rest => withSpan? (String.ofList (taken name)) behind rest
      | rest => withLevel? ⟨String.ofList (taken name), none, some .trace⟩ behind rest

end Directive

end HostBridge.Logging
