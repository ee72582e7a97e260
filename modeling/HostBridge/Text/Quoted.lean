import HostBridge.Text.Digits
import HostBridge.Text.Printable

/-!
# Quoted text and record text

The diagnostic text of values: a text stands in double quotes, with short escapes for the quote,
the backslash, line feed, carriage return, tab and NUL and `\u` escapes for what is not printable;
a record shows its name and its fields, a list and a map their members.
-/

namespace HostBridge.Text

/-- An opening and a closing brace, as text. -/
def openBrace : String := "\x7b"

@[inherit_doc openBrace]
def closeBrace : String := "\x7d"

/-- How a character is shown between quotes. -/
def quoteChar (c : Char) : String :=
  if c = '"' then "\\\""
  else if c = '\\' then "\\\\"
  else if c = '\n' then "\\n"
  else if c = '\r' then "\\r"
  else if c = '\t' then "\\t"
  else if c = '\x00' then "\\0"
  else if isPrintable c then c.toString
  else "\\u" ++ openBrace ++ hexDigits c.toNat ++ closeBrace

/-- A text in double quotes. -/
def quote (s : String) : String :=
  "\"" ++ String.join (s.toList.map quoteChar) ++ "\""

/-- A list of shown members. -/
def showList (members : List String) : String := "[" ++ ", ".intercalate members ++ "]"

/-- Names without repetition, sorted and quoted. -/
def showNames (names : List String) : String :=
  showList ((names.eraseDups.mergeSort (fun a b => decide (a ≤ b))).map quote)

/-- A record with its name and its shown fields. -/
def showRecord (name : String) (fields : List (String × String)) : String :=
  name ++ " " ++ openBrace ++ " "
    ++ ", ".intercalate (fields.map (fun field => field.1 ++ ": " ++ field.2))
    ++ " " ++ closeBrace

/-- A map of texts to texts, in the given order. -/
def showTextMap (entries : List (String × String)) : String :=
  openBrace ++ ", ".intercalate (entries.map (fun e => quote e.1 ++ ": " ++ quote e.2)) ++ closeBrace

/-- A value that may be missing. -/
def showOption (shown : Option String) : String :=
  match shown with
  | none => "None"
  | some text => "Some(" ++ text ++ ")"

/-- A truth value. -/
def showBool (b : Bool) : String := if b then "true" else "false"

end HostBridge.Text
