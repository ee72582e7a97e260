import HostBridge.Table

/-!
# Redaction

Values whose name marks them as sensitive are masked before they reach a log.  A name is sensitive
when it contains one of a few fragments, whatever the case of its ASCII letters and whether it is
written with hyphens or underscores.
-/

namespace HostBridge.Logging

/-- The fragments that mark a name as sensitive. -/
def sensitiveFragments : List String :=
  ["cookie", "authorization", "token", "password", "secret", "api_key", "session"]

/-- What stands in the place of a sensitive value. -/
def mask : String := "[REDACTED]"

/-- A character of a name with the differences that do not count removed. -/
def foldChar (c : Char) : Char := if c = '-' then '_' else c.toLower

/-- Whether `fragment` occurs in `text`. -/
def occursIn (fragment : List Char) : List Char → Bool
  | [] => fragment.isEmpty
  | c :: rest => fragment.isPrefixOf (c :: rest) || occursIn fragment rest

/-- Whether a name marks its value as sensitive. -/
def isSensitive (name : String) : Bool :=
  let folded := name.toList.map foldChar
  sensitiveFragments.any (fun fragment => occursIn fragment.toList folded)

/-- The value that may be logged under a name. -/
def redact (name value : String) : String := if isSensitive name then mask else value

/-- Headers that may be logged: the same names, with the values of sensitive ones masked. -/
def redactHeaders (headers : List (String × String)) : List (String × String) :=
  headers.map (fun header => (header.1, redact header.1 header.2))

end HostBridge.Logging
