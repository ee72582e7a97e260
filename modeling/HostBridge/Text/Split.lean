/-!
# Splitting text

Cutting a list of characters at separators.  `splitAll` has one part more than there are separators,
so it always has one.
-/

namespace HostBridge.Text

/-- What stands before the first character that satisfies `stop`, and what stands after that
character, if there is one. -/
def splitFirst (stop : Char → Bool) : List Char → List Char × Option (List Char)
  | [] => ([], none)
  | c :: rest =>
    if stop c then ([], some rest)
    else
      let (before, after) := splitFirst stop rest
      (c :: before, after)

/-- The parts between the characters that satisfy `stop`. -/
def splitAll (stop : Char → Bool) : List Char → List (List Char)
  | [] => [[]]
  | c :: rest =>
    if stop c then [] :: splitAll stop rest
    else
      match splitAll stop rest with
      | [] => [[c]]
      | part :: parts => (c :: part) :: parts

/-- What stands before and after the last occurrence of a character. -/
def splitLast? (separator : Char) (cs : List Char) : Option (List Char × List Char) :=
  match splitFirst (· = separator) cs.reverse with
  | (_, none) => none
  | (after, some before) => some (before.reverse, after.reverse)

/-- What stands before the first occurrence of `marker`, and what stands behind it. -/
def splitAtMarker? (marker : List Char) : List Char → Option (List Char × List Char)
  | [] => if marker.isEmpty then some ([], []) else none
  | c :: rest =>
    if marker.isPrefixOf (c :: rest) then some ([], (c :: rest).drop marker.length)
    else (splitAtMarker? marker rest).map (fun parts => (c :: parts.1, parts.2))

/-- The text up to the end of the first occurrence of a marker. -/
def upToFirst? (marker text : String) : Option String :=
  (splitAtMarker? marker.toList text.toList).map (fun parts => String.ofList parts.1 ++ marker)

/-- The text up to the end of the last occurrence of a marker. -/
def upToLast? (marker text : String) : Option String :=
  (splitAtMarker? marker.toList.reverse text.toList.reverse).map (fun parts =>
    String.ofList parts.2.reverse ++ marker)

/-- A text without its first character, if that is the given one. -/
def withoutFirst (c : Char) (text : String) : String :=
  match text.toList with
  | first :: rest => if first = c then String.ofList rest else text
  | [] => text

end HostBridge.Text
