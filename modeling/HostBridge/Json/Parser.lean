import HostBridge.Json.Numeral
import HostBridge.Json.Syntax

/-!
# Reading JSON

The value of a document: every number has to be in range, every string a text, and arrays and
objects may be nested to a depth of `maxDepth`.  Of members with the same name the last one counts,
and the members are sorted by name.
-/

namespace HostBridge.Json

/-- The deepest nesting of arrays and objects. -/
def maxDepth : Nat := 127

/-- The characters of a string's pieces; surrogates have to come in pairs, and gaps are refused. -/
def charsOfPieces? : List Piece → Option (List Char)
  | [] => some []
  | .char c :: rest => (charsOfPieces? rest).map (c :: ·)
  | .gap :: _ => none
  | .unit high :: .unit low :: rest =>
    if 0xd800 ≤ high ∧ high < 0xdc00 then
      if 0xdc00 ≤ low ∧ low < 0xe000 then
        (charsOfPieces? rest).map
          (Char.ofNat (0x10000 + (high - 0xd800) * 0x400 + (low - 0xdc00)) :: ·)
      else none
    else if 0xdc00 ≤ high ∧ high < 0xe000 then none
    else (charsOfPieces? (.unit low :: rest)).map (Char.ofNat high :: ·)
  | .unit code :: rest =>
    if 0xd800 ≤ code ∧ code < 0xe000 then none
    else (charsOfPieces? rest).map (Char.ofNat code :: ·)

/-- The text of a string's pieces, if they are one. -/
def textOfPieces? (pieces : List Piece) : Option String :=
  (charsOfPieces? pieces).map String.ofList

/-- Members sorted by name with a further one, which replaces a member of the same name. -/
def insertMember (name : String) (value : Json) : List (String × Json) → List (String × Json)
  | [] => [(name, value)]
  | (other, old) :: rest =>
    if name = other then (name, value) :: rest
    else if name < other then (name, value) :: (other, old) :: rest
    else (other, old) :: insertMember name value rest

/-- The members sorted by name, the last one of each name. -/
def sortMembers (members : List (String × Json)) : List (String × Json) :=
  members.foldl (fun sorted m => insertMember m.1 m.2 sorted) []

mutual

/-- The value of a tree in which arrays and objects may be nested to the given depth. -/
def Tree.valueWithin : Nat → Tree → Option Json
  | _, .null => some .null
  | _, .bool b => some (.bool b)
  | _, .number n => n.value?.map .number
  | _, .string pieces => (textOfPieces? pieces).map .string
  | 0, .array _ => none
  | 0, .object _ => none
  | depth + 1, .array items => (itemValues depth items).map .array
  | depth + 1, .object members =>
    (memberValues depth members).map (fun members => .object (sortMembers members))

/-- The values of items, if each has one. -/
def itemValues : Nat → List Tree → Option (List Json)
  | _, [] => some []
  | depth, item :: items =>
    match item.valueWithin depth, itemValues depth items with
    | some value, some values => some (value :: values)
    | _, _ => none

/-- The values of members, if each has one and each name is a text. -/
def memberValues : Nat → List (List Piece × Tree) → Option (List (String × Json))
  | _, [] => some []
  | depth, (name, value) :: members =>
    match textOfPieces? name, value.valueWithin depth, memberValues depth members with
    | some name, some value, some members => some ((name, value) :: members)
    | _, _, _ => none

end

/-- The value of a tree. -/
def Tree.value? (tree : Tree) : Option Json := tree.valueWithin maxDepth

/-- The value that a text writes. -/
def parse (text : String) : Option Json := (Tree.parse (Text.glyphsOfText text)).bind Tree.value?

end HostBridge.Json
