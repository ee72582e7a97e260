import HostBridge.Json.Token

/-!
# JSON syntax trees

A document whose form was checked and whose values were not: numbers keep their digits, strings
their pieces and objects all members in order, repeated names too.  What is never asked for its
value may be out of range, badly encoded or nested to any depth.
-/

namespace HostBridge.Json

/-- A syntax tree. -/
inductive Tree where
  | null
  | bool (b : Bool)
  | number (n : Numeral)
  | string (pieces : List Piece)
  | array (items : List Tree)
  | object (members : List (List Piece × Tree))

mutual

/-- The tree at the start of the tokens and what follows it.  Every call uses up a token or a unit
of fuel that a token brought. -/
def parseTree : Nat → List Token → Option (Tree × List Token)
  | 0, _ => none
  | _ + 1, [] => none
  | fuel + 1, token :: rest =>
    match token with
    | .null => some (.null, rest)
    | .bool b => some (.bool b, rest)
    | .number n => some (.number n, rest)
    | .string pieces => some (.string pieces, rest)
    | .openArray =>
      match rest with
      | .closeArray :: rest => some (.array [], rest)
      | rest => (parseItems fuel rest).map (fun (items, rest) => (.array items, rest))
    | .openObject =>
      match rest with
      | .closeObject :: rest => some (.object [], rest)
      | rest => (parseMembers fuel rest).map (fun (members, rest) => (.object members, rest))
    | _ => none

/-- One or more items and the bracket that closes them. -/
def parseItems : Nat → List Token → Option (List Tree × List Token)
  | 0, _ => none
  | fuel + 1, tokens =>
    match parseTree fuel tokens with
    | some (item, .comma :: rest) =>
      (parseItems fuel rest).map (fun (items, rest) => (item :: items, rest))
    | some (item, .closeArray :: rest) => some ([item], rest)
    | _ => none

/-- One or more members and the brace that closes them. -/
def parseMembers : Nat → List Token → Option (List (List Piece × Tree) × List Token)
  | 0, _ => none
  | fuel + 1, tokens =>
    match tokens with
    | .string name :: .colon :: rest =>
      match parseTree fuel rest with
      | some (value, .comma :: rest) =>
        (parseMembers fuel rest).map (fun (members, rest) => ((name, value) :: members, rest))
      | some (value, .closeObject :: rest) => some ([(name, value)], rest)
      | _ => none
    | _ => none

end

/-- The tree of a document that holds one value and nothing else. -/
def Tree.parse (glyphs : List Text.Glyph) : Option Tree :=
  match tokens glyphs with
  | none => none
  | some tokens =>
    match parseTree (2 * tokens.length + 1) tokens with
    | some (tree, []) => some tree
    | _ => none

end HostBridge.Json
