import HostBridge.Json.Parser
import HostBridge.Number.Word
import HostBridge.Table

/-!
# Decoding records

Typed readers of syntax trees.  A record is written as an object, whose unknown members are ignored
and whose known members may not be repeated, or as an array of its fields in their order.  A member
that is ignored is never asked for its value.
-/

namespace HostBridge.Json

/-- A reader of one type. -/
abbrev Decoder (α : Type) := Tree → Option α

namespace Decoder

/-- An integer of the given range, written as an integer. -/
def intBetween (low high : Int) : Decoder Int
  | .number n => n.int?.bind (fun value => if low ≤ value ∧ value ≤ high then some value else none)
  | _ => none

/-- An unsigned 64-bit integer. -/
def uint64 : Decoder UInt64 :=
  fun tree => (intBetween 0 18446744073709551615 tree).map (fun n => UInt64.ofNat n.toNat)

/-- An unsigned 16-bit integer. -/
def uint16 : Decoder UInt16 :=
  fun tree => (intBetween 0 65535 tree).map (fun n => UInt16.ofNat n.toNat)

/-- A signed 32-bit integer. -/
def int32 : Decoder Int32 :=
  fun tree => (intBetween int32Min int32Max tree).map Int32.ofInt

/-- A signed 64-bit integer. -/
def int64 : Decoder Int64 :=
  fun tree => (intBetween int64Min int64Max tree).map Int64.ofInt

/-- A truth value. -/
def bool : Decoder Bool
  | .bool b => some b
  | _ => none

/-- A text. -/
def string : Decoder String
  | .string pieces => textOfPieces? pieces
  | _ => none

/-- A value or null. -/
def nullable {α : Type} (decode : Decoder α) : Decoder (Option α)
  | .null => some none
  | tree => (decode tree).map some

/-- Read the values of members one after the other. -/
def textEntries : List (List Piece × Tree) → Option (List (String × String))
  | [] => some []
  | (name, value) :: rest =>
    match textOfPieces? name, string value, textEntries rest with
    | some name, some value, some rest => some ((name, value) :: rest)
    | _, _, _ => none

/-- An object whose members are texts; the last one of a repeated name counts. -/
def textTable : Decoder (Table String String)
  | .object members => (textEntries members).map Table.ofList
  | _ => none

/-- One of several names, written as a text or as an object with that one member and null. -/
def oneOf {α : Type} (ofName? : String → Option α) : Decoder α
  | .string pieces => (textOfPieces? pieces).bind ofName?
  | .object [(name, .null)] => (textOfPieces? name).bind ofName?
  | _ => none

end Decoder

/-- The fields of a record as they were found. -/
structure Record where
  /-- The fields that are there. -/
  found : List (String × Tree)
  /-- Whether the record was written as an array. -/
  positional : Bool

namespace Record

/-- The known members of an object; each name has to be a text and no known one may be repeated. -/
def knownMembers (known : List String) :
    List (List Piece × Tree) → Option (List (String × Tree))
  | [] => some []
  | (name, value) :: rest =>
    match textOfPieces? name, knownMembers known rest with
    | some name, some found =>
      if name ∉ known then some found
      else if found.any (fun m => m.1 = name) then none
      else some ((name, value) :: found)
    | _, _ => none

/-- Read a tree as a record with the given fields. -/
def ofTree? (known : List String) : Tree → Option Record
  | .object members => (knownMembers known members).map (fun found => ⟨found, false⟩)
  | .array items =>
    if items.length ≤ known.length then some ⟨known.zip items, true⟩ else none
  | _ => none

/-- The tree of a field, if the field is there. -/
def tree? (record : Record) (name : String) : Option Tree :=
  (record.found.find? (fun m => m.1 = name)).map Prod.snd

/-- A field that has to be there. -/
def required {α : Type} (record : Record) (name : String) (decode : Decoder α) : Option α :=
  (record.tree? name).bind decode

/-- A field with a value for the case that it is absent. -/
def withDefault {α : Type} (record : Record) (name : String) (decode : Decoder α) (absent : α) :
    Option α :=
  match record.tree? name with
  | none => some absent
  | some tree => decode tree

/-- A field that may be null, and absent from an object but not from an array. -/
def nullable {α : Type} (record : Record) (name : String) (decode : Decoder α) :
    Option (Option α) :=
  match record.tree? name with
  | none => if record.positional then none else some none
  | some tree => Decoder.nullable decode tree

end Record

/-- Decode a document of text. -/
def decodeText {α : Type} (decode : Decoder α) (text : String) : Option α :=
  (Tree.parse (Text.glyphsOfText text)).bind decode

/-- Decode a document of bytes. -/
def decodeBytes {α : Type} (decode : Decoder α) (bytes : List UInt8) : Option α :=
  (Tree.parse (Text.glyphs bytes)).bind decode

end HostBridge.Json
