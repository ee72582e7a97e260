/-!
# JSON values

Documents as values.  The members of an object keep the order in which they are listed; a record is
written in the order of its fields, and a value that was read has its members sorted by name.
-/

namespace HostBridge

/-- A number: an integer of 64 bits with or without a sign, or a binary64 number.  Negative numbers
that are integers are kept apart from the others, so each integer has one form. -/
inductive Json.Number where
  | unsigned (n : UInt64)
  | negative (n : Int64)
  | float (x : Float)
deriving DecidableEq

/-- A JSON value. -/
inductive Json where
  | null
  | bool (b : Bool)
  | number (n : Json.Number)
  | string (s : String)
  | array (items : List Json)
  | object (members : List (String × Json))

namespace Json

instance : Inhabited Json := ⟨.null⟩

/-- The number of an unsigned 64-bit integer. -/
def ofUInt64 (n : UInt64) : Json := .number (.unsigned n)

/-- The number of a signed integer that fits into 64 bits. -/
def ofInt (n : Int) : Json :=
  if 0 ≤ n then .number (.unsigned (UInt64.ofNat n.toNat)) else .number (.negative (Int64.ofInt n))

/-- The number of a natural number that fits into 64 bits. -/
def ofNat (n : Nat) : Json := .number (.unsigned (UInt64.ofNat n))

/-- A value that may be missing; a missing one is null. -/
def ofOption {α : Type} (encode : α → Json) : Option α → Json
  | none => .null
  | some a => encode a

/-- An object whose members are texts. -/
def ofTexts (entries : List (String × String)) : Json :=
  .object (entries.map (fun entry => (entry.1, .string entry.2)))

/-- The member of an object under a name. -/
def get? (name : String) : Json → Option Json
  | .object members => (members.find? (fun m => m.1 = name)).map Prod.snd
  | _ => none

/-- The text, if the value is one. -/
def asString? : Json → Option String
  | .string s => some s
  | _ => none

/-- The items, if the value is an array. -/
def asArray? : Json → Option (List Json)
  | .array items => some items
  | _ => none

/-- The integer, if the value is one; a float is none, whatever its value. -/
def asInt? : Json → Option Int
  | .number (.unsigned n) => some n.toNat
  | .number (.negative n) => some n.toInt
  | _ => none

end Json

end HostBridge
