/-!
# Digits

Decimal and hexadecimal texts of numbers, the reading of digits to a base, and the reading of
unsigned 64-bit numbers: an optional plus sign and then ASCII digits, nothing else.
-/

namespace HostBridge.Text

/-- Why a text is no unsigned 64-bit number. -/
inductive NumeralError where
  /-- There is nothing to read. -/
  | empty
  /-- There is something other than an ASCII digit, or a sign without digits. -/
  | invalidDigit
  /-- The number does not fit into 64 bits. -/
  | tooLarge
deriving DecidableEq, Repr

/-- The wording of a refused numeral. -/
def NumeralError.message : NumeralError → String
  | .empty => "cannot parse integer from empty string"
  | .invalidDigit => "invalid digit found in string"
  | .tooLarge => "number too large to fit in target type"

/-- The value of an ASCII digit. -/
def digitValue? (c : Char) : Option Nat :=
  if '0' ≤ c ∧ c ≤ '9' then some (c.toNat - '0'.toNat) else none

/-- The number below `limit` that the digits write after `value` was read.  The first digit that is
none decides over the first one that exceeds the limit only where it comes first. -/
def readDigits (limit : Nat) : Nat → List Char → Except NumeralError Nat
  | value, [] => .ok value
  | value, c :: rest =>
    match digitValue? c with
    | none => .error .invalidDigit
    | some digit =>
      if 10 * value + digit < limit then readDigits limit (10 * value + digit) rest
      else .error .tooLarge

/-- The number below `limit` that a text of digits with an optional plus sign writes. -/
def readNumeral (limit : Nat) : List Char → Except NumeralError Nat
  | [] => .error .empty
  | ['+'] => .error .invalidDigit
  | '+' :: digits => readDigits limit 0 digits
  | digits => readDigits limit 0 digits

/-- Read an unsigned 64-bit number. -/
def readUInt64 (s : String) : Except NumeralError UInt64 :=
  (readNumeral UInt64.size s.toList).map UInt64.ofNat

/-- The lower-case hexadecimal digits of a number. -/
def hexDigits (n : Nat) : String := String.ofList (Nat.toDigits 16 n)

/-- A number in the form `0x1f`. -/
def hexNumber (n : UInt64) : String := "0x" ++ hexDigits n.toNat

/-- The lower-case hexadecimal digit of a number below 16. -/
def hexDigit (n : Nat) : Char := Nat.digitChar n

/-- Two lower-case hexadecimal digits per byte. -/
def hexBytes (bytes : List UInt8) : String :=
  String.ofList (bytes.flatMap (fun b => [hexDigit (b.toNat / 16), hexDigit (b.toNat % 16)]))

/-- The value of a hexadecimal digit in either case. -/
def hexValue? (c : Char) : Option Nat :=
  if '0' ≤ c ∧ c ≤ '9' then some (c.toNat - '0'.toNat)
  else if 'a' ≤ c ∧ c ≤ 'f' then some (c.toNat - 'a'.toNat + 10)
  else if 'A' ≤ c ∧ c ≤ 'F' then some (c.toNat - 'A'.toNat + 10)
  else none

/-- The number that digits write to a base of at most 16. -/
def readNatWith? (base : Nat) : Nat → List Char → Option Nat
  | value, [] => some value
  | value, c :: rest =>
    match hexValue? c with
    | none => none
    | some digit => if digit < base then readNatWith? base (base * value + digit) rest else none

/-- The bytes that pairs of hexadecimal digits write; any other character counts as 0. -/
def bytesOfHex : List Char → List UInt8
  | high :: low :: rest =>
    UInt8.ofNat (16 * (hexValue? high).getD 0 + (hexValue? low).getD 0) :: bytesOfHex rest
  | _ => []

end HostBridge.Text
