import HostBridge.Json.Basic
import HostBridge.Text.Digits
import HostBridge.Text.Shortest

/-!
# Writing JSON

Compact JSON text.  Short escapes are used where the grammar has them, other control characters are
written as `\u00xx`, and every other character stands for itself.  A float is written with the
fewest digits that read back: positionally while its decimal exponent is between -5 and 15, and in
scientific form with a signed exponent otherwise.
-/

namespace HostBridge.Json

/-- How a character is written inside a string. -/
def escapeChar (c : Char) : List Char :=
  if c = '"' then ['\\', '"']
  else if c = '\\' then ['\\', '\\']
  else if c = '\x08' then ['\\', 'b']
  else if c = '\x0c' then ['\\', 'f']
  else if c = '\n' then ['\\', 'n']
  else if c = '\r' then ['\\', 'r']
  else if c = '\t' then ['\\', 't']
  else if c.toNat < 0x20 then
    ['\\', 'u', '0', '0', Text.hexDigit (c.toNat / 16), Text.hexDigit (c.toNat % 16)]
  else [c]

/-- A text between quotes. -/
def stringChars (s : List Char) : List Char := '"' :: (s.flatMap escapeChar ++ ['"'])

/-- The decimal digits of a natural number. -/
def natChars (n : Nat) : List Char := Nat.toDigits 10 n

/-- A decimal with `digits` and the decimal exponent `e` of the first of them. -/
def decimalChars (digits : List Char) (e : Int) : List Char :=
  if -5 ≤ e ∧ e ≤ 15 then
    if e < 0 then
      '0' :: '.' :: (List.replicate (-e - 1).toNat '0' ++ digits)
    else
      let whole := e.toNat + 1
      if digits.length ≤ whole then
        digits ++ List.replicate (whole - digits.length) '0' ++ ['.', '0']
      else digits.take whole ++ '.' :: digits.drop whole
  else
    let mantissa := match digits with
      | first :: second :: rest => first :: '.' :: second :: rest
      | short => short
    mantissa ++ 'e' :: (if e < 0 then '-' else '+') :: natChars e.natAbs

/-- A finite float. -/
def floatChars (x : Float) : List Char :=
  let magnitude := Magnitude.ofBits x.toBits
  let unsigned :=
    if magnitude.mantissa = 0 then ['0', '.', '0']
    else
      let decimal := Text.shortest magnitude
      let digits := natChars decimal.digits
      decimalChars digits (decimal.exponent + digits.length - 1)
  if hasSignBit x then '-' :: unsigned else unsigned

/-- A number. -/
def Number.chars : Number → List Char
  | .unsigned n => natChars n.toNat
  | .negative n => (if n.toInt < 0 then ['-'] else []) ++ natChars n.toInt.natAbs
  | .float x => floatChars x

mutual

/-- The characters of a value. -/
def chars : Json → List Char
  | .null => ['n', 'u', 'l', 'l']
  | .bool true => ['t', 'r', 'u', 'e']
  | .bool false => ['f', 'a', 'l', 's', 'e']
  | .number n => n.chars
  | .string s => stringChars s.toList
  | .array [] => ['[', ']']
  | .array (item :: items) => '[' :: (chars item ++ itemsChars items)
  | .object [] => ['\x7b', '\x7d']
  | .object ((name, value) :: members) =>
    '\x7b' :: (stringChars name.toList ++ ':' :: (chars value ++ membersChars members))

/-- The items of an array after the first, with the bracket that closes it. -/
def itemsChars : List Json → List Char
  | [] => [']']
  | item :: items => ',' :: (chars item ++ itemsChars items)

/-- The members of an object after the first, with the brace that closes it. -/
def membersChars : List (String × Json) → List Char
  | [] => ['\x7d']
  | (name, value) :: members =>
    ',' :: (stringChars name.toList ++ ':' :: (chars value ++ membersChars members))

end

/-- The compact text of a value. -/
def render (value : Json) : String := String.ofList value.chars

end HostBridge.Json
