import HostBridge.Text.Split

/-!
# Names in ASCII

The text of ASCII letters, digits and hyphens that stands for a text of any characters.  The ASCII
characters come first, and a hyphen behind them if there are any.  Then the other characters follow
in the order of their code points; each is a number that says how many places and code points are
passed over since the one before.  Numbers have digits of base 36 with the lowest first; a digit
below the threshold of its place is the last one.  Thresholds follow the size of the numbers so far.
-/

namespace HostBridge.Web.Domain.Punycode

/-- The number of digits. -/
def base : Nat := 36

/-- The digit of a value below `base`: a letter or, from 26 on, a decimal digit. -/
def digitOf (value : Nat) : Char :=
  if value < 26 then Char.ofNat ('a'.toNat + value) else Char.ofNat ('0'.toNat + (value - 26))

/-- The value of a digit. -/
def digitValue? (c : Char) : Option Nat :=
  if 'a' ≤ c ∧ c ≤ 'z' then some (c.toNat - 'a'.toNat)
  else if 'A' ≤ c ∧ c ≤ 'Z' then some (c.toNat - 'A'.toNat)
  else if '0' ≤ c ∧ c ≤ '9' then some (c.toNat - '0'.toNat + 26)
  else none

/-- The threshold of a place, counted from 0: between 1 and 26. -/
def threshold (bias place : Nat) : Nat := max 1 (min 26 (base * (place + 1) - bias))

theorem threshold_pos (bias place : Nat) : 0 < threshold bias place := by
  unfold threshold
  omega

/-- The bias for a number that is damped already, with the places that it was reduced by. -/
def settle (places number : Nat) : Nat :=
  if 455 < number then settle (places + 1) (number / 35)
  else base * places + base * number / (number + 38)
termination_by number
decreasing_by omega

/-- The bias behind the first number. -/
def initialBias : Nat := 72

/-- The bias behind a number when there are so many characters. -/
def adapt (number count : Nat) (isFirst : Bool) : Nat :=
  let damped := if isFirst then number / 700 else number / 2
  settle 0 (damped + damped / count)

/-- The digits of a number from a place on. -/
def writeNumber (bias place number : Nat) : List Char :=
  let limit := threshold bias place
  if number < limit then [digitOf number]
  else
    digitOf (limit + (number - limit) % (base - limit)) ::
      writeNumber bias (place + 1) ((number - limit) / (base - limit))
termination_by number
decreasing_by
  have := threshold_pos bias place
  have := Nat.div_le_self (number - threshold bias place) (base - threshold bias place)
  omega

/-- A text that is being written. -/
structure Writer where
  /-- The digits so far, in reverse. -/
  digits : List Char
  bias : Nat
  /-- What was passed over since the last number. -/
  number : Nat
  /-- How many characters are written. -/
  count : Nat
  /-- Whether no number was written. -/
  isFirst : Bool

/-- Look at a character of the text while those of a code point are written. -/
def Writer.visit (code : Nat) (writer : Writer) (c : Char) : Writer :=
  if c.toNat < code then { writer with number := writer.number + 1 }
  else if c.toNat = code then
    ⟨(writeNumber writer.bias 0 writer.number).reverse ++ writer.digits,
      adapt writer.number (writer.count + 1) writer.isFirst, 0, writer.count + 1, false⟩
  else writer

/-- Write the characters of the given code points, the first of which is not below `from`. -/
def Writer.writeAll (cs : List Char) (writer : Writer) : Nat → List Nat → Writer
  | _, [] => writer
  | start, code :: codes =>
    let passed := { writer with number := writer.number + (code - start) * (writer.count + 1) }
    let written := cs.foldl (Writer.visit code) passed
    writeAll cs { written with number := written.number + 1 } (code + 1) codes

/-- The text in ASCII that stands for a text. -/
def encode (cs : List Char) : List Char :=
  let plain := cs.filter (·.toNat < 0x80)
  let codes := ((cs.map Char.toNat).filter (0x80 ≤ ·)).mergeSort.eraseDups
  let start : Writer := ⟨[], initialBias, 0, plain.length, true⟩
  plain ++ (if plain.isEmpty then [] else ['-']) ++
    (start.writeAll cs 0x80 codes).digits.reverse

/-- Numbers and the weights of digits are below this limit. -/
def numberLimit : Nat := 4294967296

/-- The number that digits write, added to a value, and what follows.  The first digit has the given
weight. -/
def readNumber? (bias : Nat) (place weight value : Nat) : List Char → Option (Nat × List Char)
  | [] => none
  | c :: rest =>
    match digitValue? c with
    | none => none
    | some digit =>
      let value := value + digit * weight
      let limit := threshold bias place
      if numberLimit ≤ weight ∨ numberLimit ≤ value then none
      else if digit < limit then some (value, rest)
      else readNumber? bias (place + 1) (weight * (base - limit)) value rest

/-- A text that is being read. -/
structure Reader where
  text : List Char
  bias : Nat
  /-- The code point of the next character is not below this one. -/
  code : Nat
  /-- The place behind the last character that was put in; 0 at the start. -/
  place : Nat

/-- Put the characters that digits stand for into their places, one for each unit of fuel. -/
def Reader.readAll? : Nat → Reader → List Char → Option (List Char)
  | _, reader, [] => some reader.text
  | 0, _, _ => none
  | fuel + 1, reader, digits =>
    match readNumber? reader.bias 0 1 reader.place digits with
    | none => none
    | some (position, rest) =>
      let count := reader.text.length + 1
      let code := reader.code + position / count
      let place := position % count
      if code.isValidChar then
        readAll? fuel
          ⟨reader.text.insertIdx place (Char.ofNat code),
            adapt (position - reader.place) count (reader.place = 0), code, place + 1⟩ rest
      else none

/-- The text that a text in ASCII stands for.  Every character uses up a digit. -/
def decode? (cs : List Char) : Option (List Char) :=
  let (plain, digits) :=
    match Text.splitLast? '-' cs with
    | some (c :: before, after) => (c :: before, after)
    | _ => ([], cs)
  Reader.readAll? digits.length ⟨plain, initialBias, 0x80, 0⟩ digits

end HostBridge.Web.Domain.Punycode
