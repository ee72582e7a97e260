import HostBridge.Text.Utf8
import HostBridge.Text.Digits

/-!
# JSON tokens

The lexical grammar.  A string is kept as its pieces and a number as its digits: whether a string
has lone surrogates or bytes that are no text, and whether a number is in range, is asked only where
the value is wanted.
-/

namespace HostBridge.Json

open HostBridge.Text (Glyph)

/-- A part of a string as it was written. -/
inductive Piece where
  /-- A character, written as itself or with a short escape. -/
  | char (c : Char)
  /-- Bytes that encode no character. -/
  | gap
  /-- A UTF-16 code unit, written as an escape of four hexadecimal digits. -/
  | unit (code : Nat)
deriving DecidableEq, Repr

/-- A number as it was written: the sign, the digits before and after the point, and the
exponent. -/
structure Numeral where
  negative : Bool
  whole : List Nat
  fraction : Option (List Nat)
  exponent : Option (Bool × List Nat)
deriving DecidableEq, Repr

/-- The words and marks of a document. -/
inductive Token where
  | openObject
  | closeObject
  | openArray
  | closeArray
  | comma
  | colon
  | null
  | bool (b : Bool)
  | number (n : Numeral)
  | string (pieces : List Piece)
deriving DecidableEq, Repr

/-- The code unit that four hexadecimal digits write. -/
def codeUnit? (a b c d : Char) : Option Nat := do
  let a ← Text.hexValue? a
  let b ← Text.hexValue? b
  let c ← Text.hexValue? c
  let d ← Text.hexValue? d
  return ((a * 16 + b) * 16 + c) * 16 + d

/-- The character of a short escape. -/
def shortEscape? (c : Char) : Option Char :=
  if c = '"' ∨ c = '\\' ∨ c = '/' then some c
  else if c = 'b' then some '\x08'
  else if c = 'f' then some '\x0c'
  else if c = 'n' then some '\n'
  else if c = 'r' then some '\r'
  else if c = 't' then some '\t'
  else none

/-- The pieces of a string up to the quote that ends it, and what follows. -/
def lexString : List Glyph → Option (List Piece × List Glyph)
  | [] => none
  | none :: rest => (lexString rest).map (fun (pieces, rest) => (.gap :: pieces, rest))
  | some '"' :: rest => some ([], rest)
  | some '\\' :: some 'u' :: some a :: some b :: some c :: some d :: rest =>
    match codeUnit? a b c d with
    | none => none
    | some code => (lexString rest).map (fun (pieces, rest) => (.unit code :: pieces, rest))
  | some '\\' :: some c :: rest =>
    match shortEscape? c with
    | none => none
    | some c => (lexString rest).map (fun (pieces, rest) => (.char c :: pieces, rest))
  | some c :: rest =>
    if c = '\\' ∨ c.toNat < 0x20 then none
    else (lexString rest).map (fun (pieces, rest) => (.char c :: pieces, rest))

/-- The digits at the start, and what follows them. -/
def lexDigits : List Glyph → List Nat × List Glyph
  | some c :: rest =>
    match Text.digitValue? c with
    | some digit => let (digits, rest) := lexDigits rest; (digit :: digits, rest)
    | none => ([], some c :: rest)
  | rest => ([], rest)

/-- The exponent at the start, if there is an exponent mark; the mark needs digits. -/
def lexExponent (negative : Bool) (whole : List Nat) (fraction : Option (List Nat))
    (rest : List Glyph) : Option (Numeral × List Glyph) :=
  let digitsOf (minus : Bool) (rest : List Glyph) : Option (Numeral × List Glyph) :=
    match lexDigits rest with
    | ([], _) => none
    | (digits, rest) => some (⟨negative, whole, fraction, some (minus, digits)⟩, rest)
  let signed (rest : List Glyph) : Option (Numeral × List Glyph) :=
    match rest with
    | some '+' :: rest => digitsOf false rest
    | some '-' :: rest => digitsOf true rest
    | rest => digitsOf false rest
  match rest with
  | some 'e' :: rest => signed rest
  | some 'E' :: rest => signed rest
  | rest => some (⟨negative, whole, fraction, none⟩, rest)

/-- A number without its sign: the point needs digits on both sides, and a zero in front stands
alone. -/
def lexNumber (negative : Bool) (glyphs : List Glyph) : Option (Numeral × List Glyph) :=
  match lexDigits glyphs with
  | ([], _) => none
  | (0 :: _ :: _, _) => none
  | (whole, some '.' :: rest) =>
    match lexDigits rest with
    | ([], _) => none
    | (fraction, rest) => lexExponent negative whole (some fraction) rest
  | (whole, rest) => lexExponent negative whole none rest

/-- The token at the start and what follows it, where no blank stands in front. -/
def lexToken : List Glyph → Option (Token × List Glyph)
  | some '\x7b' :: rest => some (.openObject, rest)
  | some '\x7d' :: rest => some (.closeObject, rest)
  | some '[' :: rest => some (.openArray, rest)
  | some ']' :: rest => some (.closeArray, rest)
  | some ',' :: rest => some (.comma, rest)
  | some ':' :: rest => some (.colon, rest)
  | some 'n' :: some 'u' :: some 'l' :: some 'l' :: rest => some (.null, rest)
  | some 't' :: some 'r' :: some 'u' :: some 'e' :: rest => some (.bool true, rest)
  | some 'f' :: some 'a' :: some 'l' :: some 's' :: some 'e' :: rest => some (.bool false, rest)
  | some '"' :: rest => (lexString rest).map (fun (pieces, rest) => (.string pieces, rest))
  | some '-' :: rest => (lexNumber true rest).map (fun (n, rest) => (.number n, rest))
  | rest => (lexNumber false rest).map (fun (n, rest) => (.number n, rest))

/-- The blanks that may stand between tokens. -/
def isSpace (glyph : Glyph) : Bool :=
  glyph = some ' ' || glyph = some '\t' || glyph = some '\n' || glyph = some '\r'

/-- The tokens of a document, with one unit of fuel per glyph. -/
def tokensWith : Nat → List Glyph → Option (List Token)
  | _, [] => some []
  | 0, _ :: _ => none
  | fuel + 1, glyph :: rest =>
    if isSpace glyph then tokensWith fuel rest
    else
      match lexToken (glyph :: rest) with
      | none => none
      | some (token, rest) => (tokensWith fuel rest).map (token :: ·)

/-- The tokens of a document. -/
def tokens (glyphs : List Glyph) : Option (List Token) := tokensWith glyphs.length glyphs

end HostBridge.Json
