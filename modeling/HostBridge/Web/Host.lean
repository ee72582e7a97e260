import HostBridge.Text.Digits
import HostBridge.Text.Split
import HostBridge.Text.Utf8
import HostBridge.Web.Domain

/-!
# Hosts

The host of an address: a registered name, or a number in one of the notations of the internet
protocol.  A name whose last label is a number has to be such a number as a whole.  Outside of the
web and of files a host is a text that stays as it is.
-/

namespace HostBridge.Web

/-- Who is addressed. -/
inductive Host where
  | name (name : String)
  /-- An address of 32 bits. -/
  | ipv4 (address : Nat)
  /-- An address of eight pieces of 16 bits. -/
  | ipv6 (pieces : List Nat)
deriving DecidableEq, Repr

/-- A part of a dotted number: hexadecimal behind `0x`, octal behind `0`, decimal otherwise. -/
def readPart? : List Char → Option Nat
  | [] => none
  | '0' :: 'x' :: digits => Text.readNatWith? 16 0 digits
  | '0' :: 'X' :: digits => Text.readNatWith? 16 0 digits
  | '0' :: digits => Text.readNatWith? 8 0 digits
  | digits => Text.readNatWith? 10 0 digits

/-- The address that the parts of a dotted number make up: the last part fills all bytes that are
left. -/
def addressOfParts? : Nat → List Nat → Option Nat
  | _, [] => none
  | room, [last] => if last < Nat.pow 256 room then some last else none
  | room, part :: parts =>
    if part < 256 ∧ 1 < room then
      (addressOfParts? (room - 1) parts).map (part * Nat.pow 256 (room - 1) + ·)
    else none

/-- Read all parts of a dotted number. -/
def readParts? : List (List Char) → Option (List Nat)
  | [] => some []
  | part :: parts =>
    match readPart? part, readParts? parts with
    | some n, some ns => some (n :: ns)
    | _, _ => none

/-- The labels of a name, without the empty one behind a final point. -/
def labels (name : List Char) : List (List Char) :=
  let all := Text.splitAll (· = '.') name
  if 1 < all.length ∧ all.getLast? = some [] then all.dropLast else all

/-- Whether the last label of a name is a number. -/
def endsInNumber (name : List Char) : Bool :=
  match (labels name).getLast? with
  | none => false
  | some label => !label.isEmpty && (label.all Char.isDigit || (readPart? label).isSome)

/-- Whether a character may not stand in a name. -/
def isForbiddenInName (c : Char) : Bool :=
  c.toNat ≤ 0x20 || c.toNat = 0x7f || "#/:<>?@[\\]^|%".toList.contains c

/-- Four hexadecimal digits at most. -/
def readPiece? (cs : List Char) : Option Nat :=
  if cs.isEmpty ∨ 4 < cs.length then none else Text.readNatWith? 16 0 cs

/-- A byte in decimal digits, without zeros in front. -/
def readOctet? (cs : List Char) : Option Nat :=
  if cs.isEmpty ∨ (cs.head? = some '0' ∧ 1 < cs.length) then none
  else (Text.readNatWith? 10 0 cs).filter (· < 256)

/-- Four bytes in decimal digits with points between them. -/
def readOctets? (cs : List Char) : Option (List Nat) :=
  ((Text.splitAll (· = '.') cs).mapM readOctet?).filter (fun octets => octets.length = 4)

/-- Read pieces between colons, the last two of which may be written as four bytes if `dotted`
allows it. -/
def readPieces? (dotted : Bool) : List (List Char) → Option (List Nat)
  | [] => some []
  | [last] =>
    if dotted && last.contains '.' then
      match readOctets? last with
      | some [a, b, c, d] => some [a * 256 + b, c * 256 + d]
      | _ => none
    else (readPiece? last).map ([·])
  | piece :: pieces =>
    match readPiece? piece, readPieces? dotted pieces with
    | some n, some ns => some (n :: ns)
    | _, _ => none

/-- The text before and after the first double colon. -/
def splitDoubleColon : List Char → Option (List Char × List Char)
  | ':' :: ':' :: rest => some ([], rest)
  | c :: rest => (splitDoubleColon rest).map (fun parts => (c :: parts.1, parts.2))
  | [] => none

/-- Pieces between colons, of which there may be none. -/
def piecesBetween? (dotted : Bool) (cs : List Char) : Option (List Nat) :=
  if cs.isEmpty then some [] else readPieces? dotted (Text.splitAll (· = ':') cs)

/-- Read an address of eight pieces, where a double colon stands for pieces of zero. -/
def readIpv6? (cs : List Char) : Option (List Nat) :=
  match splitDoubleColon cs with
  | none => (piecesBetween? true cs).filter (fun pieces => pieces.length = 8)
  | some (before, after) =>
    match piecesBetween? false before, piecesBetween? true after with
    | some before, some after =>
      if before.length + after.length < 8 then
        some (before ++ List.replicate (8 - before.length - after.length) 0 ++ after)
      else none
    | _, _ => none

/-- The bytes of a text in which `%` and two hexadecimal digits stand for a byte. -/
def percentDecode : List Char → List UInt8
  | '%' :: a :: b :: rest =>
    match Text.hexValue? a, Text.hexValue? b with
    | some high, some low => UInt8.ofNat (16 * high + low) :: percentDecode rest
    | _, _ => 0x25 :: percentDecode (a :: b :: rest)
  | c :: rest => Text.encodeUtf8 c.toString ++ percentDecode rest
  | [] => []

/-- The upper-case hexadecimal digits of a byte behind a percent sign. -/
def percentByte (b : UInt8) : List Char :=
  '%' :: [b.toNat / 16, b.toNat % 16].map (fun n => (Nat.digitChar n).toUpper)

/-- A text in which the characters outside of printable ASCII and those of `refused` are written
with percent signs. -/
def percentEncode (refused : String) (cs : List Char) : List Char :=
  cs.flatMap (fun c =>
    if c.toNat < 0x20 || 0x7e < c.toNat || refused.toList.contains c then
      (Text.encodeUtf8 c.toString).flatMap percentByte
    else [c])

namespace Host

/-- Read an address between brackets. -/
def parseBracketed? (inner : List Char) : Option Host :=
  if inner.getLast? = some ']' then (readIpv6? inner.dropLast).map .ipv6 else none

/-- Read the host of an address of the web or of a file. -/
def parse? (cs : List Char) : Option Host :=
  match cs with
  | '[' :: inner => parseBracketed? inner
  | _ => do
    let decoded ← Text.decodeUtf8? (percentDecode cs)
    let ascii ← Domain.ascii? isForbiddenInName decoded.toList
    let name := ascii.toList
    if name.isEmpty then none
    else if endsInNumber name then
      let parts ← readParts? (labels name)
      if parts.length ≤ 4 then (addressOfParts? 4 parts).map .ipv4 else none
    else return .name ascii

/-- Whether a character may not stand in the host of other addresses. -/
def isForbidden (c : Char) : Bool := "\x00\t\n\r #/:<>?@[\\]^|".toList.contains c

/-- Read the host of another address, which has no form that it is brought to. -/
def parseOpaque? (cs : List Char) : Option Host :=
  match cs with
  | '[' :: inner => parseBracketed? inner
  | _ =>
    if cs.any isForbidden then none
    else some (.name (String.ofList (percentEncode "" cs)))

/-- The four bytes of an address of 32 bits. -/
def dotted (address : Nat) : String :=
  ".".intercalate ([16777216, 65536, 256, 1].map (fun unit => toString (address / unit % 256)))

/-- The longest run of zeros with at least two of them, the first of equally long ones: where it
begins and how long it is. -/
def longestZeros (pieces : List Nat) : Option (Nat × Nat) :=
  let run (start : Nat) : Nat := ((pieces.drop start).takeWhile (· = 0)).length
  ((List.range pieces.length).foldl (fun (best : Nat × Nat) start =>
      if best.2 < run start then (start, run start) else best) (0, 1))
    |> fun best => if best.2 < 2 then none else some best

/-- Pieces between colons. -/
def shownPieces (pieces : List Nat) : String := ":".intercalate (pieces.map Text.hexDigits)

/-- The text of a host. -/
def text : Host → String
  | .name registered => registered
  | ipv4 address => dotted address
  | ipv6 pieces =>
    "[" ++ (match longestZeros pieces with
      | none => shownPieces pieces
      | some (start, length) =>
        shownPieces (pieces.take start) ++ "::" ++ shownPieces (pieces.drop (start + length)))
      ++ "]"

/-- The text of a host in which an address of 32 bits within one of 128 bits shows its four
bytes. -/
def mixedText : Host → String
  | ipv6 [0, 0, 0, 0, 0, 0xffff, high, low] => "[::ffff:" ++ dotted (high * 65536 + low) ++ "]"
  | host => host.text

/-- Whether the host is this very machine. -/
def isLoopback : Host → Bool
  | .name registered => registered = "localhost"
  | ipv4 address => address / 16777216 = 127
  | ipv6 pieces => pieces = [0, 0, 0, 0, 0, 0, 0, 1]

end Host

end HostBridge.Web
