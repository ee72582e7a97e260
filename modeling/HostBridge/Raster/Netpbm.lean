import HostBridge.Raster.Picture
import HostBridge.Text.Blank
import HostBridge.Text.Digits
import HostBridge.Text.Utf8

/-!
# Netpbm images

Binary graymaps (`P5`), pixmaps (`P6`) and arbitrary maps with alpha (`P7`), with samples of 8 bits.
The header of a graymap or pixmap is a list of words between blanks, with comments from a number
sign to the end of the line; one blank separates it from the samples.  The header of an arbitrary
map is a list of lines, each with the name and the value of a field, or with a comment.  What
follows the samples is ignored.
-/

namespace HostBridge.Raster.Netpbm

/-- How the samples of a pixel are meant. -/
inductive Layout where
  | gray
  | rgb
  | rgba
deriving DecidableEq, Repr

/-- The number of samples of a pixel. -/
def Layout.depth : Layout → Nat
  | .gray => 1
  | .rgb => 3
  | .rgba => 4

/-- What a header says. -/
structure Header where
  width : Nat
  height : Nat
  layout : Layout

/-- Whether a byte separates words. -/
def isBlankByte (b : UInt8) : Bool := (9 ≤ b && b ≤ 13) || b = 32

/-- The word at the start and what follows the blank behind it; comments count as nothing. -/
def word : Bool → List UInt8 → List UInt8 → Option (List UInt8 × List UInt8)
  | _, text, [] => if text.isEmpty then none else some (text.reverse, [])
  | true, text, b :: rest => word (!(b = 13 || b = 10)) text rest
  | false, text, b :: rest =>
    if b = 35 then word true text rest
    else if isBlankByte b then
      if text.isEmpty then word false text rest else some (text.reverse, rest)
    else if 128 ≤ b then none
    else word false (b :: text) rest

/-- The characters of ASCII bytes. -/
def charsOf (text : List UInt8) : List Char := text.map (fun b => Char.ofNat b.toNat)

/-- The number of 32 bits that ASCII digits write. -/
def number? (text : List UInt8) : Option Nat :=
  (Text.readDigits UInt32.size 0 (charsOf text)).toOption

/-- The number at the start. -/
def numberWord (bytes : List UInt8) : Option (Nat × List UInt8) := do
  let (text, rest) ← word false [] bytes
  let n ← number? text
  return (n, rest)

/-- The header of a graymap or pixmap. -/
def plainHeader (layout : Layout) (bytes : List UInt8) : Option (Header × List UInt8) := do
  let (width, rest) ← numberWord bytes
  let (height, rest) ← numberWord rest
  let (limit, rest) ← numberWord rest
  if limit = 255 then return (⟨width, height, layout⟩, rest) else none

/-- The names of the fields of an arbitrary map. -/
def fieldNames : List String := ["WIDTH", "HEIGHT", "DEPTH", "MAXVAL", "TUPLTYPE"]

/-- The name at the start of a line, and the value behind it. -/
def fieldOf (text : List UInt8) : String × String :=
  let (name, value) := (charsOf text).span (fun c => !Text.isBlank c)
  (String.ofList name, String.ofList (Text.trimChars value))

/-- The fields of an arbitrary map up to the line that ends them, one line per unit of fuel.  No
field may stand twice; a comment is text of any kind, and other lines are ASCII. -/
def fields : Nat → List (String × String) → List UInt8 →
    Option (List (String × String) × List UInt8)
  | 0, _, _ => none
  | _, _, [] => none
  | fuel + 1, found, bytes =>
    let text := bytes.takeWhile (· ≠ 10)
    let rest := bytes.drop (text.length + 1)
    if text.head? = some 35 then
      if (Text.decodeUtf8? text).isSome then fields fuel found rest else none
    else if text.any (128 ≤ ·) then none
    else
      match fieldOf text with
      | ("ENDHDR", _) => some (found, rest)
      | (name, value) =>
        if fieldNames.contains name ∧ !found.any (fun field => field.1 = name) then
          fields fuel ((name, value) :: found) rest
        else none

/-- The header of an arbitrary map. -/
def arbitraryHeader (bytes : List UInt8) : Option (Header × List UInt8) := do
  let (found, rest) ← fields bytes.length [] bytes
  let field (name : String) : Option String :=
    (found.find? (fun field => field.1 = name)).map Prod.snd
  let number (name : String) : Option Nat :=
    (field name).bind (fun text => (Text.readNumeral UInt32.size text.toList).toOption)
  let width ← number "WIDTH"
  let height ← number "HEIGHT"
  let depth ← number "DEPTH"
  let limit ← number "MAXVAL"
  let kind ← field "TUPLTYPE"
  if depth = 4 ∧ limit = 255 ∧ kind = "RGB_ALPHA" then return (⟨width, height, .rgba⟩, rest)
  else none

/-- The header at the start of an image. -/
def header : List UInt8 → Option (Header × List UInt8)
  | 80 :: 53 :: rest => plainHeader .gray rest
  | 80 :: 54 :: rest => plainHeader .rgb rest
  | 80 :: 55 :: 10 :: rest => arbitraryHeader rest
  | _ => none

/-- A pixel from its samples. -/
def pixelOf (layout : Layout) (sample : Nat → UInt8) (index : Nat) : Pixel :=
  match layout with
  | .gray => ⟨sample index, sample index, sample index, 255⟩
  | .rgb => ⟨sample (3 * index), sample (3 * index + 1), sample (3 * index + 2), 255⟩
  | .rgba =>
    ⟨sample (4 * index), sample (4 * index + 1), sample (4 * index + 2), sample (4 * index + 3)⟩

/-- The picture of an image, if there are samples for all of its pixels. -/
def decode (bytes : List UInt8) : Option Picture := do
  let (info, rest) ← header bytes
  if rest.length < info.width * info.height * info.layout.depth then none
  else
    let samples := rest.toArray
    return Picture.ofFn info.width info.height
      (fun x y => pixelOf info.layout (samples.getD · 0) (y * info.width + x))

/-- The picture of an image; what is wrong with bytes that are none is not told. -/
def load (bytes : List UInt8) : Except String Picture :=
  match decode bytes with
  | some picture => .ok picture
  | none => .error ""

end HostBridge.Raster.Netpbm
