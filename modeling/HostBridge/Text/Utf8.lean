/-!
# UTF-8

Bytes are read as a list of glyphs: a character where the bytes encode one, and a gap for each
maximal sequence of bytes that begins no character.  A text is valid when it has no gap, and its
replacement reading puts U+FFFD into every gap.
-/

namespace HostBridge.Text

/-- A character, or a gap of bytes that encode none. -/
abbrev Glyph := Option Char

/-- The number of continuation bytes that a first byte announces, and the range of the first of
them: overlong forms, surrogates and code points above U+10FFFF are refused at the second byte. -/
def leadByte (b : UInt8) : Option (Nat × UInt8 × UInt8) :=
  if 0xc2 ≤ b ∧ b ≤ 0xdf then some (1, 0x80, 0xbf)
  else if b = 0xe0 then some (2, 0xa0, 0xbf)
  else if (0xe1 ≤ b ∧ b ≤ 0xec) ∨ b = 0xee ∨ b = 0xef then some (2, 0x80, 0xbf)
  else if b = 0xed then some (2, 0x80, 0x9f)
  else if b = 0xf0 then some (3, 0x90, 0xbf)
  else if 0xf1 ≤ b ∧ b ≤ 0xf3 then some (3, 0x80, 0xbf)
  else if b = 0xf4 then some (3, 0x80, 0x8f)
  else none

/-- The bits of the first byte of a sequence with `n` continuation bytes. -/
def leadBits (n : Nat) (b : UInt8) : Nat :=
  match n with
  | 1 => b.toNat % 32
  | 2 => b.toNat % 16
  | _ => b.toNat % 8

/-- A sequence under way: the bits so far, the continuation bytes that are missing, and the range of
the next one. -/
structure Utf8Pending where
  bits : Nat
  missing : Nat
  low : UInt8
  high : UInt8
deriving DecidableEq

/-- What a byte outside of a sequence starts. -/
def startByte (b : UInt8) : Glyph ⊕ Utf8Pending :=
  if b < 0x80 then .inl (some (Char.ofNat b.toNat))
  else
    match leadByte b with
    | none => .inl none
    | some (n, low, high) => .inr ⟨leadBits n b, n, low, high⟩

/-- Read bytes as glyphs, with a sequence that may be under way. -/
def glyphsFrom : Option Utf8Pending → List UInt8 → List Glyph
  | none, [] => []
  | some _, [] => [none]
  | none, b :: rest =>
    match startByte b with
    | .inl glyph => glyph :: glyphsFrom none rest
    | .inr pending => glyphsFrom (some pending) rest
  | some pending, b :: rest =>
    if pending.low ≤ b ∧ b ≤ pending.high then
      let bits := 64 * pending.bits + b.toNat % 64
      if pending.missing ≤ 1 then some (Char.ofNat bits) :: glyphsFrom none rest
      else glyphsFrom (some ⟨bits, pending.missing - 1, 0x80, 0xbf⟩) rest
    else
      match startByte b with
      | .inl glyph => none :: glyph :: glyphsFrom none rest
      | .inr next => none :: glyphsFrom (some next) rest

/-- Read bytes as glyphs. -/
def glyphs (bytes : List UInt8) : List Glyph := glyphsFrom none bytes

/-- The glyphs of a text: its characters. -/
def glyphsOfText (s : String) : List Glyph := s.toList.map some

/-- The characters of glyphs without a gap. -/
def charsOfGlyphs? : List Glyph → Option (List Char)
  | [] => some []
  | none :: _ => none
  | some c :: rest => (charsOfGlyphs? rest).map (c :: ·)

/-- The text that bytes encode, if they encode one. -/
def decodeUtf8? (bytes : List UInt8) : Option String :=
  (charsOfGlyphs? (glyphs bytes)).map String.ofList

/-- The text that bytes encode, with U+FFFD for every gap. -/
def decodeLossy (bytes : List UInt8) : String :=
  String.ofList ((glyphs bytes).map (·.getD (Char.ofNat 0xfffd)))

/-- The bytes of a text. -/
def encodeUtf8 (s : String) : List UInt8 := s.toUTF8.toList

/-- The number of bytes of a text. -/
def byteLength (s : String) : Nat := s.utf8ByteSize

end HostBridge.Text
