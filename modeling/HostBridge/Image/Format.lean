import HostBridge.Error
import HostBridge.Json.Decode

/-!
# Encodings of images

The formats that an image engine encodes to, with the integer codes of the native encoder, and the
normalization of the quality.
-/

namespace HostBridge

/-- An output format. -/
inductive ImageFormat where
  | jpeg
  | png
  | webp
  | webpLossy
  | webpLossless
deriving DecidableEq, Repr

namespace ImageFormat

/-- All formats. -/
def all : List ImageFormat := [jpeg, png, webp, webpLossy, webpLossless]

/-- The name of a format. -/
def name : ImageFormat → String
  | jpeg => "Jpeg"
  | png => "Png"
  | webp => "Webp"
  | webpLossy => "WebpLossy"
  | webpLossless => "WebpLossless"

/-- The format with a name. -/
def ofName? (text : String) : Option ImageFormat := all.find? (fun format => format.name = text)

/-- The code that the native encoder understands. -/
def code : ImageFormat → Int
  | jpeg => 0
  | png => 1
  | webp => 2
  | webpLossy => 3
  | webpLossless => 4

/-- The format with a code. -/
def ofCode? (code : Int) : Option ImageFormat := all.find? (fun format => format.code = code)

/-- Read a format by its name. -/
def decode : Json.Decoder ImageFormat := Json.Decoder.oneOf ofName?

end ImageFormat

/-- The highest quality that an encoder is asked for. -/
def maxQuality : Nat := 90

/-- The quality that an encoder is asked for: between 1 and `maxQuality`, where 0 asks for the
best. -/
def normalizeQuality (quality : Int) : Except BridgeError Nat :=
  if quality < 0 ∨ 100 < quality then
    .error (.validation ("quality must be in 0..=100, got " ++ toString quality))
  else if quality = 0 ∨ (maxQuality : Int) < quality then .ok maxQuality
  else .ok quality.toNat

end HostBridge
