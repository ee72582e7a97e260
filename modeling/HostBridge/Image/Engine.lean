import HostBridge.Image.Format
import HostBridge.Image.Rect
import HostBridge.Logging.Entry
import HostBridge.Raster.Picture

/-!
# Image engines

The calls that the bridge makes of an image engine.  An engine holds two kinds of resources, images
and surfaces, under addresses of its own; releasing an address that it does not know does nothing.

Every answer comes with the engine's next state, the calls that a recording engine saw and what the
engine logged.
-/

namespace HostBridge

/-- The address and the size of a decoded image. -/
structure DecodedImage where
  address : UInt64
  width : UInt32
  height : UInt32
deriving DecidableEq, Repr

/-- A call as a recording engine saw it. -/
inductive ImageCall where
  | decode (bytes : List UInt8)
  | surface (width height : UInt32)
  | draw (image surface : UInt64) (source target : Rect)
  | encodeSurface (address : UInt64) (format : ImageFormat) (quality : Nat)
  | encodeImage (address : UInt64) (format : ImageFormat) (quality : Nat)
  | releaseImage (address : UInt64)
  | releaseSurface (address : UInt64)

/-- The kind of an encoded file. -/
inductive FileKind where
  | jpeg
  | png
  | webp
deriving DecidableEq, Repr

/-- An encoded image: bytes of an engine's own, or a file of some kind that holds a picture. -/
inductive Encoded where
  | bytes (bytes : List UInt8)
  | file (kind : FileKind) (picture : Raster.Picture)

/-- What an encoder makes of a bitmap that has nothing to encode. -/
def Encoded.nothing : Encoded := .bytes []

/-- An engine's answer. -/
structure EngineReply (ε α : Type) where
  engine : ε
  result : α
  calls : List ImageCall
  log : List Logging.Entry

/-- The calls that the bridge makes of an image engine. -/
class ImageEngine (ε : Type) where
  decode : ε → List UInt8 → EngineReply ε (Except EngineError DecodedImage)
  createSurface : ε → UInt32 → UInt32 → EngineReply ε (Except EngineError UInt64)
  draw : ε → UInt64 → UInt64 → Rect → Rect → EngineReply ε (Except EngineError Unit)
  encodeSurface : ε → UInt64 → ImageFormat → Nat → EngineReply ε (Except EngineError Encoded)
  encodeImage : ε → UInt64 → ImageFormat → Nat → EngineReply ε (Except EngineError Encoded)
  releaseImage : ε → UInt64 → EngineReply ε Unit
  releaseSurface : ε → UInt64 → EngineReply ε Unit

end HostBridge
