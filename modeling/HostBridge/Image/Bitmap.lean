import HostBridge.Handle
import HostBridge.Image.Engine

/-!
# Bitmaps

A bitmap owns an image or a surface of an image engine, never both, and gives it back once.  Drawing
onto a released bitmap, or from one, is skipped; compressing one gives nothing.
-/

namespace HostBridge

open Logging (Level Entry Component)

/-- A bitmap with its fixed size. -/
structure Bitmap where
  image : Handle
  surface : Handle
  width : UInt32
  height : UInt32
deriving DecidableEq, Repr

namespace Bitmap

variable {ε : Type} [ImageEngine ε]

/-- A log entry about bitmaps. -/
def log (level : Level) (message : String) (fields : List (String × String)) : Entry :=
  Component.bitmap.log level message fields

/-- An answer that asked nothing of the engine. -/
def unasked {α : Type} (engine : ε) (result : α) (entries : List Entry) : EngineReply ε α :=
  ⟨engine, result, [], entries⟩

/-- Carry the engine's answer on, with further log entries. -/
def ofReply {α β : Type} (reply : EngineReply ε α) (result : β) (entries : List Entry) :
    EngineReply ε β :=
  ⟨reply.engine, result, reply.calls, reply.log ++ entries⟩

/-- Decode an encoded image. -/
def decode (engine : ε) (bytes : List UInt8) : EngineReply ε (Except BridgeError Bitmap) :=
  if bytes.isEmpty then unasked engine (.error (.validation "image data is empty")) []
  else
    let reply := ImageEngine.decode engine bytes
    match reply.result with
    | .error error => ofReply reply (.error (.engine error)) []
    | .ok decoded =>
      if decoded.address = 0 then
        ofReply reply (.error (.transport "image engine returned a null image")) []
      else
        ofReply reply (.ok ⟨⟨decoded.address⟩, Handle.empty, decoded.width, decoded.height⟩)
          [log .debug "Decoded image"
            [("address", toString decoded.address.toNat), ("width", toString decoded.width.toNat),
              ("height", toString decoded.height.toNat)]]

/-- Decode a range of bytes, which has to lie within the data. -/
def decodeRange (engine : ε) (data : List UInt8) (offset length : Nat) :
    EngineReply ε (Except BridgeError Bitmap) :=
  if offset + length ≤ data.length then decode engine ((data.drop offset).take length)
  else
    unasked engine
      (.error (.validation ("range " ++ toString offset ++ "+" ++ toString length ++ " exceeds "
        ++ toString data.length ++ " bytes of image data")))
      []

/-- Decode what a reader delivers in pieces, unless the reader fails. -/
def decodeReader (engine : ε) (chunks : List (List UInt8)) (failure : Option String) :
    EngineReply ε (Except BridgeError Bitmap) :=
  match failure with
  | some why => unasked engine (.error (.io why)) []
  | none => decode engine chunks.flatten

/-- Create a surface. -/
def create (engine : ε) (width height : UInt32) : EngineReply ε (Except BridgeError Bitmap) :=
  if width = 0 ∨ height = 0 then
    unasked engine
      (.error (.validation ("surface dimensions must be non-zero, got " ++ toString width.toNat
        ++ "x" ++ toString height.toNat)))
      []
  else
    let reply := ImageEngine.createSurface engine width height
    match reply.result with
    | .error error => ofReply reply (.error (.engine error)) []
    | .ok address =>
      if address = 0 then
        ofReply reply (.error (.transport "image engine returned a null surface")) []
      else
        ofReply reply (.ok ⟨Handle.empty, ⟨address⟩, width, height⟩)
          [log .debug "Created surface"
            [("address", toString address.toNat), ("width", toString width.toNat),
              ("height", toString height.toNat)]]

/-- Whether the bitmap owns a surface. -/
def isSurface (bitmap : Bitmap) : Bool := !bitmap.surface.isReleased

/-- Whether the bitmap owns an image. -/
def isImage (bitmap : Bitmap) : Bool := !bitmap.image.isReleased

/-- Whether the bitmap owns nothing any more. -/
def isReleased (bitmap : Bitmap) : Bool := bitmap.image.isReleased && bitmap.surface.isReleased

/-- Draw a part of an image onto a part of a surface, with the engine of the surface; whether it was
drawn. -/
def draw (engine : ε) (target source : Bitmap) (part place : Rect) : EngineReply ε Bool :=
  if target.surface.isReleased then
    unasked engine false [log .warn "Draw target is not a live surface; skipping draw" []]
  else
    let surface := target.surface.address
    if source.image.isReleased then
      unasked engine false
        [log .warn "Draw source is not a live image; skipping draw"
          [("surface", toString surface.toNat)]]
    else
      let image := source.image.address
      let reply := ImageEngine.draw engine image surface part place
      match reply.result with
      | .ok () => ofReply reply true []
      | .error error =>
        ofReply reply false
          [log .warn "Native draw failed"
            [("image", toString image.toNat), ("surface", toString surface.toNat),
              ("error", error.message)]]

/-- Encode what the bitmap owns. -/
def compress (engine : ε) (bitmap : Bitmap) (format : ImageFormat) (quality : Int) :
    EngineReply ε (Except BridgeError Encoded) :=
  match normalizeQuality quality with
  | .error error => unasked engine (.error error) []
  | .ok quality =>
    if bitmap.isSurface then
      let reply := ImageEngine.encodeSurface engine bitmap.surface.address format quality
      ofReply reply (reply.result.mapError .engine) []
    else if bitmap.isImage then
      let reply := ImageEngine.encodeImage engine bitmap.image.address format quality
      ofReply reply (reply.result.mapError .engine) []
    else
      unasked engine (.ok Encoded.nothing)
        [log .warn "Compressing a released bitmap"
          [("error", (BridgeError.staleReference "bitmap already released").message),
            ("format", format.name)]]

/-- Release what the bitmap owns, once. -/
def release (engine : ε) (bitmap : Bitmap) : EngineReply ε Bitmap :=
  let (image, imageAddress) := bitmap.image.release
  let (surface, surfaceAddress) := bitmap.surface.release
  let afterImage : EngineReply ε Unit := match imageAddress with
    | none => unasked engine () []
    | some address =>
      ofReply (ImageEngine.releaseImage engine address) () [log .debug "Released image" []]
  let afterSurface : EngineReply ε Unit := match surfaceAddress with
    | none => unasked afterImage.engine () []
    | some address =>
      ofReply (ImageEngine.releaseSurface afterImage.engine address) ()
        [log .debug "Released surface" []]
  ⟨afterSurface.engine, { bitmap with image := image, surface := surface },
    afterImage.calls ++ afterSurface.calls, afterImage.log ++ afterSurface.log⟩

/-- The diagnostic text of a bitmap. -/
def shown (bitmap : Bitmap) : String :=
  Text.showRecord "Bitmap"
    [("image", bitmap.image.shown), ("surface", bitmap.surface.shown),
      ("width", toString bitmap.width.toNat), ("height", toString bitmap.height.toNat)]

end Bitmap

/-- What a writer with limited room keeps of the bytes it is given, and the failure it ends with
when they do not fit. -/
def writeInto (room : Option Nat) (failure : Option String) (bytes : List UInt8) :
    List UInt8 × Except BridgeError Nat :=
  match room with
  | none => (bytes, .ok bytes.length)
  | some room =>
    if bytes.length ≤ room then (bytes, .ok bytes.length)
    else (bytes.take room, .error (.io (failure.getD "failed to write whole buffer")))

end HostBridge
