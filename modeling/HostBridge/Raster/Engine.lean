import HostBridge.Raster.Tools
import HostBridge.Text.Quoted

/-!
# The raster engine

An image engine that holds pictures in memory.  Images and surfaces draw their addresses from one
counter, so no address ever means two things.
-/

namespace HostBridge.Raster

open Logging (Level Entry Component)

/-- The pictures that the engine holds, and the counter of addresses. -/
structure Engine where
  images : Table UInt64 Picture
  surfaces : Table UInt64 Picture
  next : UInt64

namespace Engine

/-- An engine without pictures. -/
def new : Engine := ⟨Table.empty, Table.empty, 1⟩

/-- The number of images. -/
def liveImages (engine : Engine) : Nat := engine.images.size

/-- The number of surfaces. -/
def liveSurfaces (engine : Engine) : Nat := engine.surfaces.size

/-- A log entry of the engine. -/
def log (level : Level) (message : String) (fields : List (String × String)) : Entry :=
  Component.raster.log level message fields

/-- A number as a field of a log entry. -/
def field (name : String) (n : Nat) : String × String := (name, toString n)

/-- An answer with what was logged. -/
def reply {α : Type} (engine : Engine) (result : α) (log : List Entry) : EngineReply Engine α :=
  ⟨engine, result, [], log⟩

/-- Hold the picture that a codec finds in bytes. -/
def decodeWith (load : List UInt8 → Except String Picture) (engine : Engine)
    (bytes : List UInt8) : EngineReply Engine (Except EngineError DecodedImage) :=
  match load bytes with
  | .error why => engine.reply (.error (.operationFailed ("Decoding failed: " ++ why))) []
  | .ok picture =>
    let address := engine.next
    { engine with images := engine.images.insert address picture, next := address + 1 }.reply
      (.ok ⟨address, UInt32.ofNat picture.width, UInt32.ofNat picture.height⟩)
      [log .debug "Decoded image"
        [field "address" address.toNat, field "width" picture.width, field "height" picture.height,
          field "len" bytes.length]]

/-- Hold the picture of an encoded image. -/
def decode : Engine → List UInt8 → EngineReply Engine (Except EngineError DecodedImage) :=
  decodeWith Tools.standard.load

/-- Hold a blank surface. -/
def createSurface (engine : Engine) (width height : UInt32) :
    EngineReply Engine (Except EngineError UInt64) :=
  if width = 0 ∨ height = 0 then
    engine.reply
      (.error (.operationFailed ("Surface dimensions must be positive, got "
        ++ toString width.toNat ++ "x" ++ toString height.toNat)))
      []
  else
    let address := engine.next
    { engine with
      surfaces := engine.surfaces.insert address (Picture.blank width.toNat height.toNat)
      next := address + 1 }.reply
      (.ok address)
      [log .debug "Created surface"
        [field "address" address.toNat, field "width" width.toNat, field "height" height.toNat]]

/-- A rectangle kept within a picture of the given size. -/
def clampRect (rect : Rect) (width height : Nat) : Rect :=
  let within (limit : Nat) (edge : Int32) : Int32 :=
    Int32.ofInt (clampBetween 0 (saturate32 limit).toInt edge.toInt)
  ⟨within width rect.left, within height rect.top, within width rect.right,
    within height rect.bottom⟩

/-- The clipped axes of a draw onto a surface of the given size; none if nothing is visible. -/
def spans (mapping : Mapping) (source target : Rect) (width height : Nat) : Option (Span × Span) :=
  match Span.clipWith mapping source.left.toInt source.right.toInt
      target.left.toInt target.right.toInt width,
    Span.clipWith mapping source.top.toInt source.bottom.toInt
      target.top.toInt target.bottom.toInt height with
  | some x, some y => some (x, y)
  | _, _ => none

/-- The visible part of an image as it is to be drawn. -/
def scaled (tools : Tools) (image : Picture) (x y : Span) : Picture :=
  let region := tools.crop image x.sourceStart y.sourceStart x.sourceLength y.sourceLength
  if x.sourceLength = x.length ∧ y.sourceLength = y.length then region
  else tools.resize region x.length y.length

/-- A surface with the visible part of an image drawn onto it. -/
def paint (tools : Tools) (image surface : Picture) (x y : Span) : Picture :=
  tools.overlay surface (scaled tools image x y) x.start y.start

/-- Draw a part of a picture onto a part of a surface. -/
def drawPicture (tools : Tools) (engine : Engine) (picture : Picture) (surface : UInt64)
    (source target : Rect) : EngineReply Engine (Except EngineError Unit) :=
  let source := clampRect source picture.width picture.height
  if source.isEmpty ∨ target.isEmpty then
    engine.reply (.ok ())
      [log .debug "Skipping draw of empty region" [("src", source.shown), ("dst", target.shown)]]
  else
    match engine.surfaces.find? surface with
    | none => engine.reply (.error (.unknownHandle surface)) []
    | some onto =>
      match spans tools.mapping source target onto.width onto.height with
      | none =>
        engine.reply (.ok ())
          [log .debug "Destination outside surface"
            [("dst", target.shown), field "surface_width" onto.width,
              field "surface_height" onto.height]]
      | some (x, y) =>
        { engine with
          surfaces := engine.surfaces.insert surface (paint tools picture onto x y) }.reply
          (.ok ()) []

/-- Draw a part of an image onto a part of a surface. -/
def drawWith (tools : Tools) (engine : Engine) (image surface : UInt64) (source target : Rect) :
    EngineReply Engine (Except EngineError Unit) :=
  match engine.images.find? image with
  | none => engine.reply (.error (.unknownHandle image)) []
  | some picture => engine.drawPicture tools picture surface source target

@[inherit_doc drawWith]
def draw : Engine → UInt64 → UInt64 → Rect → Rect →
    EngineReply Engine (Except EngineError Unit) :=
  drawWith .standard

/-- The kind of file that a format makes. -/
def fileKind : ImageFormat → FileKind
  | .jpeg => .jpeg
  | .png => .png
  | .webp => .webp
  | .webpLossy => .webp
  | .webpLossless => .webp

/-- Encode a picture, without loss unless the file has to be a JPEG. -/
def encodeWith (tools : Tools) (engine : Engine) (picture : Picture) (format : ImageFormat) :
    EngineReply Engine (Except EngineError Encoded) :=
  let kind := fileKind format
  let entries :=
    if kind = .webp ∧ format ≠ .webpLossless then
      [log .debug "Lossy WebP unavailable, encoding losslessly" [("format", format.name)]]
    else []
  let result := match tools.save kind picture with
    | .ok encoded => .ok encoded
    | .error why => .error (.operationFailed ("Encoding failed: " ++ why))
  engine.reply result entries

/-- Encode a surface. -/
def encodeSurfaceWith (tools : Tools) (engine : Engine) (surface : UInt64) (format : ImageFormat) :
    EngineReply Engine (Except EngineError Encoded) :=
  match engine.surfaces.find? surface with
  | none => engine.reply (.error (.unknownHandle surface)) []
  | some picture => engine.encodeWith tools picture format

@[inherit_doc encodeSurfaceWith]
def encodeSurface : Engine → UInt64 → ImageFormat →
    EngineReply Engine (Except EngineError Encoded) :=
  encodeSurfaceWith .standard

/-- Encode an image. -/
def encodeImageWith (tools : Tools) (engine : Engine) (image : UInt64) (format : ImageFormat) :
    EngineReply Engine (Except EngineError Encoded) :=
  match engine.images.find? image with
  | none => engine.reply (.error (.unknownHandle image)) []
  | some picture => engine.encodeWith tools picture format

@[inherit_doc encodeImageWith]
def encodeImage : Engine → UInt64 → ImageFormat →
    EngineReply Engine (Except EngineError Encoded) :=
  encodeImageWith .standard

/-- Let go of an image. -/
def releaseImage (engine : Engine) (image : UInt64) : EngineReply Engine Unit :=
  { engine with images := engine.images.erase image }.reply ()
    (if engine.images.contains image then []
      else [log .warn "Release of unknown image" [field "address" image.toNat]])

/-- Let go of a surface. -/
def releaseSurface (engine : Engine) (surface : UInt64) : EngineReply Engine Unit :=
  { engine with surfaces := engine.surfaces.erase surface }.reply ()
    (if engine.surfaces.contains surface then []
      else [log .warn "Release of unknown surface" [field "address" surface.toNat]])

end Engine

/-- An engine that works with the given tools. -/
def Engine.Using (_ : Tools) : Type := Engine

instance (tools : Tools) : ImageEngine (Engine.Using tools) where
  decode := Engine.decodeWith tools.load
  createSurface := Engine.createSurface
  draw := Engine.drawWith tools
  encodeSurface engine surface format _ := Engine.encodeSurfaceWith tools engine surface format
  encodeImage engine image format _ := Engine.encodeImageWith tools engine image format
  releaseImage := Engine.releaseImage
  releaseSurface := Engine.releaseSurface

instance : ImageEngine Engine := inferInstanceAs (ImageEngine (Engine.Using .standard))

end HostBridge.Raster
