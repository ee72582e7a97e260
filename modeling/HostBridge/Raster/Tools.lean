import HostBridge.Image.Engine
import HostBridge.Raster.Blend
import HostBridge.Raster.Netpbm
import HostBridge.Raster.Resample
import HostBridge.Raster.Span

/-!
# Tools

What a raster engine has others do: taking positions to pixels, reading and writing image files, and
the work on single pictures.
-/

namespace HostBridge.Raster

/-- The tools of an engine. -/
structure Tools where
  mapping : Mapping
  /-- The picture of an image file, or what the decoder says is wrong with the file. -/
  load : List UInt8 → Except String Picture
  /-- An image file of a kind with a picture, or what the encoder says is wrong with it. -/
  save : FileKind → Picture → Except String Encoded
  /-- The part of a picture with its left upper corner at a place. -/
  crop : Picture → (left top width height : Nat) → Picture
  /-- A picture at another size. -/
  resize : Picture → (width height : Nat) → Picture
  /-- A picture with another one drawn over it, whose left upper corner is at a place. -/
  overlay : (picture front : Picture) → (left top : Nat) → Picture

/-- Whether an encoder takes pictures of a size. -/
def encodes (kind : FileKind) (width height : Nat) : Bool :=
  let limit := match kind with
    | .jpeg => 65535
    | .png => 2147483647
    | .webp => 16384
  0 < width && width ≤ limit && 0 < height && height ≤ limit

/-- The tools that an engine has unless it is given others.  They refuse without a word. -/
def Tools.standard : Tools where
  mapping := .binary64
  load := Netpbm.load
  save kind picture :=
    if encodes kind picture.width picture.height then .ok (.file kind picture) else .error ""
  crop := Picture.crop
  resize := Picture.resize
  overlay := Picture.overlay

end HostBridge.Raster
