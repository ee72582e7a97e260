/-!
# Pictures

Rectangular pictures with red, green, blue and alpha of 8 bits in each pixel, in rows from the top.
-/

namespace HostBridge.Raster

/-- A pixel. -/
structure Pixel where
  red : UInt8
  green : UInt8
  blue : UInt8
  alpha : UInt8
deriving DecidableEq, Repr

namespace Pixel

/-- The pixel through which everything shows. -/
def transparent : Pixel := ⟨0, 0, 0, 0⟩

instance : Inhabited Pixel := ⟨transparent⟩

/-- The four channels in their order. -/
def bytes (pixel : Pixel) : List UInt8 := [pixel.red, pixel.green, pixel.blue, pixel.alpha]

end Pixel

/-- A picture by its pixels, row by row. -/
structure Picture where
  width : Nat
  height : Nat
  pixels : Array Pixel
  size_eq : pixels.size = width * height

namespace Picture

/-- The picture with a pixel for each place. -/
def ofFn (width height : Nat) (pixel : Nat → Nat → Pixel) : Picture :=
  ⟨width, height, Array.ofFn (fun i : Fin (width * height) => pixel (i % width) (i / width)),
    Array.size_ofFn⟩

/-- The pixel at a place; transparent outside. -/
def pixel (picture : Picture) (x y : Nat) : Pixel := picture.pixels.getD (y * picture.width + x) default

/-- A picture without any colour. -/
def blank (width height : Nat) : Picture := ofFn width height (fun _ _ => Pixel.transparent)

/-- The part of a picture with its left upper corner at a place. -/
def crop (picture : Picture) (left top width height : Nat) : Picture :=
  ofFn width height (fun x y => picture.pixel (left + x) (top + y))

/-- All channels of all pixels. -/
def bytes (picture : Picture) : List UInt8 := picture.pixels.toList.flatMap Pixel.bytes

end Picture

end HostBridge.Raster
