import HostBridge.Raster.Picture

/-!
# Blending

A pixel that is drawn over another one hides it as far as its alpha says.  Colours are weighted with
their alpha in binary32 arithmetic and cut back to 8 bits.
-/

namespace HostBridge.Raster

/-- A channel between 0 and 1. -/
def unitChannel (byte : UInt8) : Float32 := byte.toFloat32 / 255

/-- A channel between 0 and 1 as 8 bits, rounded down. -/
def byteOfUnit (x : Float32) : UInt8 := (255 * x).toUInt8

/-- One colour of the front over one of the back. -/
def blendColour (front back frontAlpha backAlpha alpha : Float32) : Float32 :=
  (front * frontAlpha + (back * backAlpha) * (1 - frontAlpha)) / alpha

/-- A pixel drawn over another one. -/
def Pixel.over (front back : Pixel) : Pixel :=
  if front.alpha = 0 then back
  else if front.alpha = 255 then front
  else
    let frontAlpha := unitChannel front.alpha
    let backAlpha := unitChannel back.alpha
    let alpha := backAlpha + frontAlpha - backAlpha * frontAlpha
    if alpha == 0 then back
    else
      let colour (f b : UInt8) : UInt8 :=
        byteOfUnit (blendColour (unitChannel f) (unitChannel b) frontAlpha backAlpha alpha)
      ⟨colour front.red back.red, colour front.green back.green, colour front.blue back.blue,
        byteOfUnit alpha⟩

/-- A picture with another one drawn over it, whose left upper corner is at a place. -/
def Picture.overlay (picture front : Picture) (left top : Nat) : Picture :=
  Picture.ofFn picture.width picture.height (fun x y =>
    if left ≤ x ∧ x < left + front.width ∧ top ≤ y ∧ y < top + front.height then
      (front.pixel (x - left) (y - top)).over (picture.pixel x y)
    else picture.pixel x y)

end HostBridge.Raster
