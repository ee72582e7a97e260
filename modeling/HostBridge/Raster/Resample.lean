import HostBridge.Raster.Picture

/-!
# Resampling

Pictures are brought to another size with a triangle filter, first from top to bottom without
rounding and then from left to right.  All arithmetic is binary32, in the order given here, since
the order decides the last bit.
-/

namespace HostBridge.Raster

/-- The channels of a pixel while it is resampled. -/
structure Channels where
  red : Float32
  green : Float32
  blue : Float32
  alpha : Float32

namespace Channels

/-- The channels of a pixel. -/
def ofPixel (pixel : Pixel) : Channels :=
  ⟨pixel.red.toFloat32, pixel.green.toFloat32, pixel.blue.toFloat32, pixel.alpha.toFloat32⟩

/-- Add a weighted pixel. -/
def accumulate (sum : Channels) (weight : Float32) (pixel : Channels) : Channels :=
  ⟨sum.red + pixel.red * weight, sum.green + pixel.green * weight, sum.blue + pixel.blue * weight,
    sum.alpha + pixel.alpha * weight⟩

/-- A channel as 8 bits: the nearest of them, halves away from zero. -/
def toByte (x : Float32) : UInt8 :=
  if x < 0 then 0 else if 255 < x then 255 else x.round.toUInt8

/-- The pixel with the nearest channels. -/
def toPixel (sum : Channels) : Pixel :=
  ⟨toByte sum.red, toByte sum.green, toByte sum.blue, toByte sum.alpha⟩

end Channels

/-- The triangle filter. -/
def triangle (x : Float32) : Float32 :=
  let distance := x.abs
  if distance < 1 then 1 - distance else 0

/-- The first source position that counts for one output position, and the weights from it on. -/
structure Kernel where
  first : Nat
  weights : List Float32

/-- A position as an integer of a range. -/
def positionWithin (low high : Nat) (x : Float32) : Nat :=
  let n := x.toInt64.toInt
  if n < low then low else if (high : Int) < n then high else n.toNat

/-- The kernel of output position `output` where `source` positions become `target` ones. -/
def Kernel.of (source target output : Nat) : Kernel :=
  let ratio := source.toFloat32 / target.toFloat32
  let support := if ratio < 1 then 1 else ratio
  let centre := (output.toFloat32 + 0.5) * ratio
  let left := positionWithin 0 (source - 1) (centre - support).floor
  let right := positionWithin (left + 1) source (centre + support).ceil
  let middle := centre - 0.5
  let weights := (List.range (right - left)).map
    (fun k => triangle (((left + k).toFloat32 - middle) / support))
  let sum := weights.foldl (· + ·) 0
  ⟨left, weights.map (· / sum)⟩

/-- The weighted sum of the pixels that a kernel covers. -/
def Kernel.apply (kernel : Kernel) (pixel : Nat → Channels) : Channels :=
  let rec go (position : Nat) (sum : Channels) : List Float32 → Channels
    | [] => sum
    | weight :: rest => go (position + 1) (sum.accumulate weight (pixel position)) rest
  go kernel.first ⟨0, 0, 0, 0⟩ kernel.weights

/-- A picture at another size. -/
def Picture.resize (picture : Picture) (width height : Nat) : Picture :=
  let rows : Array Kernel := Array.ofFn (fun i : Fin height => Kernel.of picture.height height i)
  let columns : Array Kernel := Array.ofFn (fun i : Fin width => Kernel.of picture.width width i)
  let between : Array Channels := Array.ofFn (fun i : Fin (picture.width * height) =>
    let x := i % picture.width
    let kernel := rows.getD (i / picture.width) ⟨0, []⟩
    kernel.apply (fun y => Channels.ofPixel (picture.pixel x y)))
  Picture.ofFn width height (fun x y =>
    let kernel := columns.getD x ⟨0, []⟩
    (kernel.apply (fun position =>
      between.getD (y * picture.width + position) ⟨0, 0, 0, 0⟩)).toPixel)

end HostBridge.Raster
