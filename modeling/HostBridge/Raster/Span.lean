import HostBridge.Number.Binary64

/-!
# Clipping

One axis of a draw that maps a source interval onto a destination interval.  The destination is
clipped to the surface, and the source interval that shows in what is left is found by a mapping and
kept within the source.
-/

namespace HostBridge.Raster

/-- The visible part of one axis: a non-empty source interval and where it goes. -/
structure Span where
  sourceStart : Nat
  sourceLength : Nat
  start : Nat
  length : Nat
deriving DecidableEq, Repr

/-- The nearest integer between two bounds. -/
def clampBetween (low high n : Int) : Int := if n < low then low else if high < n then high else n

/-- The source position of a destination position. -/
def sourcePosition (sourceStart sourceEnd targetStart targetEnd position : Int) : Float :=
  let scale := Float.ofInt (sourceEnd - sourceStart) / Float.ofInt (targetEnd - targetStart)
  Float.ofInt sourceStart + Float.ofInt (position - targetStart) * scale

/-- How the positions of a destination interval are taken to whole source pixels: the first of those
that show from a position on, and the one behind the last of those that show up to a position. -/
structure Mapping where
  first : (sourceStart sourceEnd targetStart targetEnd position : Int) → Int
  behind : (sourceStart sourceEnd targetStart targetEnd position : Int) → Int

/-- The mapping that takes in whole pixels around what binary64 arithmetic finds. -/
def Mapping.binary64 : Mapping where
  first sourceStart sourceEnd targetStart targetEnd position :=
    floorInt (sourcePosition sourceStart sourceEnd targetStart targetEnd position)
  behind sourceStart sourceEnd targetStart targetEnd position :=
    ceilInt (sourcePosition sourceStart sourceEnd targetStart targetEnd position)

/-- Clip an axis to a surface of `limit` pixels; none if nothing of the destination is visible.
Whatever the mapping says is kept within the source interval. -/
def Span.clipWith (mapping : Mapping) (sourceStart sourceEnd targetStart targetEnd : Int)
    (limit : Nat) : Option Span :=
  let visibleStart := max targetStart 0
  let visibleEnd := min targetEnd limit
  if visibleStart < visibleEnd then
    let low := clampBetween sourceStart (sourceEnd - 1)
      (mapping.first sourceStart sourceEnd targetStart targetEnd visibleStart)
    let high := clampBetween (low + 1) sourceEnd
      (mapping.behind sourceStart sourceEnd targetStart targetEnd visibleEnd)
    some ⟨low.toNat, (high - low).toNat, visibleStart.toNat, (visibleEnd - visibleStart).toNat⟩
  else none

/-- Clip an axis with binary64 arithmetic. -/
def Span.clip : Int → Int → Int → Int → Nat → Option Span := clipWith .binary64

end HostBridge.Raster
