/-!
# The exact values of floats

A finite float is an integer times a power of two.  Taken from its bits, the value serves wherever
exact arithmetic is wanted: for its decimal digits and for rounding it down or up to an integer.
-/

namespace HostBridge

/-- The magnitude of a finite binary64 number as `mantissa * 2 ^ exponent`. -/
structure Magnitude where
  mantissa : Nat
  exponent : Int
  /-- Whether the next smaller number is only half as far away as the next larger one. -/
  narrowBelow : Bool

/-- The magnitude that the bits of a finite number denote. -/
def Magnitude.ofBits (bits : UInt64) : Magnitude :=
  let field := (bits >>> 52).toNat % 2048
  let fraction := bits.toNat % 4503599627370496
  if field = 0 then ⟨fraction, -1074, false⟩
  else ⟨4503599627370496 + fraction, (field : Int) - 1075, fraction == 0 && field != 1⟩

namespace Magnitude

/-- The largest integer that is not above the magnitude. -/
def floor (x : Magnitude) : Nat :=
  if 0 ≤ x.exponent then x.mantissa * Nat.pow 2 x.exponent.toNat
  else x.mantissa / Nat.pow 2 (-x.exponent).toNat

/-- The least integer that is not below the magnitude. -/
def ceil (x : Magnitude) : Nat :=
  if 0 ≤ x.exponent then x.mantissa * Nat.pow 2 x.exponent.toNat
  else (x.mantissa + (Nat.pow 2 (-x.exponent).toNat - 1)) / Nat.pow 2 (-x.exponent).toNat

end Magnitude

/-- Whether the sign bit of a float is set. -/
def hasSignBit (x : Float) : Bool := 9223372036854775808 ≤ x.toBits.toNat

/-- The largest integer that is not above a finite float. -/
def floorInt (x : Float) : Int :=
  let magnitude := Magnitude.ofBits x.toBits
  if hasSignBit x then -(magnitude.ceil : Int) else magnitude.floor

/-- The least integer that is not below a finite float. -/
def ceilInt (x : Float) : Int :=
  let magnitude := Magnitude.ofBits x.toBits
  if hasSignBit x then -(magnitude.floor : Int) else magnitude.ceil

end HostBridge
