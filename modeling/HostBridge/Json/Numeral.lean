import HostBridge.Json.Basic
import HostBridge.Json.Token

/-!
# The value of a numeral

A numeral without fraction and exponent is an integer if 64 bits hold it.  Any other numeral is a
float: as many digits as 64 bits hold become a significand, which is rounded once, and then
multiplied or divided by a power of ten, which rounds again.  A magnitude beyond the largest float
is refused.
-/

namespace HostBridge.Json

/-- The largest power of ten that is a finite float. -/
def maxPower : Nat := 308

/-- A power of ten as a float. -/
def powerOfTen (n : Nat) : Float := Float.ofScientific 1 false n

/-- The number that digits append to `significand`, up to the first digit with which 64 bits would
overflow, and the digits from that one on. -/
def accumulate : Nat → List Nat → Nat × List Nat
  | significand, [] => (significand, [])
  | significand, digit :: rest =>
    if 10 * significand + digit < UInt64.size then accumulate (10 * significand + digit) rest
    else (significand, digit :: rest)

/-- The float `x * 10 ^ exponent`, scaled in steps of at most `maxPower`; none beyond the largest
float. -/
def scaleFloat : Nat → Float → Int → Option Float
  | 0, x, _ => some x
  | fuel + 1, x, exponent =>
    if exponent.natAbs ≤ maxPower then
      if 0 ≤ exponent then
        let scaled := x * powerOfTen exponent.natAbs
        if scaled.isInf then none else some scaled
      else some (x / powerOfTen exponent.natAbs)
    else if x == 0 then some x
    else if 0 ≤ exponent then none
    else scaleFloat fuel (x / powerOfTen maxPower) (exponent + maxPower)

/-- The float with a significand and a decimal exponent. -/
def floatOfParts (negative : Bool) (significand : Nat) (exponent : Int) : Option Float :=
  (scaleFloat (exponent.natAbs / maxPower + 1) (UInt64.ofNat significand).toFloat exponent).map
    (fun x => if negative then -x else x)

/-- The number that digits write. -/
def natOfDigits (digits : List Nat) : Nat := digits.foldl (fun n digit => 10 * n + digit) 0

/-- The largest exponent that a numeral may write; a larger one is zero or out of range. -/
def maxExponent : Nat := 2147483647

/-- The value of a numeral, if it has one. -/
def Numeral.value? (numeral : Numeral) : Option Number :=
  let (significand, skipped) := accumulate 0 numeral.whole
  match numeral.fraction, numeral.exponent, skipped with
  | none, none, [] =>
    if !numeral.negative then some (.unsigned (UInt64.ofNat significand))
    else if 0 < significand ∧ significand ≤ 9223372036854775808 then
      some (.negative (Int64.ofInt (-(significand : Int))))
    else some (.float (-(UInt64.ofNat significand).toFloat))
  | _, _, _ =>
    let fraction := numeral.fraction.getD []
    let (significand, dropped) := accumulate significand fraction
    let start : Int := (skipped.length : Int) - ((fraction.length - dropped.length : Nat) : Int)
    match numeral.exponent with
    | none => (floatOfParts numeral.negative significand start).map .float
    | some (minus, digits) =>
      let written := natOfDigits digits
      if written ≤ maxExponent then
        let exponent := if minus then start - written else start + written
        (floatOfParts numeral.negative significand exponent).map .float
      else if significand ≠ 0 ∧ !minus then none
      else some (.float (if numeral.negative then -0.0 else 0.0))

/-- The integer that a numeral writes, if it writes one that 64 bits hold. -/
def Numeral.int? (numeral : Numeral) : Option Int :=
  match numeral.value? with
  | some (.unsigned n) => some n.toNat
  | some (.negative n) => some n.toInt
  | _ => none

end HostBridge.Json
