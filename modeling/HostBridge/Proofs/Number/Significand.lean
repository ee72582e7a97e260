import HostBridge.Proofs.Number.Rounding
import Mathlib

/-!
# Rounding numbers in parts

A result of arithmetic comes as a significand, an exponent and what is told about the bits behind
the last one.  It is shifted to the grid on which it has 53 bits, or to the finest grid there is,
and rounded there.

Main statement: rounding a result that is told so makes the number in parts that is nearest to it
(`produces_roundWithAccuracy`).
-/

namespace HostBridge.Binary64

open Float.Model Float.Model.UnpackedFloat

/-! ### Significands with what was cut off -/

/-- What was cut off of a number behind its last bit is told by an accuracy. -/
def Tells : Accuracy → ℚ → Prop
  | .exact, rest => rest = 0
  | .inexact .lt, rest => 0 < rest ∧ rest < 1 / 2
  | .inexact .eq, rest => rest = 1 / 2
  | .inexact .gt, rest => 1 / 2 < rest ∧ rest < 1

/-- What an accuracy tells of is a proper fraction. -/
theorem Tells.bounds {accuracy : Accuracy} {rest : ℚ} (tells : Tells accuracy rest) :
    0 ≤ rest ∧ rest < 1 := by
  unfold Tells at tells
  split at tells <;> constructor <;> linarith

/-- A significand stands for a number, whose bits behind the last one are told by two bits. -/
def StandsFor (em : ExtendedMantissa) (x : ℚ) : Prop := Tells em.accuracy (x - em.mantissa)

variable {em : ExtendedMantissa} {x : ℚ}

/-- A mantissa together with its accuracy stands for the mantissa plus the rest. -/
theorem standsFor_ofMantissaAndAccuracy {mantissa : ℕ} {accuracy : Accuracy} {rest : ℚ}
    (tells : Tells accuracy rest) :
    StandsFor (.ofMantissaAndAccuracy mantissa accuracy) (mantissa + rest) := by
  unfold StandsFor
  cases accuracy with
  | exact => simpa [ExtendedMantissa.ofMantissaAndAccuracy, ExtendedMantissa.accuracy] using tells
  | inexact order =>
      cases order <;>
        simpa [ExtendedMantissa.ofMantissaAndAccuracy, ExtendedMantissa.accuracy] using tells

/-- Shifting out one bit halves the number that is stood for. -/
theorem StandsFor.shiftRightOne (stands : StandsFor em x) : StandsFor em.shiftRightOne (x / 2) := by
  obtain ⟨mantissa, roundBit, stickyBit⟩ := em
  have halved : (mantissa : ℚ) = 2 * (mantissa / 2 : ℕ) + (mantissa % 2 : ℕ) := by
    exact_mod_cast (Nat.div_add_mod mantissa 2).symm
  have bit := Nat.mod_two_eq_zero_or_one mantissa
  unfold StandsFor ExtendedMantissa.shiftRightOne at *
  dsimp only at *
  -- the last bit of the significand joins what is told about the bits behind it
  rcases bit with even | odd
  · have clear : (mantissa % 2 != 0) = false := by
      rw [even]
      rfl
    rw [even, Nat.cast_zero, add_zero] at halved
    rw [clear]
    cases roundBit <;> cases stickyBit <;>
      simp only [ExtendedMantissa.accuracy, Tells, Bool.or_false, Bool.or_true] at stands ⊢
    · linarith
    all_goals constructor <;> linarith
  · have set : (mantissa % 2 != 0) = true := by
      rw [odd]
      rfl
    rw [odd, Nat.cast_one] at halved
    rw [set]
    cases roundBit <;> cases stickyBit <;>
      simp only [ExtendedMantissa.accuracy, Tells, Bool.or_false, Bool.or_true] at stands ⊢
    · linarith
    all_goals constructor <;> linarith

/-- Shifting out `count` bits divides the number by `2 ^ count`. -/
theorem StandsFor.shiftRight (stands : StandsFor em x) (count : ℕ) :
    StandsFor (em >>> count) (x / 2 ^ count) := by
  induction count with
  | zero =>
      rw [pow_zero, div_one]
      exact stands
  | succ count ih =>
      have shifted := ih.shiftRightOne
      rw [div_div, ← pow_succ] at shifted
      exact shifted

/-- The rounded mantissa is within one half of the number it stands for. -/
theorem StandsFor.near (stands : StandsFor em x) : |x - em.roundedMantissa| ≤ 1 / 2 := by
  obtain ⟨mantissa, roundBit, stickyBit⟩ := em
  have bit : mantissa % 2 ≤ 1 := by omega
  have bitCast : ((mantissa % 2 : ℕ) : ℚ) ≤ 1 := by exact_mod_cast bit
  have bitPos : (0 : ℚ) ≤ ((mantissa % 2 : ℕ) : ℚ) := Nat.cast_nonneg _
  rw [abs_le]
  cases roundBit <;> cases stickyBit <;>
    simp only [StandsFor, ExtendedMantissa.accuracy, Tells, ExtendedMantissa.roundedMantissa,
      Accuracy.roundToNearestEven, Nat.cast_add, Nat.cast_one] at stands ⊢ <;>
    constructor <;> linarith

/-! ### Numbers in parts -/

/-- The factor of a sign. -/
def unit : Sign → ℚ
  | .negative => -1
  | .positive => 1

/-- The value of a number in parts; 0 for what is not a number or infinite. -/
def value : UnpackedFloat → ℚ
  | .finite sign significand exponent _ => unit sign * (significand * 2 ^ exponent)
  | _ => 0

/-- A number in parts as floats have it: with 53 bits, unless it has the least exponent. -/
def Canonical : UnpackedFloat → Prop
  | .zero _ => True
  | .finite _ significand exponent _ =>
    significand < 2 ^ 53 ∧ -1074 ≤ exponent ∧ exponent ≤ 971 ∧
      (2 ^ 52 ≤ significand ∨ exponent = -1074)
  | _ => False

/-- A number in parts is what an exact result is rounded to. -/
structure Produces (number : UnpackedFloat) (exact : ℚ) : Prop where
  canonical : Canonical number
  rounds : RoundsTo exact (value number)

/-- Rounding is symmetric under the sign. -/
theorem RoundsTo.unit_mul {exact rounded : ℚ} (rounds : RoundsTo exact rounded) (sign : Sign) :
    RoundsTo (unit sign * exact) (unit sign * rounded) := by
  cases sign with
  | negative =>
      rw [unit, neg_one_mul, neg_one_mul]
      exact rounds.neg
  | positive =>
      rw [unit, one_mul, one_mul]
      exact rounds

/-- The exponent on whose grid a number has 53 bits, unless that grid is too fine. -/
theorem targetExponent_eq (total : ℤ) :
    Format.binary64.targetExponent total = max (total - 53) (-1074) :=
  rfl

/-- The target exponent keeps 53 bits, but never falls below that of the subnormals. -/
theorem targetExponent_totalExponent (significand : ℕ) (exponent : ℤ) :
    Format.binary64.targetExponent (totalExponent significand exponent) =
      max (significand.log2 + exponent - 52) (-1074) := by
  rw [targetExponent_eq, totalExponent]
  omega

/-- A number below `2 ^ (bits + 1)` has logarithm at most `bits`. -/
theorem log2_le_of_lt {significand bits : ℕ} (small : significand < 2 ^ (bits + 1)) :
    significand.log2 ≤ bits := by
  rcases eq_or_ne significand 0 with rfl | nonzero
  · exact Nat.zero_le _
  · exact Nat.lt_succ_iff.mp ((Nat.log2_lt nonzero).mpr small)

/-- A significand that fits in 53 bits is not shifted again. -/
theorem shiftToTargetExponent_of_lt {significand : ℕ} {exponent : ℤ} (small : significand < 2 ^ 53)
    (fine : -1074 ≤ exponent) :
    shiftToTargetExponent Format.binary64 significand exponent .exact =
      (⟨significand, false, false⟩, exponent) := by
  have bits := log2_le_of_lt small
  have still : (max ((significand.log2 : ℤ) + exponent - 52) (-1074) - exponent).toNat = 0 := by
    omega
  rw [shiftToTargetExponent, targetExponent_totalExponent, shiftToExponent, still,
    Int.natCast_zero, add_zero]
  rfl

/-- A significand that carried into the next power of two is halved once. -/
theorem shiftToTargetExponent_of_carry {exponent : ℤ} (fine : -1074 ≤ exponent) :
    shiftToTargetExponent Format.binary64 (2 ^ 53) exponent .exact =
      (⟨2 ^ 52, false, false⟩, exponent + 1) := by
  have bits : Nat.log2 (2 ^ 53) = 53 := Nat.log2_two_pow
  have once : (max (((2 ^ 53 : ℕ).log2 : ℤ) + exponent - 52) (-1074) - exponent).toNat = 1 := by
    rw [bits]
    omega
  rw [shiftToTargetExponent, targetExponent_totalExponent, shiftToExponent, once]
  rfl

/-- Rounded bits that are no more than 53, with a carry into the 54th, are a number in parts. -/
theorem roundWithAccuracy_eq (sign : Sign) {significand : ℕ} {exponent : ℤ} {accuracy : Accuracy}
    {em : ExtendedMantissa} {t : ℤ}
    (shifted : shiftToTargetExponent Format.binary64 significand exponent accuracy = (em, t))
    (fine : -1074 ≤ t) (coarse : t ≤ 970) (small : em.roundedMantissa ≤ 2 ^ 53)
    (full : 2 ^ 52 ≤ em.roundedMantissa ∨ t = -1074) :
    Canonical (roundWithAccuracy Format.binary64 sign significand exponent accuracy) ∧
      value (roundWithAccuracy Format.binary64 sign significand exponent accuracy) =
        unit sign * (em.roundedMantissa * 2 ^ t) := by
  unfold roundWithAccuracy
  rw [shifted]
  dsimp only
  rcases Nat.lt_or_eq_of_le small with fits | carried
  · rw [shiftToTargetExponent_of_lt fits fine]
    dsimp only
    split
    next none =>
      rw [none, Nat.cast_zero, zero_mul, mul_zero]
      exact ⟨trivial, rfl⟩
    next some => exact ⟨⟨fits, fine, by omega, full⟩, rfl⟩
  · rw [carried, shiftToTargetExponent_of_carry fine]
    dsimp only
    rw [dif_neg (by decide)]
    refine ⟨⟨by decide, by omega, by omega, .inl le_rfl⟩, congrArg (unit sign * ·) ?_⟩
    rw [zpow_add₀ two_ne_zero, zpow_one]
    push_cast
    ring

/-! ### Rounding on a grid -/

/-- A number in steps of `2 ^ t`, on the grid on which it is rounded: it has 53 bits there, unless
the grid is the finest one. -/
structure OnGrid (number scaled : ℚ) (t : ℤ) : Prop where
  same : number = scaled * 2 ^ t
  fine : -1074 ≤ t
  upper : scaled < 2 ^ 53
  full : t = -1074 ∨ 2 ^ 52 ≤ scaled

namespace OnGrid

variable {number scaled : ℚ} {t : ℤ} (grid : OnGrid number scaled t)

include grid

/-- A number below `2 ^ 1023` has a target exponent at which it does not overflow. -/
theorem coarse (small : number < 2 ^ (1023 : ℤ)) : t ≤ 970 := by
  have fine := grid.fine
  rcases grid.full with finest | large
  · omega
  · have step : (0 : ℚ) < 2 ^ t := by positivity
    have bound : (2 : ℚ) ^ (52 + t) < 2 ^ (1023 : ℤ) := by
      refine lt_of_le_of_lt ?_ small
      rw [grid.same, zpow_add₀ two_ne_zero]
      exact mul_le_mul_of_nonneg_right large step.le
    have exponents := (zpow_lt_zpow_iff_right₀ one_lt_two).mp bound
    omega

/-- The rounded mantissa is at most `2 ^ 53`, reached only by a carry. -/
theorem roundedMantissa_le (stands : StandsFor em scaled) : em.roundedMantissa ≤ 2 ^ 53 := by
  have bound : (em.roundedMantissa : ℚ) < 2 ^ 53 + 1 := by
    linarith only [(abs_le.mp stands.near).1, grid.upper]
  exact Nat.lt_add_one_iff.mp (by exact_mod_cast bound)

/-- The rounded mantissa fills its 53 bits, unless the number is subnormal. -/
theorem le_roundedMantissa (stands : StandsFor em scaled) :
    2 ^ 52 ≤ em.roundedMantissa ∨ t = -1074 := by
  rcases grid.full with finest | large
  · exact .inr finest
  · have bound : (2 ^ 52 : ℚ) < em.roundedMantissa + 1 := by
      linarith only [(abs_le.mp stands.near).2, large]
    exact .inl (Nat.lt_add_one_iff.mp (by exact_mod_cast bound))

/-- The rounded mantissa at the target exponent is the number rounded to nearest. -/
theorem roundsTo (stands : StandsFor em scaled) :
    RoundsTo number (em.roundedMantissa * 2 ^ t) := by
  have step : (0 : ℚ) < 2 ^ t := by positivity
  rw [grid.same]
  apply roundsTo_of_grid (n := em.roundedMantissa) grid.fine
  · exact_mod_cast grid.roundedMantissa_le stands
  · rw [Int.cast_natCast, ← sub_mul, abs_mul, abs_of_pos step]
    linarith only [mul_le_mul_of_nonneg_right stands.near step.le]
  · refine grid.full.imp_right fun large => ?_
    have bound := mul_le_mul_of_nonneg_right large step.le
    rw [add_comm, zpow_add₀ two_ne_zero]
    exact bound.trans (le_abs_self _)

end OnGrid

/-- A significand with enough bits is shifted to the grid on which what it stands for is rounded. -/
theorem exists_onGrid {significand : ℕ} {exponent : ℤ} {accuracy : Accuracy} {rest : ℚ}
    (tells : Tells accuracy rest) (fits : exponent ≤ -1074 ∨ 2 ^ 52 ≤ significand) :
    ∃ em scaled t,
      shiftToTargetExponent Format.binary64 significand exponent accuracy = (em, t) ∧
        StandsFor em scaled ∧ OnGrid ((significand + rest) * 2 ^ exponent) scaled t := by
  obtain ⟨t, target⟩ : ∃ t, t = max ((significand.log2 : ℤ) + exponent - 52) (-1074) := ⟨_, rfl⟩
  have bits : exponent ≤ -1074 ∨ 52 ≤ significand.log2 :=
    fits.imp_right fun large => (Nat.le_log2 (by omega)).mpr large
  obtain ⟨count, shift⟩ : ∃ count : ℕ, t = exponent + count := ⟨(t - exponent).toNat, by omega⟩
  obtain ⟨nonneg, below⟩ : 0 ≤ rest ∧ rest < 1 := tells.bounds
  refine ⟨_, (significand + rest) / 2 ^ count, t, ?_,
    (standsFor_ofMantissaAndAccuracy tells).shiftRight count, ?_, by omega, ?_, ?_⟩
  · rw [shiftToTargetExponent, targetExponent_totalExponent, ← target, shiftToExponent, shift,
      add_sub_cancel_left, Int.toNat_natCast]
  · rw [shift, zpow_add₀ two_ne_zero, zpow_natCast]
    field_simp
  · have succ : (significand + 1 : ℚ) ≤ 2 ^ (significand.log2 + 1) := by
      exact_mod_cast (Nat.lt_log2_self : significand < _)
    have grows : (2 : ℚ) ^ (significand.log2 + 1) ≤ 2 ^ (53 + count) :=
      pow_le_pow_right₀ one_le_two (by omega)
    rw [div_lt_iff₀ (by positivity), ← pow_add]
    linarith only [succ, grows, below]
  · rcases eq_or_ne t (-1074) with finest | coarser
    · exact .inl finest
    · have width : 52 + count = significand.log2 := by omega
      have nonzero : significand ≠ 0 := by
        rintro rfl
        simp at width
      have least : (2 : ℚ) ^ significand.log2 ≤ significand := by
        exact_mod_cast Nat.log2_self_le nonzero
      right
      rw [le_div_iff₀ (by positivity), ← pow_add, width]
      linarith only [least, nonneg]

/-- Rounding a significand of which only an accuracy is known of the rest rounds the whole once. -/
theorem produces_roundWithAccuracy {significand : ℕ} {exponent : ℤ} {accuracy : Accuracy} {rest : ℚ}
    (sign : Sign) (tells : Tells accuracy rest) (fits : exponent ≤ -1074 ∨ 2 ^ 52 ≤ significand)
    (small : (significand + rest) * 2 ^ exponent < 2 ^ (1023 : ℤ)) :
    Produces (roundWithAccuracy Format.binary64 sign significand exponent accuracy)
      (unit sign * ((significand + rest) * 2 ^ exponent)) := by
  obtain ⟨em, scaled, t, shifted, stands, grid⟩ := exists_onGrid tells fits
  obtain ⟨canonical, valued⟩ := roundWithAccuracy_eq sign shifted grid.fine (grid.coarse small)
    (grid.roundedMantissa_le stands) (grid.le_roundedMantissa stands)
  refine ⟨canonical, ?_⟩
  rw [valued]
  exact (grid.roundsTo stands).unit_mul sign

end HostBridge.Binary64
