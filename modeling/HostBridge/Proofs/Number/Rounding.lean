import Mathlib.Algebra.Order.Field.Power
import Mathlib.Algebra.Order.Round
import Mathlib.Algebra.Order.Archimedean.Basic
import Mathlib.Data.Int.Log
import Mathlib.Data.Rat.Floor
import Mathlib.Tactic.Linarith
import Mathlib.Tactic.FieldSimp
import Mathlib.Tactic.Positivity
import Mathlib.Tactic.NormNum
import Mathlib.Tactic.Ring

/-!
# Rounding to 53 bits

Numbers with 53 significant bits, and the nearest of them to an exact result.  Which of two equally
near ones is taken plays no part here.

Main statements: what is representable is not changed (`RoundsTo.eq_of_representable`), a number is
rounded on the grid on which it has 53 bits (`roundsTo_of_grid`), and rounding moves a number that
is not too small by at most the `2 ^ 53`rd part of it (`RoundsTo.abs_sub_le`).
-/

namespace HostBridge.Binary64

/-- The numbers of 53 significant bits on a grid not finer than `2 ^ -1074`, however large. -/
def Representable (q : ℚ) : Prop :=
  ∃ significand exponent : ℤ, |significand| ≤ 2 ^ 53 ∧ -1074 ≤ exponent ∧
    q = significand * 2 ^ exponent

/-- A number is rounded to a representable one that is as near as any other. -/
structure RoundsTo (exact rounded : ℚ) : Prop where
  representable : Representable rounded
  nearest : ∀ other, Representable other → |exact - rounded| ≤ |exact - other|

variable {exact rounded : ℚ}

/-- A representable number rounds to itself. -/
theorem RoundsTo.eq_of_representable (rounds : RoundsTo exact rounded)
    (representable : Representable exact) : rounded = exact := by
  have nearest := rounds.nearest exact representable
  rw [sub_self, abs_zero, abs_nonpos_iff, sub_eq_zero] at nearest
  exact nearest.symm

/-- Rounding keeps a number non-negative and at most doubles it. -/
theorem RoundsTo.bounds (rounds : RoundsTo exact rounded) (nonneg : 0 ≤ exact) :
    0 ≤ rounded ∧ rounded ≤ 2 * exact := by
  have nearest := rounds.nearest 0 ⟨0, 0, by norm_num, by norm_num, by norm_num⟩
  rw [sub_zero, abs_of_nonneg nonneg, abs_le] at nearest
  constructor <;> linarith only [nearest.1, nearest.2]

/-- A representable number is a rounding of itself. -/
theorem roundsTo_self (representable : Representable exact) : RoundsTo exact exact where
  representable := representable
  nearest other _ := by
    rw [sub_self, abs_zero]
    exact abs_nonneg _

/-- The negative of a representable number is representable. -/
theorem Representable.neg (representable : Representable exact) : Representable (-exact) := by
  obtain ⟨significand, exponent, small, fine, rfl⟩ := representable
  refine ⟨-significand, exponent, ?_, fine, ?_⟩
  · rw [abs_neg]
    exact small
  · rw [Int.cast_neg, neg_mul]

/-- Rounding commutes with changing the sign. -/
theorem RoundsTo.neg (rounds : RoundsTo exact rounded) : RoundsTo (-exact) (-rounded) where
  representable := rounds.representable.neg
  nearest other representable := by
    have nearest := rounds.nearest (-other) representable.neg
    rwa [neg_sub_neg, abs_sub_comm, ← abs_neg (-exact - other), neg_sub', neg_neg]

/-- A small integer over a power of two is representable. -/
theorem representable_div_two_pow {n : ℤ} {bits : ℕ} (small : |n| ≤ 2 ^ 53) (fine : bits ≤ 1074) :
    Representable (n / 2 ^ bits) := by
  refine ⟨n, -bits, small, by omega, ?_⟩
  rw [zpow_neg, zpow_natCast, div_eq_mul_inv]

/-- On a grid of multiples, one at most half a step away is as near as any other. -/
theorem abs_sub_le_of_grid {step : ℚ} (positive : 0 < step) {n : ℤ}
    (near : |exact - n * step| ≤ step / 2) (k : ℤ) : |exact - n * step| ≤ |exact - k * step| := by
  rcases eq_or_ne n k with rfl | apart
  · exact le_rfl
  · have gap : (1 : ℚ) ≤ |(n - k : ℤ)| := by
      exact_mod_cast Int.one_le_abs (sub_ne_zero.mpr apart)
    have far : step ≤ |n * step - k * step| := by
      rw [← sub_mul, abs_mul, abs_of_pos positive, ← Int.cast_sub, ← Int.cast_abs]
      exact le_mul_of_one_le_left positive.le gap
    have triangle := abs_sub_le (n * step : ℚ) exact (k * step)
    rw [abs_sub_comm (n * step : ℚ) exact] at triangle
    linarith

/-- A coarser power of two is a whole multiple of a finer one. -/
theorem zpow_eq_mul_of_le {fine coarse : ℤ} (le : fine ≤ coarse) :
    (2 : ℚ) ^ coarse = ((2 ^ (coarse - fine).toNat : ℤ) : ℚ) * 2 ^ fine := by
  have split : coarse = ((coarse - fine).toNat : ℤ) + fine := by omega
  conv_lhs => rw [split]
  rw [zpow_add₀ two_ne_zero, zpow_natCast, Int.cast_pow, Int.cast_ofNat]

/-- A number is rounded to the nearest multiple of a power of two if that power is the finest there
is or the number has all its 53 bits above it. -/
theorem roundsTo_of_grid {n t : ℤ} (fine : -1074 ≤ t) (small : |n| ≤ 2 ^ 53)
    (near : |exact - n * 2 ^ t| ≤ 2 ^ t / 2) (full : t = -1074 ∨ 2 ^ (t + 52) ≤ |exact|) :
    RoundsTo exact (n * 2 ^ t) where
  representable := ⟨n, t, small, fine, rfl⟩
  nearest := by
    have positive : (0 : ℚ) < 2 ^ t := by positivity
    have grid := abs_sub_le_of_grid positive near
    rintro other ⟨significand, exponent, bounded, finest, rfl⟩
    rcases le_or_gt t exponent with coarser | finer
    · -- the other number lies on the same grid
      rw [zpow_eq_mul_of_le coarser, ← mul_assoc, ← Int.cast_mul]
      exact grid _
    · -- the other number is no larger than the least one with 53 bits on the grid, which is nearer
      have large : (2 : ℚ) ^ (t + 52) ≤ |exact| := full.resolve_left (by omega)
      have bound : |(significand : ℚ) * 2 ^ exponent| ≤ 2 ^ (t + 52) := by
        have step : (2 : ℚ) ^ exponent ≤ 2 ^ (t - 1) := zpow_le_zpow_right₀ one_le_two (by omega)
        have bits : |(significand : ℚ)| ≤ 2 ^ (53 : ℤ) := by exact_mod_cast bounded
        rw [show t + 52 = 53 + (t - 1) by omega, zpow_add₀ two_ne_zero, abs_mul,
          abs_of_pos (zpow_pos two_pos exponent : (0 : ℚ) < 2 ^ exponent)]
        exact mul_le_mul bits step (by positivity) (by positivity)
      have least : (2 : ℚ) ^ (t + 52) = (2 ^ 52 : ℤ) * 2 ^ t := by
        rw [add_comm, zpow_add₀ two_ne_zero]
        norm_num
      have apart := abs_sub_abs_le_abs_sub exact (significand * 2 ^ exponent)
      rcases abs_cases exact with ⟨same, _⟩ | ⟨same, _⟩
      · have nearer := grid (2 ^ 52)
        rw [← least, abs_of_nonneg (by linarith : 0 ≤ exact - 2 ^ (t + 52))] at nearer
        linarith
      · have nearer := grid (-2 ^ 52)
        rw [Int.cast_neg, neg_mul, ← least, sub_neg_eq_add,
          abs_of_nonpos (by linarith : exact + 2 ^ (t + 52) ≤ 0)] at nearer
        linarith

/-- A number that is not too small has a representable one next to it. -/
theorem exists_representable (normal : 2 ^ (-1022 : ℤ) ≤ |exact|) :
    ∃ other, Representable other ∧ |exact - other| ≤ |exact| / 2 ^ 53 := by
  have nonzero : exact ≠ 0 := by
    rintro rfl
    rw [abs_zero] at normal
    exact absurd normal (not_le.mpr (by positivity))
  have positive : 0 < |exact| := abs_pos.mpr nonzero
  -- the grid on which the number has 53 bits
  obtain ⟨t, grid⟩ : ∃ t, t = Int.log 2 |exact| - 52 := ⟨_, rfl⟩
  have lower : (2 : ℚ) ^ (t + 52) ≤ |exact| := by
    have below := Int.zpow_log_le_self (b := 2) one_lt_two positive
    rw [grid, sub_add_cancel]
    exact_mod_cast below
  have upper : |exact| < 2 ^ (t + 53) := by
    have above := Int.lt_zpow_succ_log_self (b := 2) one_lt_two |exact|
    rw [grid, show Int.log 2 |exact| - 52 + 53 = Int.log 2 |exact| + 1 by omega]
    exact_mod_cast above
  have fine : -1074 ≤ t := by
    have exponents := (zpow_lt_zpow_iff_right₀ one_lt_two).mp (lt_of_le_of_lt normal upper)
    omega
  have step : (0 : ℚ) < 2 ^ t := by positivity
  have half := abs_sub_round (exact / 2 ^ t)
  have near : |exact - round (exact / 2 ^ t) * 2 ^ t| ≤ 2 ^ t / 2 := by
    have scaled : exact - round (exact / 2 ^ t) * 2 ^ t =
        (exact / 2 ^ t - round (exact / 2 ^ t)) * 2 ^ t := by
      rw [sub_mul, div_mul_cancel₀ _ step.ne']
    rw [scaled, abs_mul, abs_of_pos step]
    linarith [mul_le_mul_of_nonneg_right half step.le]
  refine ⟨round (exact / 2 ^ t) * 2 ^ t, ⟨_, t, ?_, fine, rfl⟩, near.trans ?_⟩
  · have scaled : |exact / 2 ^ t| < 2 ^ 53 := by
      rw [abs_div, abs_of_pos step, div_lt_iff₀ step, ← zpow_natCast, ← zpow_add₀ two_ne_zero,
        add_comm]
      exact upper
    have rounded := abs_sub_abs_le_abs_sub (round (exact / 2 ^ t) : ℚ) (exact / 2 ^ t)
    rw [abs_sub_comm] at rounded
    have bound : (|round (exact / 2 ^ t)| : ℚ) < 2 ^ 53 + 1 := by linarith
    exact Int.lt_add_one_iff.mp (by exact_mod_cast bound)
  · rw [zpow_add₀ two_ne_zero] at lower
    norm_num at lower ⊢
    linarith

/-- Rounding moves a number that is not too small by at most the `2 ^ 53`rd part of it. -/
theorem RoundsTo.abs_sub_le (rounds : RoundsTo exact rounded)
    (normal : 2 ^ (-1022 : ℤ) ≤ |exact|) : |exact - rounded| ≤ |exact| / 2 ^ 53 := by
  obtain ⟨other, representable, near⟩ := exists_representable normal
  exact (rounds.nearest other representable).trans near

end HostBridge.Binary64
