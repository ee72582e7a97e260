import HostBridge.Proofs.Number.Binary64
import HostBridge.Raster.Span

/-!
# Source positions

A destination position has an exact source position.  What is found for it is rounded three times,
so it lies next to the exact one.

Main statements: the position that is found is off by at most the `2 ^ 51`st part of the exact one
(`Axis.abs_foundPosition_sub_le`), which on a small axis is less than the distance to any whole
number but itself (`Axis.lt_abs_sub_of_small`), and it is exact where the scale is a fraction with a
power of two below it (`Axis.foundPosition_of_dyadic`).
-/

namespace HostBridge.Raster

open Binary64

/-- The exact source position of a destination position. -/
def exactPosition (sourceStart sourceEnd targetStart targetEnd position : ℤ) : ℚ :=
  sourceStart + (position - targetStart) * (sourceEnd - sourceStart) / (targetEnd - targetStart)

/-- The source position that is found for a destination position. -/
def foundPosition (sourceStart sourceEnd targetStart targetEnd position : ℤ) : ℚ :=
  valueOf (sourcePosition sourceStart sourceEnd targetStart targetEnd position)

/-! ### One position -/

/-- A result that is zero or not tiny is rounded by a factor next to 1. -/
theorem bounds_of_roundsTo {exact rounded : ℚ} (rounds : RoundsTo exact rounded)
    (sized : exact = 0 ∨ 1 / 2 ^ 34 ≤ exact) :
    exact - exact / 2 ^ 53 ≤ rounded ∧ rounded ≤ exact + exact / 2 ^ 53 := by
  rcases sized with rfl | large
  · have zero : rounded = 0 := rounds.eq_of_representable (representable_natCast (Nat.zero_le _))
    rw [zero]
    norm_num
  · have positive : 0 ≤ exact := le_trans (by positivity) large
    have normal : (2 : ℚ) ^ (-1022 : ℤ) ≤ 1 / 2 ^ 34 := by
      have grows : (2 : ℚ) ^ (-1022 : ℤ) ≤ 2 ^ (-34 : ℤ) :=
        zpow_le_zpow_right₀ one_le_two (by norm_num)
      rw [zpow_neg 2 34, ← one_div] at grows
      exact_mod_cast grows
    have near := rounds.abs_sub_le (by rw [abs_of_nonneg positive]; exact normal.trans large)
    rw [abs_of_nonneg positive, abs_le] at near
    constructor <;> linarith only [near.1, near.2]

/-- The results on the way to a position are rounded one after another, and it ends up off by at
most four parts in `2 ^ 53`. -/
theorem abs_sub_le_of_rounded {source target offset start scale product position : ℚ}
    (solid : 1 ≤ source) (wide : 1 ≤ target) (short : target ≤ 2 ^ 32)
    (placed : offset = 0 ∨ 1 ≤ offset) (begun : start = 0 ∨ 1 ≤ start)
    (scaled : RoundsTo (source / target) scale) (multiplied : RoundsTo (offset * scale) product)
    (moved : RoundsTo (start + product) position) :
    |position - (start + offset * source / target)| ≤
      (start + offset * source / target) / 2 ^ 51 := by
  have offsetNonneg : 0 ≤ offset := by rcases placed with rfl | large <;> linarith
  have startNonneg : 0 ≤ start := by rcases begun with rfl | large <;> linarith
  have ratio : 1 / 2 ^ 32 ≤ source / target := by
    rw [div_le_div_iff₀ (by positivity) (by linarith only [wide])]
    linarith only [solid, short]
  rw [mul_div_assoc]
  generalize source / target = quotient at ratio scaled ⊢
  obtain ⟨scaleLow, scaleHigh⟩ := bounds_of_roundsTo scaled (.inr (by linarith only [ratio]))
  have productSized : offset * scale = 0 ∨ 1 / 2 ^ 33 ≤ offset * scale := by
    refine placed.imp (fun none => by rw [none, zero_mul]) fun large => ?_
    have least : 1 / 2 ^ 33 ≤ scale := by linarith only [ratio, scaleLow]
    exact least.trans (le_mul_of_one_le_left (by linarith only [least]) large)
  obtain ⟨productLow, productHigh⟩ := bounds_of_roundsTo multiplied
    (productSized.imp_right fun large => by linarith only [large])
  have sumSized : start + product = 0 ∨ 1 / 2 ^ 34 ≤ start + product := by
    rcases productSized with none | large
    · have zero : product = 0 := by
        rw [none] at productLow productHigh
        linarith only [productLow, productHigh]
      rw [zero, add_zero]
      exact begun.imp_right fun large => by linarith only [large]
    · exact .inr (by linarith only [startNonneg, productLow, large])
  obtain ⟨low, high⟩ := bounds_of_roundsTo moved sumSized
  -- each rounding takes the exact position a little further away
  have exactLow := mul_le_mul_of_nonneg_left scaleLow offsetNonneg
  have exactHigh := mul_le_mul_of_nonneg_left scaleHigh offsetNonneg
  have exactNonneg : 0 ≤ offset * quotient :=
    mul_nonneg offsetNonneg (by linarith only [ratio])
  rw [mul_sub, ← mul_div_assoc] at exactLow
  rw [mul_add, ← mul_div_assoc] at exactHigh
  rw [abs_le]
  generalize offset * quotient = exact at exactLow exactHigh exactNonneg ⊢
  generalize offset * scale = rough at exactLow exactHigh productLow productHigh
  constructor <;>
    linarith only [exactNonneg, startNonneg, exactLow, exactHigh, productLow, productHigh, low,
      high]

/-- A float is a number within bounds. -/
structure Ranges (x : Float) (low high : ℤ) : Prop where
  isNumber : IsNumber x
  low : low ≤ valueOf x
  high : valueOf x ≤ high

/-- Small integers are converted within their range. -/
theorem ranges_ofInt {n low high : ℤ} (above : low ≤ n) (below : n ≤ high) (nonneg : 0 ≤ low)
    (small : high < 2 ^ 53) : Ranges (Float.ofInt n) low high := by
  obtain ⟨isNumber, same⟩ := valueOf_ofInt (n := n) (by omega) (by omega)
  refine ⟨isNumber, ?_, ?_⟩
  · rw [same]
    exact_mod_cast above
  · rw [same]
    exact_mod_cast below

/-- A position is computed in three steps, and the result of each is rounded. -/
theorem roundsTo_of_ranges {source target offset start : Float} (solid : Ranges source 0 (2 ^ 31))
    (wide : Ranges target 1 (2 ^ 32)) (placed : Ranges offset 0 (2 ^ 32))
    (begun : Ranges start 0 (2 ^ 31)) :
    IsNumber (start + offset * (source / target)) ∧ ∃ scale product,
      RoundsTo (valueOf source / valueOf target) scale ∧
        RoundsTo (valueOf offset * scale) product ∧
          RoundsTo (valueOf start + product) (valueOf (start + offset * (source / target))) := by
  have sourceNonneg : 0 ≤ valueOf source := by exact_mod_cast solid.low
  have sourceMost : valueOf source ≤ 2 ^ 31 := by exact_mod_cast solid.high
  have targetLeast : 1 ≤ valueOf target := by exact_mod_cast wide.low
  have targetPositive : 0 < valueOf target := zero_lt_one.trans_le targetLeast
  have offsetNonneg : 0 ≤ valueOf offset := by exact_mod_cast placed.low
  have offsetMost : valueOf offset ≤ 2 ^ 32 := by exact_mod_cast placed.high
  have startNonneg : 0 ≤ valueOf start := by exact_mod_cast begun.low
  have startMost : valueOf start ≤ 2 ^ 31 := by exact_mod_cast begun.high
  have ratioNonneg : 0 ≤ valueOf source / valueOf target :=
    div_nonneg sourceNonneg targetPositive.le
  have ratio : valueOf source / valueOf target ≤ 2 ^ 31 :=
    (div_le_self sourceNonneg targetLeast).trans sourceMost
  have scaled := yields_div solid.isNumber wide.isNumber targetPositive.ne'
    (lt_two_zpow (by rw [abs_of_nonneg ratioNonneg]; linarith only [ratio]))
  obtain ⟨scaleNonneg, scaleMost⟩ := scaled.rounds.bounds ratioNonneg
  have productNonneg : 0 ≤ valueOf offset * valueOf (source / target) :=
    mul_nonneg offsetNonneg scaleNonneg
  have productMost : valueOf offset * valueOf (source / target) ≤ 2 ^ 32 * 2 ^ 32 :=
    mul_le_mul offsetMost (by linarith only [ratio, scaleMost]) scaleNonneg (by positivity)
  have multiplied := yields_mul placed.isNumber scaled.isNumber
    (lt_two_zpow (by rw [abs_of_nonneg productNonneg]; linarith only [productMost]))
  obtain ⟨roundedNonneg, roundedMost⟩ := multiplied.rounds.bounds productNonneg
  have sumNonneg : 0 ≤ valueOf start + valueOf (offset * (source / target)) :=
    add_nonneg startNonneg roundedNonneg
  have moved := yields_add begun.isNumber multiplied.isNumber
    (lt_two_zpow (by
      rw [abs_of_nonneg sumNonneg]
      linarith only [startMost, roundedMost, productMost]))
  exact ⟨moved.isNumber, _, _, scaled.rounds, multiplied.rounds, moved.rounds⟩

/-- Two different positions that are whole in units of an extent are not nearer than the unit. -/
theorem one_div_le_abs_of_mul_eq {gap extent : ℚ} {k : ℤ} (positive : 0 < extent)
    (whole : gap * extent = k) (nonzero : gap ≠ 0) : 1 / extent ≤ |gap| := by
  have apart : k ≠ 0 := by
    rintro rfl
    rw [Int.cast_zero] at whole
    exact (mul_ne_zero nonzero positive.ne') whole
  have least : (1 : ℚ) ≤ |(k : ℚ)| := by exact_mod_cast Int.one_le_abs apart
  rw [← whole, abs_mul, abs_of_pos positive] at least
  rwa [div_le_iff₀ positive]

/-- The edges of an axis of a draw: a part of the source that is not empty, and where it goes. -/
structure Axis (sourceStart sourceEnd targetStart targetEnd : ℤ) : Prop where
  inside : 0 ≤ sourceStart
  solid : sourceStart < sourceEnd
  sourceSmall : sourceEnd < 2 ^ 31
  wide : targetStart < targetEnd
  targetSmall : targetEnd - targetStart < 2 ^ 32

section Position

variable {sourceStart sourceEnd targetStart targetEnd position : ℤ}

/-- The start of the target is mapped to the start of the source. -/
theorem exactPosition_targetStart :
    exactPosition sourceStart sourceEnd targetStart targetEnd targetStart = sourceStart := by
  rw [exactPosition, sub_self, zero_mul, zero_div, add_zero]

namespace Axis

variable (axis : Axis sourceStart sourceEnd targetStart targetEnd)

include axis

/-- The scale, its product with an offset, and the sum with the start are rounded. -/
theorem roundsTo_foundPosition (low : targetStart ≤ position) (high : position ≤ targetEnd) :
    IsNumber (sourcePosition sourceStart sourceEnd targetStart targetEnd position) ∧
      ∃ scale product,
        RoundsTo ((sourceEnd - sourceStart : ℤ) / (targetEnd - targetStart : ℤ)) scale ∧
          RoundsTo ((position - targetStart : ℤ) * scale) product ∧
            RoundsTo (sourceStart + product)
              (foundPosition sourceStart sourceEnd targetStart targetEnd position) := by
  obtain ⟨inside, solid, sourceSmall, wide, targetSmall⟩ := axis
  have source := valueOf_ofInt (n := sourceEnd - sourceStart) (by omega) (by omega)
  have target := valueOf_ofInt (n := targetEnd - targetStart) (by omega) (by omega)
  have offset := valueOf_ofInt (n := position - targetStart) (by omega) (by omega)
  have start := valueOf_ofInt inside (by omega)
  have rounds := roundsTo_of_ranges
    (ranges_ofInt (n := sourceEnd - sourceStart) (by omega) (by omega) le_rfl (by norm_num))
    (ranges_ofInt (n := targetEnd - targetStart) (by omega) (by omega) zero_le_one (by norm_num))
    (ranges_ofInt (n := position - targetStart) (by omega) (by omega) le_rfl (by norm_num))
    (ranges_ofInt (n := sourceStart) (by omega) (by omega) le_rfl (by norm_num))
  rw [source.2, target.2, offset.2, start.2] at rounds
  exact rounds

/-- The position found is within a relative error of `2 ^ -51` of the exact one. -/
theorem abs_foundPosition_sub_le (low : targetStart ≤ position) (high : position ≤ targetEnd) :
    |foundPosition sourceStart sourceEnd targetStart targetEnd position -
        exactPosition sourceStart sourceEnd targetStart targetEnd position| ≤
      exactPosition sourceStart sourceEnd targetStart targetEnd position / 2 ^ 51 := by
  obtain ⟨-, scale, product, scaled, multiplied, moved⟩ := axis.roundsTo_foundPosition low high
  obtain ⟨inside, solid, sourceSmall, wide, targetSmall⟩ := axis
  have whole (n : ℤ) (nonneg : 0 ≤ n) : (n : ℚ) = 0 ∨ 1 ≤ (n : ℚ) := by
    rcases nonneg.eq_or_lt with rfl | positive
    · exact .inl Int.cast_zero
    · exact .inr (by exact_mod_cast positive)
  have near := abs_sub_le_of_rounded (by exact_mod_cast (by omega : 1 ≤ sourceEnd - sourceStart))
    (by exact_mod_cast (by omega : 1 ≤ targetEnd - targetStart))
    (by exact_mod_cast targetSmall.le) (whole _ (by omega)) (whole _ inside) scaled multiplied moved
  rw [Int.cast_sub, Int.cast_sub, Int.cast_sub] at near
  exact near

theorem width_pos : (0 : ℚ) < targetEnd - targetStart := by
  rw [sub_pos]
  exact_mod_cast axis.wide

theorem exactPosition_targetEnd :
    exactPosition sourceStart sourceEnd targetStart targetEnd targetEnd = sourceEnd := by
  rw [exactPosition, mul_div_cancel_left₀ _ axis.width_pos.ne', add_sub_cancel]

/-- Exact positions are mapped in strictly increasing order. -/
theorem strictMono_exactPosition :
    StrictMono (exactPosition sourceStart sourceEnd targetStart targetEnd) := by
  intro first second before
  have extent : (0 : ℚ) < sourceEnd - sourceStart := by
    rw [sub_pos]
    exact_mod_cast axis.solid
  have later : (first : ℚ) < second := by exact_mod_cast before
  have width := axis.width_pos
  unfold exactPosition
  gcongr

/-- A position of the target is mapped to the source, not before its start. -/
theorem le_exactPosition (low : targetStart ≤ position) :
    sourceStart ≤ exactPosition sourceStart sourceEnd targetStart targetEnd position := by
  have mono := axis.strictMono_exactPosition.monotone low
  rwa [exactPosition_targetStart] at mono

theorem exactPosition_le (high : position ≤ targetEnd) :
    exactPosition sourceStart sourceEnd targetStart targetEnd position ≤ sourceEnd := by
  have mono := axis.strictMono_exactPosition.monotone high
  rwa [axis.exactPosition_targetEnd] at mono

/-- On a small axis no whole number lies as near to an exact position as the one that is found,
apart from the exact position itself. -/
theorem lt_abs_sub_of_small (small : sourceEnd * (targetEnd - targetStart) < 2 ^ 51)
    (high : position ≤ targetEnd) (n : ℤ)
    (broken : exactPosition sourceStart sourceEnd targetStart targetEnd position ≠ n) :
    exactPosition sourceStart sourceEnd targetStart targetEnd position / 2 ^ 51 <
      |exactPosition sourceStart sourceEnd targetStart targetEnd position - n| := by
  have width := axis.width_pos
  have product : (sourceEnd : ℚ) * (targetEnd - targetStart) < 2 ^ 51 := by exact_mod_cast small
  -- in units of the target's extent all positions are whole
  have whole : (exactPosition sourceStart sourceEnd targetStart targetEnd position - n) *
      (targetEnd - targetStart) = ((sourceStart - n) * (targetEnd - targetStart) +
        (position - targetStart) * (sourceEnd - sourceStart) : ℤ) := by
    rw [exactPosition]
    push_cast
    field_simp
    ring
  calc exactPosition sourceStart sourceEnd targetStart targetEnd position / 2 ^ 51
      ≤ (sourceEnd : ℚ) / 2 ^ 51 := by
        have most := axis.exactPosition_le high
        gcongr
    _ < 1 / ((targetEnd : ℚ) - targetStart) := by
        rwa [div_lt_div_iff₀ (by positivity) width, one_mul]
    _ ≤ |exactPosition sourceStart sourceEnd targetStart targetEnd position - n| :=
        one_div_le_abs_of_mul_eq width whole (sub_ne_zero.mpr broken)

/-- The numerators over one power of two that come up if the scale is a fraction over it. -/
theorem numerators_of_dyadic {bits : ℕ} {k : ℤ}
    (factor : (sourceEnd - sourceStart) * 2 ^ bits = (targetEnd - targetStart) * k)
    (small : sourceEnd * 2 ^ bits ≤ 2 ^ 53) (low : targetStart ≤ position)
    (high : position ≤ targetEnd) :
    |k| ≤ 2 ^ 53 ∧ |(position - targetStart) * k| ≤ 2 ^ 53 ∧
      |sourceStart * 2 ^ bits + (position - targetStart) * k| ≤ 2 ^ 53 := by
  obtain ⟨inside, solid, -, wide, -⟩ := axis
  have power : (0 : ℤ) < 2 ^ bits := by positivity
  have startNonneg : 0 ≤ sourceStart * 2 ^ bits := mul_nonneg inside power.le
  have extent : 0 ≤ (targetEnd - targetStart) * k := by
    rw [← factor]
    exact mul_nonneg (by omega) power.le
  have nonneg : 0 ≤ k := nonneg_of_mul_nonneg_right extent (by omega)
  have offsetNonneg : 0 ≤ (position - targetStart) * k := mul_nonneg (by omega) nonneg
  have offsetMost : (position - targetStart) * k ≤ (targetEnd - targetStart) * k :=
    mul_le_mul_of_nonneg_right (by omega) nonneg
  have scaleMost : k ≤ (targetEnd - targetStart) * k := le_mul_of_one_le_left nonneg (by omega)
  rw [← factor, sub_mul sourceEnd] at offsetMost scaleMost
  rw [abs_of_nonneg nonneg, abs_of_nonneg offsetNonneg, abs_of_nonneg (by omega)]
  omega

/-- Nothing is rounded where the scale is a fraction with a power of two below it. -/
theorem foundPosition_of_dyadic {bits : ℕ}
    (dyadic : targetEnd - targetStart ∣ (sourceEnd - sourceStart) * 2 ^ bits)
    (small : sourceEnd * 2 ^ bits ≤ 2 ^ 53) (low : targetStart ≤ position)
    (high : position ≤ targetEnd) :
    foundPosition sourceStart sourceEnd targetStart targetEnd position =
      exactPosition sourceStart sourceEnd targetStart targetEnd position := by
  obtain ⟨k, factor⟩ := dyadic
  obtain ⟨-, scale, product, scaled, multiplied, moved⟩ := axis.roundsTo_foundPosition low high
  obtain ⟨scaleMost, productMost, sumMost⟩ := axis.numerators_of_dyadic factor small low high
  have fine : bits ≤ 1074 := by
    by_contra above
    have grows : (2 : ℤ) ^ 54 ≤ 2 ^ bits := pow_le_pow_right₀ one_le_two (by omega)
    have positive : 1 ≤ sourceEnd := by
      have inside := axis.inside
      have solid := axis.solid
      omega
    have least : 2 ^ bits ≤ sourceEnd * 2 ^ bits := le_mul_of_one_le_left (by positivity) positive
    omega
  have width : ((targetEnd - targetStart : ℤ) : ℚ) ≠ 0 := by
    exact_mod_cast (sub_pos.mpr axis.wide).ne'
  have parts :
      ((sourceEnd - sourceStart : ℤ) : ℚ) / (targetEnd - targetStart : ℤ) = k / 2 ^ bits := by
    rw [div_eq_div_iff width (by positivity), mul_comm (k : ℚ)]
    exact_mod_cast factor
  -- each of the three results is representable, so it is not changed
  rw [parts] at scaled
  have scale_eq := scaled.eq_of_representable (representable_div_two_pow scaleMost fine)
  rw [scale_eq, ← mul_div_assoc, ← Int.cast_mul] at multiplied
  have product_eq := multiplied.eq_of_representable (representable_div_two_pow productMost fine)
  have sum : (sourceStart : ℚ) + product =
      (sourceStart * 2 ^ bits + (position - targetStart) * k : ℤ) / 2 ^ bits := by
    rw [product_eq]
    push_cast
    field_simp
  rw [sum] at moved
  rw [moved.eq_of_representable (representable_div_two_pow sumMost fine), ← sum, product_eq,
    exactPosition, mul_div_assoc, ← Int.cast_sub, ← Int.cast_sub, ← Int.cast_sub, parts,
    Int.cast_mul, mul_div_assoc]

end Axis

end Position

end HostBridge.Raster
