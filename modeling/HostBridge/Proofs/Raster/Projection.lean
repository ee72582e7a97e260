import HostBridge.Proofs.Raster.Confinement
import HostBridge.Proofs.Raster.Position

/-!
# What clipping finds of the source

The source interval of a clipped axis against the exact positions of what is visible of the
destination.

Main statements: when the interval is the smallest one of whole pixels around the exact positions,
how far it can be from that one (`Span.exists_projects`), and what a draw without a scale shows
(`Engine.moves_drawPicture`); both together are `Engine.projection`.
-/

namespace HostBridge.Raster

open Binary64

/-- Clamping is a maximum of a minimum. -/
theorem clampBetween_eq {low high : ℤ} (ordered : low ≤ high) (n : ℤ) :
    clampBetween low high n = max low (min high n) := by
  unfold clampBetween
  split
  · omega
  · split <;> omega

/-- Numbers less than 1 apart have floors at most 1 apart. -/
theorem abs_floor_sub_floor_le {x y : ℚ} (near : |x - y| < 1) : |⌊x⌋ - ⌊y⌋| ≤ 1 := by
  obtain ⟨below, above⟩ := abs_lt.mp near
  have less : (⌊x⌋ : ℚ) < ⌊y⌋ + 2 := by
    linarith only [Int.floor_le x, Int.lt_floor_add_one y, above]
  have more : (⌊y⌋ : ℚ) < ⌊x⌋ + 2 := by
    linarith only [Int.floor_le y, Int.lt_floor_add_one x, below]
  norm_cast at less more
  rw [abs_le]
  omega

/-- Numbers less than 1 apart have ceilings at most 1 apart. -/
theorem abs_ceil_sub_ceil_le {x y : ℚ} (near : |x - y| < 1) : |⌈x⌉ - ⌈y⌉| ≤ 1 := by
  have floors : |⌊-x⌋ - ⌊-y⌋| ≤ 1 := abs_floor_sub_floor_le (by rwa [neg_sub_neg, abs_sub_comm])
  rwa [Int.floor_neg, Int.floor_neg, neg_sub_neg, abs_sub_comm] at floors

/-! ### Intervals of whole pixels -/

/-- No whole number lies as near to a position as the one that is found, apart from the position
itself. -/
def Apart (exact found : ℚ) : Prop := ∀ n : ℤ, exact ≠ n → |found - exact| < |exact - n|

namespace Apart

variable {exact found : ℚ} (apart : Apart exact found) {n : ℤ}

include apart

/-- A found number is below the whole numbers that the exact one is below. -/
theorem lt_of_lt (above : exact < n) : found < n := by
  have close := apart n above.ne
  rw [abs_sub_comm exact, abs_of_pos (sub_pos.mpr above)] at close
  linarith only [close, le_abs_self (found - exact)]

/-- A found number is above the whole numbers that the exact one is above. -/
theorem gt_of_gt (below : n < exact) : n < found := by
  have close := apart n below.ne'
  rw [abs_of_pos (sub_pos.mpr below)] at close
  linarith only [close, neg_abs_le (found - exact)]

/-- A found number has no larger floor. -/
theorem floor_le : ⌊found⌋ ≤ ⌊exact⌋ := by
  rw [Int.le_floor]
  by_contra above
  exact absurd (Int.floor_le found) (not_le.mpr (apart.lt_of_lt (not_le.mp above)))

/-- A found number has no smaller ceiling. -/
theorem le_ceil : ⌈exact⌉ ≤ ⌈found⌉ := by
  rw [Int.ceil_le]
  by_contra below
  exact absurd (Int.le_ceil found) (not_le.mpr (apart.gt_of_gt (not_le.mp below)))

/-- Floors are equal where the exact number is not whole. -/
theorem floor_eq (broken : ∀ n : ℤ, exact ≠ n) : ⌊found⌋ = ⌊exact⌋ := by
  apply le_antisymm apart.floor_le
  rw [Int.le_floor]
  exact (apart.gt_of_gt (lt_of_le_of_ne (Int.floor_le exact) (broken _).symm)).le

/-- Ceilings are equal where the exact number is not whole. -/
theorem ceil_eq (broken : ∀ n : ℤ, exact ≠ n) : ⌈found⌉ = ⌈exact⌉ := by
  apply le_antisymm _ apart.le_ceil
  rw [Int.ceil_le]
  exact (apart.lt_of_lt (lt_of_le_of_ne (Int.le_ceil exact) (broken _))).le

end Apart

/-- The ends of a source interval: two exact positions within the source, the ones next to them that
are found, and what is made of these. -/
structure Ends (sourceStart sourceEnd : ℤ) (first last foundFirst foundLast : ℚ)
    (low high : ℤ) : Prop where
  inside : sourceStart ≤ first
  ordered : first < last
  within : last ≤ sourceEnd
  nearFirst : |foundFirst - first| < 1
  nearLast : |foundLast - last| < 1
  lower : low = clampBetween sourceStart (sourceEnd - 1) ⌊foundFirst⌋
  upper : high = clampBetween (low + 1) sourceEnd ⌈foundLast⌉

namespace Ends

variable {sourceStart sourceEnd low high : ℤ} {first last foundFirst foundLast : ℚ}
  (ends : Ends sourceStart sourceEnd first last foundFirst foundLast low high)

include ends

/-- The exact interval lies in the source and is not empty. -/
theorem bounds : sourceStart ≤ ⌊first⌋ ∧ ⌊first⌋ < ⌈last⌉ ∧ ⌈last⌉ ≤ sourceEnd := by
  refine ⟨Int.le_floor.mpr ends.inside, ?_, Int.ceil_le.mpr ends.within⟩
  rw [Int.lt_ceil]
  exact (Int.floor_le first).trans_lt ends.ordered

/-- The ends of the part are clamped to the source, and the part is not empty. -/
theorem clamped : low = max sourceStart (min (sourceEnd - 1) ⌊foundFirst⌋) ∧
    high = max (low + 1) (min sourceEnd ⌈foundLast⌉) := by
  obtain ⟨above, filled, below⟩ := ends.bounds
  have lower := ends.lower
  rw [clampBetween_eq (by omega)] at lower
  have upper := ends.upper
  rw [clampBetween_eq (by omega)] at upper
  exact ⟨lower, upper⟩

/-- The part is as small as can be if and only if rounding takes no end across a whole number within
the source. -/
theorem tight_iff :
    (low = ⌊first⌋ ∧ high = ⌈last⌉) ↔
      (∀ n : ℤ, sourceStart < n → n < sourceEnd → (n ≤ foundFirst ↔ n ≤ first)) ∧
      (∀ n : ℤ, first < n → n < sourceEnd → (foundLast ≤ n ↔ last ≤ n)) := by
  obtain ⟨above, filled, below⟩ := ends.bounds
  obtain ⟨lower, upper⟩ := ends.clamped
  simp only [← Int.le_floor, ← Int.ceil_le, ← Int.floor_lt]
  constructor
  · rintro ⟨exactFirst, exactLast⟩
    constructor
    · intro n above below
      omega
    · intro n above below
      omega
  · rintro ⟨sameFirst, sameLast⟩
    -- what tells a floor is the floor itself and the next whole number, and so for a ceiling
    have start : low = ⌊first⌋ := by
      have floor := sameFirst ⌊first⌋
      have next := sameFirst (⌊first⌋ + 1)
      rw [lower]
      omega
    have stop : high = ⌈last⌉ := by
      have ceil := sameLast ⌈last⌉
      have previous := sameLast (⌈last⌉ - 1)
      rw [upper, start]
      omega
    exact ⟨start, stop⟩

/-- Where no whole number but an exact position itself lies as near to it as the one that is found,
only exact positions that are whole numbers matter. -/
theorem tight_iff_of_apart (apartFirst : Apart first foundFirst)
    (apartLast : Apart last foundLast) :
    (low = ⌊first⌋ ∧ high = ⌈last⌉) ↔
      (∀ n : ℤ, sourceStart < n → first = n → n ≤ foundFirst) ∧
      (∀ n : ℤ, n < sourceEnd → last = n → foundLast ≤ n) := by
  rw [ends.tight_iff]
  constructor
  · rintro ⟨sameFirst, sameLast⟩
    constructor
    · intro n above whole
      have below : (n : ℚ) < sourceEnd := whole ▸ ends.ordered.trans_le ends.within
      exact (sameFirst n above (by exact_mod_cast below)).mpr whole.ge
    · intro n below whole
      exact (sameLast n (whole ▸ ends.ordered) below).mpr whole.le
  · rintro ⟨keepsFirst, keepsLast⟩
    constructor
    · intro n above _
      rcases lt_trichotomy first n with less | whole | more
      · exact iff_of_false (not_le.mpr (apartFirst.lt_of_lt less)) (not_le.mpr less)
      · exact iff_of_true (keepsFirst n above whole) whole.ge
      · exact iff_of_true (apartFirst.gt_of_gt more).le more.le
    · intro n _ below
      rcases lt_trichotomy last n with less | whole | more
      · exact iff_of_true (apartLast.lt_of_lt less).le less.le
      · exact iff_of_true (keepsLast n below whole) whole.le
      · exact iff_of_false (not_le.mpr (apartLast.gt_of_gt more)) (not_le.mpr more)

/-- Where nothing is cut off in front the part begins with the source. -/
theorem low_of_uncut (uncut : first = sourceStart) : low = sourceStart := by
  obtain ⟨-, close⟩ := abs_lt.mp ends.nearFirst
  obtain ⟨above, filled, below⟩ := ends.bounds
  have least : ⌊foundFirst⌋ < sourceStart + 1 := by
    rw [Int.floor_lt, Int.cast_add, Int.cast_one, ← uncut]
    linarith only [close]
  rw [ends.clamped.1]
  omega

/-- Where nothing is cut off behind the part ends with the source. -/
theorem high_of_uncut (uncut : last = sourceEnd) : high = sourceEnd := by
  obtain ⟨close, -⟩ := abs_lt.mp ends.nearLast
  obtain ⟨above, filled, below⟩ := ends.bounds
  obtain ⟨lower, upper⟩ := ends.clamped
  have most : sourceEnd - 1 < ⌈foundLast⌉ := by
    rw [Int.lt_ceil, Int.cast_sub, Int.cast_one, ← uncut]
    linarith only [close]
  omega

/-- Either end is off by at most one pixel. -/
theorem within_one : |low - ⌊first⌋| ≤ 1 ∧ |high - ⌈last⌉| ≤ 1 := by
  obtain ⟨above, filled, below⟩ := ends.bounds
  obtain ⟨lower, upper⟩ := ends.clamped
  have nearFirst := abs_floor_sub_floor_le ends.nearFirst
  have nearLast := abs_ceil_sub_ceil_le ends.nearLast
  rw [abs_le] at nearFirst nearLast ⊢
  rw [abs_le]
  omega

/-- Where rounding stays on its side of every whole number the part covers what is seen, exactly
unless an end is whole. -/
theorem covers (apartFirst : Apart first foundFirst) (apartLast : Apart last foundLast) :
    low ≤ ⌊first⌋ ∧ ⌈last⌉ ≤ high ∧ ((∀ n : ℤ, first ≠ n) → low = ⌊first⌋) ∧
      ((∀ n : ℤ, last ≠ n) → high = ⌈last⌉) := by
  obtain ⟨above, filled, below⟩ := ends.bounds
  obtain ⟨lower, upper⟩ := ends.clamped
  have least := apartFirst.floor_le
  have most := apartLast.le_ceil
  refine ⟨by omega, by omega, fun broken => ?_, fun broken => ?_⟩
  · have same := apartFirst.floor_eq broken
    omega
  · have same := apartLast.ceil_eq broken
    omega

end Ends

namespace Axis

variable {sourceStart sourceEnd targetStart targetEnd position : ℤ}
  (axis : Axis sourceStart sourceEnd targetStart targetEnd)

include axis

/-- A found position is less than 1 away from the exact one. -/
theorem abs_foundPosition_sub_lt (low : targetStart ≤ position) (high : position ≤ targetEnd) :
    |foundPosition sourceStart sourceEnd targetStart targetEnd position -
      exactPosition sourceStart sourceEnd targetStart targetEnd position| < 1 := by
  have near := axis.abs_foundPosition_sub_le low high
  have most := axis.exactPosition_le high
  have bound : (sourceEnd : ℚ) < 2 ^ 31 := by exact_mod_cast axis.sourceSmall
  linarith only [near, most, bound]

/-- In small pictures rounding takes no position across a whole number. -/
theorem apart (small : sourceEnd * (targetEnd - targetStart) < 2 ^ 51)
    (low : targetStart ≤ position) (high : position ≤ targetEnd) :
    Apart (exactPosition sourceStart sourceEnd targetStart targetEnd position)
      (foundPosition sourceStart sourceEnd targetStart targetEnd position) := by
  intro n broken
  exact (axis.abs_foundPosition_sub_le low high).trans_lt
    (axis.lt_abs_sub_of_small small high n broken)

/-- The first pixel of the part is the floor of the found position. -/
theorem first_binary64 (low : targetStart ≤ position) (high : position ≤ targetEnd) :
    Mapping.binary64.first sourceStart sourceEnd targetStart targetEnd position =
      ⌊foundPosition sourceStart sourceEnd targetStart targetEnd position⌋ :=
  floorInt_eq (axis.roundsTo_foundPosition low high).1

/-- The part ends at the ceiling of the found position. -/
theorem behind_binary64 (low : targetStart ≤ position) (high : position ≤ targetEnd) :
    Mapping.binary64.behind sourceStart sourceEnd targetStart targetEnd position =
      ⌈foundPosition sourceStart sourceEnd targetStart targetEnd position⌉ :=
  ceilInt_eq (axis.roundsTo_foundPosition low high).1

end Axis

/-! ### Clipped axes -/

namespace Span

variable {sourceStart sourceEnd targetStart targetEnd : ℤ} {limit : ℕ} {span : Span}

/-- The source interval of a clipped axis is the smallest one of whole pixels around the exact
positions of what is visible of the destination. -/
structure Tight (span : Span) (sourceStart sourceEnd targetStart targetEnd : ℤ) (limit : ℕ) :
    Prop where
  first : (span.sourceStart : ℤ) =
    ⌊exactPosition sourceStart sourceEnd targetStart targetEnd (max targetStart 0)⌋
  behind : (span.sourceStart : ℤ) + span.sourceLength =
    ⌈exactPosition sourceStart sourceEnd targetStart targetEnd (min targetEnd limit)⌉

/-- A clipped axis shows all of its destination that is on the surface, from what the mapping finds
for the ends of it. -/
theorem exists_clipWith (mapping : Mapping) (inside : 0 ≤ sourceStart)
    (solid : sourceStart < sourceEnd) (visible : max targetStart 0 < min targetEnd limit) :
    ∃ span, clipWith mapping sourceStart sourceEnd targetStart targetEnd limit = some span ∧
      (span.start : ℤ) = max targetStart 0 ∧ (span.start : ℤ) + span.length = min targetEnd limit ∧
        (span.sourceStart : ℤ) = clampBetween sourceStart (sourceEnd - 1)
          (mapping.first sourceStart sourceEnd targetStart targetEnd (max targetStart 0)) ∧
        (span.sourceStart : ℤ) + span.sourceLength = clampBetween (span.sourceStart + 1) sourceEnd
          (mapping.behind sourceStart sourceEnd targetStart targetEnd (min targetEnd limit)) := by
  unfold clipWith
  dsimp only
  rw [if_pos visible]
  generalize mapping.first sourceStart sourceEnd targetStart targetEnd (max targetStart 0) = first
  generalize
    mapping.behind sourceStart sourceEnd targetStart targetEnd (min targetEnd limit) = behind
  have lowAbove := le_clampBetween (by omega : sourceStart ≤ sourceEnd - 1) first
  have lowBelow := clampBetween_le (by omega : sourceStart ≤ sourceEnd - 1) first
  have highAbove := le_clampBetween
    (by omega : clampBetween sourceStart (sourceEnd - 1) first + 1 ≤ sourceEnd) behind
  have low : ((clampBetween sourceStart (sourceEnd - 1) first).toNat : ℤ) =
      clampBetween sourceStart (sourceEnd - 1) first := Int.toNat_of_nonneg (by omega)
  refine ⟨_, rfl, ?_, ?_, low, ?_⟩
  · exact Int.toNat_of_nonneg (le_max_right ..)
  · dsimp only
    omega
  · dsimp only
    rw [low]
    omega

/-- What is in sight is clipped to a span between the ends that were found. -/
theorem exists_clip (axis : Axis sourceStart sourceEnd targetStart targetEnd)
    (visible : max targetStart 0 < min targetEnd limit) :
    ∃ span, clip sourceStart sourceEnd targetStart targetEnd limit = some span ∧
      (span.start : ℤ) = max targetStart 0 ∧ (span.start : ℤ) + span.length = min targetEnd limit ∧
        Ends sourceStart sourceEnd
          (exactPosition sourceStart sourceEnd targetStart targetEnd (max targetStart 0))
          (exactPosition sourceStart sourceEnd targetStart targetEnd (min targetEnd limit))
          (foundPosition sourceStart sourceEnd targetStart targetEnd (max targetStart 0))
          (foundPosition sourceStart sourceEnd targetStart targetEnd (min targetEnd limit))
          span.sourceStart (span.sourceStart + span.sourceLength) := by
  have firstLow : targetStart ≤ max targetStart 0 := le_max_left ..
  have lastHigh : min targetEnd limit ≤ targetEnd := min_le_left ..
  have firstHigh : max targetStart 0 ≤ targetEnd := visible.le.trans lastHigh
  have lastLow : targetStart ≤ min targetEnd limit := firstLow.trans visible.le
  obtain ⟨span, clipped, start, stop, low, high⟩ :=
    exists_clipWith .binary64 axis.inside axis.solid visible
  rw [axis.first_binary64 firstLow firstHigh] at low
  rw [axis.behind_binary64 lastLow lastHigh] at high
  exact ⟨span, clipped, start, stop, axis.le_exactPosition firstLow,
    axis.strictMono_exactPosition visible, axis.exactPosition_le lastHigh,
    axis.abs_foundPosition_sub_lt firstLow firstHigh,
    axis.abs_foundPosition_sub_lt lastLow lastHigh, low, high⟩

/-- How near the source interval of a clipped axis comes to the exact positions of what is
visible. -/
structure Projects (span : Span) (sourceStart sourceEnd targetStart targetEnd : ℤ) (limit : ℕ) :
    Prop where
  start : (span.start : ℤ) = max targetStart 0
  stop : (span.start : ℤ) + span.length = min targetEnd limit
  /-- The interval is the exact one just if no whole number in the source parts a position that is
  found from the exact position. -/
  tight_iff : span.Tight sourceStart sourceEnd targetStart targetEnd limit ↔
    (∀ n : ℤ, sourceStart < n → n < sourceEnd →
      (n ≤ foundPosition sourceStart sourceEnd targetStart targetEnd (max targetStart 0) ↔
        n ≤ exactPosition sourceStart sourceEnd targetStart targetEnd (max targetStart 0))) ∧
    ∀ n : ℤ, exactPosition sourceStart sourceEnd targetStart targetEnd (max targetStart 0) < n →
      n < sourceEnd →
      (foundPosition sourceStart sourceEnd targetStart targetEnd (min targetEnd limit) ≤ n ↔
        exactPosition sourceStart sourceEnd targetStart targetEnd (min targetEnd limit) ≤ n)
  /-- Either end is off by at most one pixel. -/
  near :
    |(span.sourceStart : ℤ) -
      ⌊exactPosition sourceStart sourceEnd targetStart targetEnd (max targetStart 0)⌋| ≤ 1 ∧
    |(span.sourceStart : ℤ) + span.sourceLength -
      ⌈exactPosition sourceStart sourceEnd targetStart targetEnd (min targetEnd limit)⌉| ≤ 1
  /-- An end that is not cut off by the surface is kept. -/
  uncut : (0 ≤ targetStart → (span.sourceStart : ℤ) = sourceStart) ∧
    (targetEnd ≤ limit → (span.sourceStart : ℤ) + span.sourceLength = sourceEnd)
  /-- On small axes nothing that shows is left out, and a pixel is taken in beyond it only next to
  an exact position that is a whole number. -/
  small : sourceEnd * (targetEnd - targetStart) < 2 ^ 51 →
    let first := exactPosition sourceStart sourceEnd targetStart targetEnd (max targetStart 0)
    let last := exactPosition sourceStart sourceEnd targetStart targetEnd (min targetEnd limit)
    (span.sourceStart : ℤ) ≤ ⌊first⌋ ∧ ⌈last⌉ ≤ (span.sourceStart : ℤ) + span.sourceLength ∧
      ((∀ n : ℤ, first ≠ n) → (span.sourceStart : ℤ) = ⌊first⌋) ∧
        ((∀ n : ℤ, last ≠ n) → (span.sourceStart : ℤ) + span.sourceLength = ⌈last⌉)
  /-- On small axes the interval is the exact one just if no exact position that is a whole number
  in the source is passed by the one that is found. -/
  tight_iff_of_small : sourceEnd * (targetEnd - targetStart) < 2 ^ 51 →
    (span.Tight sourceStart sourceEnd targetStart targetEnd limit ↔
      (∀ n : ℤ, sourceStart < n →
        exactPosition sourceStart sourceEnd targetStart targetEnd (max targetStart 0) = n →
          n ≤ foundPosition sourceStart sourceEnd targetStart targetEnd (max targetStart 0)) ∧
      ∀ n : ℤ, n < sourceEnd →
        exactPosition sourceStart sourceEnd targetStart targetEnd (min targetEnd limit) = n →
          foundPosition sourceStart sourceEnd targetStart targetEnd (min targetEnd limit) ≤ n)
  /-- The interval is the exact one where the scale is so many halves, quarters, and so on. -/
  dyadic : ∀ bits : ℕ, targetEnd - targetStart ∣ (sourceEnd - sourceStart) * 2 ^ bits →
    sourceEnd * 2 ^ bits ≤ 2 ^ 53 →
      span.Tight sourceStart sourceEnd targetStart targetEnd limit
  /-- Without a scale the axis is moved and not stretched. -/
  moves : targetEnd - targetStart = sourceEnd - sourceStart →
    (span.sourceStart : ℤ) - sourceStart = span.start - targetStart ∧
      span.sourceLength = span.length

/-- Where the target is as large as the source the span moves pixels without scaling them. -/
theorem Tight.moves (tight : span.Tight sourceStart sourceEnd targetStart targetEnd limit)
    (axis : Axis sourceStart sourceEnd targetStart targetEnd)
    (start : (span.start : ℤ) = max targetStart 0)
    (stop : (span.start : ℤ) + span.length = min targetEnd limit)
    (same : targetEnd - targetStart = sourceEnd - sourceStart) :
    (span.sourceStart : ℤ) - sourceStart = span.start - targetStart ∧
      span.sourceLength = span.length := by
  have moved (position : ℤ) : exactPosition sourceStart sourceEnd targetStart targetEnd position =
      (sourceStart + (position - targetStart) : ℤ) := by
    have scale : (targetEnd : ℚ) - targetStart = sourceEnd - sourceStart := by exact_mod_cast same
    rw [exactPosition, ← scale, mul_div_cancel_right₀ _ axis.width_pos.ne']
    push_cast
    rfl
  have first := tight.first
  have behind := tight.behind
  rw [moved, Int.floor_intCast] at first
  rw [moved, Int.ceil_intCast] at behind
  omega

/-- What is in sight is projected. -/
theorem exists_projects (axis : Axis sourceStart sourceEnd targetStart targetEnd)
    (visible : max targetStart 0 < min targetEnd limit) :
    ∃ span, clip sourceStart sourceEnd targetStart targetEnd limit = some span ∧
      span.Projects sourceStart sourceEnd targetStart targetEnd limit := by
  have firstLow : targetStart ≤ max targetStart 0 := le_max_left ..
  have lastHigh : min targetEnd limit ≤ targetEnd := min_le_left ..
  have firstHigh : max targetStart 0 ≤ targetEnd := visible.le.trans lastHigh
  have lastLow : targetStart ≤ min targetEnd limit := firstLow.trans visible.le
  obtain ⟨span, clipped, start, stop, ends⟩ := exists_clip axis visible
  have tight : span.Tight sourceStart sourceEnd targetStart targetEnd limit ↔ _ ∧ _ :=
    ⟨fun tight => ⟨tight.first, tight.behind⟩, fun both => ⟨both.1, both.2⟩⟩
  have apart (small : sourceEnd * (targetEnd - targetStart) < 2 ^ 51) :=
    And.intro (axis.apart small firstLow firstHigh) (axis.apart small lastLow lastHigh)
  have dyadic (bits : ℕ) (divides : targetEnd - targetStart ∣ (sourceEnd - sourceStart) * 2 ^ bits)
      (small : sourceEnd * 2 ^ bits ≤ 2 ^ 53) :
      span.Tight sourceStart sourceEnd targetStart targetEnd limit := by
    rw [tight, ends.tight_iff, axis.foundPosition_of_dyadic divides small firstLow firstHigh,
      axis.foundPosition_of_dyadic divides small lastLow lastHigh]
    exact ⟨fun _ _ _ => Iff.rfl, fun _ _ _ => Iff.rfl⟩
  refine ⟨span, clipped, start, stop, tight.trans ends.tight_iff, ends.within_one, ⟨?_, ?_⟩, ?_, ?_,
    dyadic, ?_⟩
  · intro uncut
    apply ends.low_of_uncut
    rw [max_eq_left uncut, exactPosition_targetStart]
  · intro uncut
    apply ends.high_of_uncut
    rw [min_eq_left uncut, axis.exactPosition_targetEnd]
  · intro small
    exact ends.covers (apart small).1 (apart small).2
  · intro small
    exact tight.trans (ends.tight_iff_of_apart (apart small).1 (apart small).2)
  · intro same
    have sourceSmall := axis.sourceSmall
    have unscaled := dyadic 0 (by rw [same, pow_zero, mul_one]) (by omega)
    exact unscaled.moves axis start stop same

end Span

/-! ### Draws -/

/-- The edges of a part of an image and of where it goes are those of axes. -/
theorem Axis.of_toInt {sourceStart sourceEnd targetStart targetEnd : Int32}
    (inside : 0 ≤ sourceStart.toInt) (solid : sourceStart.toInt < sourceEnd.toInt)
    (wide : targetStart.toInt < targetEnd.toInt) :
    Axis sourceStart.toInt sourceEnd.toInt targetStart.toInt targetEnd.toInt where
  inside := inside
  solid := solid
  sourceSmall := sourceEnd.toInt_lt
  wide := wide
  targetSmall := by
    have least := targetStart.le_toInt
    have most := targetEnd.toInt_lt
    omega

/-- Two rectangles of one size. -/
structure Congruent (part target : Rect) : Prop where
  width : target.right.toInt - target.left.toInt = part.right.toInt - part.left.toInt
  height : target.bottom.toInt - target.top.toInt = part.bottom.toInt - part.top.toInt

namespace Picture

/-- A pixel that is covered is blended with the one over it. -/
theorem pixel_overlay_of_covers {picture front : Picture} {left top x y : ℕ}
    (across : x < picture.width) (down : y < picture.height) (covered : front.Covers left top x y) :
    (picture.overlay front left top).pixel x y =
      (front.pixel (x - left) (y - top)).over (picture.pixel x y) := by
  rw [overlay, pixel_ofFn _ across down]
  exact if_pos covered

/-- A part of a picture was drawn over another one as it is, with nothing beyond a rectangle. -/
structure Moves (picture : Picture) (part target : Rect) (before after : Picture) : Prop where
  changes : before.ChangesOnly target.Contains after
  within : ∀ x y, x < before.width → y < before.height → target.Contains x y →
    after.pixel x y =
      (picture.pixel (x - target.left.toInt + part.left.toInt).toNat
        (y - target.top.toInt + part.top.toInt).toNat).over (before.pixel x y)

end Picture

/-- Every span that clipping gives is projected. -/
theorem Span.projects_of_clip {sourceStart sourceEnd targetStart targetEnd : ℤ} {limit : ℕ}
    {span : Span} (axis : Axis sourceStart sourceEnd targetStart targetEnd)
    (clipped : clip sourceStart sourceEnd targetStart targetEnd limit = some span) :
    span.Projects sourceStart sourceEnd targetStart targetEnd limit := by
  have visible : max targetStart 0 < min targetEnd limit := by
    unfold clip clipWith at clipped
    dsimp only at clipped
    split at clipped
    next seen => exact seen
    next unseen => cases clipped
  obtain ⟨found, same, projects⟩ := exists_projects axis visible
  obtain rfl := Option.some.inj (clipped.symm.trans same)
  exact projects

namespace Engine

variable {picture onto : Picture} {part target : Rect} {width height : ℕ} {x y : Span}

/-- Both axes of a draw, with how they are projected. -/
theorem projects_of_spans (inside : Inside part width height) (solid : target.isEmpty = false)
    (seen : spans .binary64 part target onto.width onto.height = some (x, y)) :
    x.Projects part.left.toInt part.right.toInt target.left.toInt target.right.toInt onto.width ∧
      y.Projects part.top.toInt part.bottom.toInt target.top.toInt target.bottom.toInt
        onto.height := by
  have area := mt (Rect.isEmpty_iff target).mpr (ne_true_of_eq_false solid)
  rw [not_or, Int32.not_le, Int32.not_le, Int32.lt_iff_toInt_lt, Int32.lt_iff_toInt_lt] at area
  obtain ⟨across, down⟩ := spans_eq_some_iff.mp seen
  exact ⟨Span.projects_of_clip (.of_toInt inside.left inside.across area.1) across,
    Span.projects_of_clip (.of_toInt inside.top inside.down area.2) down⟩

/-- A target as large as a part of a picture is not empty. -/
theorem isEmpty_of_congruent (inside : Inside part width height)
    (congruent : Congruent part target) :
    target.isEmpty = false := by
  have across := inside.across
  have down := inside.down
  have sameWidth := congruent.width
  have sameHeight := congruent.height
  rw [← Bool.not_eq_true, Rect.isEmpty_iff, Int32.le_iff_toInt_le, Int32.le_iff_toInt_le]
  omega

/-- A draw between rectangles of one size does not scale. -/
theorem scaled_of_congruent (tools : Tools) (congruent : Congruent part target)
    (across : x.Projects part.left.toInt part.right.toInt target.left.toInt target.right.toInt
      width)
    (down : y.Projects part.top.toInt part.bottom.toInt target.top.toInt target.bottom.toInt
      height) :
    scaled tools picture x y =
        tools.crop picture x.sourceStart y.sourceStart x.length y.length := by
  have sameWidth := (across.moves congruent.width).2
  have sameHeight := (down.moves congruent.height).2
  rw [scaled, if_pos ⟨sameWidth, sameHeight⟩, sameWidth, sameHeight]

/-- Where the target is as large as the source the painted pixels are those of the source. -/
theorem moves_paint {source : Rect} (area : HasArea picture source target)
    (seen : spans .binary64 (clampRect source picture.width picture.height) target
      onto.width onto.height = some (x, y))
    (congruent : Congruent (clampRect source picture.width picture.height) target) :
    picture.Moves (clampRect source picture.width picture.height) target onto
      (paint .standard picture onto x y) := by
  have changes := changesOnly_paint Tools.reliable_standard area seen
  obtain ⟨across, down⟩ := projects_of_spans (Inside.of_clampRect area.1) area.2 seen
  obtain ⟨movedAcross, sameWidth⟩ := across.moves congruent.width
  obtain ⟨movedDown, sameHeight⟩ := down.moves congruent.height
  have left := across.start
  have right := across.stop
  have top := down.start
  have bottom := down.stop
  refine ⟨changes, ?_⟩
  rintro column row inWidth inHeight ⟨afterLeft, beforeRight, belowTop, aboveBottom⟩
  have covered : (picture.crop x.sourceStart y.sourceStart x.length y.length).Covers
      x.start y.start column row := by
    change x.start ≤ column ∧ column < x.start + x.length ∧
      y.start ≤ row ∧ row < y.start + y.length
    omega
  have shown : (picture.crop x.sourceStart y.sourceStart x.length y.length).pixel
      (column - x.start) (row - y.start) =
        picture.pixel (x.sourceStart + (column - x.start)) (y.sourceStart + (row - y.start)) :=
    Picture.pixel_ofFn _ (by omega) (by omega)
  rw [paint, scaled_of_congruent .standard congruent across down]
  refine (Picture.pixel_overlay_of_covers inWidth inHeight covered).trans ?_
  rw [shown]
  congr 2 <;> omega

/-- The surface that a draw between rectangles of one size leaves. -/
theorem moves_drawPicture {engine : Engine} {surface : UInt64} {source : Rect}
    (found : engine.surfaces.find? surface = some onto)
    (solid : (clampRect source picture.width picture.height).isEmpty = false)
    (congruent : Congruent (clampRect source picture.width picture.height) target) :
    ∃ after,
      (engine.drawPicture .standard picture surface source target).engine.surfaces.find? surface =
          some after ∧
        picture.Moves (clampRect source picture.width picture.height) target onto after := by
  have visible := isEmpty_of_congruent (Inside.of_clampRect solid) congruent
  have draws := draws_drawPicture .standard engine picture surface source target
  generalize engine.drawPicture .standard picture surface source target = reply at draws ⊢
  cases draws with
  | skips empty => exact absurd ⟨solid, visible⟩ empty
  | refuses _ absent => cases absent.symm.trans found
  | misses _ same unseen =>
      obtain rfl := Option.some.inj (found.symm.trans same)
      refine ⟨onto, found, .refl onto, ?_⟩
      intro column row inWidth inHeight contained
      exact absurd contained (spans_eq_none_iff.mp unseen column row inWidth inHeight)
  | paints area same seen =>
      obtain rfl := Option.some.inj (found.symm.trans same)
      exact ⟨_, Table.find?_insert_self _ _ _, moves_paint area seen congruent⟩

/-- An axis that is clipped with binary64 arithmetic shows what is visible of its destination, from
a source interval whose ends are at most a pixel off.  The interval is the exact one just if
rounding takes neither end across a whole number, which it does not where the scale is a fraction
with a power of two below it, and so not without a scale.  On a small axis a pixel is at most taken
in, and only next to an end that is a whole number; an end that the surface does not cut off is
kept.  A draw between rectangles of one size moves pixels and does not scale, however it is
clipped. -/
theorem projection (engine : Engine) (image surface : UInt64) (source target : Rect) :
    (∀ (sourceStart sourceEnd targetStart targetEnd : Int32) (limit : ℕ), 0 ≤ sourceStart →
      sourceStart < sourceEnd → targetStart < targetEnd →
        max targetStart.toInt 0 < min targetEnd.toInt limit →
          ∃ span,
            Span.clip sourceStart.toInt sourceEnd.toInt targetStart.toInt targetEnd.toInt limit =
                some span ∧
              span.Projects sourceStart.toInt sourceEnd.toInt targetStart.toInt targetEnd.toInt
                limit) ∧
      ∀ picture onto, engine.images.find? image = some picture →
        engine.surfaces.find? surface = some onto →
          (clampRect source picture.width picture.height).isEmpty = false →
            Congruent (clampRect source picture.width picture.height) target →
              ∃ after,
                (engine.draw image surface source target).engine.surfaces.find? surface =
                    some after ∧
                  picture.Moves (clampRect source picture.width picture.height) target onto
                    after := by
  constructor
  · intro sourceStart sourceEnd targetStart targetEnd limit inside solid wide visible
    rw [Int32.le_iff_toInt_le] at inside
    rw [Int32.lt_iff_toInt_lt] at solid wide
    exact Span.exists_projects (.of_toInt inside solid wide) visible
  · intro picture onto drawn found solid congruent
    rw [draw, drawWith_of_present drawn]
    exact moves_drawPicture found solid congruent

/-- An axis of which the right half is visible, and a draw that is moved off the left edge. -/
theorem projection_of_overhang :
    let ink (x _y : ℕ) : Pixel := if x = 0 then ⟨255, 0, 0, 255⟩ else ⟨0, 255, 0, 255⟩
    let picture := Picture.ofFn 2 1 ink
    let onto := Picture.blank 2 2
    let engine : Engine := ⟨Table.empty.insert 1 picture, Table.empty.insert 2 onto, 3⟩
    let source : Rect := ⟨0, 0, 2, 1⟩
    let target : Rect := ⟨-1, 1, 1, 2⟩
    (0 : Int32) ≤ 0 ∧ (0 : Int32) < 10 ∧ (-10 : Int32) < 10 ∧
      max (-10 : Int32).toInt 0 < min (10 : Int32).toInt 20 ∧
        Span.clip 0 10 (-10) 10 20 = some ⟨5, 5, 0, 10⟩ ∧
          Span.Projects ⟨5, 5, 0, 10⟩ 0 10 (-10) 10 20 ∧
            engine.images.find? 1 = some picture ∧ engine.surfaces.find? 2 = some onto ∧
            (clampRect source 2 1).isEmpty = false ∧ Congruent (clampRect source 2 1) target ∧
              ∃ after, (engine.draw 1 2 source target).engine.surfaces.find? 2 = some after ∧
                picture.Moves (clampRect source 2 1) target onto after ∧
                  after.pixel 0 1 = ⟨0, 255, 0, 255⟩ := by
  intro ink picture onto engine source target
  have clipped : Span.clip 0 10 (-10) 10 20 = some ⟨5, 5, 0, 10⟩ := by decide +kernel
  have drawn : engine.images.find? 1 = some picture := rfl
  have found : engine.surfaces.find? 2 = some onto := rfl
  have solid : (clampRect source 2 1).isEmpty = false := by decide
  have congruent : Congruent (clampRect source 2 1) target := ⟨by decide, by decide⟩
  obtain ⟨projects, moves⟩ := projection engine 1 2 source target
  obtain ⟨span, same, half⟩ :=
    projects 0 10 (-10) 10 20 (by decide) (by decide) (by decide) (by decide)
  obtain rfl := Option.some.inj (clipped.symm.trans same)
  obtain ⟨after, left, moved⟩ := moves picture onto drawn found solid congruent
  refine ⟨by decide, by decide, by decide, by decide, clipped, half, drawn, found, solid, congruent,
    after, left, moved, ?_⟩
  have contained : target.Contains 0 1 := ⟨by decide, by decide, by decide, by decide⟩
  rw [moved.within 0 1 (by decide) (by decide) contained]
  decide +kernel

end Engine

/-- Of two pixels drawn 49 times as wide, with the second one from 0 on, the first one is taken in:
49 times a 49th is rounded to less than 1. -/
theorem Span.takes_in_hidden_pixel :
    clip 0 2 (-49) 49 49 = some ⟨0, 2, 0, 49⟩ ∧
      exactPosition 0 2 (-49) 49 (max (-49) 0) = 1 ∧ exactPosition 0 2 (-49) 49 (min 49 49) = 2 ∧
        ∀ span, clip 0 2 (-49) 49 49 = some span → ¬ span.Tight 0 2 (-49) 49 49 := by
  have clipped : clip 0 2 (-49) 49 49 = some ⟨0, 2, 0, 49⟩ := by decide +kernel
  have first : exactPosition 0 2 (-49) 49 (max (-49) 0) = 1 := by
    rw [exactPosition]
    norm_num
  refine ⟨clipped, first, ?_, ?_⟩
  · rw [exactPosition]
    norm_num
  · intro span same tight
    obtain rfl := Option.some.inj (clipped.symm.trans same)
    have start := tight.first
    rw [first, Int.floor_one] at start
    cases start

end HostBridge.Raster
