import HostBridge.Proofs.Number.Significand

/-!
# Arithmetic on numbers in parts

Main statements: products, sums and quotients of numbers that are not infinite are the exact ones,
rounded, as long as they stay well below the largest number (`produces_mul`, `produces_add`,
`produces_div`).
-/

namespace HostBridge.Binary64

open Float.Model Float.Model.UnpackedFloat

theorem unit_mul (first second : Sign) : unit (first * second) = unit first * unit second := by
  cases first <;> cases second <;> exact (by norm_num [unit])

theorem unit_div (first second : Sign) : unit (first / second) = unit first / unit second := by
  cases first <;> cases second <;> norm_num [unit] <;> rfl

theorem abs_unit (sign : Sign) : |unit sign| = 1 := by
  cases sign with
  | negative => rw [unit, abs_neg, abs_one]
  | positive => rw [unit, abs_one]

theorem produces_zero (sign : Sign) : Produces (.zero sign) 0 where
  canonical := trivial
  rounds := roundsTo_self ⟨0, 0, by norm_num, by norm_num, by norm_num⟩

/-- Every canonical number has a representable value. -/
theorem representable_value {number : UnpackedFloat} (canonical : Canonical number) :
    Representable (value number) := by
  cases number with
  | zero sign => exact (produces_zero sign).rounds.representable
  | finite sign significand exponent _ =>
      obtain ⟨small, fine, -, -⟩ := canonical
      have representable : Representable (significand * 2 ^ exponent) := by
        refine ⟨significand, exponent, ?_, fine, by rw [Int.cast_natCast]⟩
        rw [Nat.abs_cast]
        exact_mod_cast small.le
      exact ((roundsTo_self representable).unit_mul sign).representable
  | infinity _ => exact canonical.elim
  | notANumber => exact canonical.elim

/-- A canonical number produces its own value, unrounded. -/
theorem produces_self {number : UnpackedFloat} (canonical : Canonical number) :
    Produces number (value number) :=
  ⟨canonical, roundsTo_self (representable_value canonical)⟩

/-! ### Operations -/

theorem cast_apply (sign : Sign) (significand : ℕ) :
    ((sign.apply significand : ℤ) : ℚ) = unit sign * significand := by
  cases sign with
  | negative => rw [Sign.apply, unit, Int.cast_neg, Int.cast_natCast, neg_one_mul]
  | positive => rw [Sign.apply, unit, Int.cast_natCast, one_mul]

/-- Lowering the exponent shifts the significand left by as much as the exponent falls. -/
theorem decreaseExponent_eq (significand : ℕ) (exponent target : ℤ) :
    decreaseExponent significand exponent target =
      (significand <<< (exponent - target).toNat, exponent - (exponent - target).toNat) :=
  rfl

/-- Shifting the significand left and lowering the exponent by the same count keeps the value. -/
theorem value_shiftLeft (significand count : ℕ) (exponent : ℤ) :
    ((significand <<< count : ℕ) : ℚ) * 2 ^ (exponent - count) = significand * 2 ^ exponent := by
  rw [Nat.shiftLeft_eq, zpow_sub₀ two_ne_zero, zpow_natCast]
  push_cast
  field_simp

/-- A significand shifted far enough reaches any given width. -/
theorem two_pow_le_shiftLeft {significand count bits : ℕ} (nonzero : significand ≠ 0)
    (enough : bits ≤ significand.log2 + count) : 2 ^ bits ≤ significand <<< count := by
  rw [Nat.shiftLeft_eq]
  calc 2 ^ bits ≤ 2 ^ (significand.log2 + count) := Nat.pow_le_pow_right two_pos enough
    _ = 2 ^ significand.log2 * 2 ^ count := pow_add ..
    _ ≤ significand * 2 ^ count := Nat.mul_le_mul_right _ (Nat.log2_self_le nonzero)

/-- What is told to the last bit is rounded as it is. -/
theorem produces_roundWithAccuracy_exact {significand : ℕ} {exponent : ℤ} (sign : Sign)
    (fits : exponent ≤ -1074 ∨ 2 ^ 52 ≤ significand)
    (small : (significand : ℚ) * 2 ^ exponent < 2 ^ (1023 : ℤ)) :
    Produces (roundWithAccuracy Format.binary64 sign significand exponent .exact)
      (unit sign * (significand * 2 ^ exponent)) := by
  have told : Tells .exact 0 := rfl
  have produces := produces_roundWithAccuracy sign told fits (by rwa [add_zero])
  rwa [add_zero] at produces

/-- Rounding an exact significand and exponent produces the nearest representable value. -/
theorem produces_round {significand : ℕ} {exponent : ℤ} (sign : Sign) (nonzero : significand ≠ 0)
    (small : (significand : ℚ) * 2 ^ exponent < 2 ^ (1023 : ℤ)) :
    Produces (UnpackedFloat.round Format.binary64 sign significand exponent)
      (unit sign * (significand * 2 ^ exponent)) := by
  obtain ⟨count, shift⟩ : ∃ count, count =
      (exponent - max (significand.log2 + exponent - 52) (-1074)).toNat := ⟨_, rfl⟩
  have fits : exponent - count ≤ -1074 ∨ 2 ^ 52 ≤ significand <<< count := by
    rcases le_or_gt (exponent - count) (-1074) with finest | coarser
    · exact .inl finest
    · exact .inr (two_pow_le_shiftLeft nonzero (by omega))
  have same := value_shiftLeft significand count exponent
  have produces := produces_roundWithAccuracy_exact sign fits (by rwa [same])
  rw [same] at produces
  have shifted : UnpackedFloat.round Format.binary64 sign significand exponent =
      roundWithAccuracy Format.binary64 sign (significand <<< count) (exponent - count) .exact := by
    rw [shift, ← targetExponent_totalExponent]
    rfl
  rw [shifted]
  exact produces

/-- Normalising a signed significand rounds it once, whatever its sign. -/
theorem produces_normalize (significand exponent : ℤ)
    (small : |(significand : ℚ) * 2 ^ exponent| < 2 ^ (1023 : ℤ)) :
    Produces (UnpackedFloat.normalize Format.binary64 significand exponent .positive)
      (significand * 2 ^ exponent) := by
  have step : (0 : ℚ) < 2 ^ exponent := by positivity
  rw [abs_mul, abs_of_pos step] at small
  unfold UnpackedFloat.normalize
  rcases lt_trichotomy significand 0 with negative | rfl | positive
  · have size : (((-significand).toNat : ℤ) : ℚ) = -significand := by
      rw [Int.toNat_of_nonneg (by omega), Int.cast_neg]
    rw [abs_of_neg (by exact_mod_cast negative), ← size, Int.cast_natCast] at small
    have produces := produces_round .negative (by omega) small
    have signed : unit .negative * (((-significand).toNat : ℚ) * 2 ^ exponent) =
        significand * 2 ^ exponent := by
      rw [unit, ← Int.cast_natCast, size]
      ring
    rw [signed] at produces
    rw [Int.compare_eq_lt.mpr negative]
    exact produces
  · rw [Int.cast_zero, zero_mul]
    exact produces_zero _
  · have size : ((significand.toNat : ℤ) : ℚ) = significand := by
      rw [Int.toNat_of_nonneg positive.le]
    rw [abs_of_pos (by exact_mod_cast positive), ← size, Int.cast_natCast] at small
    have produces := produces_round .positive (by omega) small
    rw [← Int.cast_natCast, size, unit, one_mul] at produces
    rw [Int.compare_eq_gt.mpr positive]
    exact produces

/-- Multiplying two canonical numbers rounds their exact product once. -/
theorem produces_mul {first second : UnpackedFloat} (left : Canonical first)
    (right : Canonical second) (small : |value first * value second| < 2 ^ (1023 : ℤ)) :
    Produces (mul Format.binary64 first second) (value first * value second) := by
  cases first with
  | infinity _ => exact left.elim
  | notANumber => exact left.elim
  | zero sign =>
      rw [show value (.zero sign) = 0 from rfl, zero_mul]
      cases second with
      | infinity _ => exact right.elim
      | notANumber => exact right.elim
      | zero _ => exact produces_zero _
      | finite _ _ _ _ => exact produces_zero _
  | finite s₁ m₁ e₁ positive₁ =>
      cases second with
      | infinity _ => exact right.elim
      | notANumber => exact right.elim
      | zero sign =>
          rw [show value (.zero sign) = 0 from rfl, mul_zero]
          exact produces_zero _
      | finite s₂ m₂ e₂ positive₂ =>
          obtain ⟨-, -, -, full₁⟩ := left
          obtain ⟨-, -, -, full₂⟩ := right
          have product : value (.finite s₁ m₁ e₁ positive₁) * value (.finite s₂ m₂ e₂ positive₂) =
              unit (s₁ * s₂) * ((m₁ * m₂ : ℕ) * 2 ^ (e₁ + e₂)) := by
            rw [value, value, unit_mul, zpow_add₀ two_ne_zero, Nat.cast_mul]
            ring
          have fits : e₁ + e₂ ≤ -1074 ∨ 2 ^ 52 ≤ m₁ * m₂ := by
            rcases full₁ with large | finest
            · exact .inr (large.trans (Nat.le_mul_of_pos_right m₁ positive₂))
            · rcases full₂ with large | also
              · exact .inr (large.trans (Nat.le_mul_of_pos_left m₂ positive₁))
              · exact .inl (by omega)
          rw [product, abs_mul, abs_unit, one_mul, abs_of_nonneg (by positivity)] at small
          rw [product]
          exact produces_roundWithAccuracy_exact (s₁ * s₂) fits small




/-- Adding two canonical numbers rounds their exact sum once. -/
theorem produces_add {first second : UnpackedFloat} (left : Canonical first)
    (right : Canonical second) (small : |value first + value second| < 2 ^ (1023 : ℤ)) :
    Produces (add Format.binary64 first second) (value first + value second) := by
  cases first with
  | infinity _ => exact left.elim
  | notANumber => exact left.elim
  | zero s₁ =>
      rw [show value (.zero s₁) = 0 from rfl, zero_add]
      cases second with
      | infinity _ => exact right.elim
      | notANumber => exact right.elim
      | zero s₂ => cases s₁ <;> cases s₂ <;> exact produces_zero _
      | finite _ _ _ _ => exact produces_self right
  | finite s₁ m₁ e₁ positive₁ =>
      cases second with
      | infinity _ => exact right.elim
      | notANumber => exact right.elim
      | zero s₂ =>
          rw [show value (.zero s₂) = 0 from rfl, add_zero]
          exact produces_self left
      | finite s₂ m₂ e₂ positive₂ =>
          have aligned (sign : Sign) (significand : ℕ) {exponent : ℤ}
              (least : min e₁ e₂ ≤ exponent) :
              ((sign.apply (decreaseExponent significand exponent (min e₁ e₂)).1 : ℤ) : ℚ) *
                  2 ^ min e₁ e₂ = unit sign * (significand * 2 ^ exponent) := by
            have same := value_shiftLeft significand (exponent - min e₁ e₂).toNat exponent
            rw [show exponent - ((exponent - min e₁ e₂).toNat : ℤ) = min e₁ e₂ by omega] at same
            rw [decreaseExponent_eq, cast_apply, mul_assoc, same]
          have sum : value (.finite s₁ m₁ e₁ positive₁) + value (.finite s₂ m₂ e₂ positive₂) =
              ((s₁.apply (decreaseExponent m₁ e₁ (min e₁ e₂)).1 +
                s₂.apply (decreaseExponent m₂ e₂ (min e₁ e₂)).1 : ℤ) : ℚ) * 2 ^ min e₁ e₂ := by
            rw [Int.cast_add, add_mul, aligned s₁ m₁ (min_le_left ..),
              aligned s₂ m₂ (min_le_right ..), value, value]
          rw [sum] at small ⊢
          exact produces_normalize _ _ small

/-- The accuracy kept of a remainder tells where the remainder lies in its unit. -/
theorem tells_accuracyOfFraction {numerator denominator : ℕ} (proper : numerator < denominator) :
    Tells (accuracyOfFraction numerator denominator) (numerator / denominator) := by
  have positive : (0 : ℚ) < denominator := by exact_mod_cast Nat.zero_lt_of_lt proper
  unfold accuracyOfFraction
  split
  next none => rw [none, Nat.cast_zero, zero_div]; rfl
  next some =>
    have above : (0 : ℚ) < numerator := by exact_mod_cast Nat.pos_of_ne_zero some
    rcases lt_trichotomy (2 * numerator) denominator with less | half | more
    · rw [Nat.compare_eq_lt.mpr less]
      have less : (2 : ℚ) * numerator < denominator := by exact_mod_cast less
      refine ⟨by positivity, ?_⟩
      rw [div_lt_div_iff₀ positive two_pos]
      linarith
    · rw [Nat.compare_eq_eq.mpr half]
      have half : (2 : ℚ) * numerator = denominator := by exact_mod_cast half
      change (numerator : ℚ) / denominator = 1 / 2
      rw [div_eq_div_iff positive.ne' two_ne_zero]
      linarith
    · rw [Nat.compare_eq_gt.mpr more]
      have more : (denominator : ℚ) < 2 * numerator := by exact_mod_cast more
      have below : (numerator : ℚ) < denominator := by exact_mod_cast proper
      refine ⟨?_, (div_lt_one positive).mpr below⟩
      rw [div_lt_div_iff₀ two_pos positive]
      linarith

/-- A quotient in whole steps and what the division leaves. -/
theorem cast_div_add_mod {numerator denominator : ℕ} (positive : 0 < denominator) :
    ((numerator / denominator : ℕ) + (numerator % denominator : ℕ) / denominator : ℚ) =
      numerator / denominator := by
  have whole : (denominator * (numerator / denominator : ℕ) + (numerator % denominator : ℕ) : ℚ) =
      numerator := by
    exact_mod_cast Nat.div_add_mod numerator denominator
  have nonzero : (denominator : ℚ) ≠ 0 := by exact_mod_cast positive.ne'
  rw [eq_div_iff nonzero, add_mul, div_mul_cancel₀ _ nonzero, mul_comm]
  exact whole

/-- A numerator that is shifted far enough leaves a quotient with enough bits. -/
theorem two_pow_le_div {numerator denominator bits : ℕ} (positive : 0 < denominator)
    (enough : 2 ^ (bits + (denominator.log2 + 1)) ≤ numerator) :
    2 ^ bits ≤ numerator / denominator := by
  rw [Nat.le_div_iff_mul_le positive]
  rw [pow_add] at enough
  exact (Nat.mul_le_mul_left _ Nat.lt_log2_self.le).trans enough

/-- Dividing two canonical numbers rounds their exact quotient once. -/
theorem produces_div {first second : UnpackedFloat} (left : Canonical first)
    (right : Canonical second) (nonzero : value second ≠ 0)
    (small : |value first / value second| < 2 ^ (1023 : ℤ)) :
    Produces (div Format.binary64 first second) (value first / value second) := by
  cases second with
  | infinity _ => exact right.elim
  | notANumber => exact right.elim
  | zero _ => exact absurd rfl nonzero
  | finite s₂ m₂ e₂ positive₂ =>
      cases first with
      | infinity _ => exact left.elim
      | notANumber => exact left.elim
      | zero sign =>
          rw [show value (.zero sign) = 0 from rfl, zero_div]
          exact produces_zero _
      | finite s₁ m₁ e₁ positive₁ =>
          obtain ⟨t, target⟩ : ∃ t, t = min (e₁ - e₂)
              (Format.binary64.targetExponent (totalExponent m₁ e₁ - totalExponent m₂ e₂)) :=
            ⟨_, rfl⟩
          obtain ⟨count, shift⟩ : ∃ count, count = (e₁ - e₂ - t).toNat := ⟨_, rfl⟩
          have core : divCore Format.binary64 m₁ e₁ m₂ e₂ =
              (m₁ <<< count / m₂, t, accuracyOfFraction (m₁ <<< count % m₂) m₂) := by
            rw [shift, target]
            rfl
          have fits : t ≤ -1074 ∨ 2 ^ 52 ≤ m₁ <<< count / m₂ := by
            rw [targetExponent_eq, totalExponent, totalExponent] at target
            rcases le_or_gt t (-1074) with finest | coarser
            · exact .inl finest
            · exact .inr (two_pow_le_div positive₂
                (two_pow_le_shiftLeft positive₁.ne' (by omega)))
          have quotient : value (.finite s₁ m₁ e₁ positive₁) / value (.finite s₂ m₂ e₂ positive₂) =
              unit (s₁ / s₂) *
                (((m₁ <<< count / m₂ : ℕ) + (m₁ <<< count % m₂ : ℕ) / m₂) * 2 ^ t) := by
            have scaled := value_shiftLeft m₁ count (e₁ - e₂)
            rw [show e₁ - e₂ - (count : ℤ) = t by omega, zpow_sub₀ two_ne_zero] at scaled
            rw [cast_div_add_mod positive₂, div_mul_eq_mul_div, scaled, value, value, unit_div]
            field_simp
          have tells := tells_accuracyOfFraction (Nat.mod_lt (m₁ <<< count) positive₂)
          rw [quotient, abs_mul, abs_unit, one_mul] at small
          rw [quotient, UnpackedFloat.div, core]
          exact produces_roundWithAccuracy (s₁ / s₂) tells fits ((le_abs_self _).trans_lt small)

end HostBridge.Binary64
