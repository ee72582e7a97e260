import HostBridge.Number.Binary64
import HostBridge.Proofs.Number.Arithmetic

/-!
# The values of floats

The bits of a float are taken to parts and put together again without a change, so arithmetic on
floats is arithmetic on their parts.

Main statements: products, sums and quotients of floats are rounded (`yields_mul`, `yields_add`,
`yields_div`), integers of up to 53 bits are kept (`valueOf_ofInt`), and the largest integer not
above a float and the least one not below it are those of its value (`floorInt_eq`, `ceilInt_eq`).
-/

namespace HostBridge.Binary64

open Float.Model Float.Model.UnpackedFloat

theorem toNat_one_append (significand : BitVec 52) :
    (1#1 ++ significand).toNat = 2 ^ 52 + significand.toNat := by
  rw [BitVec.toNat_append, ← Nat.shiftLeft_add_eq_or_of_lt significand.isLt]
  rfl

/-- Unpacking a normal encoding gives its significand with the hidden bit, and its unbiased
exponent. -/
theorem unpack_packComponents_of_normal (sign : Sign) {exponent : BitVec 11}
    (significand : BitVec 52) (finite : exponent ≠ -1#11) (normal : exponent ≠ 0#11) :
    UnpackedFloat.unpack Format.binary64
        (packComponents Format.binary64 sign exponent significand) =
      .finite sign (2 ^ 52 + significand.toNat) (exponent.toNat - 1075)
        (Nat.add_pos_left (Nat.two_pow_pos 52) _) := by
  simp only [UnpackedFloat.unpack, unpackExponent_packComponents, unpackMantissa_packComponents,
    unpackSign_packComponents, Sign.ofBitVec_toBitVec, if_neg finite, if_neg normal,
    toNat_one_append]
  rfl

/-- Unpacking a subnormal encoding gives the stored fraction at the least exponent. -/
theorem unpack_packComponents_of_subnormal (sign : Sign) {significand : BitVec 52}
    (some : 0 < significand.toNat) :
    UnpackedFloat.unpack Format.binary64 (packComponents Format.binary64 sign 0#11 significand) =
      .finite sign significand.toNat (-1074) some := by
  have nonzero : significand ≠ 0#52 := by
    rintro rfl
    exact absurd some (by decide)
  simp only [UnpackedFloat.unpack, unpackExponent_packComponents, unpackMantissa_packComponents,
    unpackSign_packComponents, Sign.ofBitVec_toBitVec, dif_neg nonzero]
  rfl

/-- Packing a finite number stores a biased exponent exactly when the significand fills its 53 bits.
-/
theorem pack_finite {sign : Sign} {significand : ℕ} {exponent : ℤ} (positive : 0 < significand)
    (coarse : exponent ≤ 971) :
    UnpackedFloat.pack Format.binary64 (.finite sign significand exponent positive) =
      if significand.log2 + 1 = 53 then
        packComponents Format.binary64 sign (.ofNat 11 (exponent + 1075).toNat)
          (.ofNat 52 significand)
      else packComponents Format.binary64 sign 0#11 (.ofNat 52 significand) := by
  have biased : exponent + (Format.binary64.exponentBias : ℕ) + (52 : ℕ) = exponent + 1075 :=
    add_assoc ..
  unfold UnpackedFloat.pack
  dsimp only
  rw [biased, if_neg (by omega)]
  rfl

/-- Packing a canonical number and unpacking it again loses nothing. -/
theorem unpack_pack {number : UnpackedFloat} (canonical : Canonical number) :
    UnpackedFloat.unpack Format.binary64 (UnpackedFloat.pack Format.binary64 number) = number := by
  cases number with
  | infinity _ => exact canonical.elim
  | notANumber => exact canonical.elim
  | zero sign => cases sign <;> rfl
  | finite sign significand exponent positive =>
      obtain ⟨small, fine, coarse, full⟩ := canonical
      rw [pack_finite positive coarse]
      have field : (BitVec.ofNat 11 (exponent + 1075).toNat).toNat = (exponent + 1075).toNat := by
        rw [BitVec.toNat_ofNat, Nat.mod_eq_of_lt (by omega)]
      rcases le_or_gt (2 ^ 52) significand with large | less
      · have bits : significand.log2 = 52 := (Nat.log2_eq_iff positive.ne').mpr ⟨large, small⟩
        rw [if_pos (by rw [bits]), unpack_packComponents_of_normal]
        · congr 1
          · rw [BitVec.toNat_ofNat]
            omega
          · rw [field]
            omega
        · intro same
          rw [same] at field
          have infinite : (-1#11).toNat = 2047 := rfl
          omega
        · intro same
          rw [same] at field
          have zero : (0#11).toNat = 0 := rfl
          omega
      · obtain rfl := full.resolve_left less.not_ge
        have bits : significand.log2 < 52 := (Nat.log2_lt positive.ne').mpr less
        have whole : (BitVec.ofNat 52 significand).toNat = significand := by
          rw [BitVec.toNat_ofNat, Nat.mod_eq_of_lt less]
        rw [if_neg (by omega),
          unpack_packComponents_of_subnormal sign (positive.trans_eq whole.symm)]
        congr 1

/-! ### Floats -/

/-- The value of a float. -/
def valueOf (x : Float) : ℚ := value x.toModel.unpack

/-- A float is a number, and not infinite. -/
def IsNumber (x : Float) : Prop := Canonical x.toModel.unpack

/-- A float is what an exact result is rounded to. -/
structure Yields (x : Float) (exact : ℚ) : Prop where
  isNumber : IsNumber x
  rounds : RoundsTo exact (valueOf x)

/-- What is produced unpacked is what the packed float is worth. -/
theorem Produces.yields {number : UnpackedFloat} {exact : ℚ} (produces : Produces number exact) :
    Yields (.ofModel (.pack number)) exact := by
  have same : (Float.Model.pack number).unpack = number := unpack_pack produces.canonical
  constructor
  · rw [IsNumber, same]
    exact produces.canonical
  · rw [valueOf, same]
    exact produces.rounds

/-- The product of two floats is the exact product, rounded once. -/
theorem yields_mul {x y : Float} (left : IsNumber x) (right : IsNumber y)
    (small : |valueOf x * valueOf y| < 2 ^ (1023 : ℤ)) : Yields (x * y) (valueOf x * valueOf y) :=
  (produces_mul left right small).yields

/-- The sum of two floats is the exact sum, rounded once. -/
theorem yields_add {x y : Float} (left : IsNumber x) (right : IsNumber y)
    (small : |valueOf x + valueOf y| < 2 ^ (1023 : ℤ)) : Yields (x + y) (valueOf x + valueOf y) :=
  (produces_add left right small).yields

/-- The quotient of two floats is the exact quotient, rounded once. -/
theorem yields_div {x y : Float} (left : IsNumber x) (right : IsNumber y) (nonzero : valueOf y ≠ 0)
    (small : |valueOf x / valueOf y| < 2 ^ (1023 : ℤ)) : Yields (x / y) (valueOf x / valueOf y) :=
  (produces_div left right nonzero small).yields

/-- A representable result is not rounded at all. -/
theorem Yields.valueOf_eq {x : Float} {exact : ℚ} (yields : Yields x exact)
    (representable : Representable exact) : valueOf x = exact :=
  yields.rounds.eq_of_representable representable

/-- Every natural number up to `2 ^ 53` is a float. -/
theorem representable_natCast {n : ℕ} (small : n ≤ 2 ^ 53) : Representable n := by
  refine ⟨n, 0, ?_, by norm_num, ?_⟩
  · rw [Nat.abs_cast]
    exact_mod_cast small
  · rw [zpow_zero, mul_one, Int.cast_natCast]

/-- Integers are read as decimal numbers with the exponent 0. -/
theorem ofInt_eq {n : ℕ} (small : n < 2 ^ 53) :
    Float.ofInt n = n.toUInt64.toFloat * Float.exactlyRepresentablePowersOfTen[0] := by
  change Float.ofScientific n false 0 = _
  unfold Float.ofScientific
  rw [dif_pos ⟨small, Nat.zero_le _⟩]
  rfl

theorem valueOf_one : IsNumber Float.exactlyRepresentablePowersOfTen[0] ∧
    valueOf Float.exactlyRepresentablePowersOfTen[0] = 1 := by
  have parts : Float.exactlyRepresentablePowersOfTen[0].toModel.unpack =
      .finite .positive (2 ^ 52) (-52) (by decide) := rfl
  constructor
  · rw [IsNumber, parts]
    exact ⟨by decide, by decide, by decide, .inl le_rfl⟩
  · rw [valueOf, parts, value, unit]
    norm_num

theorem lt_two_zpow {q : ℚ} (bounded : q ≤ 2 ^ 128) : q < 2 ^ (1023 : ℤ) := by
  have grows : (2 : ℚ) ^ (128 : ℤ) < 2 ^ (1023 : ℤ) :=
    zpow_lt_zpow_right₀ one_lt_two (by norm_num)
  exact bounded.trans_lt (by exact_mod_cast grows)

/-- A small natural number is converted by the rounding that every operation goes through. -/
theorem yields_ofInt {n : ℕ} (small : n < 2 ^ 53) : Yields (Float.ofInt n) n := by
  have bound : |(n : ℚ)| < 2 ^ (1023 : ℤ) := by
    rw [Nat.abs_cast]
    exact lt_two_zpow (by exact_mod_cast small.le.trans (by norm_num))
  have integer : Yields n.toUInt64.toFloat n := by
    have produces := produces_normalize n 0 (by rwa [zpow_zero, mul_one, Int.cast_natCast])
    rw [zpow_zero, mul_one, Int.cast_natCast] at produces
    have word : n.toUInt64.toNat = n := Nat.mod_eq_of_lt (small.trans (by norm_num))
    have same : n.toUInt64.toFloat =
        .ofModel (.pack (UnpackedFloat.normalize Format.binary64 n 0 .positive)) := by
      conv_rhs => rw [← word]
      rfl
    rw [same]
    exact produces.yields
  have exact := integer.valueOf_eq (representable_natCast small.le)
  have product := yields_mul integer.isNumber valueOf_one.1
  rw [valueOf_one.2, mul_one, exact] at product
  rw [ofInt_eq small]
  exact product bound

/-- A non-negative integer below `2 ^ 53` is converted exactly. -/
theorem valueOf_ofInt {n : ℤ} (nonneg : 0 ≤ n) (small : n < 2 ^ 53) :
    IsNumber (Float.ofInt n) ∧ valueOf (Float.ofInt n) = n := by
  obtain ⟨n, rfl⟩ := Int.eq_ofNat_of_zero_le nonneg
  have yields : Yields (Float.ofInt n) n := yields_ofInt (by exact_mod_cast small)
  refine ⟨yields.isNumber, ?_⟩
  rw [yields.valueOf_eq (representable_natCast (by exact_mod_cast small.le)), Int.cast_natCast]

/-! ### Whole numbers -/

/-- With a non-negative exponent a magnitude is a whole number. -/
theorem cast_mantissa_mul {x : Magnitude} (whole : 0 ≤ x.exponent) :
    (x.mantissa : ℚ) * 2 ^ x.exponent = ((x.mantissa * 2 ^ x.exponent.toNat : ℕ) : ℤ) := by
  obtain ⟨count, same⟩ := Int.eq_ofNat_of_zero_le whole
  rw [same, Int.toNat_natCast, zpow_natCast]
  push_cast
  rfl

theorem cast_mantissa_div {x : Magnitude} (broken : ¬ 0 ≤ x.exponent) :
    (x.mantissa : ℚ) * 2 ^ x.exponent = x.mantissa / (2 ^ (-x.exponent).toNat : ℕ) := by
  have same : x.exponent = -((-x.exponent).toNat : ℤ) := by omega
  conv_lhs => rw [same]
  rw [zpow_neg, zpow_natCast, Nat.cast_pow, Nat.cast_ofNat, div_eq_mul_inv]

/-- The integer part computed from the bits is the floor of the magnitude. -/
theorem floor_eq (x : Magnitude) : (x.floor : ℤ) = ⌊(x.mantissa : ℚ) * 2 ^ x.exponent⌋ := by
  unfold Magnitude.floor
  split
  next whole => rw [cast_mantissa_mul whole, Int.floor_intCast, Nat.pow_eq]
  next broken => rw [cast_mantissa_div broken, Rat.floor_natCast_div_natCast, Nat.pow_eq,
      Int.natCast_ediv]

theorem ceil_eq (x : Magnitude) : (x.ceil : ℤ) = ⌈(x.mantissa : ℚ) * 2 ^ x.exponent⌉ := by
  unfold Magnitude.ceil
  split
  next whole => rw [cast_mantissa_mul whole, Int.ceil_intCast, Nat.pow_eq]
  next broken =>
    rw [cast_mantissa_div broken, Nat.pow_eq, eq_comm, Int.ceil_eq_iff]
    have positive : 0 < 2 ^ (-x.exponent).toNat := Nat.two_pow_pos _
    generalize 2 ^ (-x.exponent).toNat = divisor at positive ⊢
    have lower := Nat.div_mul_le_self (x.mantissa + (divisor - 1)) divisor
    have upper := Nat.lt_div_mul_add (a := x.mantissa + (divisor - 1)) positive
    generalize (x.mantissa + (divisor - 1)) / divisor = quotient at lower upper ⊢
    have below : quotient * divisor < x.mantissa + divisor := by omega
    have above : x.mantissa ≤ quotient * divisor := by omega
    rw [lt_div_iff₀ (by exact_mod_cast positive), div_le_iff₀ (by exact_mod_cast positive),
      sub_mul, one_mul, sub_lt_iff_lt_add]
    exact ⟨by exact_mod_cast below, by exact_mod_cast above⟩

section Bits

variable (x : Float)

/-- The exponent field is the eleven bits above the fraction. -/
theorem toNat_unpackExponent :
    (@unpackExponent Format.binary64 x.toBits.toBitVec).toNat =
      (x.toBits >>> 52).toNat % 2048 := by
  rw [unpackExponent_def, BitVec.extractLsb'_toNat, UInt64.toNat_shiftRight]
  rfl

theorem toNat_unpackMantissa :
    (@unpackMantissa Format.binary64 x.toBits.toBitVec).toNat =
      x.toBits.toNat % 4503599627370496 := by
  rw [unpackMantissa_def, BitVec.extractLsb'_toNat]
  rfl

/-- The sign field and the sign bit agree. -/
theorem unit_unpackSign :
    unit (.ofBitVec (@unpackSign Format.binary64 x.toBits.toBitVec)) =
      if hasSignBit x then -1 else 1 := by
  have bit : (@unpackSign Format.binary64 x.toBits.toBitVec).toNat =
      x.toBits.toNat / 2 ^ 63 := by
    rw [unpackSign_def, BitVec.extractLsb'_toNat, Nat.shiftRight_eq_div_pow]
    have size := x.toBits.toNat_lt
    change x.toBits.toNat / 2 ^ 63 % 2 = _
    omega
  unfold Sign.ofBitVec hasSignBit
  rcases lt_or_ge x.toBits.toNat (2 ^ 63) with small | large
  · have zero : @unpackSign Format.binary64 x.toBits.toBitVec = 0#1 := by
      apply BitVec.eq_of_toNat_eq
      rw [bit, Nat.div_eq_of_lt small]
      rfl
    rw [if_pos zero, if_neg (by simpa using small)]
    rfl
  · have some : @unpackSign Format.binary64 x.toBits.toBitVec ≠ 0#1 := by
      intro zero
      rw [zero] at bit
      have none : (0#1).toNat = 0 := rfl
      omega
    rw [if_neg some, if_pos (by simpa using large)]
    rfl

end Bits

/-- The value of a float is the magnitude its bits spell, under its sign. -/
theorem valueOf_eq_magnitude {x : Float} (isNumber : IsNumber x) :
    valueOf x = (if hasSignBit x then -1 else 1) *
      ((Magnitude.ofBits x.toBits).mantissa * 2 ^ (Magnitude.ofBits x.toBits).exponent) := by
  have exponent := toNat_unpackExponent x
  have significand := toNat_unpackMantissa x
  rw [← unit_unpackSign]
  unfold valueOf Magnitude.ofBits
  unfold IsNumber at isNumber
  rw [← exponent, ← significand]
  change Canonical (UnpackedFloat.unpack Format.binary64 x.toBits.toBitVec) at isNumber
  change value (UnpackedFloat.unpack Format.binary64 x.toBits.toBitVec) = _
  generalize x.toBits.toBitVec = bits at isNumber ⊢
  unfold UnpackedFloat.unpack at isNumber ⊢
  dsimp only at isNumber ⊢
  split at isNumber
  next infinite =>
    split at isNumber <;> exact isNumber.elim
  next finite =>
    rw [if_neg finite]
    rcases eq_or_ne (@unpackExponent Format.binary64 bits) 0#11 with zero | nonzero
    · rw [if_pos zero, zero, if_pos (by rfl)]
      split
      next none =>
        rw [none]
        simp [value]
      next some => rfl
    · have positive : (@unpackExponent Format.binary64 bits).toNat ≠ 0 :=
        fun none => nonzero (BitVec.eq_of_toNat_eq none)
      rw [if_neg nonzero, if_neg positive]
      simp only [value, toNat_one_append]
      rfl

/-- Rounding a float down through its bits is the floor of its value. -/
theorem floorInt_eq {x : Float} (isNumber : IsNumber x) : floorInt x = ⌊valueOf x⌋ := by
  rw [valueOf_eq_magnitude isNumber]
  unfold floorInt
  dsimp only
  split
  · rw [neg_one_mul, Int.floor_neg, ceil_eq]
  · rw [one_mul, floor_eq]

theorem ceilInt_eq {x : Float} (isNumber : IsNumber x) : ceilInt x = ⌈valueOf x⌉ := by
  rw [valueOf_eq_magnitude isNumber]
  unfold ceilInt
  dsimp only
  split
  · rw [neg_one_mul, Int.ceil_neg, floor_eq]
  · rw [one_mul, ceil_eq]

end HostBridge.Binary64
