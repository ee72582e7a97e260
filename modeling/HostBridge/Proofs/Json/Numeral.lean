import HostBridge.Json.Numeral
import HostBridge.Json.Printer
import HostBridge.Proofs.Text.Numeral
import Mathlib.Data.Nat.Notation

/-!
# Reading back integers

An integer is written with its decimal digits, without a zero in front, and the digits are read back
as that integer.

Main statements: the lexer takes exactly the digits of a written number, whatever may follow a value
(`lexNumber_natChars`), the numeral of an integer has its value (`int?_numeral`), and only numerals
of digits are read as numbers without sign (`Numeral.value?_eq_unsigned_iff`).
-/

namespace HostBridge.Json

open HostBridge.Text (Glyph)

/-! ### Decimal digits -/

/-- The decimal digits of a number, the most significant one first. -/
def digits (n : ℕ) : List ℕ := (natChars n).map (fun c => c.toNat - '0'.toNat)

theorem digits_of_lt {n : ℕ} (small : n < 10) : digits n = [n] := by
  rw [digits, natChars, Nat.toDigits_of_lt_base small, List.map_singleton]
  exact congrArg (fun digit => [digit]) (Nat.toNat_digitChar_sub_48_of_lt_ten small)

/-- The last digit of a number is its remainder by ten, and the digits before it are those of the
rest. -/
theorem digits_of_le {n : ℕ} (large : 10 ≤ n) : digits n = digits (n / 10) ++ [n % 10] := by
  have last : n % 10 < 10 := Nat.mod_lt n (by decide)
  rw [digits, natChars, Nat.toDigits_of_base_le (by decide) large, List.map_append,
    List.map_singleton]
  exact congrArg (fun digit => digits (n / 10) ++ [digit])
    (Nat.toNat_digitChar_sub_48_of_lt_ten last)

/-- A number has a digit, and several only if the first is not zero. -/
theorem digits_eq_cons (n : ℕ) : ∃ first rest, digits n = first :: rest ∧
    (first = 0 → rest = []) ∧ (0 < n → first ≠ 0) := by
  induction n using Nat.strongRecOn with
  | ind n ih =>
      rcases Nat.lt_or_ge n 10 with small | large
      · exact ⟨n, [], digits_of_lt small, fun _ => rfl, fun positive => positive.ne'⟩
      · obtain ⟨first, rest, written, _, nonzero⟩ := ih (n / 10) (by omega)
        have leading : first ≠ 0 := nonzero (by omega)
        refine ⟨first, rest ++ [n % 10], ?_, fun zero => absurd zero leading, fun _ => leading⟩
        rw [digits_of_le large, written, List.cons_append]

/-- Digits that were all accumulated can be followed by more. -/
theorem accumulate_append {significand total : ℕ} {read : List ℕ}
    (exact : accumulate significand read = (total, [])) (further : List ℕ) :
    accumulate significand (read ++ further) = accumulate total further := by
  induction read generalizing significand with
  | nil =>
      cases exact
      rfl
  | cons digit read ih =>
      rw [accumulate] at exact
      rw [List.cons_append, accumulate]
      split
      next fits =>
        rw [if_pos fits] at exact
        exact ih exact
      next beyond =>
        rw [if_neg beyond] at exact
        cases exact

/-- The digits of a number of 64 bits give the number. -/
theorem accumulate_digits {n : ℕ} (fits : n < UInt64.size) : accumulate 0 (digits n) = (n, []) := by
  induction n using Nat.strongRecOn with
  | ind n ih =>
      rcases Nat.lt_or_ge n 10 with small | large
      · have sum : 10 * 0 + n < UInt64.size := by omega
        rw [digits_of_lt small, accumulate, if_pos sum, accumulate, Nat.mul_zero, Nat.zero_add]
      · have sum : 10 * (n / 10) + n % 10 = n := Nat.div_add_mod n 10
        rw [digits_of_le large, accumulate_append (ih (n / 10) (by omega) (by omega)), accumulate,
          sum, if_pos fits, accumulate]

theorem le_foldl_digits (digits : List ℕ) (n : ℕ) :
    n ≤ digits.foldl (fun n digit => 10 * n + digit) n := by
  induction digits generalizing n with
  | nil => exact Nat.le_refl n
  | cons digit digits ih =>
      have further := ih (10 * n + digit)
      rw [List.foldl_cons]
      omega

/-- All digits are taken where 64 bits hold the number that they write. -/
theorem accumulate_eq_iff {significand total : ℕ} (small : significand < UInt64.size)
    {digits : List ℕ} :
    accumulate significand digits = (total, []) ↔
      digits.foldl (fun n digit => 10 * n + digit) significand = total ∧ total < UInt64.size := by
  induction digits generalizing significand with
  | nil =>
      constructor
      · intro taken
        cases taken
        exact ⟨rfl, small⟩
      · rintro ⟨rfl, _⟩
        rfl
  | cons digit digits ih =>
      rw [accumulate, List.foldl_cons]
      split
      next fits => exact ih fits
      next beyond =>
        refine ⟨(nomatch ·), ?_⟩
        rintro ⟨rfl, below⟩
        exact absurd (Nat.lt_of_le_of_lt (le_foldl_digits digits _) below) beyond

/-! ### Numerals -/

/-- What may follow a value in a document. -/
inductive Follows : List Glyph → Prop where
  | nothing : Follows []
  | comma (rest : List Glyph) : Follows (some ',' :: rest)
  | closeArray (rest : List Glyph) : Follows (some ']' :: rest)
  | closeObject (rest : List Glyph) : Follows (some '\x7d' :: rest)

/-- No digit is read where a number has ended. -/
theorem lexDigits_of_follows {rest : List Glyph} (follows : Follows rest) :
    lexDigits rest = ([], rest) := by
  cases follows <;> rfl

/-- All digits are read up to where the number ends. -/
theorem lexDigits_append {cs : List Char} (numeric : ∀ c ∈ cs, c.isDigit = true)
    {rest : List Glyph} (follows : Follows rest) :
    lexDigits (cs.map some ++ rest) = (cs.map (fun c => c.toNat - '0'.toNat), rest) := by
  induction cs with
  | nil => exact lexDigits_of_follows follows
  | cons c cs ih =>
      obtain ⟨digit, others⟩ := List.forall_mem_cons.mp numeric
      rw [List.map_cons, List.cons_append, lexDigits, Text.digitValue?_of_isDigit digit, ih others,
        List.map_cons]

/-- The printed digits of a number are read back. -/
theorem lexDigits_natChars (n : ℕ) {rest : List Glyph} (follows : Follows rest) :
    lexDigits ((natChars n).map some ++ rest) = (digits n, rest) :=
  lexDigits_append (fun _ => Nat.isDigit_of_mem_toDigits (by decide) (by decide)) follows

/-- The numeral of an integer. -/
def integral (negative : Bool) (n : ℕ) : Numeral := ⟨negative, digits n, none, none⟩

/-- The lexer takes the digits of a number and nothing of what follows. -/
theorem lexNumber_natChars (negative : Bool) (n : ℕ) {rest : List Glyph} (follows : Follows rest) :
    lexNumber negative ((natChars n).map some ++ rest) = some (integral negative n, rest) := by
  obtain ⟨first, others, written, lone, _⟩ := digits_eq_cons n
  have ends : lexExponent negative (digits n) none rest = some (integral negative n, rest) := by
    cases follows <;> rfl
  rw [lexNumber, lexDigits_natChars n follows]
  rw [written] at ends ⊢
  cases first with
  | zero =>
      rw [lone rfl] at ends ⊢
      cases follows <;> exact ends
  | succ first => cases follows <;> exact ends

/-- A natural number that fits is read as an unsigned number. -/
theorem value?_integral_of_unsigned {n : ℕ} (fits : n < UInt64.size) :
    (integral false n).value? = some (.unsigned (UInt64.ofNat n)) := by
  unfold Numeral.value? integral
  rw [accumulate_digits fits]
  rfl

/-- A negative number that fits is read as a signed number. -/
theorem value?_integral_of_negative {n : ℕ} (positive : 0 < n) (fits : n ≤ 9223372036854775808) :
    (integral true n).value? = some (.negative (Int64.ofInt (-n))) := by
  have within : n < UInt64.size := Nat.lt_of_le_of_lt fits (by decide)
  unfold Numeral.value? integral
  rw [accumulate_digits within]
  dsimp only
  rw [if_neg (by decide), if_pos (And.intro positive fits)]

/-- A numeral is read as a number without sign if it has digits only, and 64 bits hold the number
that they write. -/
theorem Numeral.value?_eq_unsigned_iff {numeral : Numeral} {n : UInt64} :
    numeral.value? = some (.unsigned n) ↔ numeral.negative = false ∧ numeral.fraction = none ∧
      numeral.exponent = none ∧ natOfDigits numeral.whole = n.toNat := by
  obtain ⟨negative, whole, fraction, exponent⟩ := numeral
  have taken (total : ℕ) := @accumulate_eq_iff 0 total (by decide) whole
  unfold value?
  constructor
  · cases read : accumulate 0 whole with
    | mk significand skipped =>
        dsimp only
        intro valued
        split at valued
        next plain =>
          obtain ⟨written, fits⟩ := (taken significand).mp read
          split at valued
          next unsigned =>
            cases valued
            rw [UInt64.toNat_ofNat_of_lt' fits]
            exact ⟨(Bool.not_eq_true' _).mp unsigned, rfl, rfl, written⟩
          next => split at valued <;> cases valued
        next =>
          -- Any other numeral is a float, if it is in range.
          have float {x : Option Float} : x.map .float ≠ some (Number.unsigned n) := by
            cases x <;> nofun
          split at valued
          · exact absurd valued float
          · split at valued
            · exact absurd valued float
            · split at valued <;> cases valued
  · rintro ⟨rfl, rfl, rfl, written⟩
    rw [(taken n.toNat).mpr ⟨written, n.toNat_lt⟩]
    exact congrArg (some ∘ Number.unsigned) UInt64.ofNat_toNat

/-- The numeral that a number is written with; a float has none here. -/
def Number.numeral : Number → Numeral
  | unsigned n => integral false n.toNat
  | negative n => integral (n.toInt < 0) n.toInt.natAbs
  | float _ => ⟨false, [], none, none⟩

/-- A natural number that fits is read back as an integer. -/
theorem int?_integral_of_unsigned {n : ℕ} (fits : n < UInt64.size) :
    (integral false n).int? = some (n : ℤ) := by
  rw [Numeral.int?, value?_integral_of_unsigned fits]
  dsimp only
  rw [UInt64.toNat_ofNat_of_lt' fits]

/-- The numeral of a number that is an integer is read as that integer. -/
theorem int?_numeral {number : Number} {i : ℤ} (integer : (Json.number number).asInt? = some i) :
    number.numeral.int? = some i := by
  cases number with
  | unsigned n =>
      cases integer
      exact int?_integral_of_unsigned n.toNat_lt
  | negative n =>
      cases integer
      have least : -9223372036854775808 ≤ n.toInt := n.le_toInt
      have most : n.toInt < 9223372036854775808 := n.toInt_lt
      by_cases negative : n.toInt < 0
      · rw [Number.numeral, decide_eq_true negative, Numeral.int?,
          value?_integral_of_negative (by omega) (by omega)]
        dsimp only
        rw [Int64.toInt_ofInt_of_le (by omega) (by omega)]
        congr
        omega
      · have same : (n.toInt.natAbs : ℤ) = n.toInt := by omega
        have fits : n.toInt.natAbs < UInt64.size := by
          rw [UInt64.size]
          omega
        rw [Number.numeral, decide_eq_false negative, int?_integral_of_unsigned fits, same]
  | float x => cases integer

theorem asInt?_ofNat {n : ℕ} (fits : n < UInt64.size) : (ofNat n).asInt? = some (n : ℤ) := by
  rw [ofNat, asInt?, UInt64.toNat_ofNat_of_lt' fits]

/-- An integer that fits is the integer it was written from. -/
theorem asInt?_ofInt {i : ℤ} (least : -9223372036854775808 ≤ i) (most : i < UInt64.size) :
    (ofInt i).asInt? = some i := by
  by_cases negative : 0 ≤ i
  · have fits : i.toNat < UInt64.size := by omega
    rw [ofInt, if_pos negative, asInt?, UInt64.toNat_ofNat_of_lt' fits,
      Int.toNat_of_nonneg negative]
  · rw [ofInt, if_neg negative, asInt?, Int64.toInt_ofInt_of_le least (by omega)]

end HostBridge.Json
