import HostBridge.Text.Blank
import HostBridge.Text.Digits
import Mathlib.Data.List.DropRight
import Mathlib.Data.Nat.Notation

/-!
# Texts that write a number, and blank texts

Which texts write a number and which are blank, said apart from the functions that read them.

Main statements: a text is read as the number that it writes (`readUInt64_eq_ok_iff`), and is blank
if nothing is left of it between its blanks (`isBlankText_iff`).
-/

namespace HostBridge.Text

/-- A text writes a number: decimal digits, after a plus sign if there is one. -/
def Writes (cs : List Char) (number : Nat) : Prop :=
  ∃ digits, (cs = digits ∨ cs = '+' :: digits) ∧ digits ≠ [] ∧
    (∀ c ∈ digits, c.isDigit = true) ∧ Nat.ofDigitChars 10 digits 0 = number

/-- A digit has its value. -/
theorem digitValue?_of_isDigit {c : Char} (digit : c.isDigit = true) :
    digitValue? c = some (c.toNat - '0'.toNat) := by
  obtain ⟨least, most⟩ := (Bool.and_eq_true _ _).mp digit
  exact if_pos ⟨of_decide_eq_true least, of_decide_eq_true most⟩

/-- What is no digit has no value. -/
theorem digitValue?_of_not_isDigit {c : Char} (other : ¬ c.isDigit = true) :
    digitValue? c = none := by
  refine if_neg fun within => other ?_
  exact (Bool.and_eq_true _ _).mpr ⟨decide_eq_true within.1, decide_eq_true within.2⟩

/-- Reading on never makes a number smaller. -/
theorem le_ofDigitChars (digits : List Char) (value : Nat) :
    value ≤ Nat.ofDigitChars 10 digits value := by
  induction digits generalizing value with
  | nil => exact Nat.le_refl value
  | cons c digits ih =>
      rw [Nat.ofDigitChars_cons]
      have further := ih (10 * value + (c.toNat - '0'.toNat))
      omega

/-- Digits are read exactly when all are digits and the number stays below the limit. -/
theorem readDigits_eq_ok_iff {limit value number : Nat} (small : value < limit)
    {digits : List Char} :
    readDigits limit value digits = .ok number ↔ (∀ c ∈ digits, c.isDigit = true) ∧
      Nat.ofDigitChars 10 digits value = number ∧ number < limit := by
  induction digits generalizing value with
  | nil =>
      constructor
      · intro read
        cases read
        exact ⟨(fun _ member => nomatch member), rfl, small⟩
      · rintro ⟨_, rfl, _⟩
        rfl
  | cons c digits ih =>
      rw [List.forall_mem_cons, Nat.ofDigitChars_cons, readDigits]
      by_cases digit : c.isDigit = true
      · rw [digitValue?_of_isDigit digit]
        dsimp only
        by_cases below : 10 * value + (c.toNat - '0'.toNat) < limit
        · rw [if_pos below, ih below]
          simp only [digit, true_and]
        · rw [if_neg below]
          refine ⟨(nomatch ·), ?_⟩
          rintro ⟨_, same, small⟩
          have least := le_ofDigitChars digits (10 * value + (c.toNat - '0'.toNat))
          omega
      · rw [digitValue?_of_not_isDigit digit]
        exact ⟨(nomatch ·), fun digits => absurd digits.1.1 digit⟩

/-- After a plus sign there is at least one digit. -/
theorem writes_plus_iff {digits : List Char} {number : Nat} :
    Writes ('+' :: digits) number ↔ digits ≠ [] ∧ (∀ c ∈ digits, c.isDigit = true) ∧
      Nat.ofDigitChars 10 digits 0 = number := by
  constructor
  · rintro ⟨written, rfl | same, some, digit, value⟩
    · exact absurd (digit '+' List.mem_cons_self) (by decide)
    · cases same
      exact ⟨some, digit, value⟩
  · intro written
    exact ⟨digits, .inr rfl, written⟩

/-- Without a sign every character is a digit. -/
theorem writes_cons_iff {c : Char} (unsigned : c ≠ '+') {digits : List Char} {number : Nat} :
    Writes (c :: digits) number ↔ (∀ d ∈ c :: digits, d.isDigit = true) ∧
      Nat.ofDigitChars 10 (c :: digits) 0 = number := by
  constructor
  · rintro ⟨written, rfl | same, some, digit, value⟩
    · exact ⟨digit, value⟩
    · cases same
      exact absurd rfl unsigned
  · rintro ⟨digit, value⟩
    exact ⟨_, .inl rfl, List.cons_ne_nil _ _, digit, value⟩

/-- A numeral is read as the number that it writes, if it is below the limit. -/
theorem readNumeral_eq_ok_iff {limit number : Nat} (positive : 0 < limit) {cs : List Char} :
    readNumeral limit cs = .ok number ↔ Writes cs number ∧ number < limit := by
  unfold readNumeral
  split
  · refine ⟨(nomatch ·), ?_⟩
    rintro ⟨⟨digits, rfl | same, some, _⟩, _⟩
    · exact absurd rfl some
    · cases same
  · refine ⟨(nomatch ·), fun written => ?_⟩
    exact absurd rfl (writes_plus_iff.mp written.1).1
  next digits signed =>
    rw [readDigits_eq_ok_iff positive, writes_plus_iff]
    have some : digits ≠ [] := fun none => signed (none ▸ rfl)
    simp only [ne_eq, some, not_false_eq_true, true_and, and_assoc]
  next empty lone signed =>
    cases cs with
    | nil => exact absurd rfl empty
    | cons c digits =>
        have unsigned : c ≠ '+' := by
          rintro rfl
          exact signed digits rfl
        rw [readDigits_eq_ok_iff positive, writes_cons_iff unsigned, and_assoc]

/-- A text is read as a number exactly when it writes that number. -/
theorem readUInt64_eq_ok_iff {s : String} {value : UInt64} :
    readUInt64 s = .ok value ↔ Writes s.toList value.toNat := by
  have numeral (number : Nat) := @readNumeral_eq_ok_iff UInt64.size number (by decide) s.toList
  unfold readUInt64
  constructor
  · intro read
    cases found : readNumeral UInt64.size s.toList with
    | error error =>
        rw [found] at read
        cases read
    | ok number =>
        obtain ⟨writes, small⟩ := (numeral number).mp found
        rw [found] at read
        cases read
        rwa [UInt64.toNat_ofNat_of_lt' small]
  · intro writes
    rw [(numeral value.toNat).mpr ⟨writes, value.toNat_lt⟩]
    exact congrArg Except.ok UInt64.ofNat_toNat

/-- A text is blank if nothing is left of it between its blanks. -/
theorem isBlankText_iff (s : String) : isBlankText s = true ↔ trim s = "" := by
  have empty : trim s = "" ↔ trimChars s.toList = [] := by
    rw [trim, ← String.ofList_nil, String.ofList_inj]
  rw [empty, isBlankText, List.all_eq_true, trimChars, trimStartChars, trimStartChars,
    List.reverse_eq_nil_iff, List.dropWhile_eq_nil_iff]
  constructor
  · intro blank c member
    exact blank c ((List.dropWhile_suffix _).mem (List.mem_reverse.mp member))
  · intro blank
    -- What is left at the start is blank, so dropping the blanks once more leaves nothing.
    have nothing : (s.toList.dropWhile isBlank).dropWhile isBlank = [] :=
      List.dropWhile_eq_nil_iff.mpr fun c member => blank c (List.mem_reverse.mpr member)
    rw [List.dropWhile_idempotent] at nothing
    exact List.dropWhile_eq_nil_iff.mp nothing

end HostBridge.Text
