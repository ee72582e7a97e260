import HostBridge.Proofs.Text.Numeral

/-!
# How a number is spelled

A text that writes a number between its blanks has the decimal digits of the number, after zeros, a
plus sign and blanks if there are any, and before blanks.

Main statement: those are the texts that are trimmed to what writes the number (`spells_iff`).
-/

namespace HostBridge.Text

/-! ### Blanks at both ends -/

/-- What is cut off a text are blanks. -/
theorem exists_blanks (cs : List Char) : ∃ front back, cs = front ++ (trimChars cs ++ back) ∧
    (∀ c ∈ front, isBlank c = true) ∧ ∀ c ∈ back, isBlank c = true := by
  let started := trimStartChars cs
  refine ⟨cs.takeWhile isBlank, (started.reverse.takeWhile isBlank).reverse, ?_,
    fun c member => List.mem_takeWhile_imp member,
    fun c member => List.mem_takeWhile_imp (List.mem_reverse.mp member)⟩
  have ended : trimChars cs ++ (started.reverse.takeWhile isBlank).reverse = started := by
    rw [trimChars, trimStartChars, ← List.reverse_append, List.takeWhile_append_dropWhile,
      List.reverse_reverse]
  rw [ended]
  exact List.takeWhile_append_dropWhile.symm

/-- Blanks in front are trimmed, up to the first character that is none. -/
theorem trimStartChars_append {front inner : List Char} (blank : ∀ c ∈ front, isBlank c = true)
    (solid : ∀ c ∈ inner.head?, isBlank c = false) : trimStartChars (front ++ inner) = inner := by
  rw [trimStartChars, List.dropWhile_append_of_pos blank]
  cases inner with
  | nil => rfl
  | cons c inner =>
      have first : ¬ isBlank c = true := Bool.eq_false_iff.mp (solid c rfl)
      rw [List.dropWhile_cons_of_neg first]

/-- Blanks around a text without blanks are cut off. -/
theorem trimChars_append {front core back : List Char} (before : ∀ c ∈ front, isBlank c = true)
    (some : core ≠ []) (solid : ∀ c ∈ core, isBlank c = false)
    (after : ∀ c ∈ back, isBlank c = true) : trimChars (front ++ (core ++ back)) = core := by
  have started : trimStartChars (front ++ (core ++ back)) = core ++ back := by
    refine trimStartChars_append before fun c first => solid c ?_
    rw [List.head?_append_of_ne_nil _ some] at first
    exact List.mem_of_mem_head? first
  have ended : trimStartChars (back.reverse ++ core.reverse) = core.reverse := by
    refine trimStartChars_append (fun c member => after c (List.mem_reverse.mp member)) ?_
    exact fun c first => solid c (List.mem_reverse.mp (List.mem_of_mem_head? first))
  rw [trimChars, started, List.reverse_append, ended, List.reverse_reverse]

theorem isBlank_of_isDigit {c : Char} (digit : c.isDigit = true) : isBlank c = false := by
  obtain ⟨least, most⟩ := (Bool.and_eq_true _ _).mp digit
  have least : 48 ≤ c.toNat := of_decide_eq_true least
  have most : c.toNat ≤ 57 := of_decide_eq_true most
  simp only [isBlank, Bool.or_eq_false_iff, Bool.and_eq_false_iff, decide_eq_false_iff_not,
    beq_eq_false_iff_ne]
  omega

/-! ### Digits -/

/-- A digit is the character of its value. -/
theorem digitChar_of_isDigit {c : Char} (digit : c.isDigit = true) :
    c.toNat - '0'.toNat < 10 ∧ Nat.digitChar (c.toNat - '0'.toNat) = c := by
  obtain ⟨least, most⟩ := (Bool.and_eq_true _ _).mp digit
  have least : 48 ≤ c.toNat := of_decide_eq_true least
  have most : c.toNat ≤ 57 := of_decide_eq_true most
  have zero : '0'.toNat = 48 := rfl
  have small : c.toNat - '0'.toNat < 10 := by omega
  refine ⟨small, Char.toNat_inj.mp ?_⟩
  rw [Nat.toNat_digitChar_of_lt_ten small]
  omega

/-- Digits are zeros and the decimal digits of the number that they write. -/
theorem exists_zeros {digits : List Char} (some : digits ≠ [])
    (numeric : ∀ c ∈ digits, c.isDigit = true) :
    ∃ zeros, digits = List.replicate zeros '0' ++
      Nat.toDigits 10 (Nat.ofDigitChars 10 digits 0) := by
  induction digits using List.reverseRecOn with
  | nil => exact absurd rfl some
  | append_singleton digits c ih =>
      obtain ⟨small, same⟩ := digitChar_of_isDigit (numeric c (by simp))
      have lone : Nat.toDigits 10 (c.toNat - '0'.toNat) = [c] := by
        rw [Nat.toDigits_of_lt_base small, same]
      rw [Nat.ofDigitChars_append, Nat.ofDigitChars_cons, Nat.ofDigitChars_nil]
      by_cases first : digits = []
      · subst first
        rw [Nat.ofDigitChars_nil, Nat.mul_zero, Nat.zero_add, lone]
        exact ⟨0, rfl⟩
      · obtain ⟨zeros, written⟩ := ih first fun d member => numeric d (List.mem_append_left _ member)
        rcases Nat.eq_zero_or_pos (Nat.ofDigitChars 10 digits 0) with none | positive
        · -- Nothing but zeros is in front of the last digit.
          rw [none, Nat.toDigits_zero, ← List.replicate_succ'] at written
          rw [none, Nat.mul_zero, Nat.zero_add, lone, written]
          exact ⟨_, rfl⟩
        · refine ⟨zeros, ?_⟩
          rw [← Nat.toDigits_append_toDigits (by decide) positive small, lone, ← List.append_assoc,
            ← written]

/-! ### Spelled numbers -/

/-- The decimal digits of a number, after a sign and zeros. -/
def spelling (sign : List Char) (zeros number : ℕ) : List Char :=
  sign ++ (List.replicate zeros '0' ++ Nat.toDigits 10 number)

/-- A text spells a number: its decimal digits, after any zeros and maybe a plus sign, between
blanks. -/
def Spells (text : String) (number : ℕ) : Prop :=
  ∃ front sign zeros back, text.toList = front ++ (spelling sign zeros number ++ back) ∧
    (sign = [] ∨ sign = ['+']) ∧ (∀ c ∈ front, isBlank c = true) ∧ ∀ c ∈ back, isBlank c = true

/-- What writes a number is its digits, with zeros and at most a plus sign before them. -/
theorem writes_iff {cs : List Char} {number : ℕ} :
    Writes cs number ↔ ∃ sign zeros, cs = spelling sign zeros number ∧
      (sign = [] ∨ sign = ['+']) := by
  constructor
  · rintro ⟨digits, signed, some, numeric, rfl⟩
    obtain ⟨zeros, written⟩ := exists_zeros some numeric
    rcases signed with rfl | rfl
    · exact ⟨[], zeros, written, .inl rfl⟩
    · exact ⟨['+'], zeros, congrArg ('+' :: ·) written, .inr rfl⟩
  · rintro ⟨sign, zeros, rfl, signed⟩
    refine ⟨List.replicate zeros '0' ++ Nat.toDigits 10 number, ?_, ?_, ?_, ?_⟩
    · rcases signed with rfl | rfl
      · exact .inl rfl
      · exact .inr rfl
    · exact List.append_ne_nil_of_right_ne_nil _ Nat.toDigits_ne_nil
    · intro c member
      rcases List.mem_append.mp member with zero | digit
      · rw [List.eq_of_mem_replicate zero]
        rfl
      · exact Nat.isDigit_of_mem_toDigits (by decide) (by decide) digit
    · rw [Nat.ofDigitChars_append, Nat.ofDigitChars_replicate_zero, Nat.mul_zero,
        Nat.ofDigitChars_ten_toDigits]

/-- A number is spelled by the texts that are trimmed to what writes it. -/
theorem spells_iff {text : String} {number : ℕ} :
    Spells text number ↔ Writes (trim text).toList number := by
  rw [trim, String.toList_ofList]
  constructor
  · rintro ⟨front, sign, zeros, back, spelled, signed, before, after⟩
    have writes : Writes (spelling sign zeros number) number :=
      writes_iff.mpr ⟨sign, zeros, rfl, signed⟩
    have solid : ∀ c ∈ spelling sign zeros number, isBlank c = false := by
      obtain ⟨digits, split, _, numeric, _⟩ := writes
      intro c member
      rcases split with same | same
      · exact isBlank_of_isDigit (numeric c (same ▸ member))
      · rw [same] at member
        rcases List.mem_cons.mp member with rfl | digit
        · decide
        · exact isBlank_of_isDigit (numeric c digit)
    have some : spelling sign zeros number ≠ [] :=
      List.append_ne_nil_of_right_ne_nil _
        (List.append_ne_nil_of_right_ne_nil _ Nat.toDigits_ne_nil)
    rw [spelled, trimChars_append before some solid after]
    exact writes
  · intro writes
    obtain ⟨sign, zeros, written, signed⟩ := writes_iff.mp writes
    obtain ⟨front, back, split, before, after⟩ := exists_blanks text.toList
    rw [written] at split
    exact ⟨front, sign, zeros, back, split, signed, before, after⟩

end HostBridge.Text
