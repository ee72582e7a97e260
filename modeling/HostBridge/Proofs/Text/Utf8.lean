import HostBridge.Text.Utf8
import Mathlib.Data.Nat.Notation

/-!
# Reading back UTF-8

The bytes of a text are the bytes of its characters one after the other, and each character is read
back from its bytes, whatever follows them.

Main statement: the glyphs of a text's bytes are its characters (`glyphs_encodeUtf8`).
-/

namespace HostBridge.Text

/-! ### The bytes of a text -/

/-- The loop over a byte array lists the bytes from where it stands. -/
theorem toList_loop_eq (bytes : ByteArray) (listed : List UInt8) (i : ℕ) :
    ByteArray.toList.loop bytes i listed = listed.reverse ++ bytes.data.toList.drop i := by
  induction left : bytes.size - i generalizing i listed with
  | zero =>
      have past : bytes.size ≤ i := Nat.sub_eq_zero_iff_le.mp left
      have none : bytes.data.toList.drop i = [] := List.drop_of_length_le past
      rw [ByteArray.toList.loop, if_neg (Nat.not_lt.mpr past), none, List.append_nil]
  | succ left ih =>
      have within : i < bytes.size := by omega
      have here : i < bytes.data.toList.length := within
      rw [ByteArray.toList.loop, if_pos within, ih _ _ (by omega), List.reverse_cons,
        List.append_assoc, List.drop_eq_getElem_cons here]
      have byte : bytes.get! i = bytes.data.toList[i] := getElem!_pos bytes.data i within
      rw [byte]
      rfl

/-- A text is encoded character by character. -/
theorem encodeUtf8_eq (s : String) : encodeUtf8 s = s.toList.flatMap String.utf8EncodeChar := by
  have bytes : s.toUTF8 = s.toList.utf8Encode := String.utf8Encode_toList.symm
  rw [encodeUtf8, bytes, ByteArray.toList, toList_loop_eq, List.reverse_nil, List.nil_append,
    List.drop_zero]
  exact List.toList_data_toByteArray

/-! ### First bytes

The range of the second byte leaves out overlong forms, surrogates and what is above U+10FFFF. -/

/-- A byte below `0x80` is a character of its own. -/
theorem startByte_of_ascii {n : ℕ} (ascii : n < 0x80) :
    startByte (UInt8.ofNat n) = .inl (some (Char.ofNat n)) := by
  have value : (UInt8.ofNat n).toNat = n := UInt8.toNat_ofNat_of_lt' (by
    rw [UInt8.size]
    omega)
  have small : UInt8.ofNat n < 0x80 := by
    rw [UInt8.lt_iff_toNat_lt, value]
    exact ascii
  rw [startByte, if_pos small, value]

/-- The first of two bytes holds five bits. -/
theorem startByte_of_two : ∀ n < 32, 2 ≤ n →
    startByte (UInt8.ofNat (n + 192)) = .inr ⟨n, 1, 0x80, 0xbf⟩ := by
  decide

theorem startByte_of_three : ∀ n < 16,
    startByte (UInt8.ofNat (n + 224)) =
      .inr ⟨n, 2, if n = 0 then 0xa0 else 0x80, if n = 13 then 0x9f else 0xbf⟩ := by
  decide

theorem startByte_of_four : ∀ n < 5,
    startByte (UInt8.ofNat (n + 240)) =
      .inr ⟨n, 3, if n = 0 then 0x90 else 0x80, if n = 4 then 0x8f else 0xbf⟩ := by
  decide

/-! ### Further bytes -/

/-- After the first byte of several, more are pending. -/
theorem glyphsFrom_of_first {first : UInt8} {pending : Utf8Pending}
    (starts : startByte first = .inr pending) (rest : List UInt8) :
    glyphsFrom none (first :: rest) = glyphsFrom (some pending) rest := by
  rw [glyphsFrom, starts]

section Further

variable {bits n : ℕ} {low high : UInt8} (small : n < 64) (least : low.toNat ≤ n + 128)
  (most : n + 128 ≤ high.toNat) (rest : List UInt8)

include small

theorem toNat_further : (UInt8.ofNat (n + 128)).toNat = n + 128 :=
  UInt8.toNat_ofNat_of_lt' (by
    rw [UInt8.size]
    omega)

theorem further_le : n + 128 ≤ (0xbf : UInt8).toNat := by
  change n + 128 ≤ 191
  omega

theorem toNat_further_mod : (UInt8.ofNat (n + 128)).toNat % 64 = n := by
  rw [toNat_further small]
  omega

include least most

theorem further_within : low ≤ UInt8.ofNat (n + 128) ∧ UInt8.ofNat (n + 128) ≤ high := by
  rw [UInt8.le_iff_toNat_le, UInt8.le_iff_toNat_le, toNat_further small]
  exact ⟨least, most⟩

/-- The last pending byte completes the character. -/
theorem glyphsFrom_of_last :
    glyphsFrom (some ⟨bits, 1, low, high⟩) (UInt8.ofNat (n + 128) :: rest) =
      some (Char.ofNat (64 * bits + n)) :: glyphsFrom none rest := by
  rw [glyphsFrom, if_pos (further_within small least most), toNat_further_mod small]
  rfl

/-- A further byte adds its six bits, and leaves one byte less pending. -/
theorem glyphsFrom_of_further {missing : ℕ} :
    glyphsFrom (some ⟨bits, missing + 2, low, high⟩) (UInt8.ofNat (n + 128) :: rest) =
      glyphsFrom (some ⟨64 * bits + n, missing + 1, 0x80, 0xbf⟩) rest := by
  have more : ¬ missing + 2 ≤ 1 := by omega
  rw [glyphsFrom, if_pos (further_within small least most), toNat_further_mod small]
  dsimp only
  rw [if_neg more]
  rfl

end Further

/-! ### Characters -/

section Character

variable {n : ℕ} (rest : List UInt8)

/-- A character of two bytes is read back. -/
theorem glyphsFrom_of_two (least : 0x80 ≤ n) (most : n < 0x800) :
    glyphsFrom none (UInt8.ofNat (n / 64 % 32 + 192) :: UInt8.ofNat (n % 64 + 128) :: rest) =
      some (Char.ofNat n) :: glyphsFrom none rest := by
  have sum : 64 * (n / 64 % 32) + n % 64 = n := by omega
  have last : n % 64 < 64 := by omega
  rw [glyphsFrom_of_first (startByte_of_two _ (by omega) (by omega)),
    glyphsFrom_of_last last (Nat.le_add_left _ _) (further_le last), sum]

theorem glyphsFrom_of_three (least : 0x800 ≤ n) (most : n < 0x10000)
    (valid : n < 0xd800 ∨ 0xdfff < n) :
    glyphsFrom none (UInt8.ofNat (n / 4096 % 16 + 224) :: UInt8.ofNat (n / 64 % 64 + 128) ::
        UInt8.ofNat (n % 64 + 128) :: rest) =
      some (Char.ofNat n) :: glyphsFrom none rest := by
  have sum : 64 * (64 * (n / 4096 % 16) + n / 64 % 64) + n % 64 = n := by omega
  have last : n % 64 < 64 := by omega
  have further : n / 64 % 64 < 64 := by omega
  -- The two exceptional first bytes shorten the range from below and from above.
  have low : (if n / 4096 % 16 = 0 then 0xa0 else 0x80 : UInt8).toNat ≤ n / 64 % 64 + 128 := by
    split
    next zero => exact (show 160 ≤ _ by omega)
    next => exact Nat.le_add_left _ _
  have high : n / 64 % 64 + 128 ≤ (if n / 4096 % 16 = 13 then 0x9f else 0xbf : UInt8).toNat := by
    split
    next surrogate => exact (show _ ≤ 159 by omega)
    next => exact further_le further
  rw [glyphsFrom_of_first (startByte_of_three _ (by omega)),
    glyphsFrom_of_further further low high,
    glyphsFrom_of_last last (Nat.le_add_left _ _) (further_le last), sum]

theorem glyphsFrom_of_four (least : 0x10000 ≤ n) (most : n < 0x110000) :
    glyphsFrom none (UInt8.ofNat (n / 262144 % 8 + 240) :: UInt8.ofNat (n / 4096 % 64 + 128) ::
        UInt8.ofNat (n / 64 % 64 + 128) :: UInt8.ofNat (n % 64 + 128) :: rest) =
      some (Char.ofNat n) :: glyphsFrom none rest := by
  have sum : 64 * (64 * (64 * (n / 262144 % 8) + n / 4096 % 64) + n / 64 % 64) + n % 64 = n := by
    omega
  have last : n % 64 < 64 := by omega
  have third : n / 64 % 64 < 64 := by omega
  have second : n / 4096 % 64 < 64 := by omega
  have low : (if n / 262144 % 8 = 0 then 0x90 else 0x80 : UInt8).toNat ≤ n / 4096 % 64 + 128 := by
    split
    next zero => exact (show 144 ≤ _ by omega)
    next => exact Nat.le_add_left _ _
  have high : n / 4096 % 64 + 128 ≤ (if n / 262144 % 8 = 4 then 0x8f else 0xbf : UInt8).toNat := by
    split
    next top => exact (show _ ≤ 143 by omega)
    next => exact further_le second
  rw [glyphsFrom_of_first (startByte_of_four _ (by omega)),
    glyphsFrom_of_further second low high,
    glyphsFrom_of_further third (Nat.le_add_left _ _) (further_le third),
    glyphsFrom_of_last last (Nat.le_add_left _ _) (further_le last), sum]

end Character

/-- A character is read back from its bytes, whatever follows them. -/
theorem glyphsFrom_utf8EncodeChar (c : Char) (rest : List UInt8) :
    glyphsFrom none (String.utf8EncodeChar c ++ rest) = some c :: glyphsFrom none rest := by
  have whole : Char.ofNat c.val.toNat = c := Char.ofNat_toNat c
  have valid : c.val.toNat < 0xd800 ∨ 0xdfff < c.val.toNat ∧ c.val.toNat < 0x110000 := c.valid
  rw [String.utf8EncodeChar]
  generalize c.val.toNat = n at whole valid ⊢
  subst whole
  split
  next ascii => rw [List.singleton_append, glyphsFrom, startByte_of_ascii (by omega)]
  next =>
    split
    next two => exact glyphsFrom_of_two rest (by omega) (by omega)
    next =>
      split
      next three => exact glyphsFrom_of_three rest (by omega) (by omega) (by omega)
      next four => exact glyphsFrom_of_four rest (by omega) (by omega)

/-- The glyphs of a text's bytes are its characters. -/
theorem glyphs_encodeUtf8 (s : String) : glyphs (encodeUtf8 s) = glyphsOfText s := by
  rw [glyphs, encodeUtf8_eq, glyphsOfText]
  induction s.toList with
  | nil => rfl
  | cons c cs ih => rw [List.flatMap_cons, glyphsFrom_utf8EncodeChar, ih, List.map_cons]

end HostBridge.Text
