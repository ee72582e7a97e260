import HostBridge.Proofs.Json.Rereading
import Mathlib.Data.List.Basic

/-!
# Members in any order

An object whose names differ has the same members under the same names in whatever order they are
written, and every object of scalars has a value.

Main statement: members are found by their names, whatever their order (`get?_of_perm`).
-/

namespace HostBridge.Json

/-- The members of an object. -/
def members : Json → List (String × Json)
  | .object members => members
  | _ => []

/-- Null, a truth value, an integer or a text. -/
def isScalar : Json → Bool
  | .number (.float _) => false
  | .array _ => false
  | .object _ => false
  | _ => true

/-- A scalar of the model holds integers only. -/
theorem isIntegral_of_isScalar {value : Json} (scalar : value.isScalar = true) :
    value.isIntegral = true := by
  cases value with
  | null => rfl
  | bool _ => rfl
  | number n =>
      cases n with
      | unsigned _ => rfl
      | negative _ => rfl
      | float _ => cases scalar
  | string _ => rfl
  | array _ => cases scalar
  | object _ => cases scalar

@[simp] theorem isScalar_bool (b : Bool) : (Json.bool b).isScalar = true := rfl

@[simp] theorem isScalar_string (s : String) : (Json.string s).isScalar = true := rfl

@[simp] theorem isScalar_ofUInt64 (n : UInt64) : (ofUInt64 n).isScalar = true := rfl

@[simp] theorem isScalar_ofNat (n : ℕ) : (ofNat n).isScalar = true := rfl

@[simp] theorem isScalar_ofInt (i : ℤ) : (ofInt i).isScalar = true := by
  unfold ofInt
  split
  · rfl
  · rfl

theorem isScalar_ofOption {α : Type} (encode : α → Json) (a : Option α)
    (scalar : ∀ a, (encode a).isScalar = true) : (ofOption encode a).isScalar = true := by
  cases a with
  | none => rfl
  | some a => exact scalar a

/-- A scalar has no depth. -/
theorem depth_of_isScalar {value : Json} (scalar : value.isScalar = true) : value.depth = 0 := by
  cases value with
  | array _ => cases scalar
  | object _ => cases scalar
  | _ => rfl

/-- An object of scalars has a value. -/
theorem valueWithin_object {members : List (String × Json)}
    (scalar : ∀ member ∈ members, member.2.isScalar = true) (depth : ℕ) :
    ∃ found, (Json.object members).tree.valueWithin (depth + 1) = some found := by
  have integral := isIntegral_object fun member listed =>
    isIntegral_of_isScalar (scalar member listed)
  have shallow : (Json.object members).depth ≤ depth + 1 := depth_object_le fun member listed =>
    (depth_of_isScalar (scalar member listed)).le.trans (Nat.zero_le depth)
  exact ⟨_, valueWithin_tree _ integral shallow⟩

/-! ### Members by their names -/

/-- The member found under a name is the one of that name, when names are different. -/
theorem get?_eq_some_iff {members : List (String × Json)} (nodup : (members.map Prod.fst).Nodup)
    (name : String) (value : Json) :
    (Json.object members).get? name = some value ↔ (name, value) ∈ members := by
  induction members with
  | nil => simp [get?]
  | cons member members ih =>
      obtain ⟨fresh, nodup⟩ := List.nodup_cons.mp nodup
      have rest := ih nodup
      rw [get?] at rest ⊢
      rw [List.mem_cons]
      by_cases same : member.1 = name
      · subst same
        have absent : (member.1, value) ∉ members := fun listed =>
          fresh (List.mem_map.mpr ⟨_, listed, rfl⟩)
        rw [List.find?_cons_of_pos (by simp), Option.map_some, Option.some_inj,
          or_iff_left absent]
        exact ⟨fun same => Prod.ext rfl same.symm, fun same => congrArg Prod.snd same.symm⟩
      · have other : (name, value) ≠ member := fun equal => same (congrArg Prod.fst equal.symm)
        rw [List.find?_cons_of_neg (by simpa using same), rest, or_iff_right other]

/-- Members are found by their names, whatever their order. -/
theorem get?_of_perm {members others : List (String × Json)} (perm : members.Perm others)
    (nodup : (members.map Prod.fst).Nodup) (name : String) :
    (Json.object members).get? name = (Json.object others).get? name := by
  have same : (others.map Prod.fst).Nodup := (perm.map Prod.fst).nodup_iff.mp nodup
  apply Option.ext
  intro value
  rw [get?_eq_some_iff nodup, get?_eq_some_iff same, perm.mem_iff]

end HostBridge.Json
