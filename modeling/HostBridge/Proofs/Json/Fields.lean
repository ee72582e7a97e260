import HostBridge.Proofs.Json.Reading
import HostBridge.Proofs.Table

/-!
# Reading back records

What the typed readers find in the tree of a written value: a written number, text, table or record
comes back as what was written.

Main statements: a table of texts is read back with its entries in their order (`textTable_tree`),
and a written record has exactly the fields that were written, in whatever order (`ofTree?_object`,
`tree?_ofMembers`).
-/

namespace HostBridge.Json

/-- Members hold integers only when each of their values does. -/
theorem haveIntegral_eq (members : List (String × Json)) :
    haveIntegral members = members.all (fun member => member.2.isIntegral) := by
  induction members with
  | nil => rfl
  | cons member members ih => rw [haveIntegral, ih, List.all_cons]

/-- An object of values that hold integers only holds integers only. -/
theorem isIntegral_object {members : List (String × Json)}
    (integral : ∀ member ∈ members, member.2.isIntegral = true) :
    (Json.object members).isIntegral = true := by
  rw [isIntegral, haveIntegral_eq, List.all_eq_true]
  exact integral

/-- A map of texts holds no number at all. -/
theorem isIntegral_ofTexts (entries : List (String × String)) :
    (ofTexts entries).isIntegral = true := by
  apply isIntegral_object
  intro member listed
  obtain ⟨entry, _, rfl⟩ := List.mem_map.mp listed
  rfl

/-- An optional value holds integers only when the value does. -/
theorem isIntegral_ofOption {α : Type} {encode : α → Json}
    (integral : ∀ a, (encode a).isIntegral = true) (a : Option α) :
    (ofOption encode a).isIntegral = true := by
  cases a with
  | none => rfl
  | some a => exact integral a

theorem isIntegral_ofInt (i : ℤ) : (ofInt i).isIntegral = true := by
  unfold ofInt
  split <;> rfl

/-- Only `null` has the tree `null`. -/
theorem tree_ne_null {value : Json} (solid : value ≠ .null) : value.tree ≠ .null := by
  cases value with
  | null => exact absurd rfl solid
  | bool _ => exact nofun
  | number _ => exact nofun
  | string _ => exact nofun
  | array _ => exact nofun
  | object _ => exact nofun

namespace Decoder

@[simp] theorem string_tree (s : String) : string (Json.string s).tree = some s :=
  textOfPieces?_pieces s

/-- An integer within the bounds is read back from its tree. -/
theorem intBetween_tree {value : Json} {low high i : ℤ} (integer : value.asInt? = some i)
    (least : low ≤ i) (most : i ≤ high) : intBetween low high value.tree = some i := by
  cases value with
  | number n =>
      rw [tree, intBetween, int?_numeral integer, Option.bind_some, if_pos ⟨least, most⟩]
  | null => cases integer
  | bool _ => cases integer
  | string _ => cases integer
  | array _ => cases integer
  | object _ => cases integer

@[simp] theorem uint16_tree (n : UInt16) : uint16 (Json.ofNat n.toNat).tree = some n := by
  have most : n.toNat < 65536 := n.toNat_lt
  have small : n.toNat < UInt64.size := by
    rw [UInt64.size]
    omega
  have integer := asInt?_ofNat small
  rw [uint16, intBetween_tree integer (by omega) (by omega), Option.map_some, Int.toNat_natCast,
    UInt16.ofNat_toNat]

@[simp] theorem int64_tree (n : Int64) : int64 (Json.ofInt n.toInt).tree = some n := by
  have least : -9223372036854775808 ≤ n.toInt := n.le_toInt
  have most : n.toInt < 9223372036854775808 := n.toInt_lt
  have small : n.toInt < 18446744073709551616 := by omega
  have integer := asInt?_ofInt least small
  rw [int64, int64Min, int64Max, intBetween_tree integer least (by omega), Option.map_some,
    Int64.ofInt_toInt]

@[simp] theorem uint64_tree (n : UInt64) : uint64 (Json.ofUInt64 n).tree = some n := by
  have most : n.toNat < 18446744073709551616 := n.toNat_lt
  have integer : (Json.ofUInt64 n).asInt? = some (n.toNat : ℤ) := rfl
  rw [uint64, intBetween_tree integer (by omega) (by omega), Option.map_some, Int.toNat_natCast,
    UInt64.ofNat_toNat]

@[simp] theorem int32_tree (n : Int32) : int32 (Json.ofInt n.toInt).tree = some n := by
  have least : -2147483648 ≤ n.toInt := n.le_toInt
  have most : n.toInt < 2147483648 := n.toInt_lt
  have small : n.toInt < 18446744073709551616 := by omega
  have integer := asInt?_ofInt (by omega) small
  rw [int32, int32Min, int32Max, intBetween_tree integer least (by omega), Option.map_some,
    Int32.ofInt_toInt]

@[simp] theorem bool_tree (b : Bool) : bool (Json.bool b).tree = some b := by
  rw [tree, bool]

/-- An optional value is read back from its tree, if its values are and none is written `null`. -/
theorem nullable_tree {α : Type} {decode : Decoder α} {encode : α → Json}
    (reads : ∀ a, decode (encode a).tree = some a) (solid : ∀ a, encode a ≠ .null) (a : Option α) :
    nullable decode (ofOption encode a).tree = some a := by
  cases a with
  | none => rfl
  | some a =>
      rw [ofOption, nullable, reads, Option.map_some]
      exact tree_ne_null (solid a)

@[simp] theorem nullable_string_tree (s : Option String) :
    nullable string (ofOption .string s).tree = some s :=
  nullable_tree string_tree (fun _ => nofun) s

@[simp] theorem nullable_int64_tree (n : Option Int64) :
    nullable int64 (ofOption (fun n => .ofInt n.toInt) n).tree = some n := by
  apply nullable_tree int64_tree
  intro n
  unfold ofInt
  split <;> exact nofun

@[simp] theorem nullable_uint64_tree (n : Option UInt64) :
    nullable uint64 (ofOption .ofUInt64 n).tree = some n :=
  nullable_tree uint64_tree (fun _ => nofun) n

/-- A name is read as the decoder's table of names reads it. -/
@[simp] theorem oneOf_tree {α : Type} (ofName? : String → Option α) (s : String) :
    oneOf ofName? (Json.string s).tree = ofName? s := by
  rw [tree, oneOf, textOfPieces?_pieces, Option.bind_some]

/-- A map of texts is read back from the trees of its members. -/
theorem textEntries_memberTrees (entries : List (String × String)) :
    textEntries (memberTrees (entries.map (fun entry => (entry.1, .string entry.2)))) =
      some entries := by
  induction entries with
  | nil => rfl
  | cons entry entries ih =>
      rw [List.map_cons, memberTrees, textEntries, textOfPieces?_pieces, string_tree, ih]

/-- A table of texts is read back with its entries in their order. -/
@[simp] theorem textTable_tree (table : Table String String) :
    textTable (ofTexts table.entries).tree = some table := by
  rw [ofTexts, tree, textTable, textEntries_memberTrees, Option.map_some, Table.ofList_entries]

end Decoder

namespace Record

/-- The record that members write. -/
def ofMembers (members : List (String × Json)) : Record :=
  ⟨members.map (fun member => (member.1, member.2.tree)), false⟩

/-- Members that are all known, and of different names, are all taken. -/
theorem knownMembers_memberTrees {known : List String} {members : List (String × Json)}
    (nodup : (members.map Prod.fst).Nodup) (listed : ∀ member ∈ members, member.1 ∈ known) :
    knownMembers known (memberTrees members) =
      some (members.map (fun member => (member.1, member.2.tree))) := by
  induction members with
  | nil => rfl
  | cons member members ih =>
      obtain ⟨name, value⟩ := member
      obtain ⟨here, others⟩ := List.forall_mem_cons.mp listed
      obtain ⟨fresh, nodup⟩ := List.nodup_cons.mp nodup
      have single : (members.map (fun member => (member.1, member.2.tree))).any
          (fun member => member.1 = name) = false := by
        rw [List.any_eq_false]
        intro field found same
        obtain ⟨member, present, rfl⟩ := List.mem_map.mp found
        have same : member.1 = name := of_decide_eq_true same
        exact fresh (List.mem_map.mpr ⟨member, present, same⟩)
      rw [memberTrees, knownMembers, textOfPieces?_pieces, ih nodup others]
      dsimp only
      rw [if_neg (not_not.mpr here), single, if_neg Bool.false_ne_true, List.map_cons]

/-- An object of known members, of different names, is read as these members. -/
theorem ofTree?_object {known : List String} {members : List (String × Json)}
    (nodup : (members.map Prod.fst).Nodup) (listed : ∀ member ∈ members, member.1 ∈ known) :
    ofTree? known (Json.object members).tree = some (ofMembers members) := by
  rw [tree, ofTree?, knownMembers_memberTrees nodup listed, Option.map_some, ofMembers]

/-- A field of a written record is the member that was written under its name. -/
theorem tree?_ofMembers (members : List (String × Json)) (name : String) :
    (ofMembers members).tree? name = ((Json.object members).get? name).map Json.tree := by
  rw [tree?, ofMembers, Json.get?, List.find?_map, Option.map_map, Option.map_map]
  rfl

/-- A required field is the decoded value of the member of its name. -/
theorem required_ofMembers {α : Type} (members : List (String × Json)) (name : String)
    (decode : Decoder α) :
    (ofMembers members).required name decode =
      ((Json.object members).get? name).bind (fun value => decode value.tree) := by
  rw [required, tree?_ofMembers, Option.bind_map]
  rfl

/-- A field with a default is the default when no member has its name. -/
theorem withDefault_ofMembers {α : Type} (members : List (String × Json)) (name : String)
    (decode : Decoder α) (absent : α) :
    (ofMembers members).withDefault name decode absent =
      ((Json.object members).get? name).elim (some absent) (fun value => decode value.tree) := by
  rw [withDefault, tree?_ofMembers]
  cases (Json.object members).get? name <;> rfl

end Record

end HostBridge.Json
