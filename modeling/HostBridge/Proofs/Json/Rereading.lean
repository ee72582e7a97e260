import HostBridge.Json.Parser
import HostBridge.Proofs.Json.Fields

/-!
# The value that a written value is read as

A value that is written and read again is the same but for its form: integers that are not negative
lose their sign, the members of an object are sorted by their names, and of members with the same
name the last one counts.

Main statements: the text of a value is read as the value in that form
(`parse_render_eq_reread`), and an object whose names differ keeps its members (`parse_object`).
-/

namespace HostBridge.Json

/-! ### Sorted members -/

/-- Inserting a member of a new name adds it somewhere. -/
theorem insertMember_perm {name : String} {value : Json} {members : List (String × Json)}
    (fresh : name ∉ members.map Prod.fst) :
    (insertMember name value members).Perm ((name, value) :: members) := by
  induction members with
  | nil => exact .refl _
  | cons member members ih =>
      rw [List.map_cons, List.mem_cons, not_or] at fresh
      obtain ⟨differs, fresh⟩ := fresh
      rw [insertMember, if_neg differs]
      split
      · exact .refl _
      · exact ((ih fresh).cons member).trans (.swap _ _ _)

/-- Sorting members of different names keeps them all. -/
theorem foldl_insertMember_perm {members sorted : List (String × Json)}
    (nodup : ((members ++ sorted).map Prod.fst).Nodup) :
    (members.foldl (fun sorted m => insertMember m.1 m.2 sorted) sorted).Perm
      (members ++ sorted) := by
  induction members generalizing sorted with
  | nil => exact .refl _
  | cons member members ih =>
      rw [List.cons_append, List.map_cons] at nodup
      obtain ⟨fresh, _⟩ := List.nodup_cons.mp nodup
      rw [List.map_append, List.mem_append, not_or] at fresh
      have moved : (members ++ insertMember member.1 member.2 sorted).Perm
          (member :: (members ++ sorted)) :=
        ((insertMember_perm fresh.2).append_left members).trans List.perm_middle
      have distinct := (moved.map Prod.fst).nodup_iff.mpr nodup
      exact (ih distinct).trans moved

/-- Members whose names differ are the same when they are sorted. -/
theorem sortMembers_perm {members : List (String × Json)} (nodup : (members.map Prod.fst).Nodup) :
    (sortMembers members).Perm members := by
  have sorted := @foldl_insertMember_perm members []
  rw [List.append_nil] at sorted
  exact sorted nodup

/-! ### Read values -/

/-- The form in which a number is read: an integer that is not negative has no sign. -/
def Number.reread : Number → Number
  | negative n => if n.toInt < 0 then .negative n else .unsigned (UInt64.ofNat n.toInt.natAbs)
  | unsigned n => .unsigned n
  | float x => .float x

mutual

/-- The form in which a value is read. -/
def reread : Json → Json
  | .number n => .number n.reread
  | .array items => .array (rereadItems items)
  | .object members => .object (sortMembers (rereadMembers members))
  | value => value

@[inherit_doc reread]
def rereadItems : List Json → List Json
  | [] => []
  | item :: items => reread item :: rereadItems items

@[inherit_doc reread]
def rereadMembers : List (String × Json) → List (String × Json)
  | [] => []
  | (name, value) :: members => (name, reread value) :: rereadMembers members

end

mutual

/-- How deep the arrays and objects of a value are nested. -/
def depth : Json → ℕ
  | .array items => depthOfItems items + 1
  | .object members => depthOfMembers members + 1
  | _ => 0

@[inherit_doc depth]
def depthOfItems : List Json → ℕ
  | [] => 0
  | item :: items => max (depth item) (depthOfItems items)

@[inherit_doc depth]
def depthOfMembers : List (String × Json) → ℕ
  | [] => 0
  | (_, value) :: members => max (depth value) (depthOfMembers members)

end

/-- The numeral of an integral number is worth the number that is reread. -/
theorem Number.value?_numeral_eq {number : Number}
    (integral : (Json.number number).isIntegral = true) :
    number.numeral.value? = some number.reread := by
  cases number with
  | unsigned n =>
      rw [numeral, value?_integral_of_unsigned n.toNat_lt, UInt64.ofNat_toNat]
      rfl
  | negative n =>
      have least : -9223372036854775808 ≤ n.toInt := n.le_toInt
      have most : n.toInt < 9223372036854775808 := n.toInt_lt
      by_cases below : n.toInt < 0
      · have opposite : -(n.toInt.natAbs : ℤ) = n.toInt := by omega
        rw [numeral, decide_eq_true below, value?_integral_of_negative (by omega) (by omega),
          opposite, Int64.ofInt_toInt, reread, if_pos below]
      · have fits : n.toInt.natAbs < UInt64.size := by
          rw [UInt64.size]
          omega
        rw [numeral, decide_eq_false below, value?_integral_of_unsigned fits, reread, if_neg below]
  | float x => cases integral

mutual

/-- The tree of a value has the value, if it is not nested too deep. -/
theorem valueWithin_tree : (value : Json) → value.isIntegral = true → {limit : ℕ} →
    value.depth ≤ limit → value.tree.valueWithin limit = some value.reread
  | .null, _, _, _ => by rw [tree, Tree.valueWithin, reread] <;> nofun
  | .bool b, _, _, _ => by rw [tree, Tree.valueWithin, reread] <;> nofun
  | .number n, integral, _, _ => by
      rw [tree, Tree.valueWithin, Number.value?_numeral_eq integral, Option.map_some, reread]
  | .string s, _, _, _ => by
      rw [tree, Tree.valueWithin, textOfPieces?_pieces, Option.map_some, reread] <;> nofun
  | .array items, integral, limit + 1, within => by
      have shallow : depthOfItems items ≤ limit := Nat.le_of_succ_le_succ within
      rw [tree, Tree.valueWithin, itemValues_itemTrees items integral shallow, Option.map_some,
        reread]
  | .object members, integral, limit + 1, within => by
      have shallow : depthOfMembers members ≤ limit := Nat.le_of_succ_le_succ within
      rw [tree, Tree.valueWithin, memberValues_memberTrees members integral shallow,
        Option.map_some, reread]

/-- The trees of the items are worth the items reread, within the limit of depth. -/
theorem itemValues_itemTrees : (items : List Json) → areIntegral items = true → {limit : ℕ} →
    depthOfItems items ≤ limit → itemValues limit (itemTrees items) = some (rereadItems items)
  | [], _, _, _ => by rw [itemTrees, itemValues, rereadItems]
  | item :: items, integral, limit, within => by
      obtain ⟨first, others⟩ := (Bool.and_eq_true _ _).mp integral
      obtain ⟨shallow, rest⟩ := Nat.max_le.mp within
      rw [itemTrees, itemValues, valueWithin_tree item first shallow,
        itemValues_itemTrees items others rest, rereadItems]

theorem memberValues_memberTrees : (members : List (String × Json)) →
    haveIntegral members = true → {limit : ℕ} → depthOfMembers members ≤ limit →
      memberValues limit (memberTrees members) = some (rereadMembers members)
  | [], _, _, _ => by rw [memberTrees, memberValues, rereadMembers]
  | (name, value) :: members, integral, limit, within => by
      obtain ⟨first, others⟩ := (Bool.and_eq_true _ _).mp integral
      obtain ⟨shallow, rest⟩ := Nat.max_le.mp within
      rw [memberTrees, memberValues, textOfPieces?_pieces, valueWithin_tree value first shallow,
        memberValues_memberTrees members others rest, rereadMembers]

end

/-- The text of a value is read as the value, if it is not nested too deep. -/
theorem parse_render_eq_reread {value : Json} (integral : value.isIntegral = true)
    (shallow : value.depth ≤ maxDepth) : parse value.render = some value.reread := by
  rw [parse, parse_render integral, Option.bind_some]
  exact valueWithin_tree value integral shallow

/-! ### Objects -/

/-- An object with the given members and no others, in any order. -/
def IsObjectOf (members : List (String × Json)) (json : Json) : Prop :=
  ∃ found, json = .object found ∧ found.Perm members

/-- Rereading members rereads their values and keeps their names. -/
theorem rereadMembers_eq_map (members : List (String × Json)) :
    rereadMembers members = members.map (fun member => (member.1, member.2.reread)) := by
  induction members with
  | nil => rw [rereadMembers, List.map_nil]
  | cons member members ih => rw [rereadMembers, ih, List.map_cons]

/-- An object of members of different names is reread as an object of the reread members. -/
theorem isObjectOf_reread {members : List (String × Json)} (nodup : (members.map Prod.fst).Nodup) :
    (Json.object members).reread.IsObjectOf
      (members.map (fun member => (member.1, member.2.reread))) := by
  rw [reread, rereadMembers_eq_map]
  refine ⟨_, rfl, sortMembers_perm ?_⟩
  rw [List.map_map]
  exact nodup

/-- An object is one deeper than its deepest member. -/
theorem depth_object_le {members : List (String × Json)} {limit : ℕ}
    (shallow : ∀ member ∈ members, member.2.depth ≤ limit) :
    (Json.object members).depth ≤ limit + 1 := by
  rw [depth]
  apply Nat.succ_le_succ
  induction members with
  | nil => exact Nat.zero_le limit
  | cons member members ih =>
      obtain ⟨first, others⟩ := List.forall_mem_cons.mp shallow
      rw [depthOfMembers]
      exact Nat.max_le.mpr ⟨first, ih others⟩

/-- The text of an object whose names differ is read as an object of its members. -/
theorem parse_object {members : List (String × Json)} (nodup : (members.map Prod.fst).Nodup)
    (integral : ∀ member ∈ members, member.2.isIntegral = true)
    (shallow : ∀ member ∈ members, member.2.depth < maxDepth) :
    ∃ json, parse (Json.object members).render = some json ∧
      json.IsObjectOf (members.map (fun member => (member.1, member.2.reread))) := by
  have within : (Json.object members).depth ≤ maxDepth :=
    depth_object_le fun member listed => Nat.le_pred_of_lt (shallow member listed)
  exact ⟨_, parse_render_eq_reread (isIntegral_object integral) within, isObjectOf_reread nodup⟩

/-- A value that is read as it was written, and holds no others. -/
structure IsSettled (value : Json) : Prop where
  integral : value.isIntegral = true
  reread : value.reread = value
  depth : value.depth = 0

theorem isSettled_string (s : String) : (Json.string s).IsSettled := by
  refine ⟨rfl, ?_, rfl⟩
  rw [reread] <;> nofun

theorem isSettled_ofUInt64 (n : UInt64) : (ofUInt64 n).IsSettled := by
  refine ⟨rfl, ?_, rfl⟩
  rw [ofUInt64, reread, Number.reread]

theorem isSettled_ofOption (s : Option String) : (ofOption Json.string s).IsSettled := by
  cases s with
  | some s => exact isSettled_string s
  | none =>
      refine ⟨rfl, ?_, rfl⟩
      rw [ofOption, reread] <;> nofun

/-- Settled members are reread as they are. -/
theorem map_reread_of_settled {members : List (String × Json)}
    (settled : ∀ member ∈ members, member.2.IsSettled) :
    members.map (fun member => (member.1, member.2.reread)) = members := by
  refine (List.map_congr_left fun member listed => ?_).trans (List.map_id members)
  rw [(settled member listed).reread]
  rfl

/-- A printed object of settled members is parsed as an object of the same members. -/
theorem parse_object_of_settled {members : List (String × Json)}
    (nodup : (members.map Prod.fst).Nodup) (settled : ∀ member ∈ members, member.2.IsSettled) :
    ∃ json, parse (Json.object members).render = some json ∧ json.IsObjectOf members := by
  have parsed := parse_object nodup (fun member listed => (settled member listed).integral)
    fun member listed => (settled member listed).depth ▸ Nat.zero_lt_succ _
  rwa [map_reread_of_settled settled] at parsed

/-! ### Tables of texts -/

section Texts

variable (entries : List (String × String))

/-- The members of a map of texts are settled. -/
theorem isSettled_of_mem_texts :
    ∀ member ∈ entries.map (fun entry => (entry.1, Json.string entry.2)), member.2.IsSettled := by
  intro member listed
  obtain ⟨entry, _, rfl⟩ := List.mem_map.mp listed
  exact isSettled_string entry.2

theorem depth_ofTexts_le : (ofTexts entries).depth ≤ 1 :=
  depth_object_le fun member listed => (isSettled_of_mem_texts entries member listed).depth.le

variable {entries} in
/-- A map of texts is reread as a map of the same texts. -/
theorem isObjectOf_ofTexts (nodup : (entries.map Prod.fst).Nodup) :
    (ofTexts entries).reread.IsObjectOf
      (entries.map (fun entry => (entry.1, .string entry.2))) := by
  have distinct : ((entries.map (fun entry => (entry.1, Json.string entry.2))).map
      Prod.fst).Nodup := by
    rw [List.map_map]
    exact nodup
  have members := isObjectOf_reread distinct
  rwa [map_reread_of_settled (isSettled_of_mem_texts entries)] at members

end Texts

end HostBridge.Json
