import HostBridge.Table
import Mathlib.Data.List.Nodup
import Mathlib.Data.List.Perm.Basic

/-!
# Laws of finite tables

What an update does to the entries, keys and values of a table as lists, and tables whose values are
mapped.

Main statements: an entry is a look-up that finds something (`mem_entries_iff`), an insertion under
a new key appends (`entries_insert_of_absent`), an insertion under a key that is there keeps the
keys (`keys_insert_of_present`), and mapping values commutes with every update.
-/

namespace HostBridge.Table

variable {κ α β : Type} [DecidableEq κ]

omit [DecidableEq κ] in
/-- A table is its entries. -/
theorem eq_of_entries {left right : Table κ α} (same : left.entries = right.entries) :
    left = right := by
  cases left
  cases right
  cases same
  rfl

/-- What a table lists is what is found in it. -/
theorem mem_entries_iff (table : Table κ α) (key : κ) (value : α) :
    (key, value) ∈ table.entries ↔ table.find? key = some value := by
  obtain ⟨entries, nodup⟩ := table
  unfold find?
  induction entries with
  | nil => simp
  | cons entry rest ih =>
      obtain ⟨k, v⟩ := entry
      simp only [List.map_cons, List.nodup_cons] at nodup
      by_cases here : k = key
      · subst here
        have absent : (k, value) ∉ rest := fun member => nodup.1 (List.mem_map_of_mem member)
        simp only [List.mem_cons, absent, or_false, decide_true, List.find?_cons_of_pos,
          Option.map_some, Option.some.injEq, Prod.mk.injEq, true_and]
        exact eq_comm
      · have different : (key, value) ≠ (k, v) := fun same => here (congrArg Prod.fst same).symm
        simp only [List.mem_cons, different, false_or, here, decide_false, Bool.false_eq_true,
          not_false_eq_true, List.find?_cons_of_neg]
        exact ih nodup.2

omit [DecidableEq κ] in
theorem nodup_keys (table : Table κ α) : table.keys.Nodup := table.nodup

omit [DecidableEq κ] in
theorem nodup_entries (table : Table κ α) : table.entries.Nodup := table.nodup.of_map

/-- A value is listed if it is found under some key. -/
theorem mem_values_iff (table : Table κ α) (value : α) :
    value ∈ table.values ↔ ∃ key, table.find? key = some value := by
  constructor
  · intro member
    obtain ⟨⟨key, found⟩, present, rfl⟩ := List.mem_map.mp member
    exact ⟨key, (mem_entries_iff table key found).mp present⟩
  · rintro ⟨key, found⟩
    exact List.mem_map.mpr ⟨(key, value), (mem_entries_iff table key value).mpr found, rfl⟩

/-- Nothing is found under a key that is not there. -/
theorem find?_eq_none_iff (table : Table κ α) (key : κ) :
    table.find? key = none ↔ key ∉ table.keys := by
  rw [mem_keys_iff]
  simp

/-! ### Insertion -/

@[simp] theorem find?_insert_self (table : Table κ α) (key : κ) (value : α) :
    (table.insert key value).find? key = some value := by
  rw [find?_insert, if_pos rfl]

theorem find?_insert_of_ne (table : Table κ α) {key other : κ} (value : α)
    (different : other ≠ key) : (table.insert key value).find? other = table.find? other := by
  rw [find?_insert, if_neg different]

/-- A new key goes to the end. -/
private theorem insertEntry_of_absent (key : κ) (value : α) (entries : List (κ × α))
    (absent : key ∉ entries.map Prod.fst) :
    insertEntry key value entries = entries ++ [(key, value)] := by
  induction entries with
  | nil => rfl
  | cons entry rest ih =>
      obtain ⟨k, v⟩ := entry
      simp only [List.map_cons, List.mem_cons, not_or] at absent
      simp only [insertEntry, Ne.symm absent.1, ↓reduceIte, ih absent.2, List.cons_append]

/-- A new key goes to the end of the table. -/
theorem entries_insert_of_absent (table : Table κ α) {key : κ} (value : α)
    (absent : table.find? key = none) :
    (table.insert key value).entries = table.entries ++ [(key, value)] :=
  insertEntry_of_absent key value table.entries ((find?_eq_none_iff table key).mp absent)

theorem keys_insert_of_absent (table : Table κ α) {key : κ} (value : α)
    (absent : table.find? key = none) : (table.insert key value).keys = table.keys ++ [key] :=
  map_fst_insertEntry_of_not_mem value ((find?_eq_none_iff table key).mp absent)

/-- A key that is there keeps its place. -/
theorem keys_insert_of_present (table : Table κ α) {key : κ} {old : α} (value : α)
    (present : table.find? key = some old) : (table.insert key value).keys = table.keys := by
  have member : key ∈ table.keys := by
    rw [mem_keys_iff, present, Option.isSome_some]
  exact map_fst_insertEntry_of_mem value member

private theorem insertEntry_insertEntry (key : κ) (first second : α) (entries : List (κ × α)) :
    insertEntry key second (insertEntry key first entries) = insertEntry key second entries := by
  induction entries with
  | nil => simp only [insertEntry, ↓reduceIte]
  | cons entry rest ih =>
      obtain ⟨k, v⟩ := entry
      by_cases here : k = key
      · simp only [insertEntry, here, ↓reduceIte]
      · simp only [insertEntry, here, ↓reduceIte, ih]

/-- What is put under a key last is what counts. -/
@[simp] theorem insert_insert (table : Table κ α) (key : κ) (first second : α) :
    (table.insert key first).insert key second = table.insert key second :=
  eq_of_entries (insertEntry_insertEntry key first second table.entries)

private theorem insertEntry_self (key : κ) (value : α) (entries : List (κ × α))
    (present : (entries.find? (fun entry => entry.1 = key)).map Prod.snd = some value) :
    insertEntry key value entries = entries := by
  induction entries with
  | nil => simp at present
  | cons entry rest ih =>
      obtain ⟨k, v⟩ := entry
      by_cases here : k = key
      · subst here
        simp only [decide_true, List.find?_cons_of_pos, Option.map_some,
          Option.some.injEq] at present
        simp only [insertEntry, ↓reduceIte, present]
      · simp only [here, decide_false, Bool.false_eq_true, not_false_eq_true,
          List.find?_cons_of_neg] at present
        simp only [insertEntry, here, ↓reduceIte, ih present]

/-- Nothing changes if a value is put where it already is. -/
theorem insert_of_find? (table : Table κ α) {key : κ} {value : α}
    (present : table.find? key = some value) : table.insert key value = table :=
  eq_of_entries (insertEntry_self key value table.entries present)

/-- New keys go to the end one after another. -/
theorem foldl_insert_of_fresh (table : Table κ α) {entries : List (κ × α)}
    (nodup : (entries.map Prod.fst).Nodup)
    (fresh : ∀ entry ∈ entries, table.find? entry.1 = none) :
    (entries.foldl (fun table entry => table.insert entry.1 entry.2) table).entries =
      table.entries ++ entries := by
  induction entries generalizing table with
  | nil => rw [List.foldl_nil, List.append_nil]
  | cons entry entries ih =>
      obtain ⟨absent, others⟩ := List.forall_mem_cons.mp fresh
      obtain ⟨single, nodup⟩ := List.nodup_cons.mp nodup
      have left : ∀ other ∈ entries, (table.insert entry.1 entry.2).find? other.1 = none := by
        intro other listed
        have different : other.1 ≠ entry.1 := by
          intro same
          exact single (same ▸ List.mem_map_of_mem listed)
        rw [find?_insert_of_ne table entry.2 different]
        exact others other listed
      rw [List.foldl_cons, ih _ nodup left, entries_insert_of_absent table entry.2 absent,
        List.append_assoc, List.singleton_append]

/-- A table is rebuilt from its entries. -/
theorem ofList_entries (table : Table κ α) : ofList table.entries = table :=
  eq_of_entries (foldl_insert_of_fresh empty table.nodup (fun _ _ => rfl))

/-! ### Modification and removal -/

theorem modify_of_absent (table : Table κ α) {key : κ} (change : α → α)
    (absent : table.find? key = none) : table.modify key change = table := by
  simp only [modify, absent]

/-- A change puts the changed value in place of the old one. -/
theorem modify_of_present (table : Table κ α) {key : κ} {value : α} (change : α → α)
    (present : table.find? key = some value) :
    table.modify key change = table.insert key (change value) := by
  simp only [modify, present]

/-- A change shows under its own key only. -/
theorem find?_modify (table : Table κ α) (key other : κ) (change : α → α) :
    (table.modify key change).find? other =
      if other = key then (table.find? key).map change else table.find? other := by
  cases found : table.find? key with
  | none =>
      rw [modify_of_absent table change found]
      by_cases same : other = key
      · rw [if_pos same, same, found, Option.map_none]
      · rw [if_neg same]
  | some value => rw [modify_of_present table change found, find?_insert, Option.map_some]

/-- A new key adds one. -/
theorem size_insert_of_absent (table : Table κ α) {key : κ} (value : α)
    (absent : table.find? key = none) : (table.insert key value).size = table.size + 1 := by
  rw [size, entries_insert_of_absent table value absent, List.length_append,
    List.length_singleton, size]

theorem size_insert_of_present (table : Table κ α) {key : κ} {old : α} (value : α)
    (present : table.find? key = some old) : (table.insert key value).size = table.size := by
  have keys := congrArg List.length (keys_insert_of_present table value present)
  rwa [Table.keys, Table.keys, List.length_map, List.length_map] at keys

/-- Erasing takes a key away and leaves the order of the others. -/
theorem keys_erase (table : Table κ α) (key : κ) :
    (table.erase key).keys = table.keys.filter (fun other => !decide (other = key)) :=
  (List.filter_map (p := fun other => !decide (other = key)) (f := Prod.fst)).symm

/-- Erasing a key that is there takes one away. -/
theorem size_erase_of_present (table : Table κ α) {key : κ} {value : α}
    (present : table.find? key = some value) : (table.erase key).size = table.size - 1 := by
  have member : key ∈ table.keys := by
    rw [mem_keys_iff, present, Option.isSome_some]
  have keys : (table.erase key).keys = table.keys.erase key := by
    rw [keys_erase, List.Nodup.erase_eq_filter table.nodup_keys]
    rfl
  have length := congrArg List.length keys
  rw [List.length_erase_of_mem member, Table.keys, Table.keys, List.length_map,
    List.length_map] at length
  exact length

theorem erase_of_absent (table : Table κ α) {key : κ} (absent : table.find? key = none) :
    table.erase key = table := by
  apply eq_of_entries
  refine List.filter_eq_self.mpr fun entry member => ?_
  have different : entry.1 ≠ key := by
    rintro rfl
    exact (find?_eq_none_iff table _).mp absent (List.mem_map_of_mem member)
  simp only [different, decide_false, Bool.not_false]

/-- What was put under a new key can be erased again. -/
theorem erase_insert_of_absent (table : Table κ α) {key : κ} (value : α)
    (absent : table.find? key = none) : (table.insert key value).erase key = table := by
  apply eq_of_entries
  have kept : (table.erase key).entries = table.entries :=
    congrArg entries (erase_of_absent table absent)
  change (table.insert key value).entries.filter _ = table.entries
  rw [entries_insert_of_absent table value absent, List.filter_append]
  simp only [List.filter_cons, decide_true, Bool.not_true, Bool.false_eq_true, ↓reduceIte,
    List.filter_nil, List.append_nil]
  exact kept

/-- A filter leaves what it keeps and adds nothing. -/
theorem find?_filter_eq_some_iff (table : Table κ α) (keep : κ → α → Bool) (key : κ) (value : α) :
    (table.filter keep).find? key = some value ↔
      table.find? key = some value ∧ keep key value = true := by
  rw [← mem_entries_iff, ← mem_entries_iff]
  exact List.mem_filter

private theorem nodup_cons_erase (table : Table κ α) (key : κ) (value : α) :
    ((key, value) :: (table.erase key).entries).Nodup := by
  refine List.nodup_cons.mpr ⟨?_, nodup_entries _⟩
  rw [mem_entries_iff, find?_erase, if_pos rfl]
  exact (nomatch ·)

/-- A removal takes out what a look-up finds. -/
theorem perm_erase (table : Table κ α) (key : κ) :
    ((table.erase key).entries ++ ((table.find? key).map (key, ·)).toList).Perm table.entries := by
  cases found : table.find? key with
  | none =>
      rw [erase_of_absent table found]
      exact .of_eq (List.append_nil _)
  | some value =>
      refine List.perm_append_comm.trans ?_
      apply (List.perm_ext_iff_of_nodup (table.nodup_cons_erase key value) table.nodup_entries).mpr
      rintro ⟨other, held⟩
      rw [List.mem_cons, mem_entries_iff, mem_entries_iff, find?_erase]
      by_cases same : other = key
      · subst same
        simp only [↓reduceIte, reduceCtorEq, or_false, Prod.mk.injEq, true_and, found,
          Option.some.injEq, eq_comm]
      · simp only [same, ↓reduceIte, Prod.mk.injEq, false_and, false_or]

/-- An insertion adds what is inserted, and takes out what a look-up finds. -/
theorem perm_insert (table : Table κ α) (key : κ) (value : α) :
    ((table.insert key value).entries ++ ((table.find? key).map (key, ·)).toList).Perm
      (table.entries ++ [(key, value)]) := by
  have split : (table.insert key value).entries.Perm
      ((key, value) :: (table.erase key).entries) := by
    apply (List.perm_ext_iff_of_nodup (nodup_entries _) (table.nodup_cons_erase key value)).mpr
    rintro ⟨other, held⟩
    rw [List.mem_cons, mem_entries_iff, mem_entries_iff, find?_insert, find?_erase]
    by_cases same : other = key
    · simp only [same, ↓reduceIte, Option.some.injEq, Prod.mk.injEq, true_and, reduceCtorEq,
        or_false, eq_comm]
    · simp only [same, ↓reduceIte, Prod.mk.injEq, false_and, false_or]
  have rest := (table.perm_erase key).cons (key, value)
  exact (split.append_right _).trans (rest.trans (List.perm_append_singleton _ _).symm)

/-- Two changes under one key are one. -/
theorem modify_modify (table : Table κ α) (key : κ) (first second : α → α) :
    (table.modify key first).modify key second =
      table.modify key (fun value => second (first value)) := by
  cases found : table.find? key with
  | none => simp only [modify_of_absent _ _ found]
  | some value =>
      rw [modify_of_present table _ found, modify_of_present table _ found,
        modify_of_present _ _ (find?_insert_self table key (first value)), insert_insert]

/-- A change that leaves the value as it is leaves the table as it is. -/
theorem modify_of_same (table : Table κ α) {key : κ} {change : α → α}
    (same : ∀ value, table.find? key = some value → change value = value) :
    table.modify key change = table := by
  cases found : table.find? key with
  | none => exact modify_of_absent table change found
  | some value =>
      rw [modify_of_present table change found, same value found]
      exact insert_of_find? table found

/-! ### Mapped values -/

/-- The table with every value mapped. -/
def mapValues (table : Table κ α) (f : α → β) : Table κ β :=
  ⟨table.entries.map (fun entry => (entry.1, f entry.2)), by
    rw [List.map_map]
    exact table.nodup⟩

omit [DecidableEq κ] in
@[simp] theorem values_mapValues (table : Table κ α) (f : α → β) :
    (table.mapValues f).values = table.values.map f := by
  simp only [values, mapValues, List.map_map]
  rfl

@[simp] theorem find?_mapValues (table : Table κ α) (f : α → β) (key : κ) :
    (table.mapValues f).find? key = (table.find? key).map f := by
  unfold find? mapValues
  rw [List.find?_map, Option.map_map, Option.map_map]
  rfl

/-- It does not matter whether a value is changed before or after it is put in. -/
theorem mapValues_insert (table : Table κ α) (f : α → β) (key : κ) (value : α) :
    (table.insert key value).mapValues f = (table.mapValues f).insert key (f value) := by
  apply eq_of_entries
  change (insertEntry key value table.entries).map _ = insertEntry key (f value) _
  simp only [mapValues]
  induction table.entries with
  | nil => rfl
  | cons entry rest ih =>
      obtain ⟨k, v⟩ := entry
      by_cases here : k = key
      · simp only [insertEntry, here, ↓reduceIte, List.map_cons]
      · simp only [insertEntry, here, ↓reduceIte, List.map_cons, ih]

/-- A modification that the mapping can follow. -/
theorem mapValues_modify (table : Table κ α) (f : α → β) (key : κ) (change : α → α)
    (changed : β → β)
    (follows : ∀ value, table.find? key = some value → f (change value) = changed (f value)) :
    (table.modify key change).mapValues f = (table.mapValues f).modify key changed := by
  cases found : table.find? key with
  | none =>
      rw [modify_of_absent table change found, modify_of_absent _ changed]
      rw [find?_mapValues, found, Option.map_none]
  | some value =>
      have mapped : (table.mapValues f).find? key = some (f value) := by
        rw [find?_mapValues, found, Option.map_some]
      rw [modify_of_present table change found, modify_of_present _ changed mapped,
        mapValues_insert, follows value found]

/-- A modification that the mapping does not see. -/
theorem mapValues_modify_of_unseen (table : Table κ α) (f : α → β) (key : κ) (change : α → α)
    (unseen : ∀ value, table.find? key = some value → f (change value) = f value) :
    (table.modify key change).mapValues f = table.mapValues f := by
  rw [mapValues_modify table f key change id unseen]
  cases found : (table.mapValues f).find? key with
  | none => rw [modify_of_absent _ id found]
  | some value => rw [modify_of_present _ id found, id_eq, insert_of_find? _ found]

end HostBridge.Table
