/-!
# Finite tables

A `Table κ α` holds at most one value under each key, in the order in which the keys were first
inserted.  The order is part of the value because answers show it: bindings, owners and pending
continuations are listed and drained in it.

Main statements: `find?_insert` and `find?_erase` say what a look-up sees after an update, and
`mem_keys_iff` that the keys are those whose look-up finds something.
-/

namespace HostBridge

/-- The entries of a table after `value` was stored under `key`: in place if the key is there, at
the end otherwise. -/
def insertEntry {κ α : Type} [DecidableEq κ] (key : κ) (value : α) : List (κ × α) → List (κ × α)
  | [] => [(key, value)]
  | (k, v) :: rest =>
    if k = key then (key, value) :: rest else (k, v) :: insertEntry key value rest

theorem map_fst_insertEntry_of_mem {κ α : Type} [DecidableEq κ] {key : κ} (value : α)
    {entries : List (κ × α)} (mem : key ∈ entries.map Prod.fst) :
    (insertEntry key value entries).map Prod.fst = entries.map Prod.fst := by
  induction entries with
  | nil => simp at mem
  | cons entry rest ih =>
    obtain ⟨k, v⟩ := entry
    by_cases same : k = key
    · simp [insertEntry, same]
    · have : key ∈ rest.map Prod.fst := by
        simpa [Ne.symm same] using mem
      simp [insertEntry, same, ih this]

theorem map_fst_insertEntry_of_not_mem {κ α : Type} [DecidableEq κ] {key : κ} (value : α)
    {entries : List (κ × α)} (absent : key ∉ entries.map Prod.fst) :
    (insertEntry key value entries).map Prod.fst = entries.map Prod.fst ++ [key] := by
  induction entries with
  | nil => rfl
  | cons entry rest ih =>
    obtain ⟨k, v⟩ := entry
    simp only [List.map_cons, List.mem_cons, not_or] at absent
    simp [insertEntry, Ne.symm absent.1, ih absent.2]

theorem nodup_insertEntry {κ α : Type} [DecidableEq κ] (key : κ) (value : α)
    {entries : List (κ × α)} (nodup : (entries.map Prod.fst).Nodup) :
    ((insertEntry key value entries).map Prod.fst).Nodup := by
  by_cases mem : key ∈ entries.map Prod.fst
  · rw [map_fst_insertEntry_of_mem value mem]; exact nodup
  · rw [map_fst_insertEntry_of_not_mem value mem, List.nodup_append]
    refine ⟨nodup, by simp, ?_⟩
    intro a a_mem b b_mem
    simp only [List.mem_singleton] at b_mem
    rintro rfl
    exact mem (b_mem ▸ a_mem)

/-- At most one value under each key. -/
structure Table (κ : Type) (α : Type) where
  entries : List (κ × α)
  nodup : (entries.map Prod.fst).Nodup

namespace Table

variable {κ α β : Type} [DecidableEq κ]

/-- The table without keys. -/
def empty : Table κ α := ⟨[], by simp⟩

instance : Inhabited (Table κ α) := ⟨empty⟩

/-- The keys, in the order of their first insertion. -/
def keys (table : Table κ α) : List κ := table.entries.map Prod.fst

/-- The values, in the order of their keys. -/
def values (table : Table κ α) : List α := table.entries.map Prod.snd

/-- The number of keys. -/
def size (table : Table κ α) : Nat := table.entries.length

/-- The value under `key`, if there is one. -/
def find? (table : Table κ α) (key : κ) : Option α :=
  (table.entries.find? (fun entry => entry.1 = key)).map Prod.snd

/-- Whether a value is stored under `key`. -/
def contains (table : Table κ α) (key : κ) : Bool := (table.find? key).isSome

/-- Store `value` under `key`, in place of what was there. -/
def insert (table : Table κ α) (key : κ) (value : α) : Table κ α :=
  ⟨insertEntry key value table.entries, nodup_insertEntry key value table.nodup⟩

/-- Keep the entries that satisfy `keep`. -/
def filter (table : Table κ α) (keep : κ → α → Bool) : Table κ α :=
  ⟨table.entries.filter (fun entry => keep entry.1 entry.2),
    table.nodup.sublist (List.Sublist.map _ List.filter_sublist)⟩

/-- Remove what is stored under `key`. -/
def erase (table : Table κ α) (key : κ) : Table κ α :=
  table.filter (fun k _ => !decide (k = key))

/-- Change the value under `key`, if there is one. -/
def modify (table : Table κ α) (key : κ) (change : α → α) : Table κ α :=
  match table.find? key with
  | none => table
  | some value => table.insert key (change value)

/-- The table with the given entries; the last one of a repeated key counts. -/
def ofList (entries : List (κ × α)) : Table κ α :=
  entries.foldl (fun table entry => table.insert entry.1 entry.2) empty

private theorem find?_insertEntry (entries : List (κ × α)) (key other : κ) (value : α) :
    ((insertEntry key value entries).find? (fun entry => entry.1 = other)).map Prod.snd =
      if other = key then some value
      else (entries.find? (fun entry => entry.1 = other)).map Prod.snd := by
  induction entries with
  | nil =>
    by_cases same : other = key
    · simp [insertEntry, same]
    · simp [insertEntry, same, Ne.symm same]
  | cons entry rest ih =>
    obtain ⟨k, v⟩ := entry
    by_cases here : k = key
    · subst here
      by_cases same : other = k
      · simp [insertEntry, same]
      · simp [insertEntry, same, Ne.symm same]
    · by_cases hit : k = other
      · subst hit
        simp [insertEntry, here]
      · simp [insertEntry, here, hit, ih]

/-- After an insertion the key has the new value and every other key the one it had. -/
theorem find?_insert (table : Table κ α) (key other : κ) (value : α) :
    (table.insert key value).find? other = if other = key then some value else table.find? other :=
  find?_insertEntry table.entries key other value

private theorem find?_filter_ne (entries : List (κ × α)) (key other : κ) :
    ((entries.filter (fun entry => !decide (entry.1 = key))).find?
        (fun entry => entry.1 = other)).map Prod.snd =
      if other = key then none
      else (entries.find? (fun entry => entry.1 = other)).map Prod.snd := by
  induction entries with
  | nil => simp
  | cons entry rest ih =>
    obtain ⟨k, v⟩ := entry
    by_cases gone : k = key
    · subst gone
      by_cases same : other = k
      · subst same
        simp
      · simpa [same, Ne.symm same] using ih
    · by_cases hit : k = other
      · subst hit
        simp [gone]
      · simpa [gone, hit] using ih

/-- After a removal the key is gone and every other key has the value it had. -/
theorem find?_erase (table : Table κ α) (key other : κ) :
    (table.erase key).find? other = if other = key then none else table.find? other :=
  find?_filter_ne table.entries key other

theorem mem_keys_iff (table : Table κ α) (key : κ) :
    key ∈ table.keys ↔ (table.find? key).isSome := by
  unfold keys find?
  induction table.entries with
  | nil => simp
  | cons entry rest ih =>
    obtain ⟨k, v⟩ := entry
    by_cases hit : k = key
    · simp [hit]
    · simp only [List.map_cons, List.mem_cons, Ne.symm hit, false_or, ih]
      simp [hit]

end Table

end HostBridge
