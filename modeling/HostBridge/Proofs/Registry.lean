import HostBridge.Proofs.Table
import HostBridge.Registry

/-!
# Laws of object registries

Which object a registry finds, and how many living objects it counts.
-/

namespace HostBridge

namespace Registry

theorem lookup_eq_some_iff (registry : Registry) (alive : ObjectKey → Bool) (id : UInt64)
    (key : ObjectKey) :
    registry.lookup alive id = some key ↔
      registry.entries.find? id = some key ∧ alive key = true :=
  Option.filter_eq_some_iff

/-- Only the very object that is removed loses its entry. -/
theorem find?_removeOwned (registry : Registry) (id : UInt64) (owner : ObjectKey)
    (other : UInt64) :
    (registry.removeOwned id owner).1.entries.find? other =
      if other = id ∧ registry.entries.find? id = some owner then none
      else registry.entries.find? other := by
  unfold removeOwned
  by_cases owned : registry.entries.find? id = some owner
  · simp only [owned, ↓reduceIte, and_true]
    exact Table.find?_erase _ _ _
  · simp only [owned, ↓reduceIte, and_false]

/-- A look-up sees what is left of the entries when those of objects that are gone are removed. -/
theorem lookup_eq_find?_prune (registry : Registry) (alive : ObjectKey → Bool) (id : UInt64) :
    registry.lookup alive id = (registry.prune alive).1.entries.find? id := by
  apply Option.ext
  intro key
  rw [lookup_eq_some_iff]
  exact (registry.entries.find?_filter_eq_some_iff (fun _ owner => alive owner) id key).symm

/-- The ids under which a living object is found are counted. -/
theorem exists_liveCount (registry : Registry) (alive : ObjectKey → Bool) :
    ∃ ids : List UInt64, registry.liveCount alive = ids.length ∧ ids.Nodup ∧
      ∀ id, id ∈ ids ↔ (registry.lookup alive id).isSome := by
  refine ⟨(registry.prune alive).1.entries.keys, ?_, Table.nodup_keys _, fun id => ?_⟩
  · rw [liveCount, Table.values, List.filter_map, List.length_map, Table.keys, List.length_map]
    rfl
  · rw [Table.mem_keys_iff, lookup_eq_find?_prune]

/-- Registries in which the same objects are found count the same. -/
theorem liveCount_of_lookup {registry other : Registry} {alive : ObjectKey → Bool}
    (same : ∀ id, registry.lookup alive id = other.lookup alive id) :
    registry.liveCount alive = other.liveCount alive := by
  obtain ⟨ids, counted, nodup, listed⟩ := registry.exists_liveCount alive
  obtain ⟨others, recounted, distinct, relisted⟩ := other.exists_liveCount alive
  rw [counted, recounted]
  apply List.Perm.length_eq
  apply (List.perm_ext_iff_of_nodup nodup distinct).mpr
  intro id
  rw [listed, relisted, same]

/-- The entry of a living object is removed if the object is found. -/
theorem snd_removeOwned_of_alive (registry : Registry) {alive : ObjectKey → Bool} {id : UInt64}
    {owner : ObjectKey} (living : alive owner = true) :
    (registry.removeOwned id owner).2 = decide (registry.lookup alive id = some owner) := by
  have found : registry.lookup alive id = some owner ↔
      registry.entries.find? id = some owner := by
    rw [lookup_eq_some_iff]
    exact and_iff_left living
  rw [decide_eq_decide.mpr found]
  unfold removeOwned
  split
  next owned => exact (decide_eq_true owned).symm
  next foreign => exact (decide_eq_false foreign).symm

/-- If no object has two entries, the living ones are counted once. -/
theorem liveCount_eq_length (registry : Registry) {alive : ObjectKey → Bool}
    (single : ∀ id other key, registry.entries.find? id = some key →
      registry.entries.find? other = some key → id = other)
    {keys : List ObjectKey} (nodup : keys.Nodup)
    (listed : ∀ key, key ∈ keys ↔ ∃ id, registry.lookup alive id = some key) :
    registry.liveCount alive = keys.length := by
  have distinct : registry.entries.values.Nodup := by
    apply List.Nodup.map_on _ (Table.nodup_entries _)
    rintro ⟨id, key⟩ first ⟨other, _⟩ second same
    cases same
    have equal := single id other key ((Table.mem_entries_iff _ _ _).mp first)
      ((Table.mem_entries_iff _ _ _).mp second)
    rw [equal]
  have living : (registry.entries.values.filter alive).Nodup := distinct.filter _
  apply List.Perm.length_eq
  apply (List.perm_ext_iff_of_nodup living nodup).mpr
  intro key
  rw [List.mem_filter, Table.mem_values_iff, listed]
  simp only [lookup_eq_some_iff, exists_and_right]

end Registry

end HostBridge
