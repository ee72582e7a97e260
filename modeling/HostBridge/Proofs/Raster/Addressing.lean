import HostBridge.Proofs.Raster.Acts
import Mathlib.Data.List.Nodup
import Mathlib.Data.List.Range

/-!
# Addresses in the course of calls

An engine counts its addresses up from 1 and knows nothing that it did not give out.

Main statement: over any calls, addresses are given out once each, what was let go is unknown from
then on, and a call that fails or asks for something unknown changes nothing (`Engine.addressing`).
-/

namespace HostBridge.Raster.Engine

/-- The resources of an engine were numbered from 1 on, and the engine knows no others. -/
structure Numbered (issued : List Resource) (engine : Engine) : Prop where
  next : engine.next.toNat = issued.length + 1
  addresses : issued.map (fun resource => resource.address.toNat) = List.range' 1 issued.length
  known : ∀ resource picture, engine.picture? resource = some picture → resource ∈ issued

namespace Numbered

theorem initial : Numbered [] .new where
  next := rfl
  addresses := rfl
  known := by
    intro resource picture found
    obtain ⟨kind, address⟩ := resource
    cases kind <;> cases found

variable {issued : List Resource} {engine later : Engine} {deed : Deed}

/-- An address in use is not zero, and below the next one. -/
theorem bounds (numbered : Numbered issued engine) {address : UInt64}
    (used : address ∈ issued.map Resource.address) :
    0 < address.toNat ∧ address.toNat < engine.next.toNat := by
  obtain ⟨resource, listed, rfl⟩ := List.mem_map.mp used
  have counted : resource.address.toNat ∈ List.range' 1 issued.length := by
    rw [← numbered.addresses]
    exact List.mem_map_of_mem listed
  have next := numbered.next
  have range := List.mem_range'_1.mp counted
  omega

/-- Addresses are issued in increasing order. -/
theorem increasing (numbered : Numbered issued engine) :
    (issued.map Resource.address).Pairwise (· < ·) := by
  have sorted : (issued.map (fun resource => resource.address.toNat)).Pairwise (· < ·) := by
    rw [numbered.addresses]
    exact List.pairwise_lt_range'
  rw [List.pairwise_map] at sorted ⊢
  exact sorted.imp fun less => UInt64.lt_iff_toNat_lt.mpr less

/-- No address is issued twice. -/
theorem eq_of_address (numbered : Numbered issued engine) {first second : Resource}
    (one : first ∈ issued) (other : second ∈ issued) (same : first.address = second.address) :
    first = second := by
  have nodup : (issued.map Resource.address).Nodup :=
    numbered.increasing.imp fun less => UInt64.ne_of_lt less
  exact List.inj_on_of_nodup_map nodup one other same

/-- A resource that is made is given the next address. -/
theorem make (numbered : Numbered issued engine) (kind : Kind) (picture : Picture)
    (room : issued.length + 1 < UInt64.size - 1) :
    Numbered (issued ++ [⟨kind, engine.next⟩])
      (engine.holding picture ⟨kind, engine.next⟩).advanced := by
  have next := numbered.next
  constructor
  · have fits : engine.next.toNat + 1 < UInt64.size := by omega
    rw [advanced, next_holding, UInt64.toNat_add, List.length_append]
    change (_ + 1) % UInt64.size = _ + 1 + 1
    rw [Nat.mod_eq_of_lt fits, next]
  · rw [List.map_append, numbered.addresses, List.length_append, List.length_singleton,
      List.range'_1_concat, List.map_singleton, next, Nat.add_comm 1]
  · intro resource other found
    rw [picture?_advanced, picture?_holding] at found
    split at found
    next here => exact List.mem_append_right _ (List.mem_singleton.mpr here)
    next => exact List.mem_append_left _ (numbered.known resource other found)

theorem keep (numbered : Numbered issued engine) (next : later.next = engine.next)
    (known : ∀ resource picture, later.picture? resource = some picture → resource ∈ issued) :
    Numbered issued later :=
  ⟨next ▸ numbered.next, numbered.addresses, known⟩

/-- What one call preserves. -/
theorem act (numbered : Numbered issued engine) (acts : engine.Acts deed later)
    (room : (issued ++ deed.made?.toList).length < UInt64.size - 1) :
    Numbered (issued ++ deed.made?.toList) later := by
  cases acts with
  | keeps unmade _ =>
      rw [unmade, Option.toList_none, List.append_nil]
      exact numbered
  | makes kind picture =>
      rw [List.length_append] at room
      exact numbered.make kind picture room
  | @paints surface old new found =>
      change Numbered (issued ++ []) _
      rw [List.append_nil]
      refine numbered.keep (next_holding ..) fun resource picture present => ?_
      rw [picture?_holding] at present
      split at present
      next here => exact numbered.known resource old (here ▸ found)
      next => exact numbered.known resource picture present
  | frees resource =>
      change Numbered (issued ++ []) _
      rw [List.append_nil]
      refine numbered.keep (next_without ..) fun other picture present => ?_
      rw [picture?_without] at present
      split at present
      next => cases present
      next => exact numbered.known other picture present

end Numbered

/-- A resource with a used address was known before a call if it is known afterwards, and if it is
an image, its picture is the same. -/
theorem Acts.earlier {engine later : Engine} {deed : Deed} (acts : engine.Acts deed later)
    {resource : Resource} (used : resource.address ≠ engine.next) {new : Picture}
    (found : later.picture? resource = some new) :
    ∃ old, engine.picture? resource = some old ∧ (resource.kind = .image → old = new) := by
  cases acts with
  | keeps _ _ => exact ⟨new, found, fun _ => rfl⟩
  | makes kind picture =>
      rw [picture?_advanced, picture?_holding] at found
      split at found
      next here => exact absurd (congrArg Resource.address here) used
      next => exact ⟨new, found, fun _ => rfl⟩
  | @paints surface old painted present =>
      rw [picture?_holding] at found
      split at found
      next here => exact ⟨old, here ▸ present, fun image => nomatch here ▸ image⟩
      next => exact ⟨new, found, fun _ => rfl⟩
  | frees gone =>
      rw [picture?_without] at found
      split at found
      next => cases found
      next => exact ⟨new, found, fun _ => rfl⟩

/-- An address under which nothing is known. -/
def Lacks (engine : Engine) (address : UInt64) : Prop :=
  ∀ kind, engine.picture? ⟨kind, address⟩ = none

/-- A resource that is let go leaves nothing under its address. -/
theorem Numbered.lacks {issued : List Resource} {engine : Engine}
    (numbered : Numbered issued engine) {resource : Resource} (listed : resource ∈ issued) :
    (engine.without resource).Lacks resource.address := by
  intro kind
  rw [picture?_without]
  split
  next => rfl
  next different =>
    rw [Option.eq_none_iff_forall_ne_some]
    intro picture found
    exact different (numbered.eq_of_address (numbered.known _ picture found) listed rfl)

section Run

variable {tools : Tools} {engine : Engine} {issued : List Resource}

/-- Every call keeps addresses numbered, as long as they do not wrap around. -/
theorem Numbered.perform (numbered : Numbered issued engine) {call : ImageCall}
    {calls : List ImageCall}
    (room : (issued ++ engine.made tools (call :: calls)).length < UInt64.size - 1) :
    Numbered (issued ++ (engine.perform tools call).result.made?.toList)
      (engine.perform tools call).engine := by
  refine numbered.act (acts_perform tools engine call) ?_
  rw [made, ← List.append_assoc, List.length_append] at room
  omega

/-- What calls preserve. -/
theorem Numbered.run (numbered : Numbered issued engine) (calls : List ImageCall)
    (room : (issued ++ engine.made tools calls).length < UInt64.size - 1) :
    Numbered (issued ++ engine.made tools calls) (engine.after tools calls) := by
  -- on the calls, whatever was made before them: each call moves what it makes over to that
  induction calls generalizing engine issued with
  | nil =>
      rw [made, List.append_nil]
      exact numbered
  | cons call calls ih =>
      have first := numbered.perform room
      rw [made, ← List.append_assoc] at room ⊢
      exact ih first room

/-- A resource with a used address was known before calls if it is known afterwards, and if it is an
image, its picture is the same. -/
theorem earlier_after (numbered : Numbered issued engine) {calls : List ImageCall}
    (room : (issued ++ engine.made tools calls).length < UInt64.size - 1) {resource : Resource}
    (used : resource.address ∈ issued.map Resource.address) {new : Picture}
    (found : (engine.after tools calls).picture? resource = some new) :
    ∃ old, engine.picture? resource = some old ∧ (resource.kind = .image → old = new) := by
  induction calls generalizing engine issued with
  | nil => exact ⟨new, found, fun _ => rfl⟩
  | cons call calls ih =>
      have first := numbered.perform room
      rw [made, ← List.append_assoc] at room
      -- a call can only make something new where no address was given out yet
      have fresh : resource.address ≠ engine.next :=
        fun same => Nat.ne_of_lt (numbered.bounds used).2 (congrArg UInt64.toNat same)
      have still : resource.address ∈
          (issued ++ (engine.perform tools call).result.made?.toList).map Resource.address :=
        List.map_subset _ (List.subset_append_left ..) used
      obtain ⟨between, present, unchanged⟩ := ih first room still found
      obtain ⟨old, before, kept⟩ := (acts_perform tools engine call).earlier fresh present
      exact ⟨old, before, fun image => (kept image).trans (unchanged image)⟩

/-- An address that was issued and is gone does not come back. -/
theorem Lacks.after (numbered : Numbered issued engine) {calls : List ImageCall}
    (room : (issued ++ engine.made tools calls).length < UInt64.size - 1) {address : UInt64}
    (used : address ∈ issued.map Resource.address) (lacks : engine.Lacks address) :
    (engine.after tools calls).Lacks address := by
  intro kind
  rw [Option.eq_none_iff_forall_ne_some]
  intro picture found
  obtain ⟨old, before, -⟩ := earlier_after numbered room used found
  cases (lacks kind).symm.trans before

end Run

variable {tools : Tools}

/-- Over every run addresses are numbered, as long as they do not wrap around. -/
theorem numbered_after {calls : List ImageCall}
    (room : (new.made tools calls).length < UInt64.size - 1) :
    Numbered (new.made tools calls) (new.after tools calls) :=
  Numbered.initial.run calls room

/-- A release takes the resource away and does nothing else. -/
theorem engine_perform_release (tools : Tools) (engine : Engine) (resource : Resource) :
    (engine.perform tools (.release resource)).engine = engine.without resource := by
  obtain ⟨kind, address⟩ := resource
  cases kind <;> rfl

/-- What was let go stays unknown. -/
theorem lacks_after_release {earlier later : List ImageCall} {resource : Resource}
    (room : (new.made tools (earlier ++ .release resource :: later)).length < UInt64.size - 1)
    (listed : resource ∈ new.made tools earlier) :
    (new.after tools (earlier ++ .release resource :: later)).Lacks resource.address := by
  rw [made_append] at room
  have before : (new.made tools earlier).length < UInt64.size - 1 := by
    rw [List.length_append] at room
    omega
  have held := numbered_after before
  have released := held.perform room
  rw [made, ← List.append_assoc] at room
  rw [after_append]
  apply Lacks.after released room
  · exact List.mem_map_of_mem (List.mem_append_left _ listed)
  · rw [engine_perform_release]
    exact held.lacks listed

/-- What an engine keeps to about its addresses in the course of calls, one after another from the
time that it was new. -/
structure Addresses (tools : Tools) (calls : List ImageCall) : Prop where
  solid : ∀ resource ∈ new.made tools calls, resource.address ≠ 0
  increasing : ((new.made tools calls).map Resource.address).Pairwise (· < ·)
  /-- What is known was made, and as what it is known as. -/
  issued : ∀ kind, ∀ address ∈ ((new.after tools calls).table kind).keys,
    ⟨kind, address⟩ ∈ new.made tools calls
  disjoint : ∀ address ∈ (new.after tools calls).images.keys,
    address ∉ (new.after tools calls).surfaces.keys
  apart : ∀ resource ∈ new.made tools calls, ∀ kind, kind ≠ resource.kind →
    (new.after tools calls).picture? ⟨kind, resource.address⟩ = none
  /-- What was made and let go is unknown for good. -/
  gone : ∀ earlier later resource, calls = earlier ++ .release resource :: later →
    resource ∈ new.made tools earlier → (new.after tools calls).Lacks resource.address
  dismissed : ∀ (call : ImageCall), ∀ resource ∈ call.names,
    (new.after tools calls).picture? resource = none →
      let reply := (new.after tools calls).perform tools call
      (new.after tools calls).Dismisses call reply.result reply.engine
  failed : ∀ call error, ((new.after tools calls).perform tools call).result.error? = some error →
    ((new.after tools calls).perform tools call).engine = new.after tools calls

/-- With fewer than `UInt64.size - 1` resources made, an engine gives addresses out once each, knows
nothing under an address that was let go, takes none for a resource of the other kind, and stays as
it is when a call fails or asks for something unknown. -/
theorem addressing (tools : Tools) (calls : List ImageCall)
    (room : (new.made tools calls).length < UInt64.size - 1) : Addresses tools calls := by
  have numbered := numbered_after room
  have issued : ∀ kind, ∀ address ∈ ((new.after tools calls).table kind).keys,
      ⟨kind, address⟩ ∈ new.made tools calls := by
    intro kind address listed
    obtain ⟨picture, found⟩ := Option.isSome_iff_exists.mp ((Table.mem_keys_iff _ _).mp listed)
    exact numbered.known ⟨kind, address⟩ picture found
  constructor
  case solid =>
    intro resource listed null
    have positive := (numbered.bounds (List.mem_map_of_mem listed)).1
    rw [null] at positive
    cases positive
  case increasing => exact numbered.increasing
  case issued => exact issued
  case disjoint =>
    intro address image surface
    cases numbered.eq_of_address (issued .image _ image) (issued .surface _ surface) rfl
  case apart =>
    intro resource listed kind different
    rw [Option.eq_none_iff_forall_ne_some]
    intro picture found
    have same := numbered.eq_of_address (numbered.known _ picture found) listed rfl
    exact different (congrArg Resource.kind same)
  case gone =>
    rintro earlier later resource rfl listed
    exact lacks_after_release room listed
  case dismissed => exact fun _ _ named absent => dismisses_perform tools named absent
  case failed => exact fun call _ told => (acts_perform tools _ call).engine_of_error told

/-- The address of a surface that was let go stays unknown when another surface is made. -/
theorem addressing_of_stale :
    let red : List UInt8 := [80, 54, 32, 49, 32, 49, 32, 50, 53, 53, 10, 255, 0, 0]
    let calls : List ImageCall :=
      [.surface 2 1, .decode red, .releaseSurface 1, .surface 2 1, .surface 0 1]
    let engine := new.after .standard calls
    new.made .standard calls = [⟨.surface, 1⟩, ⟨.image, 2⟩, ⟨.surface, 3⟩] ∧
      Addresses .standard calls ∧ engine.Lacks 1 := by
  intro red calls engine
  have made : new.made .standard calls = [⟨.surface, 1⟩, ⟨.image, 2⟩, ⟨.surface, 3⟩] := by
    decide +kernel
  have addresses := addressing .standard calls (by rw [made]; decide)
  exact ⟨made, addresses, addresses.gone [.surface 2 1, .decode red] [.surface 2 1, .surface 0 1]
    ⟨.surface, 1⟩ rfl (by decide +kernel)⟩

end HostBridge.Raster.Engine
