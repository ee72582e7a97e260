import HostBridge.Proofs.Session.Ledger
import HostBridge.Proofs.Session.Registration

/-!
# What subscribers are told about reachable objects

A view is announced as registered when it is created, and as released when its destruction ends.
The engine may create a view at the address of one that is still being torn down; then the release
is announced after the registration, and a subscriber takes the new view for gone.

Main statement: between actions, the last announcement for an id is right unless the view that has
the id was created that way (`Run.announcement`).
-/

namespace HostBridge

/-- The last of some announcements that is about an id. -/
def LifecycleEvent.last? (events : List LifecycleEvent) (id : UInt64) : Option LifecycleEvent :=
  (events.filter (fun event => event.objectId = id)).getLast?

/-- The last event about an id is the newest one when it is about that id. -/
theorem LifecycleEvent.last?_snoc (events : List LifecycleEvent) (event : LifecycleEvent)
    (id : UInt64) :
    last? (events ++ [event]) id = if event.objectId = id then some event else last? events id := by
  unfold last?
  rw [List.filter_append, List.filter_cons]
  by_cases same : event.objectId = id
  · simp only [same, decide_true, ↓reduceIte, List.filter_nil, List.getLast?_append,
      List.getLast?_singleton, Option.some_or]
  · simp only [same, decide_false, Bool.false_eq_true, ↓reduceIte, List.filter_nil,
      List.append_nil]

namespace Session

/-- The address of a created view, and whether a view of that address was still being torn down. -/
def Deed.created? : Deed → Option (UInt64 × Bool)
  | .create address amid => some (address, amid)
  | _ => none

/-- The views that were created, in the order of their keys. -/
def creations (deeds : List Deed) : List (UInt64 × Bool) := deeds.filterMap Deed.created?

/-- A deed that creates nothing leaves the list of creations. -/
theorem creations_snoc_of_none (deeds : List Deed) {deed : Deed} (other : deed.created? = none) :
    creations (deeds ++ [deed]) = creations deeds := by
  rw [creations, List.filterMap_append, List.filterMap_cons, other, List.filterMap_nil,
    List.append_nil, creations]

namespace Core

/-- An id has an undestroyed view that was not created while another was torn down. -/
def Fresh (deeds : List Deed) (core : Core) (id : UInt64) : Prop :=
  ∃ key, core.faces.find? key = some (id, false) ∧ (creations deeds)[key]? = some (id, false)

/-- A view with the id is being torn down. -/
def Torn (core : Core) (id : UInt64) : Prop := ∃ key ∈ core.releasing, core.IsAt key id

/-- What was announced about each id. -/
structure Announced (deeds : List Deed) (core : Core) : Prop where
  length : (creations deeds).length = core.nextView
  created : ∀ key id destroyed, core.faces.find? key = some (id, destroyed) →
    ∃ amid, (creations deeds)[key]? = some (id, amid)
  fresh : ∀ id, Fresh deeds core id →
    LifecycleEvent.last? core.lifecycle id = some (.registered id) ∧ ¬core.Torn id
  stale : ∀ id, ¬Fresh deeds core id →
    core.Torn id ∨ LifecycleEvent.last? core.lifecycle id ≠ some (.registered id)

/-- An address is being released while a destroy of its view has not ended. -/
theorem releases_iff (core : Core) (address : UInt64) :
    core.releases address = true ↔ core.Torn address := by
  simp only [releases, List.any_eq_true, Torn, IsAt, faces, Table.find?_mapValues]
  constructor
  · rintro ⟨key, member, present⟩
    obtain ⟨view, found, same⟩ := (Option.any_eq_true _ _).mp present
    refine ⟨key, member, view.isDestroyed, ?_⟩
    rw [found, Option.map_some, View.face, of_decide_eq_true same]
  · rintro ⟨key, member, destroyed, listed⟩
    obtain ⟨view, found, same⟩ := Option.map_eq_some_iff.mp listed
    refine ⟨key, member, (Option.any_eq_true _ _).mpr ⟨view, found, ?_⟩⟩
    exact decide_eq_true (congrArg Prod.fst same)

namespace Announced

variable {deeds : List Deed} {core : Core} {deed : Deed}

theorem initial : Announced [] Core.initial where
  length := rfl
  created _ _ _ found := nomatch found
  fresh _ := fun ⟨_, found, _⟩ => nomatch found
  stale _ _ := .inr nofun

/-- A deed that creates and announces nothing and keeps the faces of all views. -/
theorem keep (announced : Announced deeds core) (other : deed.created? = none) {later : Core}
    (faces : later.faces = core.faces) (next : later.nextView = core.nextView)
    (releasing : later.releasing = core.releasing) (lifecycle : later.lifecycle = core.lifecycle) :
    Announced (deeds ++ [deed]) later := by
  have fresh : Fresh (deeds ++ [deed]) later = Fresh deeds core := by
    funext id
    simp only [Fresh, faces, creations_snoc_of_none deeds other]
  have torn : later.Torn = core.Torn := by
    funext id
    simp only [Torn, IsAt, faces, releasing]
  refine ⟨?_, ?_, ?_, ?_⟩
  · rw [creations_snoc_of_none deeds other, next]
    exact announced.length
  · rw [creations_snoc_of_none deeds other, faces]
    exact announced.created
  · rw [fresh, torn, lifecycle]
    exact announced.fresh
  · rw [fresh, torn, lifecycle]
    exact announced.stale

/-- Every view was made by one of the creations. -/
theorem lt_length (announced : Announced deeds core) {key : ObjectKey} {face : UInt64 × Bool}
    (found : core.faces.find? key = some face) : key < (creations deeds).length := by
  obtain ⟨amid, listed⟩ := announced.created key face.1 face.2 found
  exact (List.getElem?_eq_some_iff.mp listed).1

theorem creations_create (deeds : List Deed) (address : UInt64) (amid : Bool) :
    creations (deeds ++ [.create address amid]) = creations deeds ++ [(address, amid)] :=
  List.filterMap_append

/-- After a creation the last event about its address is the registration. -/
theorem last?_create (core : Core) (address id : UInt64) (amid : Bool) :
    LifecycleEvent.last? (core.after (.create address amid)).lifecycle id =
      if address = id then some (.registered address)
      else LifecycleEvent.last? core.lifecycle id := LifecycleEvent.last?_snoc _ _ _

theorem torn_create (sound : core.Sound) {address : UInt64} (given : address ≠ 0) (amid : Bool)
    (id : UInt64) : (core.after (.create address amid)).Torn id ↔ core.Torn id := by
  constructor
  · rintro ⟨key, member, destroyed, listed⟩
    obtain ⟨view, found, _⟩ := sound.releasing key member
    rw [faces_create given, Table.find?_insert_of_ne _ _ (sound.ne_next found)] at listed
    exact ⟨key, member, destroyed, listed⟩
  · rintro ⟨key, member, held⟩
    exact ⟨key, member, held.create sound given amid⟩

/-- No undestroyed view has a free address. -/
theorem not_fresh_of_free (sound : core.Sound) {address : UInt64} (free : core.Free address) :
    ¬Fresh deeds core address := by
  rintro ⟨key, listed, _⟩
  obtain ⟨view, found, face⟩ := view_of_face listed
  have living : view.isDestroyed = false := congrArg Prod.snd face
  have handle := (sound.views key view found).handle_of_living living
  exact free key view found living (by rw [handle]; exact congrArg Prod.fst face)

/-- A new view is fresh unless a view of its address is being torn down. -/
theorem fresh_create (announced : Announced deeds core) {address : UInt64}
    (given : address ≠ 0) (amid : Bool) (id : UInt64) :
    Fresh (deeds ++ [.create address amid]) (core.after (.create address amid)) id ↔
      Fresh deeds core id ∨ (id = address ∧ amid = false) := by
  have newest : (creations (deeds ++ [.create address amid]))[core.nextView]? =
      some (address, amid) := by
    rw [creations_create, ← announced.length, List.getElem?_append_right (Nat.le_refl _),
      Nat.sub_self]
    rfl
  constructor
  · rintro ⟨key, listed, made⟩
    rw [faces_create given, Table.find?_insert] at listed
    split at listed
    next same =>
      cases listed
      rw [same, newest] at made
      cases made
      exact .inr ⟨rfl, rfl⟩
    next =>
      rw [creations_create, List.getElem?_append_left (announced.lt_length listed)] at made
      exact .inl ⟨key, listed, made⟩
  · rintro (⟨key, listed, made⟩ | ⟨rfl, rfl⟩)
    · have earlier := announced.lt_length listed
      have different : key ≠ core.nextView := announced.length ▸ Nat.ne_of_lt earlier
      refine ⟨key, ?_, ?_⟩
      · rw [faces_create given, Table.find?_insert_of_ne _ _ different, listed]
      · rw [creations_create, List.getElem?_append_left earlier, made]
    · exact ⟨core.nextView, by rw [faces_create given, Table.find?_insert_self], newest⟩

/-- A creation at a free address keeps events and registry in agreement. -/
theorem create (announced : Announced deeds core) (sound : core.Sound) {address : UInt64}
    (given : address ≠ 0) (free : core.Free address) (amid : Bool)
    (same : amid = core.releases address) :
    Announced (deeds ++ [.create address amid]) (core.after (.create address amid)) := by
  refine ⟨?_, ?_, ?_, ?_⟩
  · rw [creations_create, List.length_append, announced.length]
    rfl
  · intro key id destroyed found
    rw [creations_create]
    rw [faces_create given, Table.find?_insert] at found
    split at found
    next newest =>
      cases found
      refine ⟨amid, ?_⟩
      rw [newest, ← announced.length, List.getElem?_append_right (Nat.le_refl _), Nat.sub_self]
      rfl
    next =>
      obtain ⟨earlier, made⟩ := announced.created key id destroyed found
      exact ⟨earlier, by rw [List.getElem?_append_left (announced.lt_length found), made]⟩
  · intro id fresh
    rw [torn_create sound given, last?_create]
    rcases (announced.fresh_create given amid id).mp fresh with old | ⟨rfl, alone⟩
    · -- The address is free, so it is not the one of a fresh view.
      have different : address ≠ id := by
        rintro rfl
        exact not_fresh_of_free sound free old
      rw [if_neg different]
      exact announced.fresh id old
    · rw [if_pos rfl]
      refine ⟨rfl, fun torn => ?_⟩
      rw [(releases_iff core id).mpr torn, alone] at same
      cases same
  · intro id stale
    rw [torn_create sound given, last?_create]
    have unfresh := mt (announced.fresh_create given amid id).mpr stale
    rw [not_or] at unfresh
    by_cases here : address = id
    · subst here
      have torn : amid = true := by simpa using unfresh.2
      exact .inl ((releases_iff core address).mp (same.symm.trans torn))
    · rw [if_neg here]
      exact announced.stale id unfresh.1

/-! ### Clearing -/

section Clearing

variable {key : ObjectKey} {view : View Action} (dropped : Bool)
  (found : core.views.find? key = some view)

include found

/-- Clearing a view leaves the faces at other addresses. -/
theorem faces_clear_of_ne {id : UInt64} (different : id ≠ view.objectId) {other : ObjectKey}
    {destroyed : Bool} :
    (core.after (.clear key dropped)).faces.find? other = some (id, destroyed) ↔
      core.faces.find? other = some (id, destroyed) := by
  rw [faces_clear dropped found, Table.find?_insert]
  by_cases same : other = key
  · rw [if_pos same, same, find?_faces found]
    exact iff_of_false (fun equal => different (congrArg Prod.fst (Option.some.inj equal)).symm)
      fun equal => different (congrArg Prod.fst (Option.some.inj equal)).symm
  · rw [if_neg same]

/-- Clearing a view leaves what is fresh at other addresses. -/
theorem fresh_clear_of_ne {id : UInt64} (different : id ≠ view.objectId) :
    Fresh (deeds ++ [.clear key dropped]) (core.after (.clear key dropped)) id ↔
      Fresh deeds core id := by
  have list : creations (deeds ++ [.clear key dropped]) = creations deeds :=
    creations_snoc_of_none deeds rfl
  simp only [Fresh, faces_clear_of_ne dropped found different, list]

theorem releasing_clear :
    (core.after (.clear key dropped)).releasing = key :: core.releasing := by
  rw [after_clear dropped found]

/-- A cleared view is being torn down. -/
theorem torn_clear : (core.after (.clear key dropped)).Torn view.objectId := by
  refine ⟨key, ?_, true, ?_⟩
  · rw [releasing_clear dropped found]
    exact List.mem_cons_self
  · rw [faces_clear dropped found, Table.find?_insert_self]

/-- Clearing a view tears down nothing at other addresses. -/
theorem torn_clear_of_ne {id : UInt64} (different : id ≠ view.objectId) :
    (core.after (.clear key dropped)).Torn id ↔ core.Torn id := by
  constructor
  · rintro ⟨other, member, destroyed, listed⟩
    have before := (faces_clear_of_ne dropped found different).mp listed
    have apart : other ≠ key := by
      rintro rfl
      rw [find?_faces found] at before
      exact different (congrArg Prod.fst (Option.some.inj before)).symm
    rw [releasing_clear dropped found] at member
    exact ⟨other, (List.mem_cons.mp member).resolve_left apart, destroyed, before⟩
  · rintro ⟨other, member, held⟩
    refine ⟨other, ?_, held.clear dropped found⟩
    rw [releasing_clear dropped found]
    exact List.mem_cons_of_mem _ member

/-- No other undestroyed view has the id of a cleared one. -/
theorem not_fresh_clear (exclusive : core.Exclusive) (living : view.isDestroyed = false) :
    ¬Fresh (deeds ++ [.clear key dropped]) (core.after (.clear key dropped)) view.objectId := by
  rintro ⟨other, listed, _⟩
  rw [faces_clear dropped found, Table.find?_insert] at listed
  split at listed
  · cases listed
  next different =>
    obtain ⟨rival, present, face⟩ := view_of_face listed
    have entered := exclusive other rival present (congrArg Prod.snd face)
    have named : rival.objectId = view.objectId := congrArg Prod.fst face
    rw [named, exclusive key view found living] at entered
    exact different (Option.some.inj entered).symm

end Clearing

/-- A cleared view is torn down, and no other undestroyed view has its id. -/
theorem clear (announced : Announced deeds core) (exclusive : core.Exclusive) {key : ObjectKey}
    {view : View Action} (dropped : Bool) (found : core.views.find? key = some view)
    (living : view.isDestroyed = false) :
    Announced (deeds ++ [.clear key dropped]) (core.after (.clear key dropped)) := by
  have list : creations (deeds ++ [.clear key dropped]) = creations deeds :=
    creations_snoc_of_none deeds rfl
  have last : (core.after (.clear key dropped)).lifecycle = core.lifecycle := by
    rw [after_clear dropped found]
  refine ⟨?_, ?_, ?_, ?_⟩
  · rw [list, announced.length, after_clear dropped found]
  · intro other id destroyed listed
    rw [faces_clear dropped found, Table.find?_insert] at listed
    rw [list]
    split at listed
    next same =>
      cases listed
      exact announced.created other _ _ (same ▸ find?_faces found)
    next => exact announced.created other id destroyed listed
  · intro id fresh
    have different : id ≠ view.objectId := by
      rintro rfl
      exact not_fresh_clear dropped found exclusive living fresh
    rw [last, torn_clear_of_ne dropped found different]
    exact announced.fresh id ((fresh_clear_of_ne dropped found different).mp fresh)
  · intro id stale
    by_cases here : id = view.objectId
    · exact .inl (here ▸ torn_clear dropped found)
    · rw [last, torn_clear_of_ne dropped found here]
      exact announced.stale id (mt (fresh_clear_of_ne dropped found here).mpr stale)

/-! ### Retiring -/

section Retiring

variable {key : ObjectKey} {view : View Action} (found : core.views.find? key = some view)

include found

/-- After a view is retired the last event about its address is the release. -/
theorem last?_retire (id : UInt64) :
    LifecycleEvent.last? (core.after (.retire key)).lifecycle id =
      if view.objectId = id then some (.released view.objectId)
      else LifecycleEvent.last? core.lifecycle id := by
  obtain ⟨slots, settled, later⟩ := after_retire found
  rw [later]
  exact LifecycleEvent.last?_snoc _ _ _

theorem fresh_retire :
    Fresh (deeds ++ [.retire key]) (core.after (.retire key)) = Fresh deeds core := by
  have list : creations (deeds ++ [.retire key]) = creations deeds :=
    creations_snoc_of_none deeds rfl
  funext id
  simp only [Fresh, faces_retire found, list]

/-- Retiring a view ends no other teardown. -/
theorem torn_retire_of_ne (first : core.releasing.head? = some key) {id : UInt64}
    (different : view.objectId ≠ id) : (core.after (.retire key)).Torn id ↔ core.Torn id := by
  obtain ⟨rest, torn⟩ := List.head?_eq_some_iff.mp first
  obtain ⟨slots, settled, later⟩ := after_retire found
  have left : (core.after (.retire key)).releasing = rest := by
    rw [later, torn, List.tail_cons]
  simp only [Torn, IsAt, faces_retire found, left]
  constructor
  · rintro ⟨other, kept, held⟩
    exact ⟨other, torn ▸ List.mem_cons_of_mem _ kept, held⟩
  · rintro ⟨other, kept, destroyed, listed⟩
    have apart : other ≠ key := by
      rintro rfl
      rw [find?_faces found] at listed
      exact different (congrArg Prod.fst (Option.some.inj listed))
    rw [torn] at kept
    exact ⟨other, (List.mem_cons.mp kept).resolve_left apart, destroyed, listed⟩

end Retiring

/-- The end of a destruction is announced; a fresh view has another id. -/
theorem retire (announced : Announced deeds core) (sound : core.Sound) {key : ObjectKey}
    (first : core.releasing.head? = some key) :
    Announced (deeds ++ [.retire key]) (core.after (.retire key)) := by
  have member : key ∈ core.releasing := List.mem_of_mem_head? first
  obtain ⟨view, found, _⟩ := sound.releasing key member
  have list : creations (deeds ++ [.retire key]) = creations deeds :=
    creations_snoc_of_none deeds rfl
  have torn_here : core.Torn view.objectId := ⟨key, member, view.isDestroyed, find?_faces found⟩
  refine ⟨?_, ?_, ?_, ?_⟩
  · obtain ⟨slots, settled, later⟩ := after_retire found
    rw [list, announced.length, later]
  · rw [list, faces_retire found]
    exact announced.created
  · intro id fresh
    rw [fresh_retire found] at fresh
    have told := announced.fresh id fresh
    have different : view.objectId ≠ id := by
      rintro rfl
      exact told.2 torn_here
    rw [last?_retire found, if_neg different, torn_retire_of_ne found first different]
    exact told
  · intro id stale
    rw [fresh_retire found] at stale
    by_cases here : view.objectId = id
    · rw [last?_retire found, if_pos here]
      exact .inr nofun
    · rw [last?_retire found, if_neg here, torn_retire_of_ne found first here]
      exact announced.stale id stale

/-- Every deed at a free address keeps events and registry in agreement. -/
theorem after (announced : Announced deeds core) (sound : core.Sound) (exclusive : core.Exclusive)
    (loud : deed.isQuiet = false) (enabled : core.Enables Free deed) :
    Announced (deeds ++ [deed]) (core.after deed) := by
  cases deed with
  | create address amid =>
      exact announced.create sound enabled.1 enabled.2.2 amid enabled.2.1
  | letGo key => exact announced.keep rfl faces_letGo rfl rfl rfl
  | clear key dropped =>
      obtain ⟨view, found, living⟩ := enabled
      exact announced.clear exclusive dropped found living
  | retire key => exact announced.retire sound enabled
  | invoke key =>
      obtain ⟨view, found, _⟩ := enabled
      rw [after_invoke found]
      exact announced.keep rfl rfl rfl rfl rfl
  | _ => cases loud

end Announced

/-- What was announced, if the engine hands out free addresses. -/
theorem Reached.announced {deeds : List Deed} {core : Core} (reached : Reached Free deeds core) :
    core.outline.Sound ∧ core.outline.Exclusive ∧ Announced deeds core.outline := by
  apply reached.outlined isOutlined_free
    fun deeds core => core.Sound ∧ core.Exclusive ∧ Announced deeds core
  · exact ⟨.initial, .initial, .initial⟩
  · intro deeds core deed quiet ⟨sound, exclusive, announced⟩
    have other : deed.created? = none := by
      cases deed with
      | create address amid => cases quiet
      | _ => rfl
    exact ⟨sound, exclusive, announced.keep other rfl rfl rfl rfl⟩
  · intro deeds core deed loud enabled ⟨sound, exclusive, announced⟩
    exact ⟨sound.after loud enabled, exclusive.after sound loud enabled,
      announced.after sound exclusive loud enabled⟩

end Core

/-- The last announcement about an id on a bus. -/
def lastAnnounced (bus : Bus) (id : UInt64) : Option LifecycleEvent :=
  LifecycleEvent.last? (bus.emitted.filterMap Event.reachability?) id

/-- The registry finds an undestroyed view under its id, and nothing else. -/
theorem Machine.lookup_iff_face (machine : Machine) (sound : machine.core.outline.Sound)
    (exclusive : machine.core.outline.Exclusive) (id : UInt64) (key : ObjectKey) :
    machine.state.context.registry.lookup machine.state.context.alive id = some key ↔
      machine.core.outline.faces.find? key = some (id, false) := by
  constructor
  · intro found
    obtain ⟨entered, _⟩ := (Registry.lookup_eq_some_iff _ _ _ _).mp found
    obtain ⟨view, listed, named, living⟩ := sound.entries id key entered
    rw [Core.find?_faces listed, View.face, named, living]
  · intro listed
    obtain ⟨face, present, same⟩ := Core.view_of_face listed
    obtain ⟨view, found, bare⟩ := machine.view?_of_outline present
    subst bare
    have named : view.objectId = id := congrArg Prod.fst same
    rw [← named]
    exact (machine.leadsToAll sound exclusive).found key view found (congrArg Prod.snd same)

namespace Run

variable {visited : List Machine} {machine : Machine}

/-- Between actions, the last announcement about an id tells whether the registry finds a view under
it, unless the view that it finds was created while another of its address was torn down. -/
theorem announcement (run : Run visited machine)
    (exclusive : ∀ earlier ∈ visited, earlier.HandsOutFree) (idle : machine.reply?.isSome)
    (id : UInt64) :
    (lastAnnounced machine.state.context.bus id = some (.registered id) ↔
        (machine.state.context.registry.lookup machine.state.context.alive id).isSome) ↔
      ¬∃ key, machine.state.context.registry.lookup machine.state.context.alive id = some key ∧
        (creations (history visited))[key]? = some (id, true) := by
  obtain ⟨sound, all, announced⟩ := (run.reached_free exclusive).announced
  have calm : ¬machine.core.outline.Torn id := by
    rintro ⟨key, member, _⟩
    have torn : key ∈ machine.stack.filterMap Frame.release? := member
    rw [Machine.stack_of_idle idle] at torn
    cases torn
  -- Nothing is torn down between actions, so what is stale was not announced as registered last.
  have told : lastAnnounced machine.state.context.bus id = some (.registered id) ↔
      Core.Fresh (history visited) machine.core.outline id := by
    constructor
    · intro last
      by_contra stale
      exact (announced.stale id stale).elim calm fun other => other last
    · exact fun fresh => (announced.fresh id fresh).1
  rw [told]
  cases found : machine.state.context.registry.lookup machine.state.context.alive id with
  | none =>
      have stale : ¬Core.Fresh (history visited) machine.core.outline id := by
        rintro ⟨key, listed, _⟩
        rw [(machine.lookup_iff_face sound all id key).mpr listed] at found
        cases found
      refine iff_of_true (iff_of_false stale nofun) ?_
      rintro ⟨key, other, _⟩
      cases other
  | some key =>
      have listed := (machine.lookup_iff_face sound all id key).mp found
      obtain ⟨amid, made⟩ := announced.created key id false listed
      cases amid with
      | false =>
          refine iff_of_true (iff_of_true ⟨key, listed, made⟩ rfl) ?_
          rintro ⟨_, ⟨⟩, other⟩
          rw [made] at other
          cases other
      | true =>
          have stale : ¬Core.Fresh (history visited) machine.core.outline id := by
            rintro ⟨other, present, alone⟩
            rw [(machine.lookup_iff_face sound all id other).mpr present] at found
            cases found
            rw [made] at alone
            cases alone
          exact iff_of_false (fun equal => stale (equal.mpr rfl)) fun none =>
            none ⟨key, rfl, made⟩

/-- A view that was created on its own is announced as what it is. -/
theorem announcement_of_creation :
    lastAnnounced (Machine.start .withWeb (.createView "page")).step.state.context.bus 0x1000 =
      some (.registered 0x1000) := by
  have run := Run.step (.start State.new_withWeb (.createView "page"))
  have exclusive : ∀ earlier ∈ [Machine.start .withWeb (.createView "page")],
      earlier.HandsOutFree := by
    intro earlier member address amid asked key view found
    cases List.mem_singleton.mp member
    cases found
  refine ((run.announcement exclusive rfl 0x1000).mpr ?_).mpr rfl
  rintro ⟨key, found, amid⟩
  cases found
  cases amid

/-- An engine that creates a view at the address that it is just taking back: the view is found, and
the last announcement says that it was released. -/
theorem announcement_lags : ∃ visited machine, Run visited machine ∧
    (∀ earlier ∈ visited, earlier.HandsOutFree) ∧ machine.reply?.isSome ∧
      lastAnnounced machine.state.context.bus 66 = some (.released 66) ∧
      machine.state.context.registry.lookup machine.state.context.alive 66 = some 1 := by
  have answers := Run.step (.start State.new_withWeb (.webAddresses [.ok 66, .ok 66]))
  have old := (answers.next rfl (.createView "old")).step
  have hook := (old.next rfl (.onRelease [.createView "new"])).step
  have destroyed := (hook.next rfl (.destroy "old")).step.step.step.step.step.step.step
  exact ⟨_, _, destroyed, by decide, rfl, rfl, rfl⟩

end Run

end Session

end HostBridge
