import HostBridge.Proofs.Session.Invariant
import Mathlib.Data.List.Forall2

/-!
# What the engine and the bus were told

Handles are cleared, views are retired and calls are made in the order of the history, and the
engine and the bus were told of each in that order, with the address of the view (`Core.Ledger`).
No view is cleared or retired twice, and none is called after it was cleared.

Main statement: every core that is reached keeps the ledger of the deeds that led to it
(`Core.Reached.ledger`).
-/

namespace HostBridge

/-- The id under which an object became reachable. -/
def LifecycleEvent.registered? : LifecycleEvent → Option UInt64
  | .registered id => some id
  | _ => none

/-- The id under which an object was released. -/
def LifecycleEvent.released? : LifecycleEvent → Option UInt64
  | .released id => some id
  | _ => none

/-- The address that a view was created with, and whether it was destroyed. -/
def View.face {σ : Type} (view : View σ) : UInt64 × Bool := (view.objectId, view.isDestroyed)

namespace Session

namespace Deed

/-- The view whose handle is cleared. -/
def cleared? : Deed → Option ObjectKey
  | .clear key _ => some key
  | _ => none

/-- The view whose destruction ends. -/
def retired? : Deed → Option ObjectKey
  | .retire key => some key
  | _ => none

/-- The view that a call is made to. -/
def invoked? : Deed → Option ObjectKey
  | .invoke key => some key
  | _ => none

/-- A deed that clears no handle, ends no destruction and makes no call. -/
structure IsSilent (deed : Deed) : Prop where
  cleared : deed.cleared? = none
  retired : deed.retired? = none
  invoked : deed.invoked? = none

theorem isSilent_of_quiet {deed : Deed} (quiet : deed.isQuiet = true) : deed.IsSilent := by
  cases deed with
  | evaluate key id continuation sent => exact ⟨rfl, rfl, rfl⟩
  | answer key id result => exact ⟨rfl, rfl, rfl⟩
  | poll slot => exact ⟨rfl, rfl, rfl⟩
  | _ => cases quiet

/-- Whether one deed may come before another: no call follows the clearing of its handle. -/
def MayPrecede (earlier later : Deed) : Prop :=
  ∀ key, earlier.cleared? = some key → later.invoked? ≠ some key

end Deed

namespace Core

/-- The addresses of all views, and which of them were destroyed. -/
def faces (core : Core) : Table ObjectKey (UInt64 × Bool) := core.views.mapValues View.face

/-- A view was created with an address. -/
def IsAt (core : Core) (key : ObjectKey) (address : UInt64) : Prop :=
  ∃ destroyed, core.faces.find? key = some (address, destroyed)

/-- A view was destroyed. -/
def IsGone (core : Core) (key : ObjectKey) : Prop :=
  ∃ address, core.faces.find? key = some (address, true)

/-- A view that is found shows its face. -/
theorem find?_faces {core : Core} {key : ObjectKey} {view : View Action}
    (found : core.views.find? key = some view) : core.faces.find? key = some view.face := by
  rw [faces, Table.find?_mapValues, found, Option.map_some]

/-! ### Faces -/

section Faces

variable {core : Core} {key : ObjectKey} {view : View Action}

/-- Behind every face there is a view. -/
theorem view_of_face {face : UInt64 × Bool} (listed : core.faces.find? key = some face) :
    ∃ view, core.views.find? key = some view ∧ view.face = face :=
  Option.map_eq_some_iff.mp ((Table.find?_mapValues _ _ _).symm.trans listed)

/-- Creating a view adds a living face under the next key. -/
theorem faces_create {address : UInt64} (given : address ≠ 0) (amid : Bool) :
    (core.after (.create address amid)).faces =
      core.faces.insert core.nextView (address, false) := by
  have living : (View.new address : View Action).face = (address, false) :=
    congrArg (Prod.mk address) (decide_eq_false given)
  rw [← living]
  exact Table.mapValues_insert _ _ _ _

/-- Letting a view go changes no face. -/
theorem faces_letGo : (core.after (.letGo key)).faces = core.faces :=
  Table.mapValues_modify_of_unseen _ _ _ _ fun _ _ => rfl

/-- Clearing a view marks its face as gone. -/
theorem faces_clear (dropped : Bool) (found : core.views.find? key = some view) :
    (core.after (.clear key dropped)).faces = core.faces.insert key (view.objectId, true) := by
  rw [after_clear dropped found]
  exact Table.mapValues_insert _ _ _ _

/-- Retiring a view changes no face: it was gone already. -/
theorem faces_retire (found : core.views.find? key = some view) :
    (core.after (.retire key)).faces = core.faces := by
  have same : core.faces.find? key = some ({ view with pending := [] } : View Action).face := by
    rw [find?_faces found]
    rfl
  obtain ⟨slots, settled, later⟩ := after_retire found
  rw [later]
  exact (Table.mapValues_insert _ _ _ _).trans (Table.insert_of_find? _ same)

/-- Creating another view moves none of those before it. -/
theorem IsAt.create (sound : core.Sound) {address given_address : UInt64}
    (given : given_address ≠ 0) (amid : Bool) (held : core.IsAt key address) :
    (core.after (.create given_address amid)).IsAt key address := by
  obtain ⟨destroyed, found⟩ := held
  refine ⟨destroyed, ?_⟩
  rw [faces_create given, Table.find?_insert_of_ne _ _, found]
  rintro rfl
  rw [faces, Table.find?_mapValues, sound.absent] at found
  cases found

/-- Clearing a view moves none. -/
theorem IsAt.clear {other : ObjectKey} {address : UInt64} (dropped : Bool)
    (found : core.views.find? key = some view) (held : core.IsAt other address) :
    (core.after (.clear key dropped)).IsAt other address := by
  obtain ⟨destroyed, listed⟩ := held
  by_cases same : other = key
  · subst same
    rw [find?_faces found] at listed
    cases listed
    exact ⟨true, by rw [faces_clear dropped found, Table.find?_insert_self]⟩
  · exact ⟨destroyed, by rw [faces_clear dropped found, Table.find?_insert_of_ne _ _ same, listed]⟩

/-- A living view shows a living face. -/
theorem face_of_living (found : core.views.find? key = some view)
    (living : view.isDestroyed = false) : core.faces.find? key = some (view.objectId, false) := by
  rw [find?_faces found, View.face, living]

/-- A living view is not gone. -/
theorem not_isGone_of_living (found : core.views.find? key = some view)
    (living : view.isDestroyed = false) : ¬core.IsGone key := by
  rintro ⟨address, listed⟩
  rw [face_of_living found living] at listed
  cases listed

/-- No view has the next key yet. -/
theorem find?_faces_next (sound : core.Sound) : core.faces.find? core.nextView = none := by
  rw [faces, Table.find?_mapValues, sound.absent, Option.map_none]

/-- Creating a view makes none gone. -/
theorem isGone_create (sound : core.Sound) {address : UInt64} (given : address ≠ 0) (amid : Bool)
    (other : ObjectKey) :
    (core.after (.create address amid)).IsGone other ↔ core.IsGone other := by
  constructor
  · rintro ⟨gone_address, found⟩
    rw [faces_create given, Table.find?_insert] at found
    split at found
    · cases found
    · exact ⟨gone_address, found⟩
  · rintro ⟨gone_address, found⟩
    have different : other ≠ core.nextView := by
      rintro rfl
      rw [find?_faces_next sound] at found
      cases found
    exact ⟨gone_address, by rw [faces_create given, Table.find?_insert_of_ne _ _ different, found]⟩

/-- Clearing a view makes that one gone and no other. -/
theorem isGone_clear (dropped : Bool) (found : core.views.find? key = some view)
    (living : view.isDestroyed = false) (other : ObjectKey) :
    (core.after (.clear key dropped)).IsGone other ↔ core.IsGone other ∨ other = key := by
  have faces := faces_clear dropped found
  constructor
  · rintro ⟨address, listed⟩
    rw [faces, Table.find?_insert] at listed
    split at listed
    next same => exact .inr same
    next => exact .inl ⟨address, listed⟩
  · rintro (⟨address, listed⟩ | rfl)
    · have different : other ≠ key := by
        rintro rfl
        exact not_isGone_of_living found living ⟨address, listed⟩
      exact ⟨address, by rw [faces, Table.find?_insert_of_ne _ _ different, listed]⟩
    · exact ⟨view.objectId, by rw [faces, Table.find?_insert_self]⟩

/-- Clearing a view leaves the addresses that views were created at. -/
theorem addresses_clear (dropped : Bool) (found : core.views.find? key = some view) :
    (core.after (.clear key dropped)).faces.values.map Prod.fst =
      core.faces.values.map Prod.fst := by
  have named : (core.faces.mapValues Prod.fst).find? key = some view.objectId := by
    rw [Table.find?_mapValues, find?_faces found, Option.map_some, View.face]
  have mapped : (core.faces.insert key (view.objectId, true)).mapValues Prod.fst =
      core.faces.mapValues Prod.fst :=
    (Table.mapValues_insert _ _ _ _).trans (Table.insert_of_find? _ named)
  rw [faces_clear dropped found]
  simpa only [Table.values_mapValues] using congrArg Table.values mapped

end Faces

/-- What the engine and the bus were told of the deeds so far. -/
structure Ledger (deeds : List Deed) (core : Core) : Prop where
  created : core.created = core.faces.values.map Prod.fst
  released : List.Forall₂ core.IsAt (deeds.filterMap Deed.cleared?) core.released
  clearedOnce : (deeds.filterMap Deed.cleared?).Nodup
  cleared : ∀ key, key ∈ deeds.filterMap Deed.cleared? ↔ core.IsGone key
  registered : core.lifecycle.filterMap LifecycleEvent.registered? = core.created
  unregistered : List.Forall₂ core.IsAt (deeds.filterMap Deed.retired?)
    (core.lifecycle.filterMap LifecycleEvent.released?)
  retiredOnce : (deeds.filterMap Deed.retired?).Nodup
  retired : ∀ key, key ∈ deeds.filterMap Deed.retired? ↔
    core.IsGone key ∧ key ∉ core.releasing
  invoked : List.Forall₂ core.IsAt (deeds.filterMap Deed.invoked?) core.invoked
  order : deeds.Pairwise Deed.MayPrecede

namespace Ledger

variable {deeds : List Deed} {core : Core} {deed : Deed}

theorem initial : Ledger [] Core.initial where
  created := rfl
  released := .nil
  clearedOnce := .nil
  cleared _ := ⟨fun member => (nomatch member), fun ⟨_, found⟩ => (nomatch found)⟩
  registered := rfl
  unregistered := .nil
  retiredOnce := .nil
  retired _ := ⟨fun member => (nomatch member), fun ⟨⟨_, found⟩, _⟩ => (nomatch found)⟩
  invoked := .nil
  order := .nil

/-- A deed that invokes nothing may follow whatever was done before. -/
theorem order_of_uninvoked (ledger : Ledger deeds core) (uninvoked : deed.invoked? = none) :
    (deeds ++ [deed]).Pairwise Deed.MayPrecede := by
  refine List.pairwise_append.mpr ⟨ledger.order, List.pairwise_singleton _ _, ?_⟩
  intro earlier _ later member key _
  rw [List.mem_singleton.mp member, uninvoked]
  exact nofun

theorem filterMap_snoc_of_none {α : Type} {read : Deed → Option α} (unread : read deed = none) :
    (deeds ++ [deed]).filterMap read = deeds.filterMap read := by
  rw [List.filterMap_append, List.filterMap_cons, unread, List.filterMap_nil, List.append_nil]

theorem filterMap_snoc_of_some {α : Type} {read : Deed → Option α} {a : α}
    (done : read deed = some a) :
    (deeds ++ [deed]).filterMap read = deeds.filterMap read ++ [a] := by
  rw [List.filterMap_append, List.filterMap_cons, done, List.filterMap_nil]

/-- A silent deed that keeps the faces of all views. -/
theorem silent (ledger : Ledger deeds core) (silent : deed.IsSilent)
    {views : Table ObjectKey (View Action)} (same : views.mapValues View.face = core.faces) :
    Ledger (deeds ++ [deed]) { core with views := views } := by
  have isAt : ({ core with views := views } : Core).IsAt = core.IsAt := by
    funext key address
    simp only [IsAt, faces, same]
  have isGone : ({ core with views := views } : Core).IsGone = core.IsGone := by
    funext key
    simp only [IsGone, faces, same]
  have order := ledger.order_of_uninvoked silent.invoked
  refine ⟨?_, ?_, ?_, ?_, ledger.registered, ?_, ?_, ?_, ?_, order⟩
  · simp only [faces, same, ledger.created]
  · rw [filterMap_snoc_of_none silent.cleared, isAt]
    exact ledger.released
  · rw [filterMap_snoc_of_none silent.cleared]
    exact ledger.clearedOnce
  · rw [filterMap_snoc_of_none silent.cleared, isGone]
    exact ledger.cleared
  · rw [filterMap_snoc_of_none silent.retired, isAt]
    exact ledger.unregistered
  · rw [filterMap_snoc_of_none silent.retired]
    exact ledger.retiredOnce
  · rw [filterMap_snoc_of_none silent.retired, isGone]
    exact ledger.retired
  · rw [filterMap_snoc_of_none silent.invoked, isAt]
    exact ledger.invoked

/-- A new view comes with its creation and its announcement. -/
theorem create (ledger : Ledger deeds core) (sound : core.Sound) {address : UInt64}
    (given : address ≠ 0) (amid : Bool) :
    Ledger (deeds ++ [.create address amid]) (core.after (.create address amid)) := by
  have absent := find?_faces_next sound
  have isAt (key : ObjectKey) (at_address : UInt64) (held : core.IsAt key at_address) :
      (core.after (.create address amid)).IsAt key at_address := held.create sound given amid
  have isGone := isGone_create sound given amid
  refine ⟨?_, ?_, ?_, ?_, ?_, ?_, ?_, ?_, ?_, ledger.order_of_uninvoked rfl⟩
  · rw [faces_create given, Table.values, Table.entries_insert_of_absent _ _ absent,
      List.map_append, List.map_append]
    exact congrArg (· ++ [address]) ledger.created
  · rw [filterMap_snoc_of_none rfl]
    exact ledger.released.imp isAt
  · rw [filterMap_snoc_of_none rfl]
    exact ledger.clearedOnce
  · intro key
    rw [filterMap_snoc_of_none rfl, isGone]
    exact ledger.cleared key
  · change (core.lifecycle ++ [_]).filterMap _ = _
    rw [List.filterMap_append, ledger.registered]
    rfl
  · change List.Forall₂ _ _ ((core.lifecycle ++ [_]).filterMap _)
    have unreleased : [LifecycleEvent.registered address].filterMap
        LifecycleEvent.released? = [] := rfl
    rw [filterMap_snoc_of_none rfl, List.filterMap_append, unreleased, List.append_nil]
    exact ledger.unregistered.imp isAt
  · rw [filterMap_snoc_of_none rfl]
    exact ledger.retiredOnce
  · intro key
    rw [filterMap_snoc_of_none rfl, isGone]
    exact ledger.retired key
  · rw [filterMap_snoc_of_none rfl]
    exact ledger.invoked.imp isAt

/-- A cleared handle hands back the address that its view was created with. -/
theorem clear (ledger : Ledger deeds core) (sound : core.Sound) {key : ObjectKey}
    {view : View Action} (dropped : Bool) (found : core.views.find? key = some view)
    (living : view.isDestroyed = false) :
    Ledger (deeds ++ [.clear key dropped]) (core.after (.clear key dropped)) := by
  have handle := (sound.views key view found).handle_of_living living
  have isAt (other : ObjectKey) (address : UInt64) (held : core.IsAt other address) :
      (core.after (.clear key dropped)).IsAt other address := held.clear dropped found
  have isGone := isGone_clear dropped found living
  have present := not_isGone_of_living found living
  have done : (deeds ++ [Deed.clear key dropped]).filterMap Deed.cleared? =
      deeds.filterMap Deed.cleared? ++ [key] := filterMap_snoc_of_some rfl
  -- The handle still holds the address that the view was created with.
  have told : (core.after (.clear key dropped)).released = core.released ++ [view.objectId] := by
    rw [after_clear dropped found, handle]
  have new : key ∉ deeds.filterMap Deed.cleared? := fun member =>
    present ((ledger.cleared key).mp member)
  refine ⟨?_, ?_, ?_, ?_, ?_, ?_, ?_, ?_, ?_, ledger.order_of_uninvoked rfl⟩
  · rw [addresses_clear dropped found, after_clear dropped found]
    exact ledger.created
  · rw [done, told]
    exact List.rel_append (ledger.released.imp isAt)
      (.cons ⟨true, by rw [faces_clear dropped found, Table.find?_insert_self]⟩ .nil)
  · rw [done, ← List.concat_eq_append]
    exact ledger.clearedOnce.concat new
  · intro other
    rw [done, List.mem_append, List.mem_singleton, ledger.cleared, isGone]
  · rw [after_clear dropped found]
    exact ledger.registered
  · have unchanged : (core.after (.clear key dropped)).lifecycle = core.lifecycle := by
      rw [after_clear dropped found]
    rw [filterMap_snoc_of_none rfl, unchanged]
    exact ledger.unregistered.imp isAt
  · rw [filterMap_snoc_of_none rfl]
    exact ledger.retiredOnce
  · intro other
    have torn : (core.after (.clear key dropped)).releasing = key :: core.releasing := by
      rw [after_clear dropped found]
    rw [filterMap_snoc_of_none rfl, ledger.retired, isGone, torn, List.mem_cons, not_or]
    constructor
    · rintro ⟨gone, kept⟩
      refine ⟨.inl gone, ?_, kept⟩
      rintro rfl
      exact present gone
    · rintro ⟨gone | same, different, kept⟩
      · exact ⟨gone, kept⟩
      · exact absurd same different
  · have unchanged : (core.after (.clear key dropped)).invoked = core.invoked := by
      rw [after_clear dropped found]
    rw [filterMap_snoc_of_none rfl, unchanged]
    exact ledger.invoked.imp isAt

/-- A view whose destruction ends is announced with its address. -/
theorem retire (ledger : Ledger deeds core) (sound : core.Sound) {key : ObjectKey}
    (first : core.releasing.head? = some key) :
    Ledger (deeds ++ [.retire key]) (core.after (.retire key)) := by
  obtain ⟨rest, torn⟩ := List.head?_eq_some_iff.mp first
  have member : key ∈ core.releasing := torn ▸ List.mem_cons_self
  obtain ⟨view, found, destroyed⟩ := sound.releasing key member
  have face : core.faces.find? key = some (view.objectId, true) := by
    rw [find?_faces found, View.face, destroyed]
  obtain ⟨slots, settled, later⟩ := after_retire found
  have faces := faces_retire found
  have isAt : (core.after (.retire key)).IsAt = core.IsAt := by
    funext other address
    rw [IsAt, faces, IsAt]
  have isGone : (core.after (.retire key)).IsGone = core.IsGone := by
    funext other
    rw [IsGone, faces, IsGone]
  have done : (deeds ++ [Deed.retire key]).filterMap Deed.retired? =
      deeds.filterMap Deed.retired? ++ [key] := filterMap_snoc_of_some rfl
  have told : (core.after (.retire key)).lifecycle =
      core.lifecycle ++ [.released view.objectId] := by
    rw [later]
  have new : key ∉ deeds.filterMap Deed.retired? := fun retired =>
    ((ledger.retired key).mp retired).2 member
  refine ⟨?_, ?_, ?_, ?_, ?_, ?_, ?_, ?_, ?_, ledger.order_of_uninvoked rfl⟩
  · rw [faces, later]
    exact ledger.created
  · rw [filterMap_snoc_of_none rfl, isAt, later]
    exact ledger.released
  · rw [filterMap_snoc_of_none rfl]
    exact ledger.clearedOnce
  · rw [filterMap_snoc_of_none rfl, isGone]
    exact ledger.cleared
  · have silent : [LifecycleEvent.released view.objectId].filterMap
        LifecycleEvent.registered? = [] := rfl
    rw [told, List.filterMap_append, silent, List.append_nil, later]
    exact ledger.registered
  · rw [done, told, List.filterMap_append, isAt]
    exact List.rel_append ledger.unregistered (.cons ⟨true, face⟩ .nil)
  · rw [done, ← List.concat_eq_append]
    exact ledger.retiredOnce.concat new
  · intro other
    have left : (core.after (.retire key)).releasing = rest := by
      rw [later, torn, List.tail_cons]
    have nodup := sound.nodup
    rw [torn, List.nodup_cons] at nodup
    rw [done, List.mem_append, List.mem_singleton, ledger.retired, isGone, left, torn,
      List.mem_cons, not_or]
    constructor
    · rintro (⟨gone, _, kept⟩ | rfl)
      · exact ⟨gone, kept⟩
      · exact ⟨⟨view.objectId, face⟩, nodup.1⟩
    · rintro ⟨gone, kept⟩
      by_cases same : other = key
      · exact .inr same
      · exact .inl ⟨gone, same, kept⟩
  · rw [filterMap_snoc_of_none rfl, isAt, later]
    exact ledger.invoked

/-- A call goes to a view that was not cleared. -/
theorem invoke (ledger : Ledger deeds core) (sound : core.Sound) {key : ObjectKey}
    {view : View Action} (found : core.views.find? key = some view)
    (living : view.isDestroyed = false) :
    Ledger (deeds ++ [.invoke key]) (core.after (.invoke key)) := by
  have handle := (sound.views key view found).handle_of_living living
  have face := face_of_living found living
  have done : (deeds ++ [Deed.invoke key]).filterMap Deed.invoked? =
      deeds.filterMap Deed.invoked? ++ [key] := filterMap_snoc_of_some rfl
  have uncleared : key ∉ deeds.filterMap Deed.cleared? := fun member =>
    not_isGone_of_living found living ((ledger.cleared key).mp member)
  rw [after_invoke found]
  refine ⟨ledger.created, ?_, ?_, ?_, ledger.registered, ?_, ?_, ?_, ?_, ?_⟩
  · rw [filterMap_snoc_of_none rfl]
    exact ledger.released
  · rw [filterMap_snoc_of_none rfl]
    exact ledger.clearedOnce
  · rw [filterMap_snoc_of_none rfl]
    exact ledger.cleared
  · rw [filterMap_snoc_of_none rfl]
    exact ledger.unregistered
  · rw [filterMap_snoc_of_none rfl]
    exact ledger.retiredOnce
  · rw [filterMap_snoc_of_none rfl]
    exact ledger.retired
  · rw [done, handle]
    exact List.rel_append ledger.invoked (.cons ⟨false, face⟩ .nil)
  · refine List.pairwise_append.mpr ⟨ledger.order, List.pairwise_singleton _ _, ?_⟩
    intro earlier before later member cleared was_cleared
    cases List.mem_singleton.mp member
    rintro ⟨⟩
    exact uncleared (List.mem_filterMap.mpr ⟨earlier, before, was_cleared⟩)

/-- Every deed that is enabled keeps the ledger. -/
theorem after {rule : Core → UInt64 → Prop} (ledger : Ledger deeds core) (sound : core.Sound)
    (loud : deed.isQuiet = false) (enabled : core.Enables rule deed) :
    Ledger (deeds ++ [deed]) (core.after deed) := by
  cases deed with
  | create address amid => exact ledger.create sound enabled.1 amid
  | letGo key =>
      exact ledger.silent ⟨rfl, rfl, rfl⟩ faces_letGo
  | clear key dropped =>
      obtain ⟨view, found, living⟩ := enabled
      exact ledger.clear sound dropped found living
  | retire key => exact ledger.retire sound enabled
  | invoke key =>
      obtain ⟨view, found, living⟩ := enabled
      exact ledger.invoke sound found living
  | _ => cases loud

end Ledger

/-- Every core that is reached keeps the ledger of its deeds. -/
theorem Reached.ledger {rule : Core → UInt64 → Prop} (outlined : IsOutlined rule)
    {deeds : List Deed} {core : Core} (reached : Reached rule deeds core) :
    core.outline.Sound ∧ Ledger deeds core.outline := by
  apply reached.outlined outlined fun deeds core => core.Sound ∧ Ledger deeds core
  · exact ⟨.initial, .initial⟩
  · exact fun _ _ _ quiet both => ⟨both.1, both.2.silent (Deed.isSilent_of_quiet quiet) rfl⟩
  · exact fun _ _ _ loud enabled both =>
      ⟨both.1.after loud enabled, both.2.after both.1 loud enabled⟩

end Core

end Session

end HostBridge
