import HostBridge.Proofs.Registry
import HostBridge.Proofs.Session.Outline

/-!
# What holds of every core

A view holds the address it was created with or nothing, an entry of the registry leads to an
undestroyed view of the entry's id, and a view that is being torn down is a destroyed one
(`Core.Sound`).  If the engine hands out only free addresses, every undestroyed view has its entry
(`Core.Exclusive`).

Main statements: the outline of every core that is reached is sound (`Core.Reached.sound`), and it
is exclusive if only free addresses were handed out (`Core.Reached.exclusive`).
-/

namespace HostBridge.Session

/-- What holds of every view. -/
structure SoundView (view : View Action) : Prop where
  named : view.objectId ≠ 0
  handle : view.handle = ⟨view.objectId⟩ ∨ view.handle = Handle.empty
  /-- Letting go of a view destroys it. -/
  held : view.held = false → view.isDestroyed = true

namespace SoundView

variable {view : View Action}

/-- A new view is sound. -/
theorem new {address : UInt64} (given : address ≠ 0) : SoundView (View.new address) where
  named := given
  handle := .inl rfl
  held unheld := nomatch unheld

/-- The handle of a living view holds its id. -/
theorem handle_of_living (sound : SoundView view) (living : view.isDestroyed = false) :
    view.handle = ⟨view.objectId⟩ := by
  cases sound.handle with
  | inl own => exact own
  | inr released =>
      rw [View.isDestroyed, released] at living
      cases living

/-- A living view is held. -/
theorem held_of_living (sound : SoundView view) (living : view.isDestroyed = false) :
    view.held = true := by
  cases held : view.held with
  | true => rfl
  | false =>
      rw [sound.held held] at living
      cases living

end SoundView

namespace Core

/-- What holds of every core. -/
structure Sound (core : Core) : Prop where
  keys : core.views.keys = List.range core.nextView
  views : ∀ key view, core.views.find? key = some view → SoundView view
  /-- An entry leads to an undestroyed view of its id. -/
  entries : ∀ id key, core.registry.entries.find? id = some key →
    ∃ view, core.views.find? key = some view ∧ view.objectId = id ∧ view.isDestroyed = false
  /-- What is being torn down is destroyed. -/
  releasing : ∀ key ∈ core.releasing,
    ∃ view, core.views.find? key = some view ∧ view.isDestroyed = true
  nodup : core.releasing.Nodup

/-- Every undestroyed view has the entry under its id. -/
def Exclusive (core : Core) : Prop :=
  ∀ key view, core.views.find? key = some view → view.isDestroyed = false →
    core.registry.entries.find? view.objectId = some key

namespace Sound

variable {core : Core} {rule : Core → UInt64 → Prop}

/-- The core is sound at the start. -/
theorem initial : Sound Core.initial where
  keys := rfl
  views _ _ found := nomatch found
  entries _ _ found := nomatch found
  releasing _ member := nomatch member
  nodup := .nil

/-- No view has the next key. -/
theorem absent (sound : core.Sound) : core.views.find? core.nextView = none := by
  rw [Table.find?_eq_none_iff, sound.keys, List.mem_range]
  exact Nat.lt_irrefl _

/-- A view that is found has another key than the next one. -/
theorem ne_next (sound : core.Sound) {key : ObjectKey} {view : View Action}
    (found : core.views.find? key = some view) : key ≠ core.nextView := by
  rintro rfl
  rw [sound.absent] at found
  cases found

/-- A new view comes with its entry; other views lose theirs to it if they have its id. -/
theorem create (sound : core.Sound) {address : UInt64} (given : address ≠ 0) (amid : Bool) :
    (core.after (.create address amid)).Sound where
  keys := by
    simp only [after, Table.keys_insert_of_absent _ _ sound.absent, sound.keys, List.range_succ]
  views key view found := by
    simp only [after, Table.find?_insert] at found
    split at found
    · cases found
      exact .new given
    · exact sound.views key view found
  entries id key found := by
    simp only [after, Table.find?_insert] at found ⊢
    split at found
    next same =>
      cases found
      refine ⟨View.new address, if_pos rfl, same.symm, ?_⟩
      exact decide_eq_false given
    next =>
      obtain ⟨view, listed, named, living⟩ := sound.entries id key found
      exact ⟨view, by rw [if_neg (sound.ne_next listed), listed], named, living⟩
  releasing key member := by
    obtain ⟨view, listed, destroyed⟩ := sound.releasing key member
    refine ⟨view, ?_, destroyed⟩
    simp only [after, Table.find?_insert, if_neg (sound.ne_next listed), listed]
  nodup := sound.nodup

/-- A view may change if it keeps its id and stays as destroyed as it was. -/
theorem change (sound : core.Sound) {key : ObjectKey} {view changed : View Action}
    (found : core.views.find? key = some view) (good : SoundView changed)
    (named : changed.objectId = view.objectId)
    (destroyed : changed.isDestroyed = view.isDestroyed) :
    ({ core with views := core.views.insert key changed } : Core).Sound where
  keys := (Table.keys_insert_of_present _ _ found).trans sound.keys
  views other later listed := by
    simp only [Table.find?_insert] at listed
    split at listed
    · cases listed
      exact good
    · exact sound.views other later listed
  entries id other listed := by
    obtain ⟨entered, present, same, living⟩ := sound.entries id other listed
    by_cases here : other = key
    · subst here
      rw [found] at present
      cases present
      exact ⟨changed, Table.find?_insert_self _ _ _, named.trans same, destroyed.trans living⟩
    · exact ⟨entered, (Table.find?_insert_of_ne _ _ here).trans present, same, living⟩
  releasing other member := by
    obtain ⟨torn, present, gone⟩ := sound.releasing other member
    by_cases here : other = key
    · subst here
      rw [found] at present
      cases present
      exact ⟨changed, Table.find?_insert_self _ _ _, destroyed.trans gone⟩
    · exact ⟨torn, (Table.find?_insert_of_ne _ _ here).trans present, gone⟩
  nodup := sound.nodup

/-- Letting go of a destroyed view keeps the core sound. -/
theorem letGo (sound : core.Sound) {key : ObjectKey} {view : View Action}
    (found : core.views.find? key = some view) (destroyed : view.isDestroyed = true) :
    (core.after (.letGo key)).Sound := by
  have good := sound.views key view found
  simp only [after, Table.modify_of_present _ _ found]
  exact sound.change found ⟨good.named, good.handle, fun _ => destroyed⟩ rfl rfl

/-- A cleared view is unregistered, if the entry is its own, and begins to be torn down. -/
theorem clear (sound : core.Sound) {key : ObjectKey} {view : View Action} (dropped : Bool)
    (found : core.views.find? key = some view) (living : view.isDestroyed = false) :
    (core.after (.clear key dropped)).Sound := by
  have good := sound.views key view found
  have new : key ∉ core.releasing := by
    intro member
    obtain ⟨other, listed, destroyed⟩ := sound.releasing key member
    rw [found] at listed
    cases listed
    rw [living] at destroyed
    cases destroyed
  rw [after_clear dropped found]
  refine ⟨?_, ?_, ?_, ?_, List.nodup_cons.mpr ⟨new, sound.nodup⟩⟩
  · exact (Table.keys_insert_of_present _ _ found).trans sound.keys
  · intro other later listed
    simp only [Table.find?_insert] at listed
    split at listed
    · cases listed
      exact ⟨good.named, .inr rfl, fun _ => rfl⟩
    · exact sound.views other later listed
  · intro id other listed
    simp only [Registry.find?_removeOwned] at listed
    split at listed
    · cases listed
    next kept =>
      -- An entry of the cleared view would be its own, and that was removed.
      obtain ⟨entered, present, same, entered_living⟩ := sound.entries id other listed
      have different : other ≠ key := by
        rintro rfl
        rw [found] at present
        cases present
        exact kept ⟨same.symm, same ▸ listed⟩
      exact ⟨entered, (Table.find?_insert_of_ne _ _ different).trans present, same, entered_living⟩
  · intro other member
    by_cases here : other = key
    · subst here
      exact ⟨_, Table.find?_insert_self _ _ _, rfl⟩
    · cases List.mem_cons.mp member with
      | inl same => exact absurd same here
      | inr old =>
          obtain ⟨torn, present, gone⟩ := sound.releasing other old
          exact ⟨torn, (Table.find?_insert_of_ne _ _ here).trans present, gone⟩

/-- Retiring the view that is being released keeps the core sound. -/
theorem retire (sound : core.Sound) {key : ObjectKey} (first : core.releasing.head? = some key) :
    (core.after (.retire key)).Sound := by
  obtain ⟨view, found, _⟩ := sound.releasing key (List.mem_of_mem_head? first)
  obtain ⟨slots, settled, same⟩ := after_retire found
  have good := sound.views key view found
  have later : SoundView { view with pending := [] } := ⟨good.named, good.handle, good.held⟩
  have changed := sound.change found later rfl rfl
  rw [same]
  exact
    { keys := changed.keys
      views := changed.views
      entries := changed.entries
      releasing := fun other member => changed.releasing other (List.mem_of_mem_tail member)
      nodup := changed.nodup.tail }

/-- Every enabled deed keeps the core sound. -/
theorem after (sound : core.Sound) {deed : Deed} (loud : deed.isQuiet = false)
    (enabled : core.Enables rule deed) : (core.after deed).Sound := by
  cases deed with
  | create address amid => exact sound.create enabled.1 amid
  | letGo key =>
      obtain ⟨view, found, destroyed⟩ := enabled
      exact sound.letGo found destroyed
  | clear key dropped =>
      obtain ⟨view, found, living⟩ := enabled
      exact sound.clear dropped found living
  | retire key => exact sound.retire enabled
  | invoke key =>
      obtain ⟨view, found, _⟩ := enabled
      rw [after_invoke found]
      exact ⟨sound.keys, sound.views, sound.entries, sound.releasing, sound.nodup⟩
  | _ => cases loud

end Sound

/-- The outline of every core that is reached is sound. -/
theorem Reached.sound {rule : Core → UInt64 → Prop} (outlined : IsOutlined rule)
    {deeds : List Deed} {core : Core} (reached : Reached rule deeds core) : core.outline.Sound := by
  apply reached.outlined outlined fun _ core => core.Sound
  · exact .initial
  · exact fun _ _ _ _ sound => sound
  · exact fun _ _ _ loud enabled sound => sound.after loud enabled

namespace Exclusive

variable {core : Core}

/-- At the start no two views share an address. -/
theorem initial : Core.initial.Exclusive := fun _ _ found => nomatch found

/-- A new view at a free address takes no other undestroyed view's entry. -/
theorem create (exclusive : core.Exclusive) (sound : core.Sound) {address : UInt64}
    (free : core.Free address) (amid : Bool) : (core.after (.create address amid)).Exclusive := by
  intro key view found living
  simp only [Core.after, Table.find?_insert] at found ⊢
  split at found
  next same =>
    cases found
    exact (if_pos rfl).trans (congrArg some same.symm)
  next =>
    have handle := (sound.views key view found).handle_of_living living
    have different : view.objectId ≠ address := by
      have held := free key view found living
      rwa [handle] at held
    rw [if_neg different]
    exact exclusive key view found living

/-- Clearing a view removes no entry but its own. -/
theorem clear (exclusive : core.Exclusive) {key : ObjectKey} {view : View Action}
    (dropped : Bool) (found : core.views.find? key = some view) :
    (core.after (.clear key dropped)).Exclusive := by
  rw [after_clear dropped found]
  intro other later listed living
  simp only [Table.find?_insert] at listed
  split at listed
  · cases listed
    cases living
  next different =>
    have entered := exclusive other later listed living
    simp only [Registry.find?_removeOwned]
    rw [if_neg, entered]
    rintro ⟨same, owned⟩
    rw [← same, entered] at owned
    exact different (Option.some.inj owned)

/-- A view may change if it keeps its id and stays as destroyed as it was. -/
theorem change (exclusive : core.Exclusive) {key : ObjectKey} {view changed : View Action}
    (found : core.views.find? key = some view) (named : changed.objectId = view.objectId)
    (destroyed : changed.isDestroyed = view.isDestroyed) :
    ({ core with views := core.views.insert key changed } : Core).Exclusive := by
  intro other later listed living
  simp only [Table.find?_insert] at listed
  split at listed
  next same =>
    cases listed
    rw [named, same]
    exact exclusive key view found (destroyed.symm.trans living)
  next => exact exclusive other later listed living

/-- Where addresses are free no two living views come to share one. -/
theorem after (exclusive : core.Exclusive) (sound : core.Sound) {deed : Deed}
    (loud : deed.isQuiet = false) (enabled : core.Enables Free deed) :
    (core.after deed).Exclusive := by
  cases deed with
  | create address amid => exact exclusive.create sound enabled.2.2 amid
  | letGo key =>
      obtain ⟨view, found, _⟩ := enabled
      simp only [Core.after, Table.modify_of_present _ _ found]
      exact exclusive.change found rfl rfl
  | clear key dropped =>
      obtain ⟨view, found, _⟩ := enabled
      exact exclusive.clear dropped found
  | retire key =>
      obtain ⟨view, found, _⟩ := sound.releasing key (List.mem_of_mem_head? enabled)
      obtain ⟨slots, settled, same⟩ := after_retire found
      have later : ({ view with pending := [] } : View Action).isDestroyed = view.isDestroyed := rfl
      rw [same]
      exact exclusive.change found rfl later
  | invoke key =>
      obtain ⟨view, found, _⟩ := enabled
      rw [after_invoke found]
      exact exclusive
  | _ => cases loud

end Exclusive

/-- If only free addresses are handed out, every undestroyed view has its entry. -/
theorem Reached.exclusive {deeds : List Deed} {core : Core} (reached : Reached Free deeds core) :
    core.outline.Sound ∧ core.outline.Exclusive := by
  apply reached.outlined isOutlined_free fun _ core => core.Sound ∧ core.Exclusive
  · exact ⟨.initial, .initial⟩
  · exact fun _ _ _ _ both => both
  · exact fun _ _ _ loud enabled both =>
      ⟨both.1.after loud enabled, both.2.after both.1 loud enabled⟩

end Core

end HostBridge.Session
