import HostBridge.Proofs.Session.Core

/-!
# The outline of a core

The outline of a core forgets the continuations: what is parked, what views wait for, and slots.
Scripts, their results and slots leave the outline alone, and the other deeds do to the outline what
they do to the core.  So what is said about views, their registration and their release is proved
over outlines, and by cases over those other deeds.

Main statement: `Core.Reached.outlined`, the induction over the deeds that the outline sees.
-/

namespace HostBridge

/-- A view without the ids of the continuations that wait for it. -/
def View.unawaited {σ : Type} (view : View σ) : View σ := { view with pending := [] }

namespace Session

/-- Whether a deed is only about continuations. -/
def Deed.isQuiet : Deed → Bool
  | .evaluate _ _ _ _ => true
  | .answer _ _ _ => true
  | .poll _ => true
  | _ => false

namespace Core

/-- A core without its continuations and slots. -/
def outline (core : Core) : Core :=
  { core with
    callbacks := CallbackTable.empty
    views := core.views.mapValues View.unawaited
    slots := Table.empty
    nextSlot := 0
    settled := [] }

/-- The outline knows of a view all but what it waits for. -/
theorem find?_outline (core : Core) (key : ObjectKey) :
    core.outline.views.find? key = (core.views.find? key).map View.unawaited :=
  Table.find?_mapValues _ _ _

/-! ### Quiet deeds -/

@[simp] theorem outline_abandon (core : Core) (continuation : Continuation Action) :
    (core.abandon continuation).outline = core.outline := by
  cases continuation with
  | reaction name steps ending => rfl
  | slot key => rfl

@[simp] theorem outline_abandonAll (core : Core) (continuations : List (Continuation Action)) :
    (core.abandonAll continuations).outline = core.outline := by
  induction continuations generalizing core with
  | nil => rfl
  | cons first others ih =>
      have rest := ih (core.abandon first)
      rw [outline_abandon] at rest
      exact rest

@[simp] theorem outline_fulfil (core : Core) (result : Option String)
    (continuation : Continuation Action) :
    (core.fulfil result continuation).outline = core.outline := by
  cases continuation with
  | reaction name steps ending => rfl
  | slot key => rfl

/-- Taking an id leaves the outline. -/
@[simp] theorem outline_take (core : Core) (key : ObjectKey) (id : CallbackId) :
    (core.take key id).outline = core.outline := by
  have unseen := Table.mapValues_modify_of_unseen core.views View.unawaited key (·.untrack id)
    fun _ _ => rfl
  simp only [outline, take, unseen]

@[simp] theorem outline_opening (core : Core) (continuation : Option (Continuation Action)) :
    (core.opening continuation).outline = core.outline := by
  cases continuation with
  | none => rfl
  | some continuation => cases continuation with
    | reaction name steps ending => rfl
    | slot key => rfl

/-- Parking a continuation leaves the outline. -/
@[simp] theorem outline_park (core : Core) (key : ObjectKey) (id : CallbackId)
    (continuation : Option (Continuation Action)) :
    (core.park key id continuation).outline = core.outline := by
  cases continuation with
  | none => rfl
  | some continuation =>
      have unseen := Table.mapValues_modify_of_unseen core.views View.unawaited key (·.track id)
        fun _ _ => rfl
      simp only [outline, park, unseen]

/-- What is only about continuations leaves the outline alone. -/
theorem outline_after_of_quiet (core : Core) {deed : Deed} (quiet : deed.isQuiet = true) :
    (core.after deed).outline = core.outline := by
  cases deed with
  | evaluate key id continuation sent =>
      simp only [after, evaluate]
      split
      · rw [outline_park, outline_opening]
      · rw [outline_abandonAll, outline_take, outline_park, outline_opening]
  | answer key id result =>
      simp only [after]
      cases (core.callbacks.resolve id).2 with
      | none => exact outline_take core key id
      | some continuation =>
          change ((core.take key id).fulfil result continuation).outline = _
          rw [outline_fulfil, outline_take]
  | poll slot =>
      simp only [after]
      split
      · rfl
      · rfl
  | _ => cases quiet

/-! ### The other deeds -/

/-- The other deeds do to the outline what they do to the core. -/
theorem outline_after_of_loud (core : Core) {deed : Deed} (loud : deed.isQuiet = false) :
    (core.after deed).outline = core.outline.after deed := by
  cases deed with
  | create address amid =>
      have views := Table.mapValues_insert core.views View.unawaited core.nextView
        (View.new address)
      simp only [after, outline, views]
      rfl
  | letGo key =>
      have views := Table.mapValues_modify core.views View.unawaited key
        (fun view => { view with held := false }) (fun view => { view with held := false })
        fun _ _ => rfl
      simp only [after, outline, views]
  | clear key dropped =>
      have mapped := core.find?_outline key
      cases found : core.views.find? key with
      | none =>
          rw [found, Option.map_none] at mapped
          simp only [after, found, mapped]
      | some view =>
          rw [found, Option.map_some] at mapped
          have views := Table.mapValues_insert core.views View.unawaited key
            { view with handle := Handle.empty, held := view.held && !dropped }
          simp only [after, found, mapped]
          simp only [outline, views]
          rfl
  | retire key =>
      have mapped := core.find?_outline key
      cases found : core.views.find? key with
      | none =>
          rw [found, Option.map_none] at mapped
          simp only [after, found, mapped]
          rfl
      | some view =>
          rw [found, Option.map_some] at mapped
          have views := Table.mapValues_insert core.views View.unawaited key
            { view with pending := [] }
          simp only [after, found, mapped, outline_abandonAll]
          simp only [outline, views]
          rfl
  | invoke key =>
      have mapped := core.find?_outline key
      cases found : core.views.find? key with
      | none =>
          rw [found, Option.map_none] at mapped
          simp only [after, found, mapped]
      | some view =>
          rw [found, Option.map_some] at mapped
          simp only [after, found, mapped]
          rfl
  | _ => cases loud

/-- What the engine may hand out depends on the outline alone. -/
def IsOutlined (rule : Core → UInt64 → Prop) : Prop :=
  ∀ core address, rule core address → rule core.outline address

/-- To allow every address is a rule about the outline. -/
theorem isOutlined_unruled : IsOutlined Unruled := fun _ _ _ => trivial

/-- To allow the free addresses is a rule about the outline. -/
theorem isOutlined_free : IsOutlined Free := by
  intro core address free key view listed living
  rw [find?_outline] at listed
  obtain ⟨held, found, same⟩ := Option.map_eq_some_iff.mp listed
  subst same
  exact free key held found living

/-- A look-up with a property that does not see continuations. -/
theorem exists_outline {core : Core} {key : ObjectKey} {property : View Action → Prop}
    (unseen : ∀ view, property view → property view.unawaited)
    (held : ∃ view, core.views.find? key = some view ∧ property view) :
    ∃ view, core.outline.views.find? key = some view ∧ property view := by
  obtain ⟨view, found, holds⟩ := held
  refine ⟨view.unawaited, ?_, unseen view holds⟩
  rw [find?_outline, found, Option.map_some]

/-- The outline releases what the core releases. -/
theorem releases_outline (core : Core) (address : UInt64) :
    core.outline.releases address = core.releases address := by
  unfold releases
  have same : (fun key => (core.outline.views.find? key).any fun view => view.objectId = address) =
      fun key => (core.views.find? key).any fun view => view.objectId = address := by
    funext key
    rw [find?_outline, Option.any_map]
    rfl
  rw [same]
  rfl

/-- A deed that the core enables is enabled by its outline. -/
theorem Enables.outline {rule : Core → UInt64 → Prop} (outlined : IsOutlined rule) {core : Core}
    {deed : Deed} (loud : deed.isQuiet = false) (enabled : core.Enables rule deed) :
    core.outline.Enables rule deed := by
  cases deed with
  | create address amid =>
      obtain ⟨given, same, ruled⟩ := enabled
      exact ⟨given, same.trans (releases_outline core address).symm, outlined core address ruled⟩
  | letGo key => exact exists_outline (fun _ => id) enabled
  | clear key dropped => exact exists_outline (fun _ => id) enabled
  | retire key => exact enabled
  | invoke key => exact exists_outline (fun _ => id) enabled
  | _ => cases loud

/-- Induction over the deeds that the outline sees. -/
theorem Reached.outlined {rule : Core → UInt64 → Prop} (outlined : IsOutlined rule)
    (property : List Deed → Core → Prop) (initial : property [] Core.initial)
    (quiet : ∀ deeds core deed, deed.isQuiet = true → property deeds core →
      property (deeds ++ [deed]) core)
    (loud : ∀ deeds core deed, deed.isQuiet = false → core.Enables rule deed →
      property deeds core → property (deeds ++ [deed]) (core.after deed))
    {deeds : List Deed} {core : Core} (reached : Reached rule deeds core) :
    property deeds core.outline := by
  induction reached with
  | initial => exact initial
  | @after deeds core deed reached enabled ih =>
      cases kind : deed.isQuiet with
      | true =>
          rw [outline_after_of_quiet core kind]
          exact quiet deeds core.outline deed kind ih
      | false =>
          rw [outline_after_of_loud core kind]
          exact loud deeds core.outline deed kind (enabled.outline outlined kind) ih

end Core

end Session

end HostBridge
