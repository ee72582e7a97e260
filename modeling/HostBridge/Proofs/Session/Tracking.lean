import HostBridge.Proofs.Session.Invariant

/-!
# Parked continuations are tracked

A continuation is parked in a table that all views share, and the view that issued it keeps its id.
The two are updated apart, by a result that may come in through another view, by a call that fails
and at the end of a destruction.

Main statement: whatever is parked is tracked by an undestroyed view, or by one that is still being
torn down (`Core.Reached.tracked`).
-/

namespace HostBridge

namespace Context

/-- Resolving ids leaves what is parked under the others. -/
theorem find?_resolveAll {σ : Type} (callbacks : CallbackTable (Continuation σ))
    (ids : List CallbackId) (id : UInt64) :
    (resolveAll callbacks ids).1.parked.find? id =
      if ⟨id⟩ ∈ ids then none else callbacks.parked.find? id := by
  induction ids generalizing callbacks with
  | nil => rfl
  | cons first rest ih =>
      change (resolveAll (callbacks.resolve first).1 rest).1.parked.find? id = _
      rw [ih, CallbackTable.resolve, Table.find?_erase]
      by_cases here : id = first.value
      · simp only [here, ↓reduceIte, ite_self, List.mem_cons, true_or]
      · have different : (⟨id⟩ : CallbackId) ≠ first := fun same =>
          here (congrArg CallbackId.value same)
        simp only [here, ↓reduceIte, List.mem_cons, different, false_or]

end Context

namespace Session.Core

/-- Whether a view that is not gone for good waits for an id. -/
def Awaits (core : Core) (key : ObjectKey) (id : CallbackId) : Prop :=
  ∃ view, core.views.find? key = some view ∧ id ∈ view.pending ∧
    (view.isDestroyed = false ∨ key ∈ core.releasing)

/-- Whatever is parked is awaited. -/
def Tracked (core : Core) : Prop :=
  ∀ id continuation, core.callbacks.parked.find? id = some continuation →
    ∃ key, core.Awaits key ⟨id⟩

namespace Tracked

variable {core : Core}

/-- A change that keeps what is awaited as long as it is parked. -/
theorem keep (tracked : core.Tracked) {later : Core}
    (kept : ∀ id continuation, later.callbacks.parked.find? id = some continuation →
      core.callbacks.parked.find? id = some continuation ∧
        ∀ key, core.Awaits key ⟨id⟩ → later.Awaits key ⟨id⟩) : later.Tracked := by
  intro id continuation parked
  obtain ⟨before, still⟩ := kept id continuation parked
  obtain ⟨key, awaited⟩ := tracked id continuation before
  exact ⟨key, still key awaited⟩

end Tracked

/-- A view that is replaced by one waiting for as much still waits. -/
theorem Awaits.insert {core : Core} {key other : ObjectKey} {id : CallbackId}
    {view changed : View Action} (awaited : core.Awaits other id)
    (found : core.views.find? key = some view) (waits : id ∈ view.pending → id ∈ changed.pending)
    (destroyed : changed.isDestroyed = view.isDestroyed) :
    ({ core with views := core.views.insert key changed } : Core).Awaits other id := by
  obtain ⟨waiting, present, member, state⟩ := awaited
  by_cases same : other = key
  · subst same
    rw [found] at present
    cases present
    exact ⟨changed, Table.find?_insert_self _ _ _, waits member, destroyed ▸ state⟩
  · exact ⟨waiting, (Table.find?_insert_of_ne _ _ same).trans present, member, state⟩

/-- A view that is changed without waiting for less still waits. -/
theorem Awaits.modify {core : Core} {key other : ObjectKey} {id : CallbackId}
    {change : View Action → View Action} (awaited : core.Awaits other id)
    (waits : ∀ view, id ∈ view.pending → id ∈ (change view).pending)
    (destroyed : ∀ view, (change view).isDestroyed = view.isDestroyed) :
    ({ core with views := core.views.modify key change } : Core).Awaits other id := by
  cases found : core.views.find? key with
  | none =>
      rw [Table.modify_of_absent _ _ found]
      exact awaited
  | some view =>
      rw [Table.modify_of_present _ _ found]
      exact awaited.insert found (waits view) (destroyed view)

/-- Untracking an id leaves the others tracked. -/
theorem mem_untrack_of_ne {view : View Action} {id other : CallbackId} (different : other ≠ id)
    (member : other ∈ view.pending) : other ∈ (view.untrack id).pending :=
  List.mem_filter.mpr ⟨member, decide_eq_true different⟩

theorem mem_track_of_mem {view : View Action} (id : CallbackId) {other : CallbackId}
    (member : other ∈ view.pending) : other ∈ (view.track id).pending := by
  by_cases same : other = id
  · exact List.mem_append_right _ (List.mem_singleton.mpr same)
  · exact List.mem_append_left _ (List.mem_filter.mpr ⟨member, decide_eq_true same⟩)

namespace Tracked

variable {core : Core}

/-- Taking an id keeps every parked one tracked. -/
theorem take (tracked : core.Tracked) (key : ObjectKey) (id : CallbackId) :
    (core.take key id).Tracked := by
  apply tracked.keep
  intro other continuation parked
  simp only [Core.take, CallbackTable.resolve, Table.find?_erase] at parked
  split at parked
  · cases parked
  next different =>
    have apart : (⟨other⟩ : CallbackId) ≠ id := fun same => different (same ▸ rfl)
    refine ⟨parked, fun waiting awaited => ?_⟩
    exact awaited.modify (fun _ => mem_untrack_of_ne apart) fun _ => rfl

/-- Parking a continuation on a living view keeps every parked one tracked. -/
theorem park (tracked : core.Tracked) {key : ObjectKey} {view : View Action} (id : CallbackId)
    (continuation : Option (Continuation Action)) (found : core.views.find? key = some view)
    (living : view.isDestroyed = false) : (core.park key id continuation).Tracked := by
  cases continuation with
  | none => exact tracked
  | some continuation =>
      intro other held parked
      simp only [Core.park, CallbackTable.park, CallbackTable.issue, Table.find?_insert] at parked
      split at parked
      next same =>
        subst same
        refine ⟨key, view.track id, ?_, ?_, .inl living⟩
        · simp only [Core.park, Table.find?_modify, ↓reduceIte, found, Option.map_some]
        · exact List.mem_append_right _ (List.mem_singleton.mpr rfl)
      next =>
        obtain ⟨waiting, awaited⟩ := tracked other held parked
        exact ⟨waiting, awaited.modify (fun _ => mem_track_of_mem id) fun _ => rfl⟩

/-- What is parked and taken again leaves the others tracked. -/
theorem take_park (tracked : core.Tracked) (key : ObjectKey) (id : CallbackId)
    (continuation : Option (Continuation Action)) :
    ((core.park key id continuation).take key id).Tracked := by
  cases continuation with
  | none =>
      have parked : (core.park key id none).Tracked := tracked
      exact parked.take key id
  | some continuation =>
      apply tracked.keep
      intro other held parked
      simp only [Core.take, Core.park, CallbackTable.resolve, CallbackTable.park,
        CallbackTable.issue, Table.find?_erase, Table.find?_insert] at parked
      split at parked
      · cases parked
      next different =>
        have apart : (⟨other⟩ : CallbackId) ≠ id := fun same => different (same ▸ rfl)
        refine ⟨parked, fun waiting awaited => ?_⟩
        have waits : ({ core with views := core.views.modify key (·.track id) } : Core).Awaits
            waiting ⟨other⟩ := awaited.modify (fun _ => mem_track_of_mem id) fun _ => rfl
        exact waits.modify (fun _ => mem_untrack_of_ne apart) fun _ => rfl

theorem abandonAll (tracked : core.Tracked) (continuations : List (Continuation Action)) :
    (core.abandonAll continuations).Tracked := by
  obtain ⟨slots, settled, same⟩ := abandonAll_eq core continuations
  rw [same]
  exact tracked

theorem opening (tracked : core.Tracked) (continuation : Option (Continuation Action)) :
    (core.opening continuation).Tracked := by
  cases continuation with
  | none => exact tracked
  | some continuation => cases continuation with
    | reaction name steps ending => exact tracked
    | slot key => exact tracked

theorem fulfil (tracked : core.Tracked) (result : Option String)
    (continuation : Continuation Action) : (core.fulfil result continuation).Tracked := by
  cases continuation with
  | reaction name steps ending => exact tracked
  | slot key => exact tracked

/-- The end of a destruction takes what its view still waits for out of the table. -/
theorem retire (tracked : core.Tracked) {key : ObjectKey}
    (first : core.releasing.head? = some key) : (core.after (.retire key)).Tracked := by
  obtain ⟨rest, torn⟩ := List.head?_eq_some_iff.mp first
  have still {other : ObjectKey} (different : other ≠ key) (member : other ∈ core.releasing) :
      other ∈ core.releasing.tail := by
    rw [torn] at member ⊢
    exact (List.mem_cons.mp member).resolve_left different
  cases found : core.views.find? key with
  | none =>
      intro id continuation parked
      simp only [after, found] at parked ⊢
      obtain ⟨waiting, view, present, member, state⟩ := tracked id continuation parked
      have different : waiting ≠ key := by
        rintro rfl
        rw [found] at present
        cases present
      exact ⟨waiting, view, present, member, state.imp_right (still different)⟩
  | some view =>
      obtain ⟨slots, settled, same⟩ := after_retire found
      rw [same]
      intro id continuation parked
      simp only [Context.find?_resolveAll] at parked
      split at parked
      · cases parked
      next unlisted =>
        obtain ⟨waiting, other, present, member, state⟩ := tracked id continuation parked
        have different : waiting ≠ key := by
          rintro rfl
          rw [found] at present
          cases present
          exact unlisted member
        refine ⟨waiting, other, ?_, member, state.imp_right (still different)⟩
        exact (Table.find?_insert_of_ne _ _ different).trans present

/-- Every enabled deed keeps every parked continuation tracked by a view. -/
theorem after {rule : Core → UInt64 → Prop} (tracked : core.Tracked)
    (absent : core.views.find? core.nextView = none) {deed : Deed}
    (enabled : core.Enables rule deed) : (core.after deed).Tracked := by
  cases deed with
  | create address amid =>
      intro id continuation parked
      obtain ⟨waiting, view, present, member, state⟩ := tracked id continuation parked
      refine ⟨waiting, view, ?_, member, state⟩
      have different : waiting ≠ core.nextView := by
        rintro rfl
        rw [absent] at present
        cases present
      exact (Table.find?_insert_of_ne _ _ different).trans present
  | letGo key =>
      intro id continuation parked
      obtain ⟨waiting, awaited⟩ := tracked id continuation parked
      exact ⟨waiting, awaited.modify (fun _ member => member) fun _ => rfl⟩
  | clear key dropped =>
      obtain ⟨view, found, living⟩ := enabled
      rw [after_clear dropped found]
      intro id continuation parked
      obtain ⟨waiting, other, present, member, state⟩ := tracked id continuation parked
      by_cases same : waiting = key
      · -- The cleared view goes on waiting while it is torn down.
        subst same
        rw [found] at present
        cases present
        exact ⟨waiting, _, Table.find?_insert_self _ _ _, member, .inr List.mem_cons_self⟩
      · exact ⟨waiting, other, (Table.find?_insert_of_ne _ _ same).trans present, member,
          state.imp_right (List.mem_cons_of_mem _)⟩
  | retire key => exact tracked.retire enabled
  | invoke key =>
      obtain ⟨view, found, _⟩ := enabled
      rw [after_invoke found]
      exact tracked
  | evaluate key id continuation sent =>
      obtain ⟨_, ⟨view, found, living⟩, _⟩ := enabled
      have opened := tracked.opening continuation
      have views := core.views_opening continuation
      simp only [Core.after, Core.evaluate]
      split
      next taken => exact opened.park id continuation (views ▸ found) (living taken)
      next => exact (opened.take_park key id continuation).abandonAll _
  | answer key id result =>
      simp only [Core.after]
      cases (core.callbacks.resolve id).2 with
      | none => exact tracked.take key id
      | some continuation => exact (tracked.take key id).fulfil result continuation
  | poll slot =>
      simp only [Core.after]
      split
      · exact tracked
      · exact tracked

end Tracked

/-- Whatever is parked in a core that is reached is tracked. -/
theorem Reached.tracked {deeds : List Deed} {core : Core} (reached : Reached Unruled deeds core) :
    core.Tracked := by
  induction reached with
  | initial => exact fun _ _ parked => nomatch parked
  | @after deeds core deed reached enabled ih =>
      have outlined := (reached.sound isOutlined_unruled).absent
      rw [find?_outline] at outlined
      exact ih.after (Option.map_eq_none_iff.mp outlined) enabled

end Session.Core

end HostBridge
