import HostBridge.Proofs.Session.Ledger
import HostBridge.Proofs.Session.Origin
import HostBridge.Proofs.Session.Registration
import HostBridge.Proofs.Session.Tracking

/-!
# What a session gives back

Native instances are created and released through handles, and a released instance is never called
again.  The engine and the bus are told of each creation and of each release once, and when the
application holds no view any more everything has been given back.

Main statement: every run conserves instances (`Run.release`).
-/

namespace HostBridge

namespace Event

/-- The id under which an event announces that an object became reachable. -/
def registered? : Event → Option UInt64
  | .lifecycle (.registered id) => some id
  | _ => none

/-- The id under which an event announces that an object was released. -/
def released? : Event → Option UInt64
  | .lifecycle (.released id) => some id
  | _ => none

/-- Registrations are read off the events of reachability. -/
theorem filterMap_registered? (events : List Event) :
    events.filterMap registered? =
      (events.filterMap reachability?).filterMap LifecycleEvent.registered? := by
  rw [List.filterMap_filterMap]
  congr 1
  funext event
  cases event with
  | lifecycle event => cases event <;> rfl
  | _ => rfl

/-- Releases are read off the events of reachability. -/
theorem filterMap_released? (events : List Event) :
    events.filterMap released? =
      (events.filterMap reachability?).filterMap LifecycleEvent.released? := by
  rw [List.filterMap_filterMap]
  congr 1
  funext event
  cases event with
  | lifecycle event => cases event <;> rfl
  | _ => rfl

end Event

/-- A view was created with an address. -/
def Context.CreatedAt {σ : Type} (context : Context σ) (key : ObjectKey) (address : UInt64) :
    Prop :=
  ∃ view, context.view? key = some view ∧ view.objectId = address

/-- A view was destroyed. -/
def Context.Destroyed {σ : Type} (context : Context σ) (key : ObjectKey) : Prop :=
  ∃ view, context.view? key = some view ∧ view.isDestroyed = true

namespace Session

/-- Every instance is given back once, with the address it was created with, when its view is
destroyed; calls come before, and the bus is told of each creation and each release once. -/
structure Conserves (deeds : List Deed) (machine : Machine) : Prop where
  /-- The instances that the engine created are those of the views. -/
  created : machine.state.seen.filterMap Sighting.created? =
    machine.state.context.views.values.map View.objectId
  /-- The engine got back the addresses of the cleared views, in the order of the history. -/
  released : List.Forall₂ machine.state.context.CreatedAt (deeds.filterMap Deed.cleared?)
    (machine.state.seen.filterMap Sighting.released?)
  releasedOnce : (deeds.filterMap Deed.cleared?).Nodup
  /-- The views that were cleared are those that are destroyed. -/
  destroyed : ∀ key, key ∈ deeds.filterMap Deed.cleared? ↔ machine.state.context.Destroyed key
  /-- Calls went to the addresses of their views. -/
  invoked : List.Forall₂ machine.state.context.CreatedAt (deeds.filterMap Deed.invoked?)
    (machine.state.seen.filterMap Sighting.invoked?)
  /-- No call comes after the clearing of its view's handle. -/
  order : deeds.Pairwise Deed.MayPrecede
  /-- Each created view was announced, in the order of creation. -/
  registered : machine.state.context.bus.emitted.filterMap Event.registered? =
    machine.state.context.views.values.map View.objectId
  /-- Each end of a destruction was announced with the address of its view. -/
  unregistered : List.Forall₂ machine.state.context.CreatedAt (deeds.filterMap Deed.retired?)
    (machine.state.context.bus.emitted.filterMap Event.released?)
  unregisteredOnce : (deeds.filterMap Deed.retired?).Nodup
  /-- The destructions that ended are all but those that are still under way. -/
  retired : ∀ key, key ∈ deeds.filterMap Deed.retired? ↔
    machine.state.context.Destroyed key ∧ key ∉ machine.releasing
  /-- A view that the application let go of is destroyed. -/
  letGo : ∀ key view, machine.state.context.view? key = some view → view.held = false →
    view.isDestroyed = true

namespace Machine

variable (machine : Machine)

/-- The faces of the outline are those of the views. -/
theorem faces_outline :
    machine.core.outline.faces = machine.state.context.views.mapValues View.face := by
  apply Table.eq_of_entries
  simp only [Core.faces, Core.outline, core, State.core, Table.mapValues, List.map_map]
  rfl

/-- The outline says where each view was created. -/
theorem isAt_outline : machine.core.outline.IsAt = machine.state.context.CreatedAt := by
  funext key address
  apply propext
  simp only [Core.IsAt, faces_outline, Table.find?_mapValues]
  constructor
  · rintro ⟨destroyed, listed⟩
    obtain ⟨view, found, same⟩ := Option.map_eq_some_iff.mp listed
    exact ⟨view, found, congrArg Prod.fst same⟩
  · rintro ⟨view, found, rfl⟩
    exact ⟨view.isDestroyed, Option.map_eq_some_iff.mpr ⟨view, found, rfl⟩⟩

/-- The outline says which views are destroyed. -/
theorem isGone_outline : machine.core.outline.IsGone = machine.state.context.Destroyed := by
  funext key
  apply propext
  simp only [Core.IsGone, faces_outline, Table.find?_mapValues]
  constructor
  · rintro ⟨address, listed⟩
    obtain ⟨view, found, same⟩ := Option.map_eq_some_iff.mp listed
    exact ⟨view, found, congrArg Prod.snd same⟩
  · rintro ⟨view, found, destroyed⟩
    refine ⟨view.objectId, Option.map_eq_some_iff.mpr ⟨view, found, ?_⟩⟩
    rw [View.face, destroyed]

/-- A machine whose ledger is kept conserves what was created. -/
theorem conserves {deeds : List Deed} (sound : machine.core.outline.Sound)
    (ledger : Core.Ledger deeds machine.core.outline) : Conserves deeds machine := by
  have created : machine.core.outline.faces.values.map Prod.fst =
      machine.state.context.views.values.map View.objectId := by
    rw [faces_outline, Table.values_mapValues, List.map_map]
    rfl
  have released := ledger.released
  have invoked := ledger.invoked
  have unregistered := ledger.unregistered
  rw [isAt_outline] at released invoked unregistered
  refine ⟨?_, released, ledger.clearedOnce, ?_, invoked, ledger.order, ?_, ?_, ledger.retiredOnce,
    ?_, ?_⟩
  · exact ledger.created.trans created
  · intro key
    rw [ledger.cleared, isGone_outline]
  · rw [Event.filterMap_registered?]
    exact (ledger.registered.trans ledger.created).trans created
  · rw [Event.filterMap_released?]
    exact unregistered
  · intro key
    rw [ledger.retired, isGone_outline]
    rfl
  · exact fun key view found => (soundView machine sound found).held

/-- A creation that the engine refuses leaves the context. -/
theorem context_creating_of_refused (name : String)
    (refused : ∀ address, machine.state.web.create.2 = .ok address → address = 0) :
    (machine.creating name).state.context = machine.state.context := by
  unfold creating
  dsimp only
  split
  · rfl
  · cases answer : machine.state.web.create.2 with
    | error error => rfl
    | ok address =>
        rw [refused address answer]
        rfl

/-- A machine lets go of a view: it is asked to destroy it or to drop it, or its name goes to a new
view. -/
def Discards (key : ObjectKey) : Prop :=
  ∃ name, machine.state.viewNames.find? name = some key ∧
    (machine.mode = .perform (.destroy name) ∨ machine.mode = .perform (.dropView name) ∨
      machine.mode = .perform (.createView name) ∧ ∃ address amid,
        .create address amid ∈ machine.deeds)

variable {machine}

/-- A view is cleared only by what discards it. -/
theorem discards_of_clear {key : ObjectKey} {dropped : Bool}
    (done : .clear key dropped ∈ machine.deeds) : machine.Discards key := by
  rcases action_of_mem_deeds done with ⟨action, performs, done⟩ | ⟨_, retires⟩
  · obtain ⟨name, named, asked⟩ := machine.state.clear_of_mem_deeds done
    refine ⟨name, named, ?_⟩
    rw [performs]
    rcases asked with rfl | rfl | ⟨rfl, address, creates⟩
    · exact .inl rfl
    · exact .inr (.inl rfl)
    · refine .inr (.inr ⟨rfl, address, machine.releases address, ?_⟩)
      simp only [deeds, performs, State.deeds]
      exact creates
  · cases retires

/-- Whatever discards a living view clears it. -/
theorem clears_of_discards (sound : machine.core.outline.Sound) {key : ObjectKey}
    (discards : machine.Discards key) {view : View Action}
    (found : machine.state.context.view? key = some view) (living : view.isDestroyed = false) :
    ∃ dropped, .clear key dropped ∈ machine.deeds := by
  obtain ⟨name, named, asked⟩ := discards
  rcases asked with destroys | drops | ⟨creates, address, amid, done⟩
  · refine ⟨false, ?_⟩
    simp only [deeds, destroys, State.deeds]
    refine List.mem_flatMap.mpr ⟨key, Option.mem_toList.mpr named, ?_⟩
    exact machine.state.clear_mem_clearing found living false
  · refine ⟨true, ?_⟩
    simp only [deeds, drops, State.deeds]
    refine List.mem_flatMap.mpr ⟨key, Option.mem_toList.mpr named, ?_⟩
    exact machine.state.clear_mem_clearing found living true
  · refine ⟨true, ?_⟩
    simp only [deeds, creates, State.deeds] at done ⊢
    obtain ⟨given, all, _⟩ := machine.state.mem_creating done
    rw [all]
    refine List.mem_cons_of_mem _ (List.mem_flatMap.mpr ⟨key, Option.mem_toList.mpr named, ?_⟩)
    apply State.clear_mem_clearing _ _ living true
    -- The new view has another key.
    have different : key ≠ machine.state.context.nextView :=
      sound.ne_next (machine.find?_outline_of_view? found)
    exact (Table.find?_insert_of_ne _ _ different).trans found

end Machine

namespace Run

variable {visited : List Machine} {machine : Machine}

/-- Every run conserves what was created. -/
theorem conserves (run : Run visited machine) : Conserves (history visited) machine :=
  have ⟨sound, ledger⟩ := run.reached_unruled.ledger Core.isOutlined_unruled
  machine.conserves sound ledger

/-- A view that was discarded at some moment of a run was cleared in it. -/
theorem cleared_of_discards (run : Run visited machine) {earlier : Machine}
    (member : earlier ∈ visited) {key : ObjectKey} (discards : earlier.Discards key)
    {view : View Action} (found : earlier.state.context.view? key = some view) :
    key ∈ (history visited).filterMap Deed.cleared? := by
  -- The view was cleared before, or it is by the machine that lets go of it.
  have now {visited : List Machine} {machine : Machine} (run : Run visited machine)
      (same : earlier = machine) :
      key ∈ (history (visited ++ [machine])).filterMap Deed.cleared? := by
    subst same
    rw [history_snoc, List.filterMap_append, List.mem_append]
    cases living : view.isDestroyed with
    | true => exact .inl ((run.conserves.destroyed key).mpr ⟨view, found, living⟩)
    | false =>
        have sound := run.reached_unruled.sound Core.isOutlined_unruled
        obtain ⟨dropped, clears⟩ := Machine.clears_of_discards sound discards found living
        exact .inr (List.mem_filterMap.mpr ⟨_, clears, rfl⟩)
  have before {visited : List Machine} {machine : Machine}
      (cleared : key ∈ (history visited).filterMap Deed.cleared?) :
      key ∈ (history (visited ++ [machine])).filterMap Deed.cleared? := by
    rw [history_snoc, List.filterMap_append]
    exact List.mem_append_left _ cleared
  induction run with
  | start created action => cases member
  | @step visited machine run ih =>
      cases List.mem_append.mp member with
      | inl old => exact before (ih old)
      | inr last => exact now run (List.mem_singleton.mp last)
  | @next visited machine run idle action ih =>
      cases List.mem_append.mp member with
      | inl old => exact before (ih old)
      | inr last => exact now run (List.mem_singleton.mp last)

/-- A view that was cleared in a run was discarded at some moment of it. -/
theorem discards_of_cleared {key : ObjectKey}
    (cleared : key ∈ (history visited).filterMap Deed.cleared?) :
    ∃ earlier ∈ visited, earlier.Discards key := by
  obtain ⟨deed, member, clears⟩ := List.mem_filterMap.mp cleared
  obtain ⟨earlier, listed, done⟩ := List.mem_flatMap.mp member
  refine ⟨earlier, listed, ?_⟩
  cases deed with
  | clear other dropped =>
      cases clears
      exact Machine.discards_of_clear done
  | _ => cases clears

/-- Every view that is left is destroyed, so as many instances went back as were created. -/
theorem released_length (run : Run visited machine)
    (destroyed : ∀ key view, machine.state.context.view? key = some view →
      view.isDestroyed = true) :
    (machine.state.seen.filterMap Sighting.released?).length =
      (machine.state.seen.filterMap Sighting.created?).length := by
  have conserved := run.conserves
  have views : ∀ key, key ∈ (history visited).filterMap Deed.cleared? ↔
      key ∈ machine.state.context.views.keys := by
    intro key
    rw [conserved.destroyed, Table.mem_keys_iff, Option.isSome_iff_exists]
    constructor
    · rintro ⟨view, found, _⟩
      exact ⟨view, found⟩
    · rintro ⟨view, found⟩
      exact ⟨view, found, destroyed key view found⟩
  have same := (List.perm_ext_iff_of_nodup conserved.releasedOnce (Table.nodup_keys _)).mpr views
  rw [← conserved.released.length_eq, same.length_eq, conserved.created, List.length_map,
    Table.keys, Table.values, List.length_map, List.length_map]

/-- Whatever is parked between two actions is awaited by an undestroyed view. -/
theorem living_of_parked (run : Run visited machine) (idle : machine.reply?.isSome) {id : UInt64}
    {continuation : Continuation Action}
    (parked : machine.state.context.callbacks.parked.find? id = some continuation) :
    ∃ key view, machine.state.context.view? key = some view ∧ ⟨id⟩ ∈ view.pending ∧
      view.isDestroyed = false := by
  obtain ⟨key, bare, listed, member, state⟩ := run.reached_unruled.tracked id continuation parked
  have mapped := (machine.state.find?_core machine.releasing key).symm.trans listed
  obtain ⟨view, found, same⟩ := Option.map_eq_some_iff.mp mapped
  subst same
  refine ⟨key, view, found, member, state.resolve_right ?_⟩
  intro torn
  have calm : machine.core.releasing = [] := machine.releasing_of_idle idle
  rw [calm] at torn
  cases torn

/-- When every view is let go and the run rests, nothing is left behind. -/
theorem nothing_left (run : Run visited machine) (idle : machine.reply?.isSome)
    (dropped : ∀ key view, machine.state.context.view? key = some view → view.held = false) :
    machine.state.context.liveObjects = 0 ∧ machine.state.context.pendingCallbacks = 0 ∧
      (machine.state.seen.filterMap Sighting.released?).length =
        (machine.state.seen.filterMap Sighting.created?).length := by
  have destroyed : ∀ key view, machine.state.context.view? key = some view →
      view.isDestroyed = true :=
    fun key view found => run.conserves.letGo key view found (dropped key view found)
  refine ⟨?_, ?_, run.released_length destroyed⟩
  · apply List.length_eq_zero_iff.mpr
    apply List.filter_eq_nil_iff.mpr
    intro key _ alive
    obtain ⟨view, found, held⟩ := (Option.any_eq_true _ _).mp alive
    rw [dropped key view found] at held
    cases held
  · apply List.length_eq_zero_iff.mpr
    apply List.eq_nil_iff_forall_not_mem.mpr
    rintro ⟨id, continuation⟩ member
    have parked := (Table.mem_entries_iff _ _ _).mp member
    obtain ⟨key, view, found, _, living⟩ := run.living_of_parked idle parked
    rw [destroyed key view found] at living
    cases living

/-- Every run conserves instances: each is given back once, when its view is destroyed, dropped or
replaced, and no other is; a refused creation changes nothing, and once no view is held everything
was given back. -/
theorem release (run : Run visited machine) :
    Conserves (history visited) machine ∧
      (∀ earlier ∈ visited, ∀ key view, earlier.Discards key →
        earlier.state.context.view? key = some view →
          key ∈ (history visited).filterMap Deed.cleared?) ∧
      (∀ key ∈ (history visited).filterMap Deed.cleared?,
        ∃ earlier ∈ visited, earlier.Discards key) ∧
      (∀ name, machine.mode = .perform (.createView name) →
        (∀ address, machine.state.web.create.2 = .ok address → address = 0) →
          machine.step.state.context = machine.state.context) ∧
      (machine.reply?.isSome →
        (∀ key view, machine.state.context.view? key = some view → view.held = false) →
          machine.state.context.liveObjects = 0 ∧ machine.state.context.pendingCallbacks = 0 ∧
            (machine.state.seen.filterMap Sighting.released?).length =
              (machine.state.seen.filterMap Sighting.created?).length) := by
  refine ⟨run.conserves, ?_, fun key => discards_of_cleared, ?_, run.nothing_left⟩
  · intro earlier member key view discards found
    exact run.cleared_of_discards member discards found
  · intro name performs refused
    rw [Machine.step_of_performs performs]
    exact machine.context_creating_of_refused name refused

/-- A session that has created a view and let go of it. -/
theorem release_of_dropView : ∃ visited machine, machine.reply?.isSome ∧
    Conserves (history visited) machine ∧
      (history visited).filterMap Deed.cleared? = [0] ∧
      machine.state.seen.filterMap Sighting.released? = [0x1000] ∧
      machine.state.context.liveObjects = 0 ∧ machine.state.context.pendingCallbacks = 0 := by
  have created := Run.step (.start State.new_withWeb (.createView "page"))
  have dropped := (created.next rfl (.dropView "page")).step.step.step.step.step
  refine ⟨_, _, ?_, dropped.release.1, ?_, ?_, ?_⟩
  · rfl
  · rfl
  · rfl
  · have left := dropped.release.2.2.2.2 rfl ?_
    · exact ⟨left.1, left.2.1⟩
    · intro key view found
      have member := (Table.mem_values_iff _ view).mpr ⟨key, found⟩
      cases List.mem_singleton.mp member
      rfl

end Run

end Session

end HostBridge
