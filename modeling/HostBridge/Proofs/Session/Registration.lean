import HostBridge.Proofs.Session.Invariant
import HostBridge.Proofs.Session.Simulation

/-!
# Which views a session finds

The registry refers to views by the addresses that an engine hands out, and an engine may hand out
an address again, also while the view that had it is still being torn down.

Main statement: in every run the registry leads to undestroyed views only, and if the engine hands
out free addresses it leads to all of them (`Run.registration`).
-/

namespace HostBridge.Session

/-- No entry of the registry leads to a destroyed view, and no inbound event is handled by one. -/
structure LeadsToLiving (machine : Machine) : Prop where
  /-- An entry is of a view with that id whose handle was not cleared. -/
  entry : ∀ id key, machine.state.context.registry.entries.find? id = some key →
    ∃ view, machine.state.context.view? key = some view ∧ view.objectId = id ∧
      view.handle = ⟨id⟩ ∧ view.isDestroyed = false
  /-- An inbound event is refused at once or handled by an undestroyed view with its id. -/
  delivery : ∀ inbound,
    (∃ state refusal, machine.delivering inbound =
      machine.answering (state, .delivery refusal)) ∨
    ∃ key view payload, machine.state.context.view? key = some view ∧
      view.objectId = inbound.objectId ∧ view.isDestroyed = false ∧
      machine.delivering inbound = ({ machine with
        state := machine.state.note [inbound.arrivedEntry]
        stack := .handler inbound :: machine.stack } : Machine).handling key inbound.method payload

/-- The undestroyed views are those that the registry finds. -/
structure LeadsToAll (context : Context Action) : Prop where
  found : ∀ key view, context.view? key = some view → view.isDestroyed = false →
    context.registry.lookup context.alive view.objectId = some key
  counted : context.liveObjects =
    (context.views.values.filter (fun view => !view.isDestroyed)).length

namespace Machine

variable (machine : Machine)

/-- The outline shows a view without its bindings, its client and what it waits for. -/
theorem find?_outline (key : ObjectKey) :
    machine.core.outline.views.find? key =
      (machine.state.context.view? key).map (fun view => view.bare.unawaited) := by
  have mapped : machine.core.views.find? key = _ := machine.state.find?_core machine.releasing key
  rw [Core.find?_outline, mapped, Option.map_map]
  rfl

/-- A view that is found is found in the outline. -/
theorem find?_outline_of_view? {key : ObjectKey} {view : View Action}
    (found : machine.state.context.view? key = some view) :
    machine.core.outline.views.find? key = some view.bare.unawaited := by
  rw [find?_outline, found, Option.map_some]

/-- Whatever the outline finds is found among the views. -/
theorem view?_of_outline {key : ObjectKey} {face : View Action}
    (listed : machine.core.outline.views.find? key = some face) :
    ∃ view, machine.state.context.view? key = some view ∧ view.bare.unawaited = face := by
  rw [find?_outline] at listed
  exact Option.map_eq_some_iff.mp listed

/-- In a sound machine every view is sound. -/
theorem soundView (sound : machine.core.outline.Sound) {key : ObjectKey} {view : View Action}
    (found : machine.state.context.view? key = some view) : SoundView view :=
  have face := sound.views key _ (find?_outline_of_view? machine found)
  ⟨face.named, face.handle, face.held⟩

/-- In a sound machine the registry leads to living views only. -/
theorem leadsToLiving (sound : machine.core.outline.Sound) : LeadsToLiving machine where
  entry id key listed := by
    obtain ⟨face, present, named, living⟩ := sound.entries id key listed
    obtain ⟨view, found, same⟩ := view?_of_outline machine present
    subst same
    have handle := (soundView machine sound found).handle_of_living living
    exact ⟨view, found, named, handle.trans (congrArg Handle.mk named), living⟩
  delivery inbound := by
    unfold delivering
    dsimp only
    cases listed : machine.state.context.registry.lookup machine.state.context.alive
        inbound.objectId with
    | none => exact .inl ⟨_, _, rfl⟩
    | some key =>
        obtain ⟨entered, _⟩ := (Registry.lookup_eq_some_iff _ _ _ _).mp listed
        obtain ⟨face, present, named, living⟩ := sound.entries _ key entered
        obtain ⟨view, found, same⟩ := view?_of_outline machine present
        subst same
        cases read : inbound.value? with
        | none =>
            simp only [read, Inbound.admit]
            exact .inl ⟨_, _, rfl⟩
        | some payload =>
            simp only [read, Inbound.admit]
            exact .inr ⟨key, view, payload, found, named, living, rfl⟩

/-- In a sound machine with exclusive addresses the registry leads to all living views. -/
theorem leadsToAll (sound : machine.core.outline.Sound)
    (exclusive : machine.core.outline.Exclusive) : LeadsToAll machine.state.context := by
  have found : ∀ key view, machine.state.context.view? key = some view →
      view.isDestroyed = false →
      machine.state.context.registry.lookup machine.state.context.alive view.objectId =
        some key := by
    intro key view present living
    have entered := exclusive key _ (find?_outline_of_view? machine present) living
    have held := (soundView machine sound present).held_of_living living
    refine (Registry.lookup_eq_some_iff _ _ _ _).mpr ⟨entered, ?_⟩
    rw [Context.alive, present, Option.any_some, held]
  refine ⟨found, ?_⟩
  let living := machine.state.context.views.entries.filter (fun entry => !entry.2.isDestroyed)
  have nodup : (living.map Prod.fst).Nodup :=
    (Table.nodup_keys _).sublist (List.filter_sublist.map _)
  have single : ∀ id other key, machine.state.context.registry.entries.find? id = some key →
      machine.state.context.registry.entries.find? other = some key → id = other := by
    intro id other key first second
    obtain ⟨view, present, named, _⟩ := sound.entries id key first
    obtain ⟨same, again, renamed, _⟩ := sound.entries other key second
    rw [present] at again
    cases again
    exact named.symm.trans renamed
  have listed : ∀ key, key ∈ living.map Prod.fst ↔ ∃ id,
      machine.state.context.registry.lookup machine.state.context.alive id = some key := by
    intro key
    constructor
    · intro member
      obtain ⟨⟨_, view⟩, kept, rfl⟩ := List.mem_map.mp member
      obtain ⟨present, lives⟩ := List.mem_filter.mp kept
      have living : view.isDestroyed = false := (Bool.not_eq_true' _).mp lives
      exact ⟨view.objectId, found _ view ((Table.mem_entries_iff _ _ _).mp present) living⟩
    · rintro ⟨id, entered⟩
      obtain ⟨entry, _⟩ := (Registry.lookup_eq_some_iff _ _ _ _).mp entered
      obtain ⟨view, present, _, _, lives⟩ := (machine.leadsToLiving sound).entry id key entry
      refine List.mem_map.mpr ⟨(key, view), List.mem_filter.mpr ⟨?_, ?_⟩, rfl⟩
      · exact (Table.mem_entries_iff _ _ _).mpr present
      · exact (Bool.not_eq_true' _).mpr lives
  have counted := Registry.liveCount_eq_length machine.state.context.registry single nodup listed
  rw [Context.liveObjects, counted, List.length_map, Table.values, List.filter_map, List.length_map]
  rfl

end Machine

/-- In every run an id leads to an undestroyed view that has the id. -/
theorem Run.view_of_lookup {visited : List Machine} {machine : Machine} (run : Run visited machine)
    {id : UInt64} {key : ObjectKey}
    (listed : machine.state.context.registry.lookup machine.state.context.alive id = some key) :
    ∃ view, machine.state.context.view? key = some view ∧ view.objectId = id ∧
      view.isDestroyed = false := by
  have sound := run.reached_unruled.sound Core.isOutlined_unruled
  obtain ⟨entered, _⟩ := (Registry.lookup_eq_some_iff _ _ _ _).mp listed
  obtain ⟨view, found, named, _, living⟩ := (machine.leadsToLiving sound).entry id key entered
  exact ⟨view, found, named, living⟩

/-- In every run the registry leads to undestroyed views only, and to all of them if the engine
hands out free addresses. -/
theorem Run.registration {visited : List Machine} {machine : Machine}
    (run : Run visited machine) :
    LeadsToLiving machine ∧
      ((∀ earlier ∈ visited, earlier.HandsOutFree) → LeadsToAll machine.state.context) := by
  refine ⟨machine.leadsToLiving (run.reached_unruled.sound Core.isOutlined_unruled), ?_⟩
  intro exclusive
  obtain ⟨sound, all⟩ := (run.reached_free exclusive).exclusive
  exact machine.leadsToAll sound all

/-- An engine that creates a view at the address that it is just taking back: the new view is found,
and the old one is not counted. -/
theorem Run.registration_of_reuse : ∃ visited machine, Run visited machine ∧
    (∀ earlier ∈ visited, earlier.HandsOutFree) ∧ LeadsToLiving machine ∧
      LeadsToAll machine.state.context ∧ machine.state.context.liveObjects = 1 ∧
      machine.state.context.registry.lookup machine.state.context.alive 66 = some 1 := by
  have answers := Run.step (.start State.new_withWeb (.webAddresses [.ok 66, .ok 66]))
  have old := (answers.next rfl (.createView "old")).step
  have hook := (old.next rfl (.onRelease [.createView "new"])).step
  have destroyed := (hook.next rfl (.destroy "old")).step.step.step.step.step.step.step
  have exclusive := destroyed.registration.2 (by decide)
  exact ⟨_, _, destroyed, by decide, destroyed.registration.1, exclusive, rfl, rfl⟩

end HostBridge.Session
