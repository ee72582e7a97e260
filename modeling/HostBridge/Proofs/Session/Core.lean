import HostBridge.Proofs.Session.History
import HostBridge.Proofs.Table

/-!
# The core of a session

The part of a session that deeds are about: the registry, the views without their bindings and
clients, the continuations and slots, the views that are being torn down, and the record of what the
engine, the bus and the continuations were told.  A deed has one effect on the core (`Core.after`),
and each deed of a session is enabled where it is done (`Core.Enables`).

Main statements: what was seen goes into the records (`State.core_saw`), and a change of what is
bound to a view leaves the core alone (`State.core_modifyView_of_unseen`).
-/

namespace HostBridge

/-- A view without what the application binds to it. -/
def View.bare {σ : Type} (view : View σ) : View σ :=
  { view with bindings := Bindings.empty, client := none }

/-- What an event tells about the reachability of an object. -/
def Event.reachability? : Event → Option LifecycleEvent
  | .lifecycle (.registered id) => some (.registered id)
  | .lifecycle (.released id) => some (.released id)
  | _ => none

namespace Session

namespace Sighting

/-- The address of an instance that the engine created; 0 is no instance. -/
def created? : Sighting → Option UInt64
  | .webCreate (some address) => if address = 0 then none else some address
  | _ => none

/-- The address that the engine was given back. -/
def released? : Sighting → Option UInt64
  | .webRelease address => some address
  | _ => none

/-- The address that a call was made to. -/
def invoked? : Sighting → Option UInt64
  | .webInvoke address _ _ => some address
  | _ => none

/-- Whether a continuation was called or dropped. -/
def isSettlement : Sighting → Bool
  | .continued _ _ => true
  | .abandoned _ => true
  | _ => false

end Sighting

/-- The part of a session that deeds are about. -/
structure Core where
  registry : Registry
  callbacks : CallbackTable (Continuation Action)
  /-- The views, without their bindings and clients. -/
  views : Table ObjectKey (View Action)
  nextView : ObjectKey
  slots : Table Nat Slot
  nextSlot : Nat
  /-- The views that are being torn down, the last one first. -/
  releasing : List ObjectKey
  /-- What was announced about the reachability of objects. -/
  lifecycle : List LifecycleEvent
  /-- The addresses of the instances that the engine created. -/
  created : List UInt64
  /-- The addresses that the engine was given back. -/
  released : List UInt64
  /-- The addresses that calls were made to. -/
  invoked : List UInt64
  /-- The continuations that were called or dropped. -/
  settled : List Sighting

namespace Core

/-- A session in which nothing has happened yet. -/
def initial : Core where
  registry := Registry.empty
  callbacks := CallbackTable.empty
  views := Table.empty
  nextView := 0
  slots := Table.empty
  nextSlot := 0
  releasing := []
  lifecycle := []
  created := []
  released := []
  invoked := []
  settled := []

/-- Record what was seen. -/
def record (core : Core) : Sighting → Core
  | .webCreate (some address) =>
    if address = 0 then core else { core with created := core.created ++ [address] }
  | .webRelease address => { core with released := core.released ++ [address] }
  | .webInvoke address _ _ => { core with invoked := core.invoked ++ [address] }
  | .continued name result => { core with settled := core.settled ++ [.continued name result] }
  | .abandoned name => { core with settled := core.settled ++ [.abandoned name] }
  | _ => core

/-- Drop a continuation. -/
def abandon (core : Core) : Continuation Action → Core
  | .reaction name _ _ => { core with settled := core.settled ++ [.abandoned name] }
  | .slot key => { core with slots := core.slots.insert key .closed }

/-- Drop several continuations. -/
def abandonAll (core : Core) (continuations : List (Continuation Action)) : Core :=
  continuations.foldl abandon core

/-- Call a continuation with its result. -/
def fulfil (core : Core) (result : Option String) : Continuation Action → Core
  | .reaction name _ _ => { core with settled := core.settled ++ [.continued name result] }
  | .slot key => { core with slots := core.slots.insert key (.filled result) }

/-- Open the slot that a continuation fills. -/
def opening (core : Core) : Option (Continuation Action) → Core
  | some (.slot slot) =>
    { core with slots := core.slots.insert slot .waiting, nextSlot := slot + 1 }
  | _ => core

/-- Issue an id, and park a continuation under it for a view. -/
def park (core : Core) (key : ObjectKey) (id : CallbackId) : Option (Continuation Action) → Core
  | none => { core with callbacks := core.callbacks.issue.1 }
  | some continuation =>
    { core with
      callbacks := core.callbacks.issue.1.park id continuation
      views := core.views.modify key (·.track id) }

/-- Take a continuation out of the table, and stop tracking it for a view. -/
def take (core : Core) (key : ObjectKey) (id : CallbackId) : Core :=
  { core with
    callbacks := (core.callbacks.resolve id).1
    views := core.views.modify key (·.untrack id) }

/-- Evaluate a script whose call was taken or not; without a call nothing stays parked. -/
def evaluate (core : Core) (key : ObjectKey) (id : CallbackId)
    (continuation : Option (Continuation Action)) (sent : Bool) : Core :=
  let parked := core.park key id continuation
  if sent then parked else (parked.take key id).abandonAll (parked.callbacks.resolve id).2.toList

/-- The effect of a deed. -/
def after (core : Core) : Deed → Core
  | .create address _ =>
    { core with
      registry := ⟨core.registry.entries.insert address core.nextView⟩
      views := core.views.insert core.nextView (View.new address)
      nextView := core.nextView + 1
      lifecycle := core.lifecycle ++ [.registered address]
      created := core.created ++ [address] }
  | .letGo key =>
    { core with views := core.views.modify key (fun view => { view with held := false }) }
  | .clear key dropped =>
    match core.views.find? key with
    | none => core
    | some view =>
      { core with
        registry := (core.registry.removeOwned view.objectId key).1
        views := core.views.insert key
          { view with handle := Handle.empty, held := view.held && !dropped }
        releasing := key :: core.releasing
        released := core.released ++ [view.handle.address] }
  | .retire key =>
    match core.views.find? key with
    | none => { core with releasing := core.releasing.tail }
    | some view =>
      let retired : Core := { core with
        callbacks := (Context.resolveAll core.callbacks view.pending).1
        views := core.views.insert key { view with pending := [] }
        releasing := core.releasing.tail
        lifecycle := core.lifecycle ++ [.released view.objectId] }
      retired.abandonAll (Context.resolveAll core.callbacks view.pending).2
  | .invoke key =>
    match core.views.find? key with
    | none => core
    | some view => { core with invoked := core.invoked ++ [view.handle.address] }
  | .evaluate key id continuation sent =>
    (core.opening continuation).evaluate key id continuation sent
  | .answer key id result =>
    ((core.callbacks.resolve id).2.toList).foldl (·.fulfil result) (core.take key id)
  | .poll slot =>
    match core.slots.find? slot with
    | some (.filled _) => { core with slots := core.slots.insert slot .closed }
    | _ => core

theorem callbacks_opening (core : Core) (continuation : Option (Continuation Action)) :
    (core.opening continuation).callbacks = core.callbacks := by
  cases continuation with
  | none => rfl
  | some continuation => cases continuation with
    | reaction name steps ending => rfl
    | slot key => rfl

theorem views_opening (core : Core) (continuation : Option (Continuation Action)) :
    (core.opening continuation).views = core.views := by
  cases continuation with
  | none => rfl
  | some continuation => cases continuation with
    | reaction name steps ending => rfl
    | slot key => rfl

/-- Clearing a view that is found takes it out of the registry and empties its handle. -/
theorem after_clear {core : Core} {key : ObjectKey} {view : View Action} (dropped : Bool)
    (found : core.views.find? key = some view) :
    core.after (.clear key dropped) =
      { core with
        registry := (core.registry.removeOwned view.objectId key).1
        views := core.views.insert key
          { view with handle := Handle.empty, held := view.held && !dropped }
        releasing := key :: core.releasing
        released := core.released ++ [view.handle.address] } := by
  simp only [after, found]

/-- Invoking a view that is found notes its address. -/
theorem after_invoke {core : Core} {key : ObjectKey} {view : View Action}
    (found : core.views.find? key = some view) :
    core.after (.invoke key) = { core with invoked := core.invoked ++ [view.handle.address] } := by
  simp only [after, found]

/-- Abandoning continuations touches only slots and settlements. -/
theorem abandonAll_eq (core : Core) (continuations : List (Continuation Action)) :
    ∃ slots settled,
      core.abandonAll continuations = { core with slots := slots, settled := settled } := by
  induction continuations generalizing core with
  | nil => exact ⟨core.slots, core.settled, rfl⟩
  | cons first others ih =>
      obtain ⟨slots, settled, same⟩ := ih (core.abandon first)
      refine ⟨slots, settled, same.trans ?_⟩
      cases first with
      | reaction name steps ending => rfl
      | slot key => rfl

/-- Retiring a view that is found drops what it still waits for. -/
theorem after_retire {core : Core} {key : ObjectKey} {view : View Action}
    (found : core.views.find? key = some view) :
    ∃ slots settled, core.after (.retire key) =
      { core with
        callbacks := (Context.resolveAll core.callbacks view.pending).1
        views := core.views.insert key { view with pending := [] }
        slots := slots
        releasing := core.releasing.tail
        lifecycle := core.lifecycle ++ [.released view.objectId]
        settled := settled } := by
  simp only [after, found]
  obtain ⟨slots, settled, same⟩ := abandonAll_eq _
    (Context.resolveAll core.callbacks view.pending).2
  exact ⟨slots, settled, same⟩

/-- Whether a view of the given address is being torn down. -/
def releases (core : Core) (address : UInt64) : Bool :=
  core.releasing.any (fun key => (core.views.find? key).any (fun view => view.objectId = address))

/-- When a deed can be done, if `rule` says which addresses the engine may hand out. -/
def Enables (rule : Core → UInt64 → Prop) (core : Core) : Deed → Prop
  | .create address amid => address ≠ 0 ∧ amid = core.releases address ∧ rule core address
  | .letGo key => ∃ view, core.views.find? key = some view ∧ view.isDestroyed = true
  | .clear key _ => ∃ view, core.views.find? key = some view ∧ view.isDestroyed = false
  | .retire key => core.releasing.head? = some key
  | .invoke key => ∃ view, core.views.find? key = some view ∧ view.isDestroyed = false
  | .evaluate key id continuation sent =>
    id = ⟨core.callbacks.issued + 1⟩ ∧
      (∃ view, core.views.find? key = some view ∧ (sent = true → view.isDestroyed = false)) ∧
      ∀ slot, continuation = some (.slot slot) → slot = core.nextSlot
  | .answer key _ _ => ∃ view, core.views.find? key = some view
  | .poll _ => True

/-- The core that deeds lead to, one after the other. -/
inductive Path (rule : Core → UInt64 → Prop) : Core → List Deed → Core → Prop where
  | nil {core : Core} : Path rule core [] core
  | cons {core last : Core} {deed : Deed} {deeds : List Deed} (enabled : core.Enables rule deed)
      (rest : Path rule (core.after deed) deeds last) : Path rule core (deed :: deeds) last

/-- The cores of sessions, with the deeds that led to them. -/
inductive Reached (rule : Core → UInt64 → Prop) : List Deed → Core → Prop where
  | initial : Reached rule [] Core.initial
  | after {deeds : List Deed} {core : Core} {deed : Deed} (reached : Reached rule deeds core)
      (enabled : core.Enables rule deed) : Reached rule (deeds ++ [deed]) (core.after deed)

/-- The engine hands out only addresses that no undestroyed view holds. -/
def Free (core : Core) (address : UInt64) : Prop :=
  ∀ key view, core.views.find? key = some view → view.isDestroyed = false →
    view.handle.address ≠ address

/-- The engine may hand out any address. -/
def Unruled (_ : Core) (_ : UInt64) : Prop := True

variable {rule : Core → UInt64 → Prop}

theorem Path.still {core last : Core} (same : last = core) : Path rule core [] last := by
  subst same
  exact .nil

/-- An enabled deed is a path of its own. -/
theorem Path.single {core last : Core} {deed : Deed} (enabled : core.Enables rule deed)
    (same : last = core.after deed) : Path rule core [deed] last := by
  subst same
  exact .cons enabled .nil

/-- Paths are put one after another. -/
theorem Path.append {first middle last : Core} {left right : List Deed}
    (before : Path rule first left middle) (later : Path rule middle right last) :
    Path rule first (left ++ right) last := by
  induction before with
  | nil => exact later
  | cons enabled _ ih => exact .cons enabled (ih later)

/-- What a path leads to from a reached core is reached. -/
theorem Reached.path {deeds more : List Deed} {core last : Core} (reached : Reached rule deeds core)
    (path : Path rule core more last) : Reached rule (deeds ++ more) last := by
  induction path generalizing deeds with
  | nil => rwa [List.append_nil]
  | cons enabled _ ih => simpa using ih (reached.after enabled)

end Core

namespace State

variable (state : State) (releasing : List ObjectKey)

/-- The core of a session in which some views are being torn down. -/
def core : Core where
  registry := state.context.registry
  callbacks := state.context.callbacks
  views := state.context.views.mapValues View.bare
  nextView := state.context.nextView
  slots := state.slots
  nextSlot := state.nextSlot
  releasing := releasing
  lifecycle := state.context.bus.emitted.filterMap Event.reachability?
  created := state.seen.filterMap Sighting.created?
  released := state.seen.filterMap Sighting.released?
  invoked := state.seen.filterMap Sighting.invoked?
  settled := state.seen.filter Sighting.isSettlement

theorem core_saw (sighting : Sighting) :
    (state.saw [sighting]).core releasing = (state.core releasing).record sighting := by
  simp only [core, saw, List.filterMap_append, List.filter_append, List.filterMap_cons,
    List.filterMap_nil, List.filter_cons, List.filter_nil]
  cases sighting with
  | webCreate answer =>
      cases answer with
      | none => simp only [Sighting.created?, Sighting.released?, Sighting.invoked?,
          Sighting.isSettlement, Bool.false_eq_true, ↓reduceIte, List.append_nil, Core.record]
      | some address =>
          by_cases null : address = 0
          · simp only [Sighting.created?, Sighting.released?, Sighting.invoked?,
              Sighting.isSettlement, null, Bool.false_eq_true, ↓reduceIte, List.append_nil,
              Core.record]
          · simp only [Sighting.created?, Sighting.released?, Sighting.invoked?,
              Sighting.isSettlement, null, Bool.false_eq_true, ↓reduceIte, List.append_nil,
              Core.record]
  | _ => simp only [Sighting.created?, Sighting.released?, Sighting.invoked?,
      Sighting.isSettlement, Bool.false_eq_true, ↓reduceIte, List.append_nil, Core.record]

/-- Sightings that are not recorded leave the core. -/
theorem core_saw_of_unrecorded {sightings : List Sighting}
    (unrecorded : ∀ sighting ∈ sightings, ∀ core : Core, core.record sighting = core) :
    (state.saw sightings).core = state.core := by
  funext releasing
  induction sightings generalizing state with
  | nil => simp only [core, saw, List.append_nil]
  | cons first others ih =>
      have split : state.saw (first :: others) = (state.saw [first]).saw others := by
        simp only [saw, List.append_assoc, List.cons_append, List.nil_append]
      rw [split, ih _ fun sighting member => unrecorded sighting (List.mem_cons_of_mem _ member),
        core_saw, unrecorded first List.mem_cons_self]

/-- An event that tells nothing of reachability leaves the core. -/
theorem core_announce_of_silent {event : Event} (silent : event.reachability? = none) :
    (state.announce event).core = state.core := by
  funext releasing
  simp only [core, announce, Context.announce, Bus.emitted_announce, List.filterMap_append,
    List.filterMap_cons, silent, List.filterMap_nil, List.append_nil]

/-- A change of a view that the core does not see leaves the core. -/
theorem core_modifyView_of_unseen {key : ObjectKey} {change : View Action → View Action}
    (unseen : ∀ view, state.context.view? key = some view → (change view).bare = view.bare) :
    ({ state with context := state.context.modifyView key change } : State).core = state.core := by
  funext releasing
  simp only [core, Context.modifyView, Table.mapValues_modify_of_unseen _ _ _ _ unseen]

end State

end Session

end HostBridge
