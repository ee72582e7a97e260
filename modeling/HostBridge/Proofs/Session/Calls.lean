import HostBridge.Proofs.Session.Core
import HostBridge.Session.Views

/-!
# Calls, scripts and slots

What a call to a view does to the core of a session, with the continuation that is parked for its
result, and what looking into a slot does.

Main statements: each of these actions takes the core along its deeds (`State.path_call`,
`State.path_addInterface`, `State.path_evaluateOn`, `State.path_evaluateLater`, `State.path_poll`).
-/

namespace HostBridge.Session

variable {rule : Core → UInt64 → Prop}

namespace State

variable (state : State) (releasing : List ObjectKey)

/-- The core knows of a view what is left of it without bindings and client. -/
theorem find?_core (key : ObjectKey) :
    (state.core releasing).views.find? key = (state.context.view? key).map View.bare :=
  Table.find?_mapValues _ _ _

/-- A view that is found is found in the core. -/
theorem find?_core_of_view? {key : ObjectKey} {view : View Action}
    (found : state.context.view? key = some view) :
    (state.core releasing).views.find? key = some view.bare := by
  rw [find?_core, found, Option.map_some]

/-- A name stands for a view when it names a key under which there is one. -/
theorem view?_eq_some_iff {name : String} {key : ObjectKey} {view : View Action} :
    state.view? name = some (key, view) ↔
      state.viewNames.find? name = some key ∧ state.context.view? key = some view := by
  constructor
  · intro found
    obtain ⟨_, listed, mapped⟩ := Option.bind_eq_some_iff.mp found
    obtain ⟨_, present, same⟩ := Option.map_eq_some_iff.mp mapped
    cases same
    exact ⟨listed, present⟩
  · rintro ⟨listed, present⟩
    simp only [State.view?, listed, Option.bind_some, present, Option.map_some]

/-! ### Continuations -/

/-- Abandoning a continuation is the same in the core. -/
theorem core_abandon (continuation : Continuation Action) :
    (state.abandon continuation).core releasing =
      (state.core releasing).abandon continuation := by
  cases continuation with
  | reaction name steps ending => exact core_saw _ _ _
  | slot key => rfl

theorem core_abandonAll (continuations : List (Continuation Action)) :
    (state.abandonAll continuations).core releasing =
      (state.core releasing).abandonAll continuations := by
  induction continuations generalizing state with
  | nil => rfl
  | cons first others ih =>
      change ((state.abandon first).abandonAll others).core releasing = _
      rw [ih, core_abandon]
      rfl

/-- The session after an id was issued, and a continuation parked under it. -/
def issuing (key : ObjectKey) (continuation : Option (Continuation Action)) : State :=
  { state with context := (state.context.issueCallback key continuation).1 }

/-- The session after a continuation was taken out of the table. -/
def taking (key : ObjectKey) (id : CallbackId) : State :=
  { state with context := (state.context.takeCallback key id).1 }

/-- Issuing a callback id parks its continuation in the core. -/
theorem core_issuing (key : ObjectKey) (continuation : Option (Continuation Action)) :
    (state.issuing key continuation).core releasing =
      (state.core releasing).park key ⟨state.context.callbacks.issued + 1⟩ continuation := by
  cases continuation with
  | none => rfl
  | some continuation =>
      have tracked := Table.mapValues_modify state.context.views View.bare key
        (·.track ⟨state.context.callbacks.issued + 1⟩)
        (·.track ⟨state.context.callbacks.issued + 1⟩) fun _ _ => rfl
      simp only [core, issuing, Context.issueCallback, Context.modifyView, tracked,
        CallbackTable.issue, Core.park]

theorem core_taking (key : ObjectKey) (id : CallbackId) :
    (state.taking key id).core releasing = (state.core releasing).take key id := by
  have untracked := Table.mapValues_modify state.context.views View.bare key (·.untrack id)
    (·.untrack id) fun _ _ => rfl
  simp only [core, taking, Context.takeCallback, Context.modifyView, untracked,
    CallbackTable.resolve, Core.take]

/-- Tracking a continuation does not touch the handle of its view. -/
theorem view?_issuing {key : ObjectKey} {view : View Action}
    (found : state.context.view? key = some view) (continuation : Option (Continuation Action)) :
    ∃ tracked, (state.issuing key continuation).context.view? key = some tracked ∧
      tracked.handle = view.handle := by
  cases continuation with
  | none => exact ⟨view, found, rfl⟩
  | some continuation =>
      refine ⟨view.track ⟨state.context.callbacks.issued + 1⟩, ?_, rfl⟩
      have present : state.context.views.find? key = some view := found
      simp only [issuing, Context.issueCallback, Context.modifyView, Context.view?,
        CallbackTable.issue, Table.find?_modify, ↓reduceIte, present, Option.map_some]

/-! ### Calls -/

/-- An outbound call is an invocation in the core, unless its view is destroyed. -/
theorem core_invoke {key : ObjectKey} {view bare : View Action} (call : Outbound)
    (found : (state.core releasing).views.find? key = some bare)
    (same : bare.handle = view.handle) :
    (state.invoke view call).1.core releasing =
      if view.isDestroyed then state.core releasing
      else (state.core releasing).after (.invoke key) := by
  by_cases destroyed : view.isDestroyed = true
  · simp only [invoke, Context.outbound, destroyed, ↓reduceIte]
    rfl
  · have seen := core_saw
      ({ state with
        context := state.context.note [ViewLog.invoking view.objectId call.method] } : State)
      releasing (.webInvoke view.handle.address call.method call.payload.render)
    simp only [invoke, Context.outbound, destroyed, Bool.false_eq_true, ↓reduceIte, Core.after,
      found, same]
    split
    · exact seen
    · exact seen

/-- A call to a named view is made unless the view was destroyed. -/
theorem path_invoking {name : String} {key : ObjectKey} {view : View Action}
    (found : state.view? name = some (key, view)) :
    Core.Path rule (state.core releasing) (state.invoking name)
      (if view.isDestroyed then state.core releasing
        else (state.core releasing).after (.invoke key)) := by
  have present := find?_core_of_view? state releasing (state.view?_eq_some_iff.mp found).2
  unfold invoking
  rw [found]
  by_cases gone : view.isDestroyed = true
  · simp only [gone, ↓reduceIte]
    exact .nil
  · simp only [gone, Bool.false_eq_true, ↓reduceIte]
    exact .single ⟨view.bare, present, Bool.eq_false_iff.mpr gone⟩ rfl

/-- An outbound call follows the path of its invocation. -/
theorem path_invoke {name : String} {key : ObjectKey} {view bound : View Action}
    (found : state.view? name = some (key, view)) (same : bound.handle = view.handle)
    (call : Outbound) :
    Core.Path rule (state.core releasing) (state.invoking name)
      ((state.invoke bound call).1.core releasing) := by
  have present := find?_core_of_view? state releasing (state.view?_eq_some_iff.mp found).2
  have destroyed : bound.isDestroyed = view.isDestroyed := congrArg Handle.isReleased same
  rw [core_invoke state releasing call present same.symm, destroyed]
  exact path_invoking state releasing found

/-- A call of a named view follows the path of its invocation. -/
theorem path_call (name : String) (call : Outbound) :
    Core.Path rule (state.core releasing) (state.invoking name)
      ((state.call name call).1.core releasing) := by
  cases found : state.view? name with
  | none =>
      simp only [State.call, invoking, found]
      exact .nil
  | some entry =>
      have path : Core.Path rule _ _ _ := path_invoke state releasing found rfl call
      simpa only [State.call, found] using path

/-- Adding an interface follows the path of one invocation. -/
theorem path_addInterface (name interface : String) (target : ScriptTarget Action) :
    Core.Path rule (state.core releasing) (state.invoking name)
      ((state.addInterface name interface target).1.core releasing) := by
  cases found : state.view? name with
  | none =>
      simp only [addInterface, invoking, found]
      exact .nil
  | some entry =>
      obtain ⟨key, view⟩ := entry
      let bound := { view with bindings := (view.bindings.bind interface target).1 }
      let binding : State :=
        { state with context := state.context.modifyView key (fun _ => bound) }
      have present := (state.view?_eq_some_iff.mp found).2
      have unseen : binding.core = state.core := by
        apply core_modifyView_of_unseen
        intro other here
        rw [present] at here
        cases here
        rfl
      have changed : binding.context.view? key = some bound := by
        have stored : state.context.views.find? key = some view := present
        simp only [binding, Context.modifyView, Context.view?, Table.find?_modify, ↓reduceIte,
          stored, Option.map_some]
      have named : binding.view? name = some (key, bound) :=
        binding.view?_eq_some_iff.mpr ⟨(state.view?_eq_some_iff.mp found).1, changed⟩
      have path : Core.Path rule _ _ _ :=
        path_invoke binding releasing named rfl (.addInterface interface)
      have calls : binding.invoking name = state.invoking name := by
        simp only [invoking, named, found]
        rfl
      rw [calls, unseen] at path
      simpa only [addInterface, found] using path

/-- A call is taken when its view lives and the web engine does not fail. -/
theorem invoke_taken_iff (view : View Action) (call : Outbound) :
    (state.invoke view call).2 = .ok true ↔
      (!view.isDestroyed && state.web.failure.isNone) = true := by
  by_cases destroyed : view.isDestroyed = true
  · simp [invoke, Context.outbound, destroyed]
  · simp only [invoke, Context.outbound, destroyed, Bool.false_eq_true, ↓reduceIte, Bool.not_false,
      Bool.true_and, Option.isNone_iff_eq_none]
    split
    next failure => exact iff_of_true rfl failure
    next error failure =>
      have failed : state.web.failure = some error := failure
      simp [failed]

/-- A call with an id just issued invokes first and parks after it, seen from the core. -/
theorem core_invoke_issuing {key : ObjectKey} {view tracked : View Action}
    (found : state.context.view? key = some view) (continuation : Option (Continuation Action))
    (call : Outbound) (listed : (state.issuing key continuation).context.view? key = some tracked)
    (same : tracked.handle = view.handle) :
    ((state.issuing key continuation).invoke tracked call).1.core releasing =
      (if view.isDestroyed then state.core releasing
        else (state.core releasing).after (.invoke key)).park key
          ⟨state.context.callbacks.issued + 1⟩ continuation := by
  have before := find?_core_of_view? state releasing found
  have later := find?_core_of_view? (state.issuing key continuation) releasing listed
  have destroyed : tracked.isDestroyed = view.isDestroyed := congrArg Handle.isReleased same
  have handle : tracked.bare.handle = tracked.handle := rfl
  rw [core_invoke _ releasing call later handle, destroyed]
  by_cases gone : view.isDestroyed = true
  · simp only [gone, ↓reduceIte, core_issuing]
  · simp only [gone, Bool.false_eq_true, ↓reduceIte, Core.after, later, before]
    rw [core_issuing]
    cases continuation with
    | none => simp only [Core.park, View.bare, same]
    | some continuation => simp only [Core.park, View.bare, same]

/-- An evaluation issues its id, invokes, and takes the id back when the call was not taken. -/
theorem evaluate_eq {key : ObjectKey} {tracked : View Action} (script : String)
    (continuation : Option (Continuation Action))
    (listed : (state.issuing key continuation).context.view? key = some tracked) :
    let id : CallbackId := ⟨state.context.callbacks.issued + 1⟩
    let called := (state.issuing key continuation).invoke tracked (.evaluate script id)
    (state.evaluate key script continuation).1 =
      if called.2 = .ok true then called.1
      else (called.1.taking key id).abandonAll (called.1.context.takeCallback key id).2.toList := by
  intro id called
  have issued : (state.context.issueCallback key continuation).2 = id := by
    cases continuation with
    | none => rfl
    | some continuation => rfl
  have present : (state.context.issueCallback key continuation).1.view? key = some tracked := listed
  unfold evaluate
  dsimp only
  rw [issued, present]
  dsimp only
  split
  next state taken =>
    have answer : called = (state, .ok true) := taken
    rw [answer, if_pos rfl]
  next state result refused taken =>
    have answer : called = (state, result) := taken
    rw [answer, if_neg refused]
    rfl

/-- An evaluation is an invocation and an evaluation in the core. -/
theorem core_evaluate {key : ObjectKey} {view : View Action}
    (found : state.context.view? key = some view) (script : String)
    (continuation : Option (Continuation Action)) :
    (state.evaluate key script continuation).1.core releasing =
      (if view.isDestroyed then state.core releasing
        else (state.core releasing).after (.invoke key)).evaluate key
          ⟨state.context.callbacks.issued + 1⟩ continuation
          (!view.isDestroyed && state.web.failure.isNone) := by
  obtain ⟨tracked, listed, same⟩ := view?_issuing state found continuation
  have destroyed : tracked.isDestroyed = view.isDestroyed := congrArg Handle.isReleased same
  have parked := core_invoke_issuing state releasing found continuation
    (.evaluate script ⟨state.context.callbacks.issued + 1⟩) listed same
  have taken := invoke_taken_iff (state.issuing key continuation) tracked
    (.evaluate script ⟨state.context.callbacks.issued + 1⟩)
  have failure : (state.issuing key continuation).web.failure = state.web.failure := rfl
  rw [destroyed, failure] at taken
  rw [evaluate_eq state script continuation listed]
  by_cases sent : (!view.isDestroyed && state.web.failure.isNone) = true
  · rw [if_pos (taken.mpr sent), parked, sent]
    rfl
  · have found_in : ∀ later : State, ∀ id,
        (later.context.takeCallback key id).2 = ((later.core releasing).callbacks.resolve id).2 :=
      fun _ _ => rfl
    rw [if_neg (mt taken.mp sent), core_abandonAll, core_taking, found_in, parked,
      Bool.eq_false_iff.mpr sent]
    rfl

/-- An evaluation follows the path of its deeds, from wherever its slot was opened. -/
theorem path_evaluating (opened : State) {name : String} {key : ObjectKey} {view : View Action}
    (found : state.view? name = some (key, view)) (script : String)
    (continuation : Option (Continuation Action)) (context : opened.context = state.context)
    (web : opened.web = state.web)
    (core : opened.core releasing = (state.core releasing).opening continuation)
    (slot : ∀ slot, continuation = some (.slot slot) → slot = state.nextSlot) :
    Core.Path rule (state.core releasing) (state.evaluating name continuation)
      ((opened.evaluate key script continuation).1.core releasing) := by
  have present := (state.view?_eq_some_iff.mp found).2
  have listed := find?_core_of_view? state releasing present
  have opened_present : opened.context.view? key = some view := by rw [context, present]
  have calls : Core.Path rule _ _ _ := path_invoking state releasing found
  rw [core_evaluate opened releasing opened_present, context, web, core]
  unfold evaluating
  rw [found]
  refine calls.append ?_
  by_cases gone : view.isDestroyed = true
  · simp only [gone, ↓reduceIte, Bool.not_true, Bool.false_and]
    exact .single ⟨rfl, ⟨view.bare, listed, fun sent => nomatch sent⟩, slot⟩ rfl
  · simp only [gone, Bool.false_eq_true, ↓reduceIte]
    have living : view.bare.isDestroyed = false := Bool.eq_false_iff.mpr gone
    simp only [Core.after, listed, Core.views_opening]
    refine .single ⟨rfl, ⟨view.bare, listed, fun _ => living⟩, slot⟩ ?_
    cases continuation with
    | none => rfl
    | some continuation => cases continuation with
      | reaction name steps ending => rfl
      | slot key => rfl

theorem path_evaluateOn (name script : String) (continuation : Option (Continuation Action))
    (closed : ∀ slot, continuation ≠ some (.slot slot)) :
    Core.Path rule (state.core releasing) (state.evaluating name continuation)
      ((state.evaluateOn name script continuation).1.core releasing) := by
  cases found : state.view? name with
  | none =>
      simp only [evaluateOn, evaluating, found]
      exact .nil
  | some entry =>
      have core : state.core releasing = (state.core releasing).opening continuation := by
        cases continuation with
        | none => rfl
        | some continuation => cases continuation with
          | reaction name steps ending => rfl
          | slot key => exact absurd rfl (closed key)
      have path : Core.Path rule _ _ _ := path_evaluating state releasing state found script
        continuation rfl rfl core fun slot same => absurd same (closed slot)
      simpa only [evaluateOn, found] using path

/-- The session with its next slot open. -/
def openingSlot : State :=
  { state.setSlot state.nextSlot .waiting with nextSlot := state.nextSlot + 1 }

/-- An evaluation with a slot follows the path of its deeds, the slot opened first. -/
theorem path_evaluateLater (name script slot : String) :
    Core.Path rule (state.core releasing)
      (state.evaluating name (some (.slot state.nextSlot)))
      ((state.evaluateLater name script slot).1.core releasing) := by
  cases found : state.view? name with
  | none =>
      simp only [evaluateLater, evaluating, found]
      exact .nil
  | some entry =>
      obtain ⟨key, view⟩ := entry
      have path : Core.Path rule _ _ _ :=
        path_evaluating state releasing state.openingSlot found script
          (some (.slot state.nextSlot)) rfl rfl rfl fun slot same => by cases same; rfl
      simp only [evaluateLater, found]
      split
      next taken =>
        have result : state.openingSlot.evaluate key script _ = _ := taken
        rwa [result] at path
      next failed =>
        have result : state.openingSlot.evaluate key script _ = _ := failed
        rwa [result] at path

/-- Polling a slot follows the path of one poll. -/
theorem path_poll (slot : String) :
    Core.Path rule (state.core releasing) ((state.slotNames.find? slot).toList.map .poll)
      ((state.poll slot).1.core releasing) := by
  cases found : state.slotNames.find? slot with
  | none =>
      simp only [poll, found]
      exact .nil
  | some key =>
      refine .single trivial ?_
      have slots : (state.core releasing).slots = state.slots := rfl
      simp only [poll, found, Core.after, slots]
      cases held : state.slots.find? key with
      | none => rfl
      | some content => cases content with
        | filled result => rfl
        | _ => rfl

end State

end HostBridge.Session
