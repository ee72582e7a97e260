import HostBridge.Proofs.Session.Keeping
import HostBridge.Proofs.Session.Simulation

/-!
# Calls that fail leave nothing behind

A call to a view is ignored when the view was destroyed, and fails when the engine refuses it.  An
evaluation that comes to nothing takes its continuation back, under an id that nothing else has.
Binding a target is the exception: it comes before the call and is not taken back.

Main statement: in every run a call that is ignored or fails leaves the registry, the parked
continuations and all views as they were, but for the binding that the call announces
(`Run.atomicity`).
-/

namespace HostBridge

namespace Context

variable {σ : Type} (context : Context σ) (key : ObjectKey)

/-- A continuation that is parked under a new id and taken back leaves nothing but the id used. -/
theorem takeCallback_issueCallback (continuation : Option (Continuation σ))
    (log : List Logging.Entry)
    (unused : context.callbacks.parked.find? (context.callbacks.issued + 1) = none)
    (unawaited : ∀ view, context.view? key = some view →
      (⟨context.callbacks.issued + 1⟩ : CallbackId) ∉ view.pending) :
    (((context.issueCallback key continuation).1.note log).takeCallback key
        ⟨context.callbacks.issued + 1⟩).1 =
      { context with
        callbacks := { context.callbacks with issued := context.callbacks.issued + 1 }
        log := context.log ++ log } := by
  have unchanged (view : View σ) (found : context.views.find? key = some view) :
      view.pending.filter (· ≠ ⟨context.callbacks.issued + 1⟩) = view.pending := by
    refine List.filter_eq_self.mpr fun id member => decide_eq_true ?_
    rintro rfl
    exact unawaited view found member
  cases continuation with
  | none =>
      have views : context.views.modify key (·.untrack ⟨context.callbacks.issued + 1⟩) =
          context.views := by
        refine Table.modify_of_same _ fun view found => ?_
        rw [View.untrack, unchanged view found]
      have parked := context.callbacks.parked.erase_of_absent unused
      simp only [takeCallback, issueCallback, CallbackTable.issue, note, CallbackTable.resolve,
        modifyView, views, parked]
  | some continuation =>
      have views : (context.views.modify key (·.track ⟨context.callbacks.issued + 1⟩)).modify key
          (·.untrack ⟨context.callbacks.issued + 1⟩) = context.views := by
        rw [Table.modify_modify]
        refine Table.modify_of_same _ fun view found => ?_
        simp only [View.untrack, View.track, unchanged view found, List.filter_append,
          List.filter_cons, ne_eq, not_true_eq_false, decide_false, Bool.false_eq_true, ↓reduceIte,
          List.filter_nil, List.append_nil]
      have parked := context.callbacks.parked.erase_insert_of_absent continuation unused
      simp only [takeCallback, issueCallback, CallbackTable.issue, CallbackTable.park, note,
        CallbackTable.resolve, modifyView, views, parked]

end Context

namespace Session

/-- The view that an action calls. -/
def Action.called? : Action → Option String
  | .loadUrl view _ _ => some view
  | .loadData view _ _ _ _ _ => some view
  | .run view _ => some view
  | .evaluate view _ _ _ _ => some view
  | .evaluateLater view _ _ => some view
  | .addInterface view _ _ => some view
  | _ => none

namespace State

/-- The session with what an action binds before it calls a view. -/
def withBinding (state : State) (key : ObjectKey) : Action → State
  | .addInterface _ interface target =>
    { state with
      context := state.context.modifyView key fun view =>
        { view with bindings := (view.bindings.bind interface target).1 } }
  | _ => state

variable (state : State)

/-- How a call to a view ends. -/
def callResult (view : View Action) : Except BridgeError Unit :=
  if view.isDestroyed then .ok ()
  else match state.web.failure with
    | none => .ok ()
    | some error => .error (.engine error)

/-- An outbound call changes the log and what is seen, and nothing else. -/
theorem exists_invoke (view : View Action) (call : Outbound) :
    ∃ log seen result,
      state.invoke view call =
        ({ state with context := state.context.note log, seen := state.seen ++ seen }, result) ∧
      result.map (fun _ => ()) = state.callResult view ∧
      (view.isDestroyed = true → seen = []) := by
  by_cases destroyed : view.isDestroyed = true
  · refine ⟨[ViewLog.ignored view.objectId call.method], [], .ok false, ?_, ?_, fun _ => rfl⟩
    · simp only [invoke, Context.outbound, destroyed, ↓reduceIte, List.append_nil]
    · simp only [callResult, destroyed, ↓reduceIte]
      rfl
  · cases failure : state.web.failure with
    | none =>
        refine ⟨[ViewLog.invoking view.objectId call.method],
          [.webInvoke view.handle.address call.method call.payload.render], .ok true, ?_, ?_,
          fun gone => absurd gone destroyed⟩
        · simp only [invoke, Context.outbound, destroyed, Bool.false_eq_true, ↓reduceIte, saw,
            failure]
        · simp only [callResult, destroyed, Bool.false_eq_true, ↓reduceIte, failure]
          rfl
    | some error =>
        refine ⟨[ViewLog.invoking view.objectId call.method],
          [.webInvoke view.handle.address call.method call.payload.render],
          .error (.engine error), ?_, ?_, fun gone => absurd gone destroyed⟩
        · simp only [invoke, Context.outbound, destroyed, Bool.false_eq_true, ↓reduceIte, saw,
            failure]
        · simp only [callResult, destroyed, Bool.false_eq_true, ↓reduceIte, failure]
          rfl

/-- Abandoning continuations changes slots and what is seen, and nothing else. -/
theorem exists_abandonAll (continuations : List (Continuation Action)) :
    ∃ (slots : Table Nat Slot) (names : List String), state.abandonAll continuations =
      { state with slots := slots, seen := state.seen ++ names.map Sighting.abandoned } := by
  induction continuations generalizing state with
  | nil => exact ⟨state.slots, [], by rw [List.map_nil, List.append_nil]; rfl⟩
  | cons first rest ih =>
      obtain ⟨slots, names, dropped⟩ := ih (state.abandon first)
      rw [abandonAll, List.foldl_cons]
      change ∃ (slots : Table Nat Slot) (names : List String),
        (state.abandon first).abandonAll rest = _
      rw [dropped]
      cases first with
      | reaction name steps ending =>
          refine ⟨slots, name :: names, ?_⟩
          rw [List.map_cons, List.append_cons]
          rfl
      | slot key => exact ⟨slots, names, rfl⟩

/-- No call to a native view was seen since. -/
def Uncalled (before after : State) : Prop :=
  ∃ seen, after.seen = before.seen ++ seen ∧
    ∀ address method payload, .webInvoke address method payload ∉ seen

/-- What is left of a call to a view that was ignored or failed: the registry, the parked
continuations and all views are those of `before`, with their bindings and what they wait for. -/
structure Undone (state before : State) (view : View Action) (result : State × Reply) : Prop where
  ignored : view.isDestroyed = true → result.2 = .text "ok" ∧ Uncalled state result.1
  failed : ∀ error, view.isDestroyed = false → state.web.failure = some error →
    result.2 = .failed (.engine error)
  registry : result.1.context.registry = before.context.registry
  parked : result.1.context.callbacks.parked = before.context.callbacks.parked
  views : result.1.context.views = before.context.views

/-- A call is undone if its operation answers as it ended and takes back what it did. -/
theorem Undone.of_context {state before after : State} {view : View Action} {reply : Reply}
    (answer : reply = okReply (state.callResult view))
    (uncalled : view.isDestroyed = true → Uncalled state after)
    (context : ∃ issued log, after.context = { before.context with
      callbacks := { before.context.callbacks with issued := issued }
      log := log }) : Undone state before view (after, reply) := by
  obtain ⟨issued, log, same⟩ := context
  refine ⟨fun gone => ⟨?_, uncalled gone⟩, ?_, by rw [same], by rw [same], by rw [same]⟩
  · rw [answer, callResult, if_pos gone]
    rfl
  · intro error living failure
    rw [answer, callResult, living, if_neg Bool.false_ne_true, failure]
    rfl

/-- An evaluation whose call is not taken takes its continuation back. -/
theorem evaluate_of_untaken {key : ObjectKey} {tracked : View Action} (script : String)
    (continuation : Option (Continuation Action))
    (listed : (state.issuing key continuation).context.view? key = some tracked) :
    let id : CallbackId := ⟨state.context.callbacks.issued + 1⟩
    let called := (state.issuing key continuation).invoke tracked (.evaluate script id)
    called.2 ≠ .ok true → state.evaluate key script continuation =
      ((called.1.taking key id).abandonAll (called.1.context.takeCallback key id).2.toList,
        called.2.map fun _ => ()) := by
  intro id called untaken
  have issued : (state.context.issueCallback key continuation).2 = id := by
    cases continuation with
    | none => rfl
    | some continuation => rfl
  have present : (state.context.issueCallback key continuation).1.view? key = some tracked := listed
  unfold evaluate
  dsimp only
  rw [issued, present]
  dsimp only
  split
  next state taken =>
    have answer : called = (state, .ok true) := taken
    exact absurd (congrArg Prod.snd answer) untaken
  next state result _ taken =>
    have answer : called = (state, result) := taken
    rw [answer]
    rfl

section Refused

variable {key : ObjectKey} {view : View Action} (found : state.context.view? key = some view)
  (refused : view.isDestroyed = true ∨ state.web.failure.isSome = true)
  (unused : state.context.callbacks.parked.find? (state.context.callbacks.issued + 1) = none)
  (unawaited : (⟨state.context.callbacks.issued + 1⟩ : CallbackId) ∉ view.pending)

include found refused unused unawaited

/-- A refused evaluation leaves only a used id and a line in the log. -/
theorem exists_evaluate (script : String) (continuation : Option (Continuation Action)) :
    ∃ after, state.evaluate key script continuation = (after, state.callResult view) ∧
      (view.isDestroyed = true → Uncalled state after) ∧
      ∃ issued log, after.context = { state.context with
        callbacks := { state.context.callbacks with issued := issued }
        log := log } := by
  let id : CallbackId := ⟨state.context.callbacks.issued + 1⟩
  obtain ⟨tracked, listed, same⟩ := view?_issuing state found continuation
  have destroyed : tracked.isDestroyed = view.isDestroyed := congrArg Handle.isReleased same
  have taken := invoke_taken_iff (state.issuing key continuation) tracked (.evaluate script id)
  have untaken : ((state.issuing key continuation).invoke tracked (.evaluate script id)).2 ≠
      .ok true := by
    have failure : (state.issuing key continuation).web.failure = state.web.failure := rfl
    rw [ne_eq, taken, destroyed, failure]
    rcases refused with gone | failing
    · simp [gone]
    · simp [Option.isSome_iff_ne_none.mp failing]
  obtain ⟨log, seen, result, called, answer, silent⟩ :=
    (state.issuing key continuation).exists_invoke tracked (.evaluate script id)
  have evaluated := evaluate_of_untaken state script continuation listed untaken
  have back := state.context.takeCallback_issueCallback key continuation log unused
    fun other present => by
      rw [found] at present
      cases present
      exact unawaited
  rw [called] at evaluated
  obtain ⟨slots, names, dropped⟩ := exists_abandonAll _ _
  rw [dropped] at evaluated
  have ends : result.map (fun _ => ()) = state.callResult view := by
    rw [answer, callResult, callResult, destroyed]
    rfl
  refine ⟨_, evaluated.trans (congrArg _ ends), fun gone => ?_, _, _, back⟩
  refine ⟨names.map Sighting.abandoned, ?_, ?_⟩
  · rw [silent (destroyed.trans gone), List.append_nil]
    rfl
  · intro address method payload member
    obtain ⟨name, _, other⟩ := List.mem_map.mp member
    cases other

/-- A refused evaluation on a named view is undone. -/
theorem undone_evaluateOn {name : String} (named : state.view? name = some (key, view))
    (script : String) (continuation : Option (Continuation Action)) :
    Undone state state view (state.evaluateOn name script continuation) := by
  obtain ⟨after, evaluated, uncalled, context⟩ :=
    exists_evaluate state found refused unused unawaited script continuation
  rw [evaluateOn, named]
  dsimp only
  rw [evaluated]
  exact .of_context rfl uncalled context

/-- A refused evaluation with a slot is undone. -/
theorem undone_evaluateLater {name : String} (named : state.view? name = some (key, view))
    (script slot : String) : Undone state state view (state.evaluateLater name script slot) := by
  obtain ⟨after, evaluated, uncalled, context⟩ :=
    exists_evaluate state.openingSlot found refused unused unawaited script
      (some (.slot state.nextSlot))
  have ends : state.openingSlot.callResult view = state.callResult view := rfl
  rw [ends, openingSlot] at evaluated
  rw [evaluateLater, named]
  dsimp only
  rw [evaluated]
  cases result : state.callResult view with
  | ok value => exact .of_context (by rw [result]) uncalled context
  | error error => exact .of_context (by rw [result]; rfl) uncalled context

end Refused

/-- A refused call is undone. -/
theorem undone_invoke (before : State) {view bound : View Action} (call : Outbound)
    (seen : before.seen = state.seen) (web : before.web = state.web)
    (destroyed : bound.isDestroyed = view.isDestroyed) :
    let called := before.invoke bound call
    Undone state before view (called.1, okReply (called.2.map fun _ => ())) := by
  intro called
  obtain ⟨log, more, result, invoked, answer, silent⟩ := before.exists_invoke bound call
  have same : called = _ := invoked
  have ends : before.callResult bound = state.callResult view := by
    rw [callResult, callResult, web, destroyed]
  rw [same]
  refine .of_context (congrArg okReply (answer.trans ends)) (fun gone => ?_) ⟨_, _, rfl⟩
  refine ⟨[], ?_, fun _ _ _ => List.not_mem_nil⟩
  rw [silent (destroyed.trans gone), seen]

section Named

variable {name : String} {key : ObjectKey} {view : View Action}
  (named : state.view? name = some (key, view))

include named

/-- A refused call of a named view is undone. -/
theorem undone_call (call : Outbound) :
    Undone state state view (state.call name call) := by
  rw [State.call, named]
  exact undone_invoke state state call rfl rfl rfl

/-- A binding stays whatever becomes of the call. -/
theorem undone_addInterface (interface : String) (target : ScriptTarget Action) :
    Undone state (state.withBinding key (.addInterface name interface target)) view
      (state.addInterface name interface target) := by
  have present := (state.view?_eq_some_iff.mp named).2
  have bound : state.context.modifyView key (fun _ =>
      { view with bindings := (view.bindings.bind interface target).1 }) =
      (state.withBinding key (.addInterface name interface target)).context := by
    unfold withBinding Context.modifyView
    dsimp only
    rw [Table.modify_of_present _ _ present, Table.modify_of_present _ _ present]
  rw [addInterface, named]
  dsimp only
  rw [bound]
  exact undone_invoke state (state.withBinding key (.addInterface name interface target))
    (.addInterface interface) rfl rfl rfl

end Named

end State

namespace Run

variable {visited : List Machine} {machine : Machine}

/-- As long as ids do not wrap around the next one is parked nowhere and awaited by nobody. -/
theorem unused_next (run : Run visited machine)
    (unspent : (history visited).countP Deed.isEvaluation + 1 < UInt64.size) :
    machine.state.context.callbacks.parked.find? (machine.state.context.callbacks.issued + 1) =
        none ∧
      ∀ key view, machine.state.context.view? key = some view →
        (⟨machine.state.context.callbacks.issued + 1⟩ : CallbackId) ∉ view.pending := by
  obtain ⟨keeps, issues⟩ := run.reached_unruled.keeps (Nat.lt_of_succ_lt unspent)
  have fresh := issues.fresh unspent
  constructor
  · cases found : machine.state.context.callbacks.parked.find?
        (machine.state.context.callbacks.issued + 1) with
    | none => rfl
    | some continuation =>
        obtain ⟨ticket, member, same, _⟩ := (keeps.parked _ _).mp found
        exact absurd same (fresh ticket member)
  · intro key view found waits
    have listed := machine.state.find?_core_of_view? machine.releasing found
    obtain ⟨ticket, member, same, _⟩ := issues.pending key _ listed _ waits
    exact fresh ticket member same

/-- An evaluation counts against the ids that are left. -/
theorem unspent_of_evaluating {name : String} {key : ObjectKey} {view : View Action}
    (unspent : (history (visited ++ [machine])).countP Deed.isEvaluation < UInt64.size)
    {continuation : Option (Continuation Action)}
    (named : machine.state.view? name = some (key, view))
    (evaluates : machine.deeds = machine.state.evaluating name continuation) :
    (history visited).countP Deed.isEvaluation + 1 < UInt64.size := by
  have counted : 1 ≤ (machine.state.evaluating name continuation).countP Deed.isEvaluation := by
    rw [State.evaluating, named, List.countP_append]
    exact Nat.le_add_left _ _
  rw [history_snoc, evaluates, List.countP_append] at unspent
  omega

/-- In every run a call to a view that was destroyed, or that the engine refuses, leaves the
registry, the parked continuations and all views as they were, with one exception: a target that is
to be announced is bound all the same.  The bound says that the counter of ids has not come
around. -/
theorem atomicity (run : Run visited machine)
    (unspent : (history (visited ++ [machine])).countP Deed.isEvaluation < UInt64.size)
    {action : Action} {name : String} {key : ObjectKey} {view : View Action}
    (performs : machine.mode = .perform action) (calls : action.called? = some name)
    (named : machine.state.view? name = some (key, view))
    (refused : view.isDestroyed = true ∨ machine.state.web.failure.isSome = true) :
    ∃ result, machine.step = machine.answering result ∧
      State.Undone machine.state (machine.state.withBinding key action) view result := by
  have found := (machine.state.view?_eq_some_iff.mp named).2
  have steps := Machine.step_of_performs performs
  have deeds := Machine.deeds_of_performs performs
  have fresh (continuation : Option (Continuation Action))
      (evaluates : machine.deeds = machine.state.evaluating name continuation) :=
    run.unused_next (unspent_of_evaluating unspent named evaluates)
  cases action with
  | loadUrl other url headers =>
      obtain rfl : other = name := Option.some.inj calls
      exact ⟨_, steps, machine.state.undone_call named _⟩
  | loadData other data baseUrl mimeType encoding historyUrl =>
      obtain rfl : other = name := Option.some.inj calls
      exact ⟨_, steps, machine.state.undone_call named _⟩
  | run other script =>
      obtain rfl : other = name := Option.some.inj calls
      obtain ⟨unused, unawaited⟩ := fresh _ deeds
      exact ⟨_, steps, machine.state.undone_evaluateOn found refused unused
        (unawaited key view found) named script none⟩
  | evaluate other script label body ending =>
      obtain rfl : other = name := Option.some.inj calls
      obtain ⟨unused, unawaited⟩ := fresh _ deeds
      exact ⟨_, steps, machine.state.undone_evaluateOn found refused unused
        (unawaited key view found) named script _⟩
  | evaluateLater other script slot =>
      obtain rfl : other = name := Option.some.inj calls
      obtain ⟨unused, unawaited⟩ := fresh _ deeds
      exact ⟨_, steps, machine.state.undone_evaluateLater found refused unused
        (unawaited key view found) named script slot⟩
  | addInterface other interface target =>
      obtain rfl : other = name := Option.some.inj calls
      exact ⟨_, steps, machine.state.undone_addInterface named interface target⟩
  | _ => cases calls

/-- A second evaluation that the engine refuses, while the first waits for its result. -/
theorem atomicity_of_failure : ∃ visited machine view, Run visited machine ∧
    machine.mode = .perform (.evaluate "page" "2" "second" [] .returns) ∧
    machine.state.view? "page" = some (0, view) ∧ view.pending = [⟨1⟩] ∧
    machine.state.web.failure = some (.unknownHandle 7) ∧
    ∃ result, machine.step = machine.answering result ∧
      result.2 = .failed (.engine (.unknownHandle 7)) ∧
      State.Undone machine.state machine.state view result := by
  have created := Run.step (.start State.new_withWeb (.createView "page"))
  have first := (created.next rfl (.evaluate "page" "1" "first" [] .returns)).step
  have failing := (first.next rfl (.webFail (some (.unknownHandle 7)))).step
  have second := failing.next rfl (.evaluate "page" "2" "second" [] .returns)
  obtain ⟨result, steps, undone⟩ :=
    second.atomicity (by decide +kernel) rfl rfl rfl (.inr rfl)
  exact ⟨_, _, _, second, rfl, rfl, rfl, rfl, result, steps,
    undone.failed _ rfl rfl, undone⟩

/-- A target that is bound in a view that was destroyed. -/
theorem binding_outlives_call : ∃ visited machine view, Run visited machine ∧
    machine.mode = .perform (.addInterface "page" "api" ⟨"api", [], true⟩) ∧
    machine.state.view? "page" = some (0, view) ∧ view.isDestroyed = true ∧
    view.bindings.isBound "api" = false ∧
    (machine.step.state.context.view? 0).any (·.bindings.isBound "api") = true := by
  have created := Run.step (.start State.new_withWeb (.createView "page"))
  have destroyed := (created.next rfl (.destroy "page")).step.step.step.step.step
  have announced := destroyed.next rfl (.addInterface "page" "api" ⟨"api", [], true⟩)
  exact ⟨_, _, _, announced, rfl, rfl, rfl, rfl, rfl⟩

end Run

end Session

end HostBridge
