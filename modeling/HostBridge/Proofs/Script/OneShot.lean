import HostBridge.Proofs.Script.Completion

/-!
# Script bindings serve one call

A binding is removed before the method is looked up and before the target runs, so whatever a target
does to the table, the call that reached it has used its binding up.

Main statement: in every course each bind serves one invocation at most, and every call is answered,
by the target that was bound when it came or for want of one (`Course.consumption`).
-/

namespace HostBridge

/-- How a call of a method ends at a target that claims it. -/
def ScriptTarget.ending (target : ScriptTarget ScriptStep) (method : String) : Ending :=
  Invocation.ending ⟨target.label, target.operation? method⟩ method

/-- A target has each method that it has an operation for. -/
theorem ScriptTarget.hasMethod_of_operation? {target : ScriptTarget ScriptStep} {method : String}
    {operation : Operation ScriptStep} (found : target.operation? method = some operation) :
    target.hasMethod method = true := by
  rw [hasMethod, found, Option.isSome_some, Bool.or_true]

/-- Each bind serves one invocation at most, and no invocation goes without. -/
structure OneShot (deeds : List ScriptDeed) : Prop where
  count : ∀ name,
    deeds.countP (ScriptDeed.invokes name) ≤ deeds.countP (ScriptDeed.binds name)
  served : ∀ name invocation deed, deeds[invocation]? = some deed → deed.invokes name = true →
    ∃ bind, Serves deeds name bind invocation
  unique : ∀ name bind first second, Serves deeds name bind first →
    Serves deeds name bind second → first = second

/-- What a call answers, given what is bound under its name when it comes. -/
structure AnswersCall (bound : Option (ScriptTarget ScriptStep)) (name method : String)
    (result : Except DispatchError Unit) : Prop where
  unknownInterface : result = .error (.unknownInterface name) ↔ bound = none
  unknownMethod : result = .error (.unknownMethod name method) ↔
    ∃ target, bound = some target ∧ target.hasMethod method = false
  invocationFailed : ∀ reason, result = .error (.invocationFailed name method reason) ↔
    ∃ target, bound = some target ∧ target.hasMethod method = true ∧
      (target.ending method = .fails reason ∨ target.ending method = .panics reason)
  ok : result = .ok () ↔
    ∃ target, bound = some target ∧ target.hasMethod method = true ∧
      target.ending method = .returns

theorem AnswersCall.of_unbound (name method : String) :
    AnswersCall none name method (.error (.unknownInterface name)) where
  unknownInterface := by simp
  unknownMethod := by simp
  invocationFailed := by simp
  ok := by simp

theorem AnswersCall.of_unclaimed {target : ScriptTarget ScriptStep} {name method : String}
    (unclaimed : target.hasMethod method = false) :
    AnswersCall (some target) name method (.error (.unknownMethod name method)) where
  unknownInterface := by simp
  unknownMethod := by simp [unclaimed]
  invocationFailed := by simp [unclaimed]
  ok := by simp [unclaimed]

/-- Where the target has the method a call is answered as its operation ends. -/
theorem AnswersCall.of_claimed {target : ScriptTarget ScriptStep} {name method : String}
    (claimed : target.hasMethod method = true) :
    AnswersCall (some target) name method ((target.ending method).result name method) := by
  cases ends : target.ending method with
  | returns => constructor <;> simp [Ending.result, claimed, ends]
  | fails reason => constructor <;> simp [Ending.result, claimed, ends]
  | panics reason => constructor <;> simp [Ending.result, claimed, ends]

namespace ScriptRun

/-- What becomes of a call that a course has come to. -/
structure Consumption (visited : List ScriptRun) (run : ScriptRun) (name method : String)
    (args : List Json) : Prop where
  /-- The binding is gone before the target takes a step. -/
  gone : run.step.bindings.table.find? name = none
  others : ∀ other, other ≠ name →
    run.step.bindings.table.find? other = run.bindings.table.find? other
  /-- The operation gets the arguments of the call, and its steps are next. -/
  received : ∀ target operation, run.bindings.table.find? name = some target →
    target.operation? method = some operation →
      run.step.seen = run.seen ++ [.call target.label method args] ∧
        run.step.stack = ⟨name, method, operation.steps, operation.ending⟩ :: run.stack
  silent : (∀ target, run.bindings.table.find? name = some target →
    target.operation? method = none) → run.step.seen = run.seen
  answered : ∃ nested later result, Course (visited ++ run :: nested) later ∧
    Leads run.step nested later ∧ (∀ inner ∈ nested, Above run.stack inner) ∧
    later.stack = run.stack ∧ later.mode = .answer (.dispatched result) ∧
    AnswersCall (run.bindings.table.find? name) name method result ∧
    -- Apart from nested steps no other name changes.
    (∀ other, other ≠ name → (∀ deed ∈ history nested, deed.name ≠ other) →
      later.bindings.table.find? other = run.bindings.table.find? other) ∧
    -- The name stays unbound for nested calls and afterwards, until it is bound again.
    (∀ before rest inner again more, nested = before ++ inner :: rest →
      inner.mode = .take (.dispatch name again more) →
      (∀ deed ∈ history before, deed.binds name = false) →
      inner.step.mode = .answer (.dispatched (.error (.unknownInterface name)))) ∧
    ((∀ deed ∈ history nested, deed.binds name = false) →
      later.bindings.table.find? name = none)

/-- What a run leads to by way of another leads to that one first. -/
theorem Leads.split {run inner later : ScriptRun} {before rest : List ScriptRun}
    (leads : Leads run (before ++ inner :: rest) later) : Leads run before inner := by
  induction before generalizing run with
  | nil =>
      cases leads with
      | step further => exact .refl _
  | cons first before ih =>
      cases leads with
      | step further => exact .step (ih further)

section Call

variable {run : ScriptRun} {name method : String} {args : List Json}
  (takes : run.mode = .take (.dispatch name method args))

include takes

/-- After a dispatch nothing is bound to its name. -/
theorem gone_of_dispatch : run.step.bindings.table.find? name = none := by
  rw [table_step_of_dispatch takes, if_pos rfl]

/-- A dispatch comes to its answer, whatever is nested in it. -/
theorem answers_of_dispatch : ∃ nested later result, Leads run.step nested later ∧
    (∀ inner ∈ nested, Above run.stack inner) ∧ later.stack = run.stack ∧
    later.mode = .answer (.dispatched result) ∧
    AnswersCall (run.bindings.table.find? name) name method result := by
  rcases step_of_dispatch takes with
    ⟨absent, answers⟩ | ⟨target, bound, ⟨unclaimed, answers⟩ | ⟨claimed, calls⟩⟩
  · refine ⟨[], run.step, _, .refl _, by simp, by rw [answers], by rw [answers], ?_⟩
    rw [absent]
    exact .of_unbound name method
  · refine ⟨[], run.step, _, .refl _, by simp, by rw [answers], by rw [answers], ?_⟩
    rw [bound]
    exact .of_unclaimed unclaimed
  · have proceeds : run.step.mode = .proceed := by rw [calls]; rfl
    obtain ⟨nested, later, leads, above, stacked, answers⟩ :=
      answers_of_proceed proceeds (by rw [calls]; rfl)
    refine ⟨nested, later, _, leads, above, stacked, answers, ?_⟩
    rw [bound]
    exact .of_claimed claimed

/-- A dispatch that finds its operation hands it the method and the arguments. -/
theorem received_of_dispatch {target : ScriptTarget ScriptStep} {operation : Operation ScriptStep}
    (bound : run.bindings.table.find? name = some target)
    (found : target.operation? method = some operation) :
    run.step.seen = run.seen ++ [.call target.label method args] ∧
      run.step.stack = ⟨name, method, operation.steps, operation.ending⟩ :: run.stack := by
  rw [step_of_claimed takes bound (ScriptTarget.hasMethod_of_operation? found)]
  simp only [calling, found, Option.isSome_some, ↓reduceIte, Invocation.steps, Invocation.ending,
    and_self]

/-- A dispatch that finds no operation is seen by nobody. -/
theorem silent_of_dispatch
    (missing : ∀ target, run.bindings.table.find? name = some target →
      target.operation? method = none) : run.step.seen = run.seen := by
  rcases step_of_dispatch takes with ⟨_, answers⟩ | ⟨target, bound, ⟨_, answers⟩ | ⟨_, calls⟩⟩
  · rw [answers]
  · rw [answers]
  · rw [calls]
    simp only [calling, missing target bound, Option.isSome_none, Bool.false_eq_true, ↓reduceIte]

end Call

namespace Course

variable {visited : List ScriptRun} {run : ScriptRun}

/-- In the history of every run each bind serves one invocation at most. -/
theorem oneShot (course : Course visited run) : OneShot (history visited) where
  count name := by
    have counted := course.lawful.invocations_le name
    omega
  served _ _ _ listed invokes := course.lawful.served listed invokes
  unique _ _ _ _ serves again := serves.unique again

/-- Every dispatch of a run consumes what is bound to its name, and that alone. -/
theorem consumption_of_dispatch (course : Course visited run) {name method : String}
    {args : List Json} (takes : run.mode = .take (.dispatch name method args)) :
    Consumption visited run name method args where
  gone := gone_of_dispatch takes
  others other apart := by rw [table_step_of_dispatch takes, if_neg apart]
  received _ _ bound found := received_of_dispatch takes bound found
  silent missing := silent_of_dispatch takes missing
  answered := by
    obtain ⟨nested, later, result, leads, above, stacked, answers, right⟩ :=
      answers_of_dispatch takes
    have gone := gone_of_dispatch takes
    refine ⟨nested, later, result, ?_, leads, above, stacked, answers, right, ?_, ?_, ?_⟩
    · exact (Leads.step leads).course course
    · intro other apart untouched
      rw [leads.find?_eq, foldl_after_of_other untouched, table_step_of_dispatch takes,
        if_neg apart]
    · rintro before rest inner again more rfl calls unbound
      have absent : inner.bindings.table.find? name = none := by
        rw [leads.split.find?_eq, gone, foldl_after_of_unbound unbound]
      rw [step_of_unbound calls absent]
    · intro unbound
      rw [leads.find?_eq, gone, foldl_after_of_unbound unbound]

/-- In every course each bind serves one invocation at most; a call uses its binding up before its
target runs, and is answered by that target, whatever it does to the table meanwhile. -/
theorem consumption (course : Course visited run) :
    OneShot (history visited) ∧
      ∀ name method args, run.mode = .take (.dispatch name method args) →
        Consumption visited run name method args :=
  ⟨course.oneShot, fun _ _ _ takes => course.consumption_of_dispatch takes⟩

/-- A target that binds its name again, calls it and panics. -/
def rebinding : ScriptTarget ScriptStep :=
  let simple : ScriptTarget ScriptStep := ⟨"simple", [("go", ⟨[], .returns⟩)], false⟩
  let steps : List ScriptStep := [.bind "page" simple, .dispatch "page" "go" [.bool true]]
  ⟨"rebinding", [("go", ⟨steps, .panics "stop"⟩)], false⟩

/-- A target that binds its own name again and calls it: the second bind serves the second call. -/
theorem consumption_of_rebinding : ∃ visited run, Course visited run ∧
    run.mode = .take (.dispatch "page" "go" [.bool true]) ∧ run.stack.length = 1 ∧
    OneShot (history visited) ∧ Consumption visited run "page" "go" [.bool true] ∧
    (history visited).countP (ScriptDeed.binds "page") = 2 ∧
    (history visited).countP (ScriptDeed.invokes "page") = 1 := by
  have bound := (Course.start (.bind "page" rebinding)).step
  have called := (bound.next rfl (.dispatch "page" "go" [.null])).step
  have again := called.step.step.step.step
  exact ⟨_, _, again, rfl, rfl, again.consumption.1, again.consumption.2 _ _ _ rfl,
    by decide +kernel, by decide +kernel⟩

end Course

end ScriptRun

end HostBridge
