import HostBridge.Proofs.Script.History
import Mathlib

/-!
# Completion of script calls

An operation that is invoked may call, bind and unbind again before it ends, to any depth.  Every
call comes to an answer all the same: a transition uses up part of what is pending, be it a step,
the rest of an operation under way or a target that is bound.

Main statement: an operation under way ends, with the stack it was put on and the ending it has
(`answers_of_proceed`); until then the run works above that stack.
-/

namespace HostBridge

namespace Table

variable {κ α : Type} [DecidableEq κ]

/-- The values of a table added up. -/
def total (table : Table κ α) (weight : α → Nat) : Nat := (table.values.map weight).sum

private theorem sum_insertEntry_le (weight : α → Nat) (key : κ) (value : α)
    (entries : List (κ × α)) :
    (((insertEntry key value entries).map Prod.snd).map weight).sum ≤
      weight value + ((entries.map Prod.snd).map weight).sum := by
  induction entries with
  | nil => exact Nat.le_refl _
  | cons entry rest ih =>
      obtain ⟨k, v⟩ := entry
      by_cases here : k = key
      · simp only [insertEntry, here, ↓reduceIte, List.map_cons, List.sum_cons]
        omega
      · simp only [insertEntry, here, ↓reduceIte, List.map_cons, List.sum_cons]
        omega

/-- Inserting into a table adds at most the weight of what is inserted. -/
theorem total_insert_le (table : Table κ α) (weight : α → Nat) (key : κ) (value : α) :
    (table.insert key value).total weight ≤ weight value + table.total weight :=
  sum_insertEntry_le weight key value table.entries

private theorem sum_filter_le (weight : α → Nat) (key : κ) (entries : List (κ × α)) :
    (((entries.filter (fun entry => !decide (entry.1 = key))).map Prod.snd).map weight).sum ≤
      ((entries.map Prod.snd).map weight).sum := by
  induction entries with
  | nil => exact Nat.le_refl _
  | cons entry rest ih =>
      by_cases here : entry.1 = key
      · rw [List.filter_cons_of_neg (by simp [here])]
        simp only [List.map_cons, List.sum_cons]
        omega
      · rw [List.filter_cons_of_pos (by simp [here])]
        simp only [List.map_cons, List.sum_cons]
        omega

theorem total_erase_le (table : Table κ α) (weight : α → Nat) (key : κ) :
    (table.erase key).total weight ≤ table.total weight :=
  sum_filter_le weight key table.entries

/-- Erasing an entry takes its weight away. -/
private theorem sum_filter_of_mem (weight : α → Nat) {key : κ} {value : α}
    {entries : List (κ × α)} (member : (key, value) ∈ entries) :
    (((entries.filter (fun entry => !decide (entry.1 = key))).map Prod.snd).map weight).sum +
      weight value ≤ ((entries.map Prod.snd).map weight).sum := by
  induction entries with
  | nil => cases member
  | cons entry rest ih =>
      rcases List.mem_cons.mp member with rfl | later
      · have less := sum_filter_le weight key rest
        rw [List.filter_cons_of_neg (by simp)]
        simp only [List.map_cons, List.sum_cons]
        omega
      · have less := ih later
        by_cases here : entry.1 = key
        · rw [List.filter_cons_of_neg (by simp [here])]
          simp only [List.map_cons, List.sum_cons]
          omega
        · rw [List.filter_cons_of_pos (by simp [here])]
          simp only [List.map_cons, List.sum_cons]
          omega

/-- Erasing what is found takes its weight away. -/
theorem total_erase_of_find? (table : Table κ α) (weight : α → Nat) {key : κ} {value : α}
    (found : table.find? key = some value) :
    (table.erase key).total weight + weight value ≤ table.total weight :=
  sum_filter_of_mem weight ((mem_entries_iff table key value).mpr found)

end Table

/-- The steps of an operation are part of its target. -/
theorem ScriptTarget.sizeOf_steps_lt {target : ScriptTarget ScriptStep} {method : String}
    {operation : Operation ScriptStep} (found : target.operation? method = some operation) :
    sizeOf operation.steps < sizeOf target := by
  obtain ⟨⟨name, present⟩, listed, rfl⟩ := Option.map_eq_some_iff.mp found
  have member : (name, present) ∈ target.operations :=
    List.mem_reverse.mp (List.mem_of_find?_eq_some listed)
  have inner := List.sizeOf_lt_of_mem member
  obtain ⟨label, operations, claimsAll⟩ := target
  obtain ⟨steps, ending⟩ := present
  simp only [Prod.mk.sizeOf_spec, Operation.mk.sizeOf_spec] at inner
  simp only [ScriptTarget.mk.sizeOf_spec]
  omega

namespace ScriptRun

/-! ### What is pending -/

/-- What is pending in a mode. -/
noncomputable def Mode.load : Mode → Nat
  | .take step => 2 * sizeOf step
  | .answer _ => 1
  | .proceed => 0

/-- What is pending in a run: its step, the operations under way and the targets that are bound. -/
noncomputable def load (run : ScriptRun) : Nat :=
  2 * run.bindings.table.total sizeOf + 2 * (run.stack.map fun frame => sizeOf frame.steps).sum +
    run.mode.load

/-- A dispatch is refused, consumed without a call, or becomes a call. -/
theorem step_of_dispatch {run : ScriptRun} {name method : String} {args : List Json}
    (takes : run.mode = .take (.dispatch name method args)) :
    (run.bindings.table.find? name = none ∧
        run.step = { run with mode := .answer (.dispatched (.error (.unknownInterface name))) }) ∨
      ∃ target, run.bindings.table.find? name = some target ∧
        (target.hasMethod method = false ∧ run.step = { run with
            bindings := ⟨run.bindings.table.erase name⟩
            mode := .answer (.dispatched (.error (.unknownMethod name method))) } ∨
          target.hasMethod method = true ∧ run.step = run.calling name method args target) := by
  cases bound : run.bindings.table.find? name with
  | none => exact .inl ⟨rfl, step_of_unbound takes bound⟩
  | some target =>
      refine .inr ⟨target, rfl, ?_⟩
      cases claims : target.hasMethod method with
      | false => exact .inl ⟨rfl, step_of_unclaimed takes bound claims⟩
      | true => exact .inr ⟨rfl, step_of_claimed takes bound claims⟩

/-- What an invocation has still to do is part of its target. -/
theorem sizeOf_invocation_le (target : ScriptTarget ScriptStep) (method : String) :
    sizeOf (Invocation.steps ⟨target.label, target.operation? method⟩) ≤ sizeOf target := by
  cases found : target.operation? method with
  | none =>
      obtain ⟨label, operations, claimsAll⟩ := target
      simp only [Invocation.steps, List.nil.sizeOf_spec, ScriptTarget.mk.sizeOf_spec]
      omega
  | some operation => exact Nat.le_of_lt (ScriptTarget.sizeOf_steps_lt found)

/-- A step that is taken makes the load smaller. -/
theorem load_step_of_take {run : ScriptRun} {step : ScriptStep} (takes : run.mode = .take step) :
    run.step.load < run.load := by
  have rest : run.load = 2 * run.bindings.table.total sizeOf +
      2 * (run.stack.map fun frame => sizeOf frame.steps).sum + 2 * sizeOf step := by
    rw [load, takes, Mode.load]
  rw [rest]
  cases step with
  | bind name target =>
      have added := run.bindings.table.total_insert_le sizeOf name target
      rw [step_of_take takes]
      simp only [ScriptRun.take, Bindings.bind, load, Mode.load, ScriptStep.bind.sizeOf_spec]
      omega
  | unbind name =>
      have removed := run.bindings.table.total_erase_le sizeOf name
      rw [step_of_take takes]
      simp only [ScriptRun.take, Bindings.unbind, load, Mode.load, ScriptStep.unbind.sizeOf_spec]
      omega
  | isBound name =>
      rw [step_of_take takes]
      simp only [ScriptRun.take, load, Mode.load, ScriptStep.isBound.sizeOf_spec]
      omega
  | size =>
      rw [step_of_take takes]
      simp only [ScriptRun.take, load, Mode.load, ScriptStep.size.sizeOf_spec]
      omega
  | shown =>
      rw [step_of_take takes]
      simp only [ScriptRun.take, load, Mode.load, ScriptStep.shown.sizeOf_spec]
      omega
  | dispatch name method args =>
      rcases step_of_dispatch takes with ⟨_, answers⟩ | ⟨target, bound, ⟨_, answers⟩ | ⟨_, calls⟩⟩
      · simp only [answers, load, Mode.load, ScriptStep.dispatch.sizeOf_spec]
        omega
      · have removed := run.bindings.table.total_erase_le sizeOf name
        simp only [answers, load, Mode.load, ScriptStep.dispatch.sizeOf_spec]
        omega
      · -- What the invocation puts on the stack is paid for by the target that is unbound.
        have removed := run.bindings.table.total_erase_of_find? sizeOf bound
        have fits := sizeOf_invocation_le target method
        simp only [calls, calling, load, Mode.load, List.map_cons, List.sum_cons,
          ScriptStep.dispatch.sizeOf_spec]
        omega

/-- A run with nothing to do stays as it is. -/
theorem step_of_idle {run : ScriptRun} (idle : ∀ step, run.mode ≠ .take step)
    (bare : run.stack = []) : run.step = run := by
  cases does : run.mode with
  | take step => exact absurd does (idle step)
  | answer answer =>
      unfold step
      rw [does, bare]
  | proceed =>
      unfold step
      rw [does, bare]

section Frames

variable {run : ScriptRun} {frame : Frame} {rest : List Frame}

/-- A frame that has no steps left is answered. -/
theorem step_of_finished (proceeds : run.mode = .proceed) (under : run.stack = frame :: rest)
    (finished : frame.steps = []) :
    run.step = { run with
      stack := rest
      mode := .answer (.dispatched (frame.ending.result frame.interface frame.method)) } := by
  unfold step
  rw [proceeds, under]
  simp only [finished]

/-- A frame with steps left has its first one taken. -/
theorem step_of_remaining (proceeds : run.mode = .proceed) (under : run.stack = frame :: rest)
    {first : ScriptStep} {others : List ScriptStep} (remaining : frame.steps = first :: others) :
    run.step = { run with
      stack := { frame with steps := others } :: rest, mode := .take first } := by
  unfold step
  rw [proceeds, under]
  simp only [remaining]

/-- An answer under a frame is seen, and the frame proceeds. -/
theorem step_of_answer {answer : ScriptAnswer} (answers : run.mode = .answer answer)
    (under : run.stack = frame :: rest) :
    run.step = { run with seen := run.seen ++ [.nested answer], mode := .proceed } := by
  unfold step
  rw [answers, under]

/-- Taking up the next step of a frame makes the load smaller. -/
theorem load_step_of_remaining (proceeds : run.mode = .proceed)
    (under : run.stack = frame :: rest) {first : ScriptStep} {others : List ScriptStep}
    (remaining : frame.steps = first :: others) : run.step.load < run.load := by
  rw [step_of_remaining proceeds under remaining, load, load, proceeds, under]
  simp only [Mode.load, List.map_cons, List.sum_cons, remaining, List.cons.sizeOf_spec]
  omega

end Frames

/-- No step makes the load larger. -/
theorem load_step_le (run : ScriptRun) : run.step.load ≤ run.load := by
  cases does : run.mode with
  | take step => exact Nat.le_of_lt (load_step_of_take does)
  | answer answer =>
      cases under : run.stack with
      | nil => exact Nat.le_of_eq (congrArg load (step_of_idle (by simp [does]) under))
      | cons frame rest =>
          rw [step_of_answer does under, load, load, does]
          exact Nat.le_succ _
  | proceed =>
      cases under : run.stack with
      | nil => exact Nat.le_of_eq (congrArg load (step_of_idle (by simp [does]) under))
      | cons frame rest =>
          cases remaining : frame.steps with
          | nil =>
              rw [step_of_finished does under remaining, load, load, does, under]
              simp only [Mode.load, List.map_cons, List.sum_cons, remaining, List.nil.sizeOf_spec]
              omega
          | cons first others =>
              exact Nat.le_of_lt (load_step_of_remaining does under remaining)

/-! ### Runs that go on -/

/-- A run goes on to a later one; the list has the runs that are passed, the first one included. -/
inductive Leads : ScriptRun → List ScriptRun → ScriptRun → Prop where
  | refl (run : ScriptRun) : Leads run [] run
  | step {run later : ScriptRun} {passed : List ScriptRun} (leads : Leads run.step passed later) :
      Leads run (run :: passed) later

namespace Leads

variable {run middle later : ScriptRun} {passed more : List ScriptRun}

theorem trans (leads : Leads run passed middle) (further : Leads middle more later) :
    Leads run (passed ++ more) later := by
  induction leads with
  | refl run => exact further
  | step leads ih => exact .step (ih further)

/-- Wherever a run leads the load is no larger. -/
theorem load_le (leads : Leads run passed later) : later.load ≤ run.load := by
  induction leads with
  | refl run => exact Nat.le_refl _
  | @step run later passed leads ih => exact Nat.le_trans ih run.load_step_le

/-- A course that has come to a run goes on with it. -/
theorem course {visited : List ScriptRun} (leads : Leads run passed later)
    (course : Course visited run) : Course (visited ++ passed) later := by
  induction leads generalizing visited with
  | refl run =>
      rw [List.append_nil]
      exact course
  | step leads ih =>
      have further := ih (.step course)
      rwa [List.append_assoc] at further

/-- What is bound to a name is up to the deeds about it since. -/
theorem find?_eq (leads : Leads run passed later) (name : String) :
    later.bindings.table.find? name =
      (history passed).foldl (ScriptDeed.after name) (run.bindings.table.find? name) := by
  induction leads with
  | refl run => rfl
  | @step run later passed leads ih =>
      rw [ih, find?_step, ← List.foldl_append]
      cases does : run.deed? with
      | none => simp only [history, List.filterMap_cons, does, Option.toList_none, List.nil_append]
      | some deed =>
          simp only [history, List.filterMap_cons, does, Option.toList_some, List.singleton_append]

end Leads

/-- A run works above a stack, under an operation that stands on it. -/
def Above (stack : List Frame) (run : ScriptRun) : Prop :=
  ∃ frame, frame :: stack <:+ run.stack

theorem Above.of_stack {stack : List Frame} {run : ScriptRun} {frame : Frame}
    (under : run.stack = frame :: stack) : Above stack run :=
  ⟨frame, under ▸ List.suffix_refl _⟩

theorem Above.of_cons {stack : List Frame} {run : ScriptRun} {frame : Frame}
    (above : Above (frame :: stack) run) : Above stack run := by
  obtain ⟨other, suffix⟩ := above
  exact ⟨frame, (List.suffix_cons other (frame :: stack)).trans suffix⟩

/-- A run comes to an answer on a stack, and works above that stack until then. -/
def Answers (run : ScriptRun) (stack : List Frame) (answer : ScriptAnswer) : Prop :=
  ∃ passed later, Leads run passed later ∧ (∀ other ∈ passed, Above stack other) ∧
    later.stack = stack ∧ later.mode = .answer answer

/-- A step is answered if the operation that it may put on the stack comes to an end. -/
theorem answers_of_take_of {run : ScriptRun} {step : ScriptStep} (takes : run.mode = .take step)
    (ends : ∀ frame, run.step.mode = .proceed → run.step.stack = frame :: run.stack →
      ∃ answer, Answers run.step run.stack answer) :
    ∃ answer, Answers run.step run.stack answer := by
  have at_once (answer : ScriptAnswer) (same : run.step.stack = run.stack)
      (answers : run.step.mode = .answer answer) : ∃ answer, Answers run.step run.stack answer :=
    ⟨answer, [], run.step, .refl _, by simp, same, answers⟩
  cases step with
  | dispatch name method args =>
      rcases step_of_dispatch takes with ⟨_, answers⟩ | ⟨target, _, ⟨_, answers⟩ | ⟨_, calls⟩⟩
      · exact at_once _ (by rw [answers]) (by rw [answers])
      · exact at_once _ (by rw [answers]) (by rw [answers])
      · exact ends _ (by rw [calls]; rfl) (by rw [calls]; rfl)
  | _ =>
      have next := step_of_take takes
      exact at_once _ (by rw [next]; rfl) (by rw [next]; rfl)

/-- An operation under way ends, however much it calls. -/
theorem answers_of_proceed {run : ScriptRun} {frame : Frame} {rest : List Frame}
    (proceeds : run.mode = .proceed) (under : run.stack = frame :: rest) :
    Answers run rest (.dispatched (frame.ending.result frame.interface frame.method)) := by
  induction pending : run.load using Nat.strongRecOn generalizing run frame rest with
  | ind n ih =>
      subst pending
      have here : Above rest run := .of_stack under
      cases remaining : frame.steps with
      | nil =>
          have ends := step_of_finished proceeds under remaining
          refine ⟨[run], run.step, .step (.refl _), ?_, by rw [ends], by rw [ends]⟩
          intro other member
          rwa [List.mem_singleton.mp member]
      | cons first others =>
          -- The first step is answered, above the frame that waits for it.
          have goes := step_of_remaining proceeds under remaining
          have less := load_step_of_remaining proceeds under remaining
          have waits : run.step.stack = { frame with steps := others } :: rest := by rw [goes]
          have takes : run.step.mode = .take first := by rw [goes]
          have lower : run.step.step.load < run.load := Nat.lt_trans (load_step_of_take takes) less
          obtain ⟨answer, inner, answered, leads, above, stacked, answers⟩ :=
            answers_of_take_of takes fun top going standing =>
              ⟨_, ih _ lower going standing rfl⟩
          -- The answer goes to the frame, and the rest of its steps follow.
          rw [waits] at stacked above
          have resumed := step_of_answer answers stacked
          have further : answered.step.load < run.load :=
            Nat.lt_of_le_of_lt (Nat.le_trans answered.load_step_le leads.load_le) lower
          obtain ⟨after, later, ends, beyond, done, result⟩ :=
            ih _ further (by rw [resumed]) (by rw [resumed]; exact stacked) rfl
          refine ⟨run :: run.step :: (inner ++ answered :: after), later,
            .step (.step (leads.trans (.step ends))), ?_, done, result⟩
          intro other member
          simp only [List.mem_cons, List.mem_append] at member
          rcases member with rfl | rfl | inside | rfl | outside
          · exact here
          · exact .of_stack waits
          · exact (above other inside).of_cons
          · exact .of_stack stacked
          · exact beyond other outside

end ScriptRun

end HostBridge
