import HostBridge.Proofs.Table
import HostBridge.Script.Run
import Mathlib.Data.List.Induction

/-!
# The history of script bindings

A course is what happens to one table of bindings: runs of steps one after the other, each with the
steps that the invoked operations take before they end.  Its history lists what was done under each
name, at whatever depth.

Main statements: a table of bindings holds what the history left standing (`Course.find?_bindings`),
and every invocation in a history is served by a bind of its own (`Lawful.served`,
`Serves.unique`).
-/

namespace HostBridge

/-- What is done under a name of a table of bindings. -/
inductive ScriptDeed where
  | bind (name : String) (target : ScriptTarget ScriptStep)
  | unbind (name : String)
  /-- A call, with the target that is bound when it comes. -/
  | dispatch (name method : String) (args : List Json)
      (target : Option (ScriptTarget ScriptStep))

namespace ScriptDeed

def name : ScriptDeed → String
  | bind name _ => name
  | unbind name => name
  | dispatch name _ _ _ => name

/-- What a deed leaves under its name. -/
def left : ScriptDeed → Option (ScriptTarget ScriptStep)
  | bind _ target => some target
  | _ => none

/-- What is bound under a name after a deed. -/
def after (name : String) (bound : Option (ScriptTarget ScriptStep)) (deed : ScriptDeed) :
    Option (ScriptTarget ScriptStep) :=
  if deed.name = name then deed.left else bound

/-- Whether a deed binds a name. -/
def binds (name : String) : ScriptDeed → Bool
  | bind other _ => other = name
  | _ => false

/-- Whether a deed invokes a target through a name. -/
def invokes (name : String) : ScriptDeed → Bool
  | dispatch other method _ (some target) => other = name && target.hasMethod method
  | _ => false

/-- A deed binds only the name it is about. -/
theorem name_of_binds {name : String} {deed : ScriptDeed} (binds : deed.binds name = true) :
    deed.name = name := by
  cases deed with
  | bind other target => exact of_decide_eq_true binds
  | unbind other => cases binds
  | dispatch other method args target => cases binds

/-- What invokes a name is a dispatch to a target that has the method. -/
theorem exists_of_invokes {name : String} {deed : ScriptDeed}
    (invokes : deed.invokes name = true) :
    ∃ method args target, deed = .dispatch name method args (some target) ∧
      target.hasMethod method = true := by
  cases deed with
  | bind other target => cases invokes
  | unbind other => cases invokes
  | dispatch other method args target =>
      cases target with
      | none => cases invokes
      | some target =>
          obtain ⟨same, claims⟩ := (Bool.and_eq_true _ _).mp invokes
          obtain rfl := of_decide_eq_true same
          exact ⟨method, args, target, rfl, claims⟩

end ScriptDeed

/-- What deeds leave bound under a name. -/
def standing (deeds : List ScriptDeed) (name : String) : Option (ScriptTarget ScriptStep) :=
  deeds.foldl (ScriptDeed.after name) none

theorem standing_snoc (deeds : List ScriptDeed) (deed : ScriptDeed) (name : String) :
    standing (deeds ++ [deed]) name = deed.after name (standing deeds name) := by
  simp only [standing, List.foldl_append, List.foldl_cons, List.foldl_nil]

/-- Deeds about other names leave what is bound. -/
theorem foldl_after_of_other {name : String} {deeds : List ScriptDeed}
    (other : ∀ deed ∈ deeds, deed.name ≠ name) (bound : Option (ScriptTarget ScriptStep)) :
    deeds.foldl (ScriptDeed.after name) bound = bound := by
  induction deeds with
  | nil => rfl
  | cons deed rest ih =>
      have apart : deed.name ≠ name := other deed List.mem_cons_self
      rw [List.foldl_cons, ScriptDeed.after, if_neg apart]
      exact ih fun deed member => other deed (List.mem_cons_of_mem _ member)

/-- Without a bind nothing comes to stand under a name. -/
theorem foldl_after_of_unbound {name : String} {deeds : List ScriptDeed}
    (unbound : ∀ deed ∈ deeds, deed.binds name = false) :
    deeds.foldl (ScriptDeed.after name) none = none := by
  induction deeds with
  | nil => rfl
  | cons deed rest ih =>
      have absent : deed.after name none = none := by
        unfold ScriptDeed.after
        split
        next here =>
          cases deed with
          | bind other target =>
              exact absurd here (of_decide_eq_false (unbound _ List.mem_cons_self))
          | unbind other => rfl
          | dispatch other method args target => rfl
        next => rfl
      rw [List.foldl_cons, absent]
      exact ih fun deed member => unbound deed (List.mem_cons_of_mem _ member)

/-- What stands was bound, and nothing was done under its name since. -/
theorem exists_bind_of_standing {deeds : List ScriptDeed} {name : String}
    {target : ScriptTarget ScriptStep} (stands : standing deeds name = some target) :
    ∃ bind : Nat, deeds[bind]? = some (.bind name target) ∧
      ∀ later deed, bind < later → deeds[later]? = some deed → deed.name ≠ name := by
  induction deeds using List.reverseRecOn with
  | nil => cases stands
  | append_singleton deeds deed ih =>
      rw [standing_snoc, ScriptDeed.after] at stands
      by_cases here : deed.name = name
      · rw [if_pos here] at stands
        cases deed with
        | bind other bound =>
            cases stands
            obtain rfl : other = name := here
            refine ⟨deeds.length, List.getElem?_concat_length, ?_⟩
            intro later deed after found
            have within := (List.getElem?_eq_some_iff.mp found).1
            simp only [List.length_append, List.length_singleton] at within
            omega
        | unbind other => cases stands
        | dispatch other method args bound => cases stands
      · rw [if_neg here] at stands
        obtain ⟨bind, found, rest⟩ := ih stands
        have within := (List.getElem?_eq_some_iff.mp found).1
        refine ⟨bind, (List.getElem?_append_left within).trans found, ?_⟩
        intro later other after listed
        by_cases earlier : later < deeds.length
        · rw [List.getElem?_append_left earlier] at listed
          exact rest later other after listed
        · have bound := (List.getElem?_eq_some_iff.mp listed).1
          simp only [List.length_append, List.length_singleton] at bound
          obtain rfl : later = deeds.length := by omega
          rw [List.getElem?_concat_length] at listed
          cases listed
          exact here

/-- Histories whose calls meet what stands under their names. -/
inductive Lawful : List ScriptDeed → Prop where
  | nil : Lawful []
  | snoc {deeds : List ScriptDeed} {deed : ScriptDeed} (lawful : Lawful deeds)
      (meets : ∀ name method args target, deed = .dispatch name method args target →
        target = standing deeds name) : Lawful (deeds ++ [deed])

/-- A bind serves an invocation: it is the last thing that was done under the name before. -/
structure Serves (deeds : List ScriptDeed) (name : String) (bind invocation : Nat) : Prop where
  binds : ∃ target method args, deeds[bind]? = some (.bind name target) ∧
    deeds[invocation]? = some (.dispatch name method args (some target)) ∧
    target.hasMethod method = true
  before : bind < invocation
  last : ∀ between deed, bind < between → between < invocation →
    deeds[between]? = some deed → deed.name ≠ name

/-- A bind serves one invocation at most. -/
theorem Serves.unique {deeds : List ScriptDeed} {name : String} {bind first second : Nat}
    (serves : Serves deeds name bind first) (again : Serves deeds name bind second) :
    first = second := by
  obtain ⟨_, _, _, _, early, _⟩ := serves.binds
  obtain ⟨_, _, _, _, late, _⟩ := again.binds
  -- Of two different invocations the earlier would stand between the bind and the later one.
  rcases Nat.lt_trichotomy first second with less | same | more
  · exact absurd rfl (again.last first _ serves.before less early)
  · exact same
  · exact absurd rfl (serves.last second _ again.before more late)

namespace Lawful

variable {deeds : List ScriptDeed}

/-- In a lawful history each invocation is served by a bind. -/
theorem served (lawful : Lawful deeds) {name : String} {invocation : Nat} {deed : ScriptDeed}
    (listed : deeds[invocation]? = some deed) (invokes : deed.invokes name = true) :
    ∃ bind, Serves deeds name bind invocation := by
  induction lawful with
  | nil => cases listed
  | @snoc deeds last lawful meets ih =>
      by_cases earlier : invocation < deeds.length
      · rw [List.getElem?_append_left earlier] at listed
        obtain ⟨bind, serves⟩ := ih listed
        obtain ⟨target, method, args, binds, calls, claims⟩ := serves.binds
        refine ⟨bind, ⟨target, method, args, ?_, ?_, claims⟩, serves.before, ?_⟩
        · rw [List.getElem?_append_left (Nat.lt_trans serves.before earlier), binds]
        · rw [List.getElem?_append_left earlier, calls]
        · intro between deed after before found
          rw [List.getElem?_append_left (Nat.lt_trans before earlier)] at found
          exact serves.last between deed after before found
      · have bound := (List.getElem?_eq_some_iff.mp listed).1
        simp only [List.length_append, List.length_singleton] at bound
        obtain rfl : invocation = deeds.length := by omega
        rw [List.getElem?_concat_length] at listed
        cases listed
        obtain ⟨method, args, target, rfl, claims⟩ := ScriptDeed.exists_of_invokes invokes
        have stands := (meets name method args (some target) rfl).symm
        obtain ⟨bind, binds, rest⟩ := exists_bind_of_standing stands
        have within := (List.getElem?_eq_some_iff.mp binds).1
        refine ⟨bind, ⟨target, method, args, ?_, List.getElem?_concat_length, claims⟩, within, ?_⟩
        · rw [List.getElem?_append_left within, binds]
        · intro between deed after before found
          rw [List.getElem?_append_left before] at found
          exact rest between deed after found

/-- A name has been invoked at most as often as bound, and less often while it is bound. -/
theorem invocations_le (lawful : Lawful deeds) (name : String) :
    deeds.countP (ScriptDeed.invokes name) + (standing deeds name).toList.length ≤
      deeds.countP (ScriptDeed.binds name) := by
  induction lawful with
  | nil => exact Nat.le_refl 0
  | @snoc deeds deed lawful meets ih =>
      rw [standing_snoc, List.countP_append, List.countP_append, List.countP_singleton,
        List.countP_singleton, ScriptDeed.after]
      by_cases here : deed.name = name
      · rw [if_pos here]
        cases deed with
        | bind other target =>
            have binds : ScriptDeed.binds name (.bind other target) = true := decide_eq_true here
            simp only [ScriptDeed.invokes, Bool.false_eq_true, ↓reduceIte, binds, ScriptDeed.left,
              Option.toList_some, List.length_singleton]
            omega
        | unbind other =>
            simp only [ScriptDeed.invokes, Bool.false_eq_true, ↓reduceIte, ScriptDeed.binds,
              ScriptDeed.left, Option.toList_none, List.length_nil]
            omega
        | dispatch other method args target =>
            obtain rfl : other = name := here
            obtain rfl := meets other method args target rfl
            simp only [ScriptDeed.binds, Bool.false_eq_true, ↓reduceIte, ScriptDeed.left,
              Option.toList_none, List.length_nil]
            cases stands : standing deeds other with
            | none =>
                simp only [ScriptDeed.invokes, Bool.false_eq_true, ↓reduceIte]
                omega
            | some target =>
                rw [stands, Option.toList_some, List.length_singleton] at ih
                split
                · omega
                · omega
      · have unbound : deed.binds name = false := by
          by_contra binds
          exact here (ScriptDeed.name_of_binds ((Bool.not_eq_false _).mp binds))
        have silent : deed.invokes name = false := by
          by_contra calls
          obtain ⟨_, _, _, rfl, _⟩ := ScriptDeed.exists_of_invokes ((Bool.not_eq_false _).mp calls)
          exact here rfl
        simp only [if_neg here, unbound, silent, Bool.false_eq_true, ↓reduceIte]
        omega

end Lawful

namespace ScriptRun

/-- What a run does next under a name. -/
def deed? (run : ScriptRun) : Option ScriptDeed :=
  match run.mode with
  | .take (.bind name target) => some (.bind name target)
  | .take (.unbind name) => some (.unbind name)
  | .take (.dispatch name method args) =>
    some (.dispatch name method args (run.bindings.table.find? name))
  | _ => none

/-- What the runs of a course did. -/
def history (visited : List ScriptRun) : List ScriptDeed := visited.filterMap deed?

@[simp] theorem history_snoc (visited : List ScriptRun) (run : ScriptRun) :
    history (visited ++ [run]) = history visited ++ run.deed?.toList := by
  unfold history
  rw [List.filterMap_append, List.filterMap_cons, List.filterMap_nil]
  cases run.deed? with
  | none => rfl
  | some deed => rfl

/-- A course on one table of bindings: the runs that were passed, oldest first, and the one that it
has come to.  Once a step is answered any other may follow. -/
inductive Course : List ScriptRun → ScriptRun → Prop where
  | start (step : ScriptStep) : Course [] (ScriptRun.start Bindings.empty step)
  | step {visited : List ScriptRun} {run : ScriptRun} (course : Course visited run) :
      Course (visited ++ [run]) run.step
  | next {visited : List ScriptRun} {run : ScriptRun} (course : Course visited run)
      (answered : run.answer?.isSome) (step : ScriptStep) :
      Course (visited ++ [run]) (ScriptRun.start run.bindings step)

/-! ### Transitions -/

section Transitions

variable {run : ScriptRun} {name method : String} {args : List Json}
  {target : ScriptTarget ScriptStep}

theorem step_of_take {step : ScriptStep} (takes : run.mode = .take step) :
    run.step = run.take step := by
  unfold ScriptRun.step
  rw [takes]

/-- A dispatch to a name that is not bound is answered as to an unknown interface. -/
theorem step_of_unbound (takes : run.mode = .take (.dispatch name method args))
    (absent : run.bindings.table.find? name = none) :
    run.step = { run with mode := .answer (.dispatched (.error (.unknownInterface name))) } := by
  rw [step_of_take takes]
  simp only [ScriptRun.take, Bindings.claim_of_absent absent]

/-- A dispatch of a method that the target lacks takes the binding, and calls nothing. -/
theorem step_of_unclaimed (takes : run.mode = .take (.dispatch name method args))
    (bound : run.bindings.table.find? name = some target)
    (unclaimed : target.hasMethod method = false) :
    run.step = { run with
      bindings := ⟨run.bindings.table.erase name⟩
      mode := .answer (.dispatched (.error (.unknownMethod name method))) } := by
  rw [step_of_take takes]
  simp only [ScriptRun.take, Bindings.claim_of_unclaimed bound unclaimed]

/-- A call that reaches its target. -/
def calling (run : ScriptRun) (name method : String) (args : List Json)
    (target : ScriptTarget ScriptStep) : ScriptRun :=
  let invocation : Invocation ScriptStep := ⟨target.label, target.operation? method⟩
  { bindings := ⟨run.bindings.table.erase name⟩
    seen :=
      if (target.operation? method).isSome then run.seen ++ [.call target.label method args]
      else run.seen
    stack := ⟨name, method, invocation.steps, invocation.ending method⟩ :: run.stack
    mode := .proceed }

/-- A dispatch of a method that the target has takes the binding and calls it. -/
theorem step_of_claimed (takes : run.mode = .take (.dispatch name method args))
    (bound : run.bindings.table.find? name = some target)
    (claimed : target.hasMethod method = true) :
    run.step = run.calling name method args target := by
  rw [step_of_take takes]
  simp only [ScriptRun.take, Bindings.claim_of_claimed bound claimed, calling]

/-- Whatever becomes of a call, its name is not bound afterwards. -/
theorem table_step_of_dispatch (takes : run.mode = .take (.dispatch name method args))
    (other : String) :
    run.step.bindings.table.find? other =
      if other = name then none else run.bindings.table.find? other := by
  cases bound : run.bindings.table.find? name with
  | none =>
      rw [step_of_unbound takes bound]
      by_cases same : other = name
      · rw [if_pos same, same]
        exact bound
      · rw [if_neg same]
  | some target =>
      have erased : run.step.bindings.table = run.bindings.table.erase name := by
        cases claimed : target.hasMethod method with
        | false => rw [step_of_unclaimed takes bound claimed]
        | true =>
            rw [step_of_claimed takes bound claimed]
            rfl
      rw [erased, Table.find?_erase]

end Transitions

/-- A transition changes bindings by its deed alone. -/
theorem find?_step (run : ScriptRun) (name : String) :
    run.step.bindings.table.find? name =
      run.deed?.toList.foldl (ScriptDeed.after name) (run.bindings.table.find? name) := by
  obtain ⟨bindings, seen, stack, mode⟩ := run
  cases mode with
  | take step =>
      cases step with
      | bind other target =>
          simp only [ScriptRun.step, ScriptRun.take, Bindings.bind, deed?, Option.toList_some,
            List.foldl_cons, List.foldl_nil, ScriptDeed.after, ScriptDeed.name, ScriptDeed.left,
            Table.find?_insert, eq_comm]
      | unbind other =>
          simp only [ScriptRun.step, ScriptRun.take, Bindings.unbind, deed?, Option.toList_some,
            List.foldl_cons, List.foldl_nil, ScriptDeed.after, ScriptDeed.name, ScriptDeed.left,
            Table.find?_erase, eq_comm]
      | dispatch other method args =>
          rw [table_step_of_dispatch rfl]
          simp only [deed?, Option.toList_some, List.foldl_cons, List.foldl_nil, ScriptDeed.after,
            ScriptDeed.name, ScriptDeed.left, eq_comm]
      | _ => rfl
  | answer answer =>
      cases stack with
      | nil => rfl
      | cons frame rest => rfl
  | proceed =>
      cases stack with
      | nil => rfl
      | cons frame rest =>
          obtain ⟨interface, method, steps, ending⟩ := frame
          cases steps with
          | nil => rfl
          | cons first others => rfl

/-- A run that has its answer does nothing more. -/
theorem deed?_of_answered {run : ScriptRun} (answered : run.answer?.isSome) : run.deed? = none := by
  unfold answer? at answered
  split at answered
  next answers _ => simp only [deed?, answers]
  next => cases answered

namespace Course

variable {visited : List ScriptRun} {run : ScriptRun}

/-- The bindings of a run are what stands after its history. -/
theorem find?_bindings (course : Course visited run) (name : String) :
    run.bindings.table.find? name = standing (history visited) name := by
  induction course with
  | start step => rfl
  | @step visited run course ih =>
      rw [find?_step, ih, history_snoc, standing, standing, List.foldl_append]
  | @next visited run course answered step ih =>
      rw [history_snoc, deed?_of_answered answered, Option.toList_none, List.append_nil]
      exact ih

theorem lawful_snoc (course : Course visited run) (lawful : Lawful (history visited)) :
    Lawful (history (visited ++ [run])) := by
  rw [history_snoc]
  cases does : run.deed? with
  | none =>
      rw [Option.toList_none, List.append_nil]
      exact lawful
  | some deed =>
      refine .snoc lawful ?_
      rintro name method args target rfl
      rw [← course.find?_bindings]
      unfold deed? at does
      split at does
      next => cases does
      next => cases does
      next =>
        cases does
        rfl
      next => cases does

/-- The history of every run is lawful. -/
theorem lawful (course : Course visited run) : Lawful (history visited) := by
  induction course with
  | start step => exact .nil
  | step course ih => exact course.lawful_snoc ih
  | next course answered step ih => exact course.lawful_snoc ih

end Course

end ScriptRun

end HostBridge
