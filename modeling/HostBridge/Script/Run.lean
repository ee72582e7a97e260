import HostBridge.Script.Basic

/-!
# Running script steps

Steps on a table of bindings, where an operation that is invoked may take further steps on the same
table before it ends.  A run is a machine with a stack of operations under way; each transition
takes one step, passes an answer on, or lets an operation end.
-/

namespace HostBridge

/-- A step on a table of bindings. -/
inductive ScriptStep where
  | bind (name : String) (target : ScriptTarget ScriptStep)
  | unbind (name : String)
  | isBound (name : String)
  | size
  | dispatch (name method : String) (args : List Json)
  | shown

/-- What a step answers. -/
inductive ScriptAnswer where
  | bound (replaced : Bool) (object : String)
  | flag (b : Bool)
  | size (n : Nat)
  | dispatched (result : Except DispatchError Unit)
  | text (s : String)

/-- What is seen during a run: calls that reach an operation, and the answers of nested steps. -/
inductive ScriptSighting where
  | call (label method : String) (args : List Json)
  | nested (answer : ScriptAnswer)

namespace ScriptRun

/-- An operation under way. -/
structure Frame where
  interface : String
  method : String
  steps : List ScriptStep
  ending : Ending

/-- What a run does next. -/
inductive Mode where
  /-- Take a step. -/
  | take (step : ScriptStep)
  /-- Pass an answer to the operation under way, or out of the run. -/
  | answer (answer : ScriptAnswer)
  /-- Go on with the operation under way. -/
  | proceed

end ScriptRun

open ScriptRun in
/-- A run: the bindings, what was seen, the operations under way and what comes next. -/
structure ScriptRun where
  bindings : Bindings ScriptStep
  seen : List ScriptSighting
  stack : List Frame
  mode : Mode

namespace ScriptRun

/-- Begin a run with one step. -/
def start (bindings : Bindings ScriptStep) (step : ScriptStep) : ScriptRun :=
  ⟨bindings, [], [], .take step⟩

/-- Take a step. -/
def take (run : ScriptRun) : ScriptStep → ScriptRun
  | .bind name target =>
    let (bindings, replaced) := run.bindings.bind name target
    { run with bindings := bindings, mode := .answer (.bound replaced target.shown) }
  | .unbind name =>
    let (bindings, removed) := run.bindings.unbind name
    { run with bindings := bindings, mode := .answer (.flag removed) }
  | .isBound name => { run with mode := .answer (.flag (run.bindings.isBound name)) }
  | .size => { run with mode := .answer (.size run.bindings.size) }
  | .shown => { run with mode := .answer (.text run.bindings.shown) }
  | .dispatch name method args =>
    match run.bindings.claim name method with
    | (bindings, .error error) =>
      { run with bindings := bindings, mode := .answer (.dispatched (.error error)) }
    | (bindings, .ok invocation) =>
      { run with
        bindings := bindings
        seen :=
          if invocation.operation.isSome then
            run.seen ++ [.call invocation.label method args]
          else run.seen
        stack := ⟨name, method, invocation.steps, invocation.ending method⟩ :: run.stack
        mode := .proceed }

/-- One transition. -/
def step (run : ScriptRun) : ScriptRun :=
  match run.mode, run.stack with
  | .take step, _ => run.take step
  | .answer answer, _ :: _ => { run with seen := run.seen ++ [.nested answer], mode := .proceed }
  | .proceed, frame :: rest =>
    match frame.steps with
    | [] =>
      { run with
        stack := rest
        mode := .answer (.dispatched (frame.ending.result frame.interface frame.method)) }
    | first :: others =>
      { run with stack := { frame with steps := others } :: rest, mode := .take first }
  | _, [] => run

/-- The answer of a run that is over. -/
def answer? (run : ScriptRun) : Option ScriptAnswer :=
  match run.mode, run.stack with
  | .answer answer, [] => some answer
  | _, _ => none

/-- Up to `fuel` transitions, until the run is over. -/
def finish : Nat → ScriptRun → ScriptRun
  | 0, run => run
  | fuel + 1, run => if run.answer?.isSome then run else finish fuel run.step

end ScriptRun

end HostBridge
