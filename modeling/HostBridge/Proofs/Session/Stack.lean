import HostBridge.Session.Machine

/-!
# The stack of a session

A frame waits for the one above it, and only some stand on each other: application code stands on
the operation that runs it, and that operation on the code that called it, down to the action that
the session began with.  The transitions that pop a frame without resuming it are therefore never
taken.

Main statement: every transition keeps the stack in order (`Ordered.step`).
-/

namespace HostBridge.Session

mutual

/-- A stack to which an answer can be handed: nothing, or application code with what it runs for. -/
inductive Calm : List Frame → Prop where
  | empty : Calm []
  | code (steps : List Action) {ending : Ending} {rest : List Frame}
      (waiting : Waiting ending rest) :
      Calm (.code steps ending :: rest)

/-- A stack that waits for application code with the given ending. -/
inductive Waiting : Ending → List Frame → Prop where
  /-- What runs while an instance is released always returns. -/
  | release (view : ObjectKey) (reply : Reply) {rest : List Frame} (calm : Calm rest) :
      Waiting .returns (.release view :: .answer reply :: rest)
  | progress {ending : Ending} (objectId : UInt64) (value : Int32)
      (client : Option (Client Action)) (tasks : List ProgressTask) (inbound : Inbound)
      {rest : List Frame} (calm : Calm rest) :
      Waiting ending (.progress objectId value client tasks :: .handler inbound :: rest)
  | result {ending : Ending} (objectId : UInt64) (id : CallbackId) (inbound : Inbound)
      {rest : List Frame} (calm : Calm rest) :
      Waiting ending (.result objectId id :: .handler inbound :: rest)
  | script {ending : Ending} (objectId : UInt64) (interface method : String) (inbound : Inbound)
      {rest : List Frame} (calm : Calm rest) :
      Waiting ending (.script objectId interface method :: .handler inbound :: rest)

end

/-- The stacks that go with each mode. -/
inductive Ordered : Mode → List Frame → Prop where
  | perform (action : Action) {stack : List Frame} (calm : Calm stack) :
      Ordered (.perform action) stack
  | reply (reply : Reply) {stack : List Frame} (calm : Calm stack) : Ordered (.reply reply) stack
  | answer (reply answer : Reply) {rest : List Frame} (calm : Calm rest) :
      Ordered (.reply reply) (.answer answer :: rest)
  | code (steps : List Action) {ending : Ending} {rest : List Frame}
      (waiting : Waiting ending rest) :
      Ordered .proceed (.code steps ending :: rest)
  | progress (objectId : UInt64) (value : Int32) (client : Option (Client Action))
      (tasks : List ProgressTask) (inbound : Inbound) {rest : List Frame} (calm : Calm rest) :
      Ordered .proceed (.progress objectId value client tasks :: .handler inbound :: rest)
  | ended {ending : Ending} {stack : List Frame} (waiting : Waiting ending stack) :
      Ordered (.ended ending) stack
  | unwound (reason : String) (inbound : Inbound) {rest : List Frame} (calm : Calm rest) :
      Ordered (.ended (.panics reason)) (.handler inbound :: rest)
  | handled (delivery : Delivery) (inbound : Inbound) {rest : List Frame} (calm : Calm rest) :
      Ordered (.handled delivery) (.handler inbound :: rest)

namespace Machine

/-- Whether the stack goes with the mode. -/
def IsOrdered (machine : Machine) : Prop := Ordered machine.mode machine.stack

/-- A machine starts ordered. -/
theorem isOrdered_start (state : State) (action : Action) : (start state action).IsOrdered :=
  .perform action .empty

variable {machine : Machine}

/-- An answer over a calm stack is ordered. -/
theorem isOrdered_answering (calm : Calm machine.stack) (result : State × Reply) :
    (machine.answering result).IsOrdered := .reply result.2 calm

/-- A destroy over a calm stack is ordered. -/
theorem isOrdered_destroying (calm : Calm machine.stack) (state : State) (key : ObjectKey)
    (reply : Reply) : (machine.destroying state key reply).IsOrdered := by
  unfold destroying
  split
  · exact isOrdered_answering calm _
  · exact .code _ (.release key reply calm)

/-- A creation over a calm stack is ordered. -/
theorem isOrdered_creating (calm : Calm machine.stack) (name : String) :
    (machine.creating name).IsOrdered := by
  unfold creating
  dsimp only
  split
  · exact isOrdered_answering calm _
  · split
    · exact isOrdered_answering calm _
    · split
      · exact isOrdered_answering calm _
      · exact isOrdered_destroying calm _ _ _

/-- What the handling of an inbound event leaves: an outcome, or application code that it waits
for. -/
theorem isOrdered_handling {inbound : Inbound} {rest : List Frame} (calm : Calm rest)
    (stack : machine.stack = .handler inbound :: rest) (key : ObjectKey) (method : String)
    (payload : Json) : (machine.handling key method payload).IsOrdered := by
  obtain ⟨state, frames, mode⟩ := machine
  subst stack
  unfold handling
  split
  · exact .handled _ inbound calm
  · split
    · exact .handled _ inbound calm
    · unfold handlingProgress
      split
      · exact .handled _ inbound calm
      · exact .progress _ _ _ _ inbound calm
    · unfold handlingResult
      split
      · exact .handled _ inbound calm
      · dsimp only
        split
        · exact .handled _ inbound calm
        · exact .handled _ inbound calm
        · exact .code _ (.result _ _ inbound calm)
    · unfold handlingMessage
      split
      · exact .handled _ inbound calm
      · dsimp only
        split
        · exact .handled _ inbound calm
        · exact .code _ (.script _ _ _ inbound calm)

/-- A delivery over a calm stack is ordered. -/
theorem isOrdered_delivering (calm : Calm machine.stack) (inbound : Inbound) :
    (machine.delivering inbound).IsOrdered := by
  unfold delivering
  dsimp only
  split
  · exact isOrdered_answering calm _
  · exact isOrdered_handling calm rfl _ _ _

/-- Every action over a calm stack is ordered. -/
theorem isOrdered_perform (calm : Calm machine.stack) (action : Action) :
    (machine.perform action).IsOrdered := by
  cases action with
  | deliver whom method payload => exact isOrdered_delivering calm _
  | createView view => exact isOrdered_creating calm view
  | destroy view =>
      unfold perform
      dsimp only
      split
      · exact isOrdered_answering calm _
      · exact isOrdered_destroying calm _ _ _
  | dropView view =>
      unfold perform
      dsimp only
      split
      · exact isOrdered_answering calm _
      · exact isOrdered_destroying calm _ _ _
  | _ => exact isOrdered_answering calm _

/-- The tasks of a progress report over its handler are ordered. -/
theorem isOrdered_progressing {rest : List Frame} {inbound : Inbound} (calm : Calm rest)
    (objectId : UInt64) (value : Int32) (client : Option (Client Action))
    (tasks : List ProgressTask) :
    (machine.progressing objectId value client (.handler inbound :: rest) tasks).IsOrdered := by
  unfold progressing
  split
  · exact .handled _ inbound calm
  · exact .progress _ _ _ _ inbound calm
  · split
    · exact .code _ (.progress _ _ _ _ inbound calm)
    · exact .progress _ _ _ _ inbound calm

/-- A panic passes through the operations that do not catch it. -/
theorem isOrdered_resuming {ending : Ending} {frame : Frame} {rest : List Frame}
    (mode : machine.mode = .ended ending) (waiting : Waiting ending (frame :: rest)) :
    (machine.resuming ending rest frame).IsOrdered := by
  obtain ⟨state, stack, _⟩ := machine
  subst mode
  cases waiting with
  | release view reply calm => exact .answer _ reply calm
  | progress objectId value client tasks inbound calm =>
      cases ending with
      | panics reason => exact .unwound reason inbound calm
      | _ => exact .progress _ _ _ _ inbound calm
  | result objectId id inbound calm =>
      cases ending with
      | panics reason => exact .unwound reason inbound calm
      | _ => exact .handled _ inbound calm
  | script objectId interface method inbound calm => exact .handled _ inbound calm

/-- Every step keeps a machine ordered. -/
theorem IsOrdered.step (ordered : machine.IsOrdered) : machine.step.IsOrdered := by
  obtain ⟨state, stack, mode⟩ := machine
  cases ordered with
  | perform action calm => exact isOrdered_perform calm action
  | reply reply calm =>
      cases calm with
      | empty => exact .reply reply .empty
      | code steps waiting => exact .code steps waiting
  | answer reply answer calm => exact .reply answer calm
  | code steps waiting =>
      cases steps with
      | nil => exact .ended waiting
      | cons first others => exact .perform first (.code others waiting)
  | progress objectId value client tasks inbound calm => exact isOrdered_progressing calm _ _ _ _
  | ended waiting =>
      cases stack with
      | nil => nomatch waiting
      | cons frame rest => exact isOrdered_resuming rfl waiting
  | unwound reason inbound calm => exact .reply _ calm
  | handled delivery inbound calm => exact .reply _ calm

end Machine

end HostBridge.Session
