import HostBridge.Text.Quoted

/-!
# Native handles

A handle holds the address of a resource that the native side owns; 0 stands for none.  Clearing a
handle hands out the address and leaves 0 behind, so whatever is released through a handle is
released once.
-/

namespace HostBridge

/-- The address of a native resource, or 0. -/
structure Handle where
  address : UInt64
deriving DecidableEq, Repr

namespace Handle

/-- The handle that holds nothing. -/
def empty : Handle := ⟨0⟩

instance : Inhabited Handle := ⟨empty⟩

/-- Whether the handle holds nothing. -/
def isReleased (handle : Handle) : Bool := handle.address = 0

/-- Take the address out of the handle. -/
def clear (handle : Handle) : Handle × UInt64 := (empty, handle.address)

/-- Take the address out of the handle for release; none if there is nothing to release. -/
def release (handle : Handle) : Handle × Option UInt64 :=
  let (cleared, previous) := handle.clear
  (cleared, if previous = 0 then none else some previous)

/-- The diagnostic text of a handle. -/
def shown (handle : Handle) : String := "NativeHandle(" ++ Text.hexNumber handle.address ++ ")"

/-- A step on a handle; a release may take further steps on the same handle while it runs. -/
inductive Step where
  | address
  | isReleased
  | shown
  | clear
  | release (body : List Step)

/-- What a step answers.  A release says whether its callback ran, which reports the address it was
given and the answers of the steps it took. -/
inductive Answer where
  | address (value : UInt64)
  | flag (value : Bool)
  | text (value : String)
  | cleared (previous : UInt64)
  | released (ran : Bool) (callback : Option (UInt64 × List Answer))

mutual

/-- Take a step: the handle is cleared before the callback of a release runs. -/
def step (handle : Handle) : Step → Handle × Answer
  | .address => (handle, .address handle.address)
  | .isReleased => (handle, .flag handle.isReleased)
  | .shown => (handle, .text handle.shown)
  | .clear =>
    let (cleared, previous) := handle.clear
    (cleared, .cleared previous)
  | .release body =>
    match handle.release with
    | (cleared, none) => (cleared, .released false none)
    | (cleared, some address) =>
      let (last, answers) := run cleared body
      (last, .released true (some (address, answers)))

/-- Take steps one after the other. -/
def run (handle : Handle) : List Step → Handle × List Answer
  | [] => (handle, [])
  | first :: rest =>
    let (next, answer) := step handle first
    let (last, answers) := run next rest
    (last, answer :: answers)

end

end Handle

end HostBridge
