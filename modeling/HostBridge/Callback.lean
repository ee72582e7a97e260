import HostBridge.Json.Decode
import HostBridge.Table
import HostBridge.Text.Blank
import HostBridge.Text.Quoted

/-!
# Callback tables

A callback table correlates a result with the continuation that waits for it.  Ids count up from 1;
a continuation is parked under an id and handed out once, when the id is resolved.
-/

namespace HostBridge

/-- The id that a request and its result share. -/
structure CallbackId where
  value : UInt64
deriving DecidableEq, Repr, Inhabited

namespace CallbackId

/-- The decimal digits of an id. -/
def text (id : CallbackId) : String := toString id.value.toNat

/-- The diagnostic text of an id. -/
def shown (id : CallbackId) : String := "CallbackId(" ++ id.text ++ ")"

/-- Read an id from its digits. -/
def ofText (s : String) : Except Text.NumeralError CallbackId := (Text.readUInt64 s).map (⟨·⟩)

/-- Read an id from an inbound value: an integer, or a text that trims to one. -/
def ofJson? : Json → Option CallbackId
  | .number (.unsigned n) => some ⟨n⟩
  | .string s => (ofText (Text.trim s)).toOption
  | _ => none

/-- An id as a number. -/
def toJson (id : CallbackId) : Json := .ofUInt64 id.value

/-- Read an id that was written as a number. -/
def decode : Json.Decoder CallbackId := fun tree => (Json.Decoder.uint64 tree).map (⟨·⟩)

end CallbackId

/-- Parked continuations and the counter of ids. -/
structure CallbackTable (γ : Type) where
  /-- The id that was issued last; 0 before the first. -/
  issued : UInt64
  parked : Table UInt64 γ

namespace CallbackTable

variable {γ : Type}

/-- The table without issued ids. -/
def empty : CallbackTable γ := ⟨0, Table.empty⟩

instance : Inhabited (CallbackTable γ) := ⟨empty⟩

/-- A fresh id. -/
def issue (table : CallbackTable γ) : CallbackTable γ × CallbackId :=
  ({ table with issued := table.issued + 1 }, ⟨table.issued + 1⟩)

/-- Park a continuation under an id, in place of one that is parked there. -/
def park (table : CallbackTable γ) (id : CallbackId) (continuation : γ) : CallbackTable γ :=
  { table with parked := table.parked.insert id.value continuation }

/-- Park a continuation under a fresh id. -/
def register (table : CallbackTable γ) (continuation : γ) : CallbackTable γ × CallbackId :=
  let (table, id) := table.issue
  (table.park id continuation, id)

/-- The continuation parked under an id, if there is one, which is not parked any more. -/
def resolve (table : CallbackTable γ) (id : CallbackId) : CallbackTable γ × Option γ :=
  ({ table with parked := table.parked.erase id.value }, table.parked.find? id.value)

/-- The number of parked continuations. -/
def pending (table : CallbackTable γ) : Nat := table.parked.size

/-- The diagnostic text of a table. -/
def shown (table : CallbackTable γ) : String :=
  Text.showRecord "CallbackTable"
    [("issued", toString table.issued.toNat), ("pending", toString table.pending)]

/-- An operation on a table. -/
inductive Command (γ : Type) where
  | issue
  | park (id : CallbackId) (continuation : γ)
  | register (continuation : γ)
  | resolve (id : CallbackId)
  | pending
  | shown

/-- What an operation answers. -/
inductive Answer (γ : Type) where
  | id (id : CallbackId)
  | parked
  | resolved (continuation : Option γ)
  | count (n : Nat)
  | text (s : String)

/-- Carry out one operation. -/
def perform (table : CallbackTable γ) : Command γ → CallbackTable γ × Answer γ
  | .issue => let (table, id) := table.issue; (table, .id id)
  | .park id continuation => (table.park id continuation, .parked)
  | .register continuation => let (table, id) := table.register continuation; (table, .id id)
  | .resolve id => let (table, found) := table.resolve id; (table, .resolved found)
  | .pending => (table, .count table.pending)
  | .shown => (table, .text table.shown)

end CallbackTable

end HostBridge
