import HostBridge.Logging.Entry
import HostBridge.Text.Quoted

/-!
# Object registries

A registry finds the object that owns a native id.  It refers to objects without keeping them alive:
an entry whose object is gone behaves exactly like a missing entry until the object's id is used
again.  Which objects are alive is not the registry's business, so each operation is told.
-/

namespace HostBridge

/-- The identity of an object.  Two objects with equal contents are still different objects. -/
abbrev ObjectKey := Nat

/-- Entries from native ids to objects. -/
structure Registry where
  entries : Table UInt64 ObjectKey

namespace Registry

/-- The registry without entries. -/
def empty : Registry := ⟨Table.empty⟩

instance : Inhabited Registry := ⟨empty⟩

/-- The living object under an id. -/
def lookup (registry : Registry) (alive : ObjectKey → Bool) (id : UInt64) : Option ObjectKey :=
  (registry.entries.find? id).filter alive

/-- Register an object under an id; the living object that it replaces is handed back. -/
def insert (registry : Registry) (alive : ObjectKey → Bool) (id : UInt64) (owner : ObjectKey) :
    Registry × Option ObjectKey :=
  (⟨registry.entries.insert id owner⟩, registry.lookup alive id)

/-- Remove the entry under an id; whether there was one, of a living object or not. -/
def remove (registry : Registry) (id : UInt64) : Registry × Bool :=
  (⟨registry.entries.erase id⟩, registry.entries.contains id)

/-- Remove the entry under an id if it is of this very object. -/
def removeOwned (registry : Registry) (id : UInt64) (owner : ObjectKey) : Registry × Bool :=
  if registry.entries.find? id = some owner then (⟨registry.entries.erase id⟩, true)
  else (registry, false)

/-- Whether a living object is registered under an id. -/
def contains (registry : Registry) (alive : ObjectKey → Bool) (id : UInt64) : Bool :=
  (registry.lookup alive id).isSome

/-- The number of entries of living objects. -/
def liveCount (registry : Registry) (alive : ObjectKey → Bool) : Nat :=
  (registry.entries.values.filter alive).length

/-- Remove the entries of objects that are gone, and count them. -/
def prune (registry : Registry) (alive : ObjectKey → Bool) : Registry × Nat :=
  let kept := registry.entries.filter (fun _ owner => alive owner)
  (⟨kept⟩, registry.entries.size - kept.size)

/-- The diagnostic text of a registry; entries of objects that are gone count. -/
def shown (registry : Registry) : String :=
  Text.showRecord "ObjectRegistry" [("entries", toString registry.entries.size)]

/-- What is logged when an insertion replaced a living object. -/
def replacedEntry (id : UInt64) : Logging.Entry :=
  Logging.Component.registry.log .warn "Replaced a live registry entry"
    [("object_id", toString id.toNat)]

/-- What is logged when an entry was not removed because it is of another object. -/
def foreignEntry (id : UInt64) : Logging.Entry :=
  Logging.Component.registry.log .debug "Registry entry belongs to another owner"
    [("object_id", toString id.toNat)]

end Registry

/-- Named references to objects.  An object lives as long as a name refers to it. -/
structure Owners (α : Type) where
  names : Table String ObjectKey
  objects : Table ObjectKey α
  /-- The identity of the next object. -/
  next : ObjectKey

namespace Owners

variable {α : Type}

/-- No names and no objects. -/
def empty : Owners α := ⟨Table.empty, Table.empty, 0⟩

instance : Inhabited (Owners α) := ⟨empty⟩

/-- Whether a name refers to an object. -/
def alive (owners : Owners α) (key : ObjectKey) : Bool := owners.names.values.any (· = key)

/-- The object that a name refers to. -/
def key? (owners : Owners α) (name : String) : Option ObjectKey := owners.names.find? name

/-- The contents of an object. -/
def value? (owners : Owners α) (key : ObjectKey) : Option α := owners.objects.find? key

/-- Create an object under a name, which then refers to nothing else; whether it did before. -/
def create (owners : Owners α) (name : String) (value : α) : Owners α × Bool :=
  (⟨owners.names.insert name owners.next, owners.objects.insert owners.next value, owners.next + 1⟩,
    owners.names.contains name)

/-- Let a name refer to an object that exists. -/
def refer (owners : Owners α) (name : String) (key : ObjectKey) : Owners α × Bool :=
  ({ owners with names := owners.names.insert name key }, owners.names.contains name)

/-- Drop a name; whether it referred to an object. -/
def drop (owners : Owners α) (name : String) : Owners α × Bool :=
  ({ owners with names := owners.names.erase name }, owners.names.contains name)

end Owners

/-- A registry and the names that keep its objects alive. -/
structure Ownership (α : Type) where
  owners : Owners α
  registry : Registry

namespace Ownership

variable {α : Type}

/-- No objects and no entries. -/
def empty : Ownership α := ⟨Owners.empty, Registry.empty⟩

instance : Inhabited (Ownership α) := ⟨empty⟩

/-- An operation on names or on the registry. -/
inductive Command (α : Type) where
  | own (name : String) (value : α)
  | alias (name other : String)
  | drop (name : String)
  | insert (id : UInt64) (name : String)
  | removeOwned (id : UInt64) (name : String)
  | lookup (id : UInt64)
  | remove (id : UInt64)
  | contains (id : UInt64)
  | liveCount
  | prune
  | shown

/-- What an operation answers. -/
inductive Answer (α : Type) where
  | noOwner
  | flag (b : Bool)
  | object (value : Option α)
  | count (n : Nat)
  | text (s : String)

/-- Carry out one operation. -/
def perform (state : Ownership α) : Command α → Ownership α × Answer α
  | .own name value =>
    let (owners, used) := state.owners.create name value
    ({ state with owners := owners }, .flag used)
  | .alias name other =>
    match state.owners.key? other with
    | none => (state, .noOwner)
    | some key =>
      let (owners, used) := state.owners.refer name key
      ({ state with owners := owners }, .flag used)
  | .drop name =>
    let (owners, used) := state.owners.drop name
    ({ state with owners := owners }, .flag used)
  | .insert id name =>
    match state.owners.key? name with
    | none => (state, .noOwner)
    | some key =>
      let (registry, previous) := state.registry.insert state.owners.alive id key
      ({ state with registry := registry }, .object (previous.bind state.owners.value?))
  | .removeOwned id name =>
    match state.owners.key? name with
    | none => (state, .noOwner)
    | some key =>
      let (registry, removed) := state.registry.removeOwned id key
      ({ state with registry := registry }, .flag removed)
  | .lookup id =>
    (state, .object ((state.registry.lookup state.owners.alive id).bind state.owners.value?))
  | .remove id =>
    let (registry, removed) := state.registry.remove id
    ({ state with registry := registry }, .flag removed)
  | .contains id => (state, .flag (state.registry.contains state.owners.alive id))
  | .liveCount => (state, .count (state.registry.liveCount state.owners.alive))
  | .prune =>
    let (registry, removed) := state.registry.prune state.owners.alive
    ({ state with registry := registry }, .count removed)
  | .shown => (state, .text state.registry.shown)

end Ownership

end HostBridge
