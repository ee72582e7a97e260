import HostBridge.Proofs.Chronicle
import HostBridge.Proofs.Registry

/-!
# Which object a registry finds

A history of operations on names and on a registry is read for what it does to the entries: under
which ids which objects were inserted, and which entries were removed since.  Objects are told apart
by when they were created, whatever they contain.

Main statements: an operation changes an entry as its deed says, unless it prunes an object that is
gone (`find?_perform`); a registry finds the object that was inserted last under an id, that was not
removed since and that a name refers to (`lookup_after`); and the registry has no part in which
object is alive (`owners_after`).
-/

namespace HostBridge.Ownership

variable {α : Type}

/-- What an operation does to the entries of a registry. -/
inductive Deed where
  | insert (id : UInt64) (key : ObjectKey)
  | remove (id : UInt64)
  | removeOwned (id : UInt64) (key : ObjectKey)

/-- A deed replaces or removes the entry of an object under an id. -/
def Deed.Unseats (id : UInt64) (key : ObjectKey) : Deed → Prop
  | insert other _ => other = id
  | remove other => other = id
  | removeOwned other owner => other = id ∧ owner = key

/-- The last insertion under an id was of this object, and neither the id nor the object under it
was removed since. -/
def Registered (deeds : List Deed) (id : UInt64) (key : ObjectKey) : Prop :=
  Since (· = .insert id key) (·.Unseats id key) deeds

/-- A key is registered by the last deed, or was registered and is not unseated by it. -/
theorem registered_append_toList {deeds : List Deed} {deed? : Option Deed} {id : UInt64}
    {key : ObjectKey} :
    Registered (deeds ++ deed?.toList) id key ↔
      deed? = some (.insert id key) ∨
        (∀ deed, deed? = some deed → ¬ deed.Unseats id key) ∧ Registered deeds id key := by
  cases deed? with
  | none => simp
  | some deed => simp [Registered, since_snoc]

namespace Command

/-- Whether an operation is one on the registry and not on names. -/
def isOnRegistry : Command α → Bool
  | .own _ _ | .alias _ _ | .drop _ => false
  | _ => true

/-- The contents of the object that an operation creates. -/
def created? : Command α → Option α
  | own _ value => some value
  | _ => none

end Command

/-- The contents of the objects that some operations create. -/
def created (commands : List (Command α)) : List α := commands.filterMap Command.created?

section Operations

variable (state : Ownership α)

/-- The living object under an id. -/
def lookup (id : UInt64) : Option ObjectKey := state.registry.lookup state.owners.alive id

/-- What an operation does to the entries; one that needs a name does nothing without it. -/
def deed? : Command α → Option Deed
  | .insert id name => (state.owners.key? name).map (.insert id)
  | .removeOwned id name => (state.owners.key? name).map (.removeOwned id)
  | .remove id => some (.remove id)
  | _ => none

/-- What is there after some operations. -/
def after (commands : List (Command α)) : Ownership α :=
  commands.foldl (fun state command => (state.perform command).1) state

/-- What operations in a row do to the entries. -/
def deeds (commands : List (Command α)) : List Deed :=
  chronicle (fun state command => (state.perform command).1)
    (fun state command => (state.deed? command).toList) state commands

theorem after_snoc (commands : List (Command α)) (command : Command α) :
    state.after (commands ++ [command]) = ((state.after commands).perform command).1 := by
  rw [after, List.foldl_append]
  rfl

theorem deeds_snoc (commands : List (Command α)) (command : Command α) :
    state.deeds (commands ++ [command]) =
      state.deeds commands ++ ((state.after commands).deed? command).toList :=
  chronicle_snoc _ _ state commands command

/-! ### Names and objects -/

/-- An owner is alive while some name holds it. -/
theorem alive_iff (owners : Owners α) (key : ObjectKey) :
    owners.alive key = true ↔ ∃ name, owners.key? name = some key := by
  rw [Owners.alive, List.any_eq_true]
  simp only [decide_eq_true_eq, exists_eq_right, Table.mem_values_iff, Owners.key?]

/-- A command on the registry leaves the owners. -/
theorem owners_perform_of_isOnRegistry {command : Command α} (registry : command.isOnRegistry) :
    (state.perform command).1.owners = state.owners := by
  match command with
  | .insert id name | .removeOwned id name =>
      simp only [perform]
      cases state.owners.key? name with
      | none => rfl
      | some key => rfl
  | .lookup _ | .remove _ | .contains _ | .liveCount | .prune | .shown => rfl

/-- What happens to the owners is up to the owners alone. -/
theorem owners_perform_of_same {other : Ownership α} (same : state.owners = other.owners)
    (command : Command α) :
    (state.perform command).1.owners = (other.perform command).1.owners := by
  match command with
  | .own name value | .drop name => simp only [perform, same]
  | .alias name old =>
      simp only [perform, same]
      cases other.owners.key? old with
      | none => exact same
      | some key => rfl
  | .insert _ _ | .removeOwned _ _ | .lookup _ | .remove _ | .contains _ | .liveCount | .prune
  | .shown =>
      rw [owners_perform_of_isOnRegistry state rfl, owners_perform_of_isOnRegistry other rfl, same]

/-- A creation adds the next object; no operation changes an object. -/
theorem objects_perform (command : Command α) :
    (state.perform command).1.owners.next =
        state.owners.next + command.created?.toList.length ∧
      ∀ key, (state.perform command).1.owners.value? key =
        if key = state.owners.next then command.created?.or (state.owners.value? key)
        else state.owners.value? key := by
  match command with
  | .own name value =>
      refine ⟨rfl, fun key => ?_⟩
      exact Table.find?_insert _ _ _ _
  | .alias name other =>
      simp only [perform]
      cases state.owners.key? other with
      | none => exact ⟨rfl, fun key => (ite_self _).symm⟩
      | some old => exact ⟨rfl, fun key => (ite_self _).symm⟩
  | .drop _ => exact ⟨rfl, fun key => (ite_self _).symm⟩
  | .insert _ _ | .removeOwned _ _ | .lookup _ | .remove _ | .contains _ | .liveCount | .prune
  | .shown =>
      rw [owners_perform_of_isOnRegistry state rfl]
      exact ⟨rfl, fun key => (ite_self _).symm⟩

/-- A creation lets its name refer to the next object, an alias to what the other name refers to,
and a drop to nothing; all other operations leave every name alone. -/
theorem key?_perform (command : Command α) (name : String) :
    (state.perform command).1.owners.key? name =
      match command with
      | .own owner _ => if name = owner then some state.owners.next else state.owners.key? name
      | .alias owner other =>
        if name = owner then (state.owners.key? other).or (state.owners.key? name)
        else state.owners.key? name
      | .drop owner => if name = owner then none else state.owners.key? name
      | _ => state.owners.key? name := by
  match command with
  | .own owner value => exact Table.find?_insert _ _ _ _
  | .alias owner other =>
      simp only [perform]
      cases found : state.owners.key? other with
      | none => simp only [Option.none_or, ite_self]
      | some key => exact Table.find?_insert _ _ _ _
  | .drop owner => exact Table.find?_erase _ _ _
  | .insert _ _ | .removeOwned _ _ | .lookup _ | .remove _ | .contains _ | .liveCount | .prune
  | .shown => rw [owners_perform_of_isOnRegistry state rfl]

/-- What a name refers to after an operation was referred to before it, or was created by it. -/
theorem key?_of_perform {command : Command α} {name : String} {key : ObjectKey}
    (named : (state.perform command).1.owners.key? name = some key) :
    (∃ other, state.owners.key? other = some key) ∨
      (∃ value, command = .own name value) ∧ key = state.owners.next := by
  rw [key?_perform] at named
  match command with
  | .own owner value =>
      rcases ite_eq_iff.mp named with ⟨rfl, created⟩ | ⟨_, kept⟩
      · exact .inr ⟨⟨value, rfl⟩, (Option.some.inj created).symm⟩
      · exact .inl ⟨name, kept⟩
  | .alias owner other =>
      rcases ite_eq_iff.mp named with ⟨_, referred⟩ | ⟨_, kept⟩
      · rcases Option.or_eq_some_iff.mp referred with found | ⟨_, kept⟩
        · exact .inl ⟨other, found⟩
        · exact .inl ⟨name, kept⟩
      · exact .inl ⟨name, kept⟩
  | .drop owner =>
      rcases ite_eq_iff.mp named with ⟨_, dropped⟩ | ⟨_, kept⟩
      · cases dropped
      · exact .inl ⟨name, kept⟩
  | .insert _ _ | .removeOwned _ _ | .lookup _ | .remove _ | .contains _ | .liveCount | .prune
  | .shown => exact .inl ⟨name, named⟩

/-! ### Entries -/

/-- Only an owner that is held by a name is inserted. -/
theorem exists_key?_of_deed? {command : Command α} {id : UInt64} {key : ObjectKey}
    (inserts : state.deed? command = some (.insert id key)) :
    ∃ name, state.owners.key? name = some key := by
  match command with
  | .insert other name =>
      obtain ⟨owner, found, same⟩ := Option.map_eq_some_iff.mp inserts
      cases same
      exact ⟨name, found⟩
  | .removeOwned other name =>
      obtain ⟨owner, _, same⟩ := Option.map_eq_some_iff.mp inserts
      cases same
  | .own _ _ | .alias _ _ | .drop _ | .lookup _ | .remove _ | .contains _ | .liveCount | .prune
  | .shown => cases inserts

/-- An operation changes an entry as its deed says; a pruning keeps the entries of living
objects. -/
theorem find?_perform (command : Command α) (id : UInt64) (key : ObjectKey) :
    (state.perform command).1.registry.entries.find? id = some key ↔
      (state.deed? command = some (.insert id key) ∨
        (∀ deed, state.deed? command = some deed → ¬ deed.Unseats id key) ∧
          state.registry.entries.find? id = some key) ∧
      (command = .prune → state.owners.alive key = true) := by
  match command with
  | .own _ _ | .drop _ | .lookup _ | .contains _ | .liveCount | .shown =>
      simp [perform, deed?]
  | .alias _ other =>
      simp only [perform]
      cases state.owners.key? other <;> simp [deed?]
  | .insert other name =>
      simp only [perform, deed?]
      cases state.owners.key? name with
      | none => simp
      | some owner =>
          by_cases same : other = id
          · subst same
            simp [Registry.insert, Deed.Unseats]
          · simp [Registry.insert, Table.find?_insert, Deed.Unseats, same, Ne.symm same]
  | .removeOwned other name =>
      simp only [perform, deed?]
      cases state.owners.key? name with
      | none => simp
      | some owner =>
          by_cases owned : id = other ∧ state.registry.entries.find? other = some owner
          · obtain ⟨rfl, held⟩ := owned
            simp [Registry.find?_removeOwned, Deed.Unseats, held]
          · have foreign : state.registry.entries.find? id = some key →
                other = id → ¬ owner = key := by
              rintro held rfl rfl
              exact owned ⟨rfl, held⟩
            simpa [Registry.find?_removeOwned, Deed.Unseats, owned] using foreign
  | .remove other =>
      by_cases same : other = id
      · subst same
        simp [perform, Registry.remove, Table.find?_erase, deed?, Deed.Unseats]
      · simp [perform, Registry.remove, Table.find?_erase, deed?, Deed.Unseats, same, Ne.symm same]
  | .prune =>
      have kept := state.registry.entries.find?_filter_eq_some_iff
        (fun _ owner => state.owners.alive owner) id key
      simp [perform, Registry.prune, kept, deed?]

end Operations

/-! ### Histories -/

theorem created_snoc (commands : List (Command α)) (command : Command α) :
    created (commands ++ [command]) = created commands ++ command.created?.toList :=
  filterMap_snoc _ _ _

/-- The registry has no part in what names refer to and which objects there are. -/
theorem owners_after (commands : List (Command α)) :
    (after empty commands).owners =
      (after empty (commands.filter (!·.isOnRegistry))).owners := by
  induction commands using List.reverseRecOn with
  | nil => rfl
  | append_singleton commands command ih =>
      rw [after_snoc, List.filter_append, List.filter_singleton]
      cases registry : command.isOnRegistry with
      | true =>
          rw [owners_perform_of_isOnRegistry _ registry, ih, Bool.not_true, cond_false,
            List.append_nil]
      | false =>
          rw [Bool.not_false, cond_true, after_snoc]
          exact owners_perform_of_same _ ih command

/-- Objects are numbered as they are created, and keep their contents. -/
theorem objects_after (commands : List (Command α)) :
    (after empty commands).owners.next = (created commands).length ∧
      ∀ key, (after empty commands).owners.value? key = (created commands)[key]? := by
  induction commands using List.reverseRecOn with
  | nil => exact ⟨rfl, fun key => rfl⟩
  | append_singleton commands command ih =>
      obtain ⟨next, value⟩ := ih
      have step := objects_perform (after empty commands) command
      rw [after_snoc, created_snoc, List.length_append, ← next]
      refine ⟨step.1, fun key => ?_⟩
      rw [step.2, value, next]
      cases command.created? with
      | none => rw [Option.none_or, ite_self, Option.toList_none, List.append_nil]
      | some value =>
          rw [Option.toList_some, Option.some_or]
          rcases Nat.lt_trichotomy key (created commands).length with old | rfl | later
          · rw [if_neg (Nat.ne_of_lt old), List.getElem?_append_left old]
          · rw [if_pos rfl, List.getElem?_concat_length]
          · rw [if_neg (Nat.ne_of_gt later), List.getElem?_eq_none (Nat.le_of_lt later),
              List.getElem?_eq_none]
            rw [List.length_append]
            exact later

/-- What names refer to and what was inserted has been created. -/
theorem named_after (commands : List (Command α)) :
    (∀ name key, (after empty commands).owners.key? name = some key →
        key < (created commands).length) ∧
      ∀ id key, Registered (deeds empty commands) id key → key < (created commands).length := by
  induction commands using List.reverseRecOn with
  | nil => exact ⟨fun name key => (nomatch ·), fun id key registered =>
      absurd registered not_since_nil⟩
  | append_singleton commands command ih =>
      obtain ⟨named, inserted⟩ := ih
      rw [after_snoc, created_snoc, deeds_snoc, List.length_append]
      refine ⟨fun name key found => ?_, fun id key registered => ?_⟩
      · rcases key?_of_perform _ found with ⟨other, before⟩ | ⟨⟨value, rfl⟩, rfl⟩
        · exact Nat.lt_add_right _ (named other key before)
        · rw [(objects_after commands).1]
          exact Nat.lt_succ_self _
      · rcases registered_append_toList.mp registered with now | ⟨_, before⟩
        · obtain ⟨name, found⟩ := exists_key?_of_deed? _ now
          exact Nat.lt_add_right _ (named name key found)
        · exact Nat.lt_add_right _ (inserted id key before)

/-- An entry was registered, and what was registered has an entry as long as the object lives. -/
theorem find?_after (commands : List (Command α)) (id : UInt64) (key : ObjectKey) :
    ((after empty commands).registry.entries.find? id = some key →
        Registered (deeds empty commands) id key) ∧
      (Registered (deeds empty commands) id key →
        (after empty commands).owners.alive key = true →
          (after empty commands).registry.entries.find? id = some key) := by
  induction commands using List.reverseRecOn with
  | nil => exact ⟨(nomatch ·), fun registered => absurd registered not_since_nil⟩
  | append_singleton commands command ih =>
      obtain ⟨entered, kept⟩ := ih
      rw [after_snoc, deeds_snoc, registered_append_toList, find?_perform]
      refine ⟨fun found => ?_, fun registered living => ?_⟩
      · rcases found.1 with now | ⟨seated, before⟩
        · exact .inl now
        · exact .inr ⟨seated, entered before⟩
      · -- An object that is gone does not come back: what is alive was alive, or is new.
        have alive : (after empty commands).owners.alive key = true := by
          rw [alive_iff] at living ⊢
          obtain ⟨name, found⟩ := living
          rcases key?_of_perform _ found with before | ⟨⟨value, rfl⟩, rfl⟩
          · exact before
          · rcases registered with now | ⟨_, before⟩
            · exact exists_key?_of_deed? _ now
            · have early := (named_after commands).2 _ _ before
              rw [(objects_after commands).1] at early
              exact absurd early (Nat.lt_irrefl _)
        refine ⟨registered.imp_right fun ⟨seated, before⟩ => ⟨seated, ?_⟩, fun _ => alive⟩
        exact kept before alive

/-- A registry finds the object that was inserted last under an id, that was not removed since and
that a name refers to. -/
theorem lookup_after (commands : List (Command α)) (id : UInt64) (key : ObjectKey) :
    (after empty commands).lookup id = some key ↔
      Registered (deeds empty commands) id key ∧
        ∃ name, (after empty commands).owners.key? name = some key := by
  obtain ⟨entered, kept⟩ := find?_after commands id key
  rw [lookup, Registry.lookup_eq_some_iff, ← alive_iff]
  exact ⟨fun ⟨found, alive⟩ => ⟨entered found, alive⟩,
    fun ⟨registered, alive⟩ => ⟨kept registered alive, alive⟩⟩

/-- What a registry answers after a history of operations, and what names mean. -/
structure Attributes (commands : List (Command α)) : Prop where
  /-- The objects are those that were created, in order, with the contents they were created
  with. -/
  objects : ∀ key, (after empty commands).owners.value? key = (created commands)[key]?
  /-- A name refers to an object that was created. -/
  named : ∀ name key, (after empty commands).owners.key? name = some key →
    key < (created commands).length
  /-- A creation lets a name refer to a new object. -/
  creates : ∀ name value,
    ((after empty commands).perform (.own name value)).1.owners.key? name =
      some (created commands).length
  /-- An alias refers to the very object. -/
  shares : ∀ name other key, (after empty commands).owners.key? other = some key →
    ((after empty commands).perform (.alias name other)).1.owners.key? name = some key
  /-- The object that was inserted last under an id is found, if it was not removed since and a name
  refers to it. -/
  found : ∀ id key, (after empty commands).lookup id = some key ↔
    Registered (deeds empty commands) id key ∧
      ∃ name, (after empty commands).owners.key? name = some key
  /-- A look-up answers with the contents of the object that is found. -/
  looked : ∀ id, ((after empty commands).perform (.lookup id)).2 =
    .object (((after empty commands).lookup id).bind ((created commands)[·]?))
  contained : ∀ id, ((after empty commands).perform (.contains id)).2 =
    .flag ((after empty commands).lookup id).isSome
  /-- The ids under which an object is found are counted. -/
  counted : ∃ ids : List UInt64,
    ((after empty commands).perform .liveCount).2 = .count ids.length ∧ ids.Nodup ∧
      ∀ id, id ∈ ids ↔ ((after empty commands).lookup id).isSome
  /-- An insertion hands back what was found under the id. -/
  replaced : ∀ id name key, (after empty commands).owners.key? name = some key →
    ((after empty commands).registry.insert (after empty commands).owners.alive id key).2 =
        (after empty commands).lookup id ∧
      ((after empty commands).perform (.insert id name)).2 =
        ((after empty commands).perform (.lookup id)).2
  /-- The entry of an object is removed if the very object was inserted last under the id and not
  removed since. -/
  disowned : ∀ id name key, (after empty commands).owners.key? name = some key →
    ∃ removed, ((after empty commands).perform (.removeOwned id name)).2 = .flag removed ∧
      (removed = true ↔ Registered (deeds empty commands) id key)
  /-- Names and objects are as if there were no operations on the registry. -/
  independent : (after empty commands).owners =
    (after empty (commands.filter (!·.isOnRegistry))).owners

/-- Any operations on names and on a registry in a row: the registry finds, counts, replaces and
removes the objects that were inserted, as long as a name refers to them, and has no part in which
names do. -/
theorem attribution (commands : List (Command α)) : Attributes commands where
  objects := (objects_after commands).2
  named := (named_after commands).1
  creates name value := by
    rw [← (objects_after commands).1]
    exact (key?_perform _ _ _).trans (if_pos rfl)
  shares name other key found := by
    refine (key?_perform _ _ _).trans ((if_pos rfl).trans ?_)
    rw [found, Option.some_or]
  found := lookup_after commands
  looked id := by
    have value : (after empty commands).owners.value? = ((created commands)[·]?) :=
      funext (objects_after commands).2
    rw [← value]
    rfl
  contained id := rfl
  counted := by
    obtain ⟨ids, counted, nodup, listed⟩ := (after empty commands).registry.exists_liveCount
      (after empty commands).owners.alive
    exact ⟨ids, congrArg Answer.count counted, nodup, listed⟩
  replaced id name key found := by
    refine ⟨rfl, ?_⟩
    simp only [perform, found]
    rfl
  disowned id name key found := by
    obtain ⟨entered, kept⟩ := find?_after commands id key
    have alive := (alive_iff _ _).mpr ⟨name, found⟩
    refine ⟨((after empty commands).registry.removeOwned id key).2, ?_, ?_⟩
    · simp only [perform, found]
    · by_cases held : (after empty commands).registry.entries.find? id = some key
      · rw [Registry.removeOwned, if_pos held]
        exact iff_of_true rfl (entered held)
      · rw [Registry.removeOwned, if_neg held]
        exact iff_of_false (nomatch ·) fun registered => held (kept registered alive)
  independent := owners_after commands

/-- Of two objects with equal contents only the one that was inserted is removed, also under another
name. -/
example :
    let state := after empty [.own "first" 1, .own "second" 1, .alias "third" "first",
      .insert 7 "first", .drop "first"]
    (state.perform (.removeOwned 7 "second")).2 = .flag false ∧
      (state.perform (.removeOwned 7 "third")).2 = .flag true := by
  exact ⟨rfl, rfl⟩

end HostBridge.Ownership
