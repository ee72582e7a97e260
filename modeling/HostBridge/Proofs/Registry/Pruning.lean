import HostBridge.Proofs.Registry.Attribution

/-!
# What prunings of a registry can be told by

A session is compared with the same session without its prunings.  A pruning takes out entries of
objects that are gone, and such an entry is found by no look-up; only a removal asks for the entry
and not for its object.

Main statements: which entries are missing after prunings (`find?_iff_of_prunings`); answers that
depend on what is found are the same (`answer_of_found`); so prunings are told by removals alone,
and by those of entries that a pruning has taken out (`pruning`).
-/

namespace HostBridge.Ownership

variable {α : Type}

namespace Command

/-- Whether an operation is a pruning. -/
def isPrune : Command α → Bool
  | .prune => true
  | _ => false

/-- Whether the answer to an operation is about entries, of living objects or not. -/
def isAboutEntries : Command α → Bool
  | .remove _ | .prune | .shown => true
  | _ => false

/-- Only `prune` prunes. -/
theorem eq_prune_of_isPrune {command : Command α} (prunes : command.isPrune = true) :
    command = .prune := by
  cases command with
  | prune => rfl
  | _ => cases prunes

end Command

/-- Some operations without the prunings among them. -/
def unpruned (commands : List (Command α)) : List (Command α) := commands.filter (!·.isPrune)

/-- An object was created, and no name refers to it any more. -/
def Gone (state : Ownership α) (key : ObjectKey) : Prop :=
  key < state.owners.next ∧ state.owners.alive key = false

/-- One of some operations pruned what an object had left, the object being gone. -/
def PrunedOut (before commands : List (Command α)) (key : ObjectKey) : Prop :=
  ∃ earlier, earlier ++ [.prune] <+: commands ∧ Gone (after empty (before ++ earlier)) key

/-! ### Objects that are gone -/

/-- An owner that is gone does not come back. -/
theorem gone_perform {state : Ownership α} {key : ObjectKey} (gone : state.Gone key)
    (command : Command α) : Gone (state.perform command).1 key := by
  obtain ⟨created, dead⟩ := gone
  refine ⟨?_, Bool.eq_false_iff.mpr fun living => ?_⟩
  · rw [(objects_perform state command).1]
    exact Nat.lt_add_right _ created
  · obtain ⟨name, found⟩ := (alive_iff _ _).mp living
    rcases key?_of_perform state found with before | ⟨_, rfl⟩
    · exact Bool.eq_false_iff.mp dead ((alive_iff _ _).mpr before)
    · exact Nat.lt_irrefl _ created

/-- An owner that is gone does not come back, whatever is done. -/
theorem gone_after {state : Ownership α} {key : ObjectKey} (gone : state.Gone key)
    (commands : List (Command α)) : Gone (state.after commands) key := by
  induction commands generalizing state with
  | nil => exact gone
  | cons command commands ih => exact ih (gone_perform gone command)

/-- Commands are carried out one list after the other. -/
theorem after_append (state : Ownership α) (commands further : List (Command α)) :
    state.after (commands ++ further) = (state.after commands).after further :=
  List.foldl_append

variable {before commands : List (Command α)} {key : ObjectKey}

/-- What was pruned out had lost its owner. -/
theorem PrunedOut.gone (out : PrunedOut before commands key) :
    Gone (after empty (before ++ commands)) key := by
  obtain ⟨earlier, ⟨later, rfl⟩, gone⟩ := out
  rw [List.append_assoc, ← List.append_assoc before, after_append]
  exact gone_after gone _

/-- Only a pruning prunes out more than before. -/
theorem prunedOut_snoc {command : Command α} :
    PrunedOut before (commands ++ [command]) key ↔
      PrunedOut before commands key ∨
        command = .prune ∧ Gone (after empty (before ++ commands)) key := by
  simp only [PrunedOut, List.prefix_concat_iff]
  constructor
  · rintro ⟨earlier, same | listed, gone⟩
    · obtain ⟨rfl, last⟩ := List.append_inj' same rfl
      exact .inr ⟨(List.singleton_inj.mp last).symm, gone⟩
    · exact .inl ⟨earlier, listed, gone⟩
  · rintro (⟨earlier, listed, gone⟩ | ⟨rfl, gone⟩)
    · exact ⟨earlier, .inr listed, gone⟩
    · exact ⟨commands, .inl rfl, gone⟩

/-! ### Sessions with and without prunings -/

/-- Leaving out the prunings leaves out the last command if it is one. -/
theorem unpruned_snoc (commands : List (Command α)) (command : Command α) :
    unpruned (commands ++ [command]) =
      if command.isPrune then unpruned commands else unpruned commands ++ [command] := by
  rw [unpruned, List.filter_append, List.filter_singleton, unpruned]
  cases command.isPrune with
  | true => exact List.append_nil _
  | false => rfl

/-- Prunings do not change the owners. -/
theorem owners_unpruned (before commands : List (Command α)) :
    (after empty (before ++ commands)).owners =
      (after empty (before ++ unpruned commands)).owners := by
  rw [owners_after, owners_after (before ++ unpruned commands), List.filter_append,
    List.filter_append, unpruned, List.filter_filter]
  congr 3
  apply List.filter_congr
  intro command _
  cases command <;> rfl

/-- What an operation does to the entries depends on the names alone. -/
theorem deed?_of_owners {state other : Ownership α} (same : state.owners = other.owners)
    (command : Command α) : state.deed? command = other.deed? command := by
  cases command <;> simp only [deed?, same]

/-- Every entry belongs to an owner that was created. -/
theorem created_of_entry {commands : List (Command α)} {id : UInt64} {key : ObjectKey}
    (entered : (after empty commands).registry.entries.find? id = some key) :
    key < (after empty commands).owners.next := by
  rw [(objects_after commands).1]
  exact (named_after commands).2 id key ((find?_after commands id key).1 entered)

/-- What prunings leave of the entries: those of objects that were gone at no pruning. -/
theorem find?_iff_of_prunings (before commands : List (Command α)) (id : UInt64)
    (key : ObjectKey) :
    (after empty (before ++ commands)).registry.entries.find? id = some key ↔
      (after empty (before ++ unpruned commands)).registry.entries.find? id = some key ∧
        ¬ PrunedOut before commands key := by
  induction commands using List.reverseRecOn with
  | nil =>
      refine (and_iff_left ?_).symm
      rintro ⟨earlier, listed, _⟩
      exact List.append_ne_nil_of_right_ne_nil _ (List.cons_ne_nil _ _) (List.prefix_nil.mp listed)
  | append_singleton commands command ih =>
      have owners := owners_unpruned before commands
      rw [← List.append_assoc, after_snoc, find?_perform, ih, prunedOut_snoc, unpruned_snoc]
      cases prunes : command.isPrune with
      | true =>
          obtain rfl := Command.eq_prune_of_isPrune prunes
          have created (entered : (after empty
              (before ++ unpruned commands)).registry.entries.find? id = some key) :
              key < (after empty (before ++ commands)).owners.next :=
            owners ▸ created_of_entry entered
          simp only [deed?, reduceCtorEq, false_implies, implies_true, true_and, false_or,
            forall_const, ↓reduceIte, not_or, Gone, not_and, Bool.not_eq_false, and_assoc]
          exact and_congr_right fun entered =>
            and_congr_right fun _ => ⟨fun living _ => living, fun living => living (created entered)⟩
      | false =>
          have other : command ≠ .prune := by
            rintro rfl
            cases prunes
          rw [if_neg Bool.false_ne_true, ← List.append_assoc before, after_snoc, find?_perform,
            deed?_of_owners owners]
          simp only [other, false_implies, and_true, false_and, or_false]
          -- What is inserted lives, so no pruning has taken it out.
          have inserted (inserts : (after empty (before ++ unpruned commands)).deed? command =
              some (.insert id key)) : ¬ PrunedOut before commands key := by
            intro out
            have named := exists_key?_of_deed? _ inserts
            rw [← alive_iff, ← owners] at named
            exact Bool.eq_false_iff.mp out.gone.2 named
          tauto

/-- A look-up sees no prunings. -/
theorem lookup_unpruned (before commands : List (Command α)) (id : UInt64) :
    (after empty (before ++ commands)).lookup id =
      (after empty (before ++ unpruned commands)).lookup id := by
  apply Option.ext
  intro key
  rw [lookup, lookup, Registry.lookup_eq_some_iff, Registry.lookup_eq_some_iff,
    find?_iff_of_prunings, ← owners_unpruned, and_assoc]
  refine and_congr_right fun _ => and_iff_right_of_imp fun living out => ?_
  exact Bool.eq_false_iff.mp out.gone.2 living

/-! ### Answers -/

/-- Where the same objects are found under the same ids, all answers are the same but those about
entries. -/
theorem answer_of_found {state other : Ownership α} (owners : state.owners = other.owners)
    (found : ∀ id, state.lookup id = other.lookup id) {command : Command α}
    (about : command.isAboutEntries = false) :
    (state.perform command).2 = (other.perform command).2 := by
  have same : ∀ id, state.registry.lookup other.owners.alive id =
      other.registry.lookup other.owners.alive id := by
    intro id
    rw [← lookup, ← found id, lookup, owners]
  cases command with
  | own name value => simp only [perform, owners]
  | drop name => simp only [perform, owners]
  | insert id name =>
      simp only [perform, owners]
      cases other.owners.key? name with
      | none => rfl
      | some key =>
          exact congrArg (fun previous => Answer.object (Option.bind previous _)) (same id)
  | removeOwned id name =>
      simp only [perform, owners]
      cases named : other.owners.key? name with
      | none => rfl
      | some key =>
          have living : other.owners.alive key = true := (alive_iff _ _).mpr ⟨name, named⟩
          dsimp only
          rw [Registry.snd_removeOwned_of_alive _ living, Registry.snd_removeOwned_of_alive _ living,
            same]
  | lookup id => simp only [perform, owners, same]
  | contains id => simp only [perform, owners, Registry.contains, same]
  | liveCount =>
      simp only [perform, owners]
      rw [Registry.liveCount_of_lookup same]
  | remove id => cases about
  | prune => cases about
  | shown => cases about
  | _ =>
      -- What is left is a second name for an object.
      next name old =>
        simp only [perform, owners]
        cases other.owners.key? old <;> rfl

/-- What operations in a row answer, without the answers about entries. -/
def told (state : Ownership α) (commands : List (Command α)) : List (Answer α) :=
  chronicle (fun state command => (state.perform command).1)
    (fun state command => if command.isAboutEntries then [] else [(state.perform command).2])
    state commands

/-- What is told grows by the answer of a command that is not about entries. -/
theorem told_snoc (state : Ownership α) (commands : List (Command α)) (command : Command α) :
    told state (commands ++ [command]) = told state commands ++
      if command.isAboutEntries then [] else [((state.after commands).perform command).2] :=
  chronicle_snoc _ _ state commands command

/-- Without the prunings the same is told. -/
theorem told_unpruned (before commands : List (Command α)) :
    told (after empty before) commands = told (after empty before) (unpruned commands) := by
  induction commands using List.reverseRecOn with
  | nil => rfl
  | append_singleton commands command ih =>
      rw [told_snoc, ih, unpruned_snoc]
      cases prunes : command.isPrune with
      | true =>
          obtain rfl := Command.eq_prune_of_isPrune prunes
          exact List.append_nil _
      | false =>
          rw [if_neg Bool.false_ne_true, told_snoc]
          cases about : command.isAboutEntries with
          | true => rfl
          | false =>
              have answer := answer_of_found (owners_unpruned before commands)
                (lookup_unpruned before commands) about
              rw [after_append, after_append] at answer
              rw [answer]

/-- A removal tells whether there is an entry. -/
theorem flag_remove_iff (state : Ownership α) (id : UInt64) :
    (state.perform (.remove id)).2 = .flag true ↔
      ∃ key, state.registry.entries.find? id = some key := by
  rw [← Option.isSome_iff_exists]
  constructor
  · intro answer
    exact Answer.flag.inj answer
  · exact congrArg Answer.flag

/-- What the prunings among some operations can be told by. -/
structure Pruning (before commands : List (Command α)) : Prop where
  /-- Names and objects are the same. -/
  owners : (after empty (before ++ commands)).owners =
    (after empty (before ++ unpruned commands)).owners
  /-- The same objects are found. -/
  found : ∀ id, (after empty (before ++ commands)).lookup id =
    (after empty (before ++ unpruned commands)).lookup id
  /-- The operations have answered the same, but for answers about entries. -/
  told : told (after empty before) commands = told (after empty before) (unpruned commands)
  /-- Any further operation answers the same, but for answers about entries. -/
  answered : ∀ command : Command α, command.isAboutEntries = false →
    ((after empty (before ++ commands)).perform command).2 =
      ((after empty (before ++ unpruned commands)).perform command).2
  /-- Without prunings a removal finds an entry whether its object is gone or not. -/
  removed : ∀ id, ((after empty (before ++ unpruned commands)).perform (.remove id)).2 =
      .flag true ↔
    ∃ key, (after empty (before ++ unpruned commands)).registry.entries.find? id = some key
  /-- With them it finds the same entry, unless a pruning took it out. -/
  spared : ∀ id, ((after empty (before ++ commands)).perform (.remove id)).2 = .flag true ↔
    ∃ key, (after empty (before ++ unpruned commands)).registry.entries.find? id = some key ∧
      ¬ PrunedOut before commands key

/-- Prunings at any points of any operations, in any state that a registry gets into: the same
objects are found, and all answers are the same, but for that of a removal whose entry, of an object
that was gone, has been pruned. -/
theorem pruning (before commands : List (Command α)) : Pruning before commands where
  owners := owners_unpruned before commands
  found := lookup_unpruned before commands
  told := told_unpruned before commands
  answered _ := answer_of_found (owners_unpruned before commands) (lookup_unpruned before commands)
  removed := flag_remove_iff _
  spared id := by
    rw [flag_remove_iff]
    exact exists_congr (find?_iff_of_prunings before commands id)

/-- The entry of an object that is gone is found by no look-up, and still a removal tells it from a
missing one: it finds the entry before a pruning, and none after it. -/
theorem removal_tells_prunings :
    let commands : List (Command ℕ) := [.own "a" 1, .insert 7 "a", .drop "a"]
    let unswept := after empty commands
    let swept := after empty (commands ++ [.prune])
    (unswept.perform (.lookup 7)).2 = (empty.perform (.lookup 7)).2 ∧
      (unswept.perform (.remove 7)).2 = .flag true ∧
      (swept.perform (.remove 7)).2 = .flag false ∧
      ((empty : Ownership ℕ).perform (.remove 7)).2 = .flag false :=
  ⟨rfl, rfl, rfl, rfl⟩

end HostBridge.Ownership
