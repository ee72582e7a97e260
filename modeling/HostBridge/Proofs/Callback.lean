import HostBridge.Callback
import HostBridge.Proofs.Chronicle
import HostBridge.Proofs.Table
import Mathlib.Algebra.Order.Group.Multiset

/-!
# The history of a callback table

A turn is an operation on a callback table together with its answer, and a history is a list of
turns.  What is parked under an id, which ids were taken from the counter and what was handed out
are read off the history, apart from the table.

Main statements: a table holds what the history left waiting (`holds_after`); everything that was
parked was handed out, waits or was overwritten, each time once (`accounts`); ids are counted from 1
(`toNat_ids`); and under ids that were issued before and are parked under once nothing is
overwritten (`correlation`).
-/

namespace HostBridge.CallbackTable

variable {γ : Type}

/-- An operation with its answer. -/
structure Turn (γ : Type) where
  command : Command γ
  answer : Answer γ

namespace Turn

/-- The id that a turn takes from the counter. -/
def issued? : Turn γ → Option CallbackId
  | ⟨.issue, .id id⟩ => some id
  | ⟨.register _, .id id⟩ => some id
  | _ => none

/-- What a turn parks, with its id. -/
def parked? : Turn γ → Option (CallbackId × γ)
  | ⟨.park id continuation, _⟩ => some (id, continuation)
  | ⟨.register continuation, .id id⟩ => some (id, continuation)
  | _ => none

/-- What a turn hands out, with its id. -/
def handed? : Turn γ → Option (CallbackId × γ)
  | ⟨.resolve id, .resolved (some continuation)⟩ => some (id, continuation)
  | _ => none

/-- A turn parks something under an id or resolves it. -/
def Concerns (turn : Turn γ) (id : CallbackId) : Prop :=
  (∃ continuation, turn.parked? = some (id, continuation)) ∨ turn.command = .resolve id

end Turn

/-- A continuation is the last one that was parked under an id since the id was last resolved. -/
def Waits (turns : List (Turn γ)) (id : CallbackId) (continuation : γ) : Prop :=
  Since (fun turn => turn.parked? = some (id, continuation)) (·.Concerns id) turns

/-! ### Turns -/

section Turns

variable (table : CallbackTable γ)

/-- What is parked under an id. -/
def holds (id : CallbackId) : Option γ := table.parked.find? id.value

/-- The continuations that wait, with their ids. -/
def waiting : List (CallbackId × γ) := table.parked.entries.map fun entry => (⟨entry.1⟩, entry.2)

/-- The operation that a table performs next, with its answer. -/
def turn (command : Command γ) : Turn γ := ⟨command, (table.perform command).2⟩

/-- The table after some operations. -/
def after (commands : List (Command γ)) : CallbackTable γ :=
  commands.foldl (fun table command => (table.perform command).1) table

/-- Operations in a row, with their answers. -/
def turns (commands : List (Command γ)) : List (Turn γ) :=
  chronicle (fun table command => (table.perform command).1)
    (fun table command => [table.turn command]) table commands

/-- What an operation overwrites: what waits under the id that it parks something under. -/
def overwritten? (command : Command γ) : Option (CallbackId × γ) :=
  (table.turn command).parked?.bind fun parked => (table.holds parked.1).map (parked.1, ·)

/-- What operations in a row overwrite. -/
def overwritten (commands : List (Command γ)) : List (CallbackId × γ) :=
  chronicle (fun table command => (table.perform command).1)
    (fun table command => (table.overwritten? command).toList) table commands

theorem after_snoc (commands : List (Command γ)) (command : Command γ) :
    table.after (commands ++ [command]) = ((table.after commands).perform command).1 := by
  rw [after, List.foldl_append]
  rfl

theorem turns_snoc (commands : List (Command γ)) (command : Command γ) :
    table.turns (commands ++ [command]) =
      table.turns commands ++ [(table.after commands).turn command] :=
  chronicle_snoc _ _ table commands command

theorem overwritten_snoc (commands : List (Command γ)) (command : Command γ) :
    table.overwritten (commands ++ [command]) =
      table.overwritten commands ++ ((table.after commands).overwritten? command).toList :=
  chronicle_snoc _ _ table commands command

/-- A turn in the middle of a history was taken after the operations before it. -/
theorem exists_of_turns_eq {commands : List (Command γ)} {earlier later : List (Turn γ)}
    {turn : Turn γ} (split : table.turns commands = earlier ++ turn :: later) :
    ∃ before, earlier = table.turns before ∧ turn = (table.after before).turn turn.command := by
  induction commands generalizing table earlier with
  | nil => exact absurd split.symm (by simp [turns, chronicle])
  | cons command commands ih =>
      cases earlier with
      | nil =>
          cases split
          exact ⟨[], rfl, rfl⟩
      | cons first earlier =>
          obtain ⟨rfl, rest⟩ := List.cons.inj split
          obtain ⟨before, rfl, same⟩ := ih _ rest
          exact ⟨command :: before, rfl, same⟩

/-- What a turn does to the continuations: it parks one, resolves an id, or leaves them. -/
inductive Moves (command : Command γ) : Table UInt64 γ → Prop where
  | parks {id : CallbackId} {continuation : γ}
      (parked : (table.turn command).parked? = some (id, continuation))
      (unresolved : ∀ other, command ≠ .resolve other)
      (unhanded : (table.turn command).handed? = none) :
      Moves command (table.parked.insert id.value continuation)
  | resolves {id : CallbackId} (resolved : command = .resolve id) :
      Moves command (table.parked.erase id.value)
  | keeps (unparked : (table.turn command).parked? = none)
      (unresolved : ∀ other, command ≠ .resolve other)
      (unhanded : (table.turn command).handed? = none) :
      Moves command table.parked

/-- A command moves at most what it is about in or out of the table. -/
theorem moves_perform (command : Command γ) :
    table.Moves command (table.perform command).1.parked := by
  cases command with
  | park id continuation => exact .parks rfl (fun _ => (nomatch ·)) rfl
  | register continuation => exact .parks rfl (fun _ => (nomatch ·)) rfl
  | resolve id => exact .resolves rfl
  | _ => exact .keeps rfl (fun _ => (nomatch ·)) rfl

/-- What is parked under an id is what the turn parks there, or else what was there before. -/
theorem holds_perform (command : Command γ) (id : CallbackId) (continuation : γ) :
    (table.perform command).1.holds id = some continuation ↔
      (table.turn command).parked? = some (id, continuation) ∨
        ¬ (table.turn command).Concerns id ∧ table.holds id = some continuation := by
  have moves := table.moves_perform command
  rw [holds]
  generalize (table.perform command).1.parked = later at moves ⊢
  cases moves with
  | @parks other held parked unresolved _ =>
      rw [Table.find?_insert, parked, Option.some_inj]
      by_cases same : id = other
      · subst same
        have concerned : (table.turn command).Concerns id := .inl ⟨held, parked⟩
        simp only [↓reduceIte, Option.some.injEq, Prod.mk.injEq, true_and, concerned,
          not_true_eq_false, false_and, or_false]
      · have apart : id.value ≠ other.value := fun value => same (congrArg CallbackId.mk value)
        have unconcerned : ¬ (table.turn command).Concerns id := by
          rintro (⟨continuation, parks⟩ | resolves)
          · cases parked.symm.trans parks
            exact same rfl
          · exact unresolved id resolves
        have unparked : (other, held) ≠ (id, continuation) := by
          rintro ⟨⟩
          exact same rfl
        simp only [apart, ↓reduceIte, unparked, unconcerned, not_false_eq_true, true_and, false_or]
        rfl
  | @resolves other resolved =>
      subst resolved
      rw [Table.find?_erase]
      have concerns : (table.turn (.resolve other)).Concerns id ↔ id = other := by
        constructor
        · rintro (⟨continuation, parks⟩ | resolves)
          · cases parks
          · cases resolves
            rfl
        · rintro rfl
          exact .inr rfl
      have unparked : (table.turn (.resolve other)).parked? = none := rfl
      by_cases same : id = other
      · subst same
        simp only [↓reduceIte, reduceCtorEq, unparked, concerns, not_true_eq_false, false_and,
          or_self]
      · have apart : id.value ≠ other.value := fun value => same (congrArg CallbackId.mk value)
        simp only [apart, ↓reduceIte, unparked, reduceCtorEq, concerns, same, not_false_eq_true,
          true_and, false_or]
        rfl
  | keeps unparked unresolved _ =>
      have unconcerned : ¬ (table.turn command).Concerns id := by
        rintro (⟨continuation, parks⟩ | resolves)
        · cases unparked.symm.trans parks
        · exact unresolved id resolves
      simp only [unparked, reduceCtorEq, unconcerned, not_false_eq_true, true_and, false_or]
      rfl

/-- A table holds what the history left waiting. -/
theorem holds_after (commands : List (Command γ)) (id : CallbackId) (continuation : γ) :
    (after empty commands).holds id = some continuation ↔
      Waits (turns empty commands) id continuation := by
  induction commands using List.reverseRecOn generalizing continuation with
  | nil => exact iff_of_false (nomatch ·) not_since_nil
  | append_singleton commands command ih =>
      rw [after_snoc, turns_snoc, Waits, since_snoc, holds_perform, ih, Waits]

/-! ### Accounts -/

/-- The ids that were taken from the counter. -/
def ids (turns : List (Turn γ)) : List CallbackId := turns.filterMap Turn.issued?

/-- What was parked, with the ids. -/
def parkings (turns : List (Turn γ)) : List (CallbackId × γ) := turns.filterMap Turn.parked?

/-- What was handed out, with the ids. -/
def handouts (turns : List (Turn γ)) : List (CallbackId × γ) := turns.filterMap Turn.handed?

/-- Resolving an id hands out what is held under it. -/
theorem handed?_resolve (id : CallbackId) :
    (table.turn (.resolve id)).handed? = (table.holds id).map (id, ·) := by
  have answer : table.turn (.resolve id) = ⟨.resolve id, .resolved (table.holds id)⟩ := rfl
  rw [answer]
  cases table.holds id with
  | none => rfl
  | some continuation => rfl

/-- A turn hands out, keeps or overwrites what waits and what it parks. -/
theorem balance_perform (command : Command γ) :
    ((table.turn command).handed?.toList ++ (table.perform command).1.waiting ++
      (table.overwritten? command).toList).Perm
        (table.waiting ++ (table.turn command).parked?.toList) := by
  have moves := table.moves_perform command
  rw [waiting, waiting]
  generalize (table.perform command).1.parked = later at moves ⊢
  cases moves with
  | @parks id continuation parked _ unhanded =>
      have inserted := (table.parked.perm_insert id.value continuation).map
        fun entry => ((⟨entry.1⟩, entry.2) : CallbackId × γ)
      rw [List.map_append, List.map_append, ← Option.toList_map, Option.map_map] at inserted
      rw [overwritten?, parked, unhanded]
      exact inserted
  | @resolves id resolved =>
      have erased := (table.parked.perm_erase id.value).map
        fun entry => ((⟨entry.1⟩, entry.2) : CallbackId × γ)
      rw [List.map_append, ← Option.toList_map, Option.map_map] at erased
      subst resolved
      rw [handed?_resolve]
      have unparked : (table.turn (.resolve id)).parked? = none := rfl
      rw [overwritten?, unparked, Option.bind_none, Option.toList_none, List.append_nil,
        List.append_nil]
      exact List.perm_append_comm.trans erased
  | keeps unparked _ unhanded =>
      rw [overwritten?, unparked, unhanded, Option.bind_none, Option.toList_none, List.append_nil,
        List.append_nil]
      rfl

/-- What is balanced step by step is balanced as a whole. -/
private theorem perm_of_balance {α : Type} {out before lost parked : List α}
    {outNow now lostNow parkedNow : List α}
    (whole : (out ++ before ++ lost).Perm parked)
    (balance : (outNow ++ now ++ lostNow).Perm (before ++ parkedNow)) :
    (out ++ outNow ++ now ++ (lost ++ lostNow)).Perm (parked ++ parkedNow) := by
  rw [← Multiset.coe_eq_coe] at balance whole ⊢
  simp only [← Multiset.coe_add] at balance whole ⊢
  calc
    (out : Multiset α) + outNow + now + (lost + lostNow)
      = (out + lost) + (outNow + now + lostNow) := by ac_rfl
    _ = (out + lost) + (before + parkedNow) := by rw [balance]
    _ = (out + before + lost) + parkedNow := by ac_rfl
    _ = parked + parkedNow := by rw [whole]

/-- Everything that was parked was handed out, waits or was overwritten, each time once. -/
theorem accounts (commands : List (Command γ)) :
    (handouts (turns empty commands) ++ (after empty commands).waiting ++
      overwritten empty commands).Perm (parkings (turns empty commands)) := by
  induction commands using List.reverseRecOn with
  | nil => exact .nil
  | append_singleton commands command ih =>
      rw [turns_snoc, after_snoc, overwritten_snoc, handouts, parkings, filterMap_snoc,
        filterMap_snoc]
      exact perm_of_balance ih (balance_perform (after empty commands) command)

/-! ### Ids -/

/-- A command issues the next id, or none. -/
theorem issued_perform (command : Command γ) :
    (table.turn command).issued? = some ⟨table.issued + 1⟩ ∧
        (table.perform command).1.issued = table.issued + 1 ∨
      (table.turn command).issued? = none ∧ (table.perform command).1.issued = table.issued := by
  cases command with
  | issue => exact .inl ⟨rfl, rfl⟩
  | register continuation => exact .inl ⟨rfl, rfl⟩
  | _ => exact .inr ⟨rfl, rfl⟩

/-- Ids are counted from 1, until the counter comes around. -/
theorem toNat_ids (commands : List (Command γ))
    (unspent : (ids (turns empty commands)).length < UInt64.size) :
    (after empty commands).issued.toNat = (ids (turns empty commands)).length ∧
      (ids (turns empty commands)).map (·.value.toNat) =
        List.range' 1 (ids (turns empty commands)).length := by
  induction commands using List.reverseRecOn with
  | nil => exact ⟨rfl, rfl⟩
  | append_singleton commands command ih =>
      rw [turns_snoc, ids, filterMap_snoc, ← ids] at unspent ⊢
      rw [after_snoc]
      rcases issued_perform (after empty commands) command with
        ⟨issued, counted⟩ | ⟨unissued, kept⟩
      · rw [issued, Option.toList_some, List.length_append, List.length_singleton] at unspent
        obtain ⟨count, listed⟩ := ih (Nat.lt_of_succ_lt unspent)
        have next : ((after empty commands).issued + 1).toNat =
            (ids (turns empty commands)).length + 1 := by
          rw [UInt64.toNat_add, UInt64.toNat_one, count]
          exact Nat.mod_eq_of_lt unspent
        rw [counted, issued, Option.toList_some, List.length_append, List.length_singleton,
          List.map_append, listed, List.map_singleton, next, List.range'_1_concat, Nat.add_comm 1]
        exact ⟨rfl, rfl⟩
      · rw [unissued, Option.toList_none, List.append_nil] at unspent ⊢
        rw [kept]
        exact ih unspent

/-- No id is issued twice. -/
theorem nodup_ids {commands : List (Command γ)}
    (unspent : (ids (turns empty commands)).length < UInt64.size) :
    (ids (turns empty commands)).Nodup := by
  apply List.Nodup.of_map (·.value.toNat)
  rw [(toNat_ids commands unspent).2]
  exact List.nodup_range'

/-! ### Orderly histories -/

/-- Every id that is parked under was issued before, and nothing was parked under it before. -/
def Orderly (turns : List (Turn γ)) : Prop :=
  ∀ earlier turn later id continuation, turns = earlier ++ turn :: later →
    turn.command = .park id continuation →
      id ∈ ids earlier ∧ id ∉ (parkings earlier).map Prod.fst

/-- What is orderly up to now was orderly before. -/
theorem Orderly.init {turns : List (Turn γ)} {turn : Turn γ} (orderly : Orderly (turns ++ [turn])) :
    Orderly turns := by
  intro earlier other later id continuation same parks
  subst same
  exact orderly earlier other (later ++ [turn]) id continuation (by simp) parks

/-- What waits was parked. -/
theorem mem_parkings_of_holds {commands : List (Command γ)} {id : CallbackId} {continuation : γ}
    (holds : (after empty commands).holds id = some continuation) :
    (id, continuation) ∈ parkings (turns empty commands) := by
  obtain ⟨earlier, turn, later, same, parks, _⟩ := (holds_after commands id continuation).mp holds
  rw [same]
  exact List.mem_filterMap.mpr ⟨turn, by simp, parks⟩

/-- In an orderly history nothing is parked under an id before it is issued, nor twice. -/
theorem Orderly.parked {commands : List (Command γ)} (orderly : Orderly (turns empty commands))
    (unspent : (ids (turns empty commands)).length < UInt64.size) :
    overwritten empty commands = [] ∧
      ((parkings (turns empty commands)).map Prod.fst).Nodup ∧
      ∀ parked ∈ parkings (turns empty commands), parked.1 ∈ ids (turns empty commands) := by
  induction commands using List.reverseRecOn with
  | nil => exact ⟨rfl, .nil, fun _ member => nomatch member⟩
  | append_singleton commands command ih =>
      have distinct := nodup_ids unspent
      rw [turns_snoc, ids, filterMap_snoc, ← ids] at unspent distinct ⊢
      rw [turns_snoc] at orderly
      rw [List.length_append] at unspent
      obtain ⟨kept, nodup, issued⟩ := ih orderly.init (by omega)
      rw [overwritten_snoc, kept, parkings, filterMap_snoc, ← parkings, List.nil_append,
        List.map_append, overwritten?]
      cases parked : ((after empty commands).turn command).parked? with
      | none =>
          refine ⟨rfl, by simpa using nodup, fun held member => ?_⟩
          rw [Option.toList_none, List.append_nil] at member
          exact List.mem_append_left _ (issued held member)
      | some held =>
          obtain ⟨id, continuation⟩ := held
          -- The id of a `park` is as the history promises, and that of a `register` is new.
          have fresh : id ∉ (parkings (turns empty commands)).map Prod.fst ∧
              id ∈ ids (turns empty commands) ++
                ((after empty commands).turn command).issued?.toList := by
            cases command with
            | park other given =>
                cases parked
                obtain ⟨known, unused⟩ := orderly _ _ [] _ _ rfl rfl
                exact ⟨unused, List.mem_append_left _ known⟩
            | register given =>
                cases parked
                refine ⟨fun used => ?_, List.mem_append_right _ List.mem_cons_self⟩
                obtain ⟨held, member, same⟩ := List.mem_map.mp used
                exact List.disjoint_of_nodup_append distinct (same ▸ issued held member)
                  List.mem_cons_self
            | _ => cases parked
          have free : (after empty commands).holds id = none := by
            cases waits : (after empty commands).holds id with
            | none => rfl
            | some held =>
                exact absurd (List.mem_map.mpr ⟨_, mem_parkings_of_holds waits, rfl⟩) fresh.1
          refine ⟨by rw [Option.bind_some, free]; rfl, ?_, fun held member => ?_⟩
          · refine List.nodup_append.mpr ⟨nodup, List.nodup_singleton id, ?_⟩
            rintro used listed now last rfl
            obtain rfl : used = id := List.mem_singleton.mp last
            exact fresh.1 listed
          · rcases List.mem_append.mp member with listed | last
            · exact List.mem_append_left _ (issued held listed)
            · rw [List.mem_singleton.mp last]
              exact fresh.2

end Turns

/-- What a history of operations answers, and what it leaves. -/
structure Correlates (commands : List (Command γ)) : Prop where
  /-- The ids that were issued are 1, 2, 3 and so on. -/
  counted : (ids (turns empty commands)).map (·.value.toNat) =
    List.range' 1 (ids (turns empty commands)).length
  distinct : (ids (turns empty commands)).Nodup
  /-- An id is resolved to what was parked under it last since it was last resolved. -/
  resolved : ∀ earlier id answer later,
    turns empty commands = earlier ++ ⟨.resolve id, answer⟩ :: later →
    ∃ found, answer = .resolved found ∧
      ∀ continuation, found = some continuation ↔ Waits earlier id continuation
  /-- The ids under which something waits are counted. -/
  pending : ∀ earlier answer later, turns empty commands = earlier ++ ⟨.pending, answer⟩ :: later →
    ∃ ids : List CallbackId, answer = .count ids.length ∧ ids.Nodup ∧
      ∀ id, id ∈ ids ↔ ∃ continuation, Waits earlier id continuation
  /-- An operation touches the id that it concerns and no other one. -/
  others : ∀ command id, ¬ ((after empty commands).turn command).Concerns id →
    ((after empty commands).perform command).1.holds id = (after empty commands).holds id
  /-- Everything that was parked was handed out, waits or was overwritten, each time once. -/
  accounted : (handouts (turns empty commands) ++ (after empty commands).waiting ++
    overwritten empty commands).Perm (parkings (turns empty commands))
  /-- If ids are issued before something is parked under them, and nothing is parked under them
  twice, then nothing is overwritten: each continuation was handed out once or still waits. -/
  orderly : Orderly (turns empty commands) → overwritten empty commands = [] ∧
    (handouts (turns empty commands) ++ (after empty commands).waiting).Perm
      (parkings (turns empty commands)) ∧
    ((handouts (turns empty commands) ++ (after empty commands).waiting).map Prod.fst).Nodup

/-- The ids under which something waits, as a table keeps them. -/
theorem exists_pending (commands : List (Command γ)) :
    ∃ ids : List CallbackId, (after empty commands).pending = ids.length ∧ ids.Nodup ∧
      ∀ id, id ∈ ids ↔ ∃ continuation, Waits (turns empty commands) id continuation := by
  let table : CallbackTable γ := after empty commands
  refine ⟨table.parked.keys.map (⟨·⟩), ?_, ?_, fun id => ?_⟩
  · rw [List.length_map, Table.keys, List.length_map]
    rfl
  · exact table.parked.nodup_keys.map fun first second same => congrArg CallbackId.value same
  · have listed : id ∈ table.parked.keys.map (⟨·⟩) ↔ id.value ∈ table.parked.keys := by
      rw [List.mem_map]
      constructor
      · rintro ⟨key, member, rfl⟩
        exact member
      · intro member
        exact ⟨id.value, member, rfl⟩
    simp only [listed, Table.mem_keys_iff, Option.isSome_iff_exists, ← holds_after]
    rfl

/-- Any operations in a row, of which fewer than 2 ^ 64 take an id from the counter: ids are counted
from 1, resolving an id gives what was parked under it last, what waits is counted, and everything
that was parked is accounted for. -/
theorem correlation (commands : List (Command γ))
    (unspent : (ids (turns empty commands)).length < UInt64.size) : Correlates commands where
  counted := (toNat_ids commands unspent).2
  distinct := nodup_ids unspent
  resolved earlier id answer later split := by
    obtain ⟨before, rfl, same⟩ := exists_of_turns_eq _ split
    refine ⟨(after empty before).holds id, congrArg Turn.answer same, fun continuation => ?_⟩
    exact holds_after before id continuation
  pending earlier answer later split := by
    obtain ⟨before, rfl, same⟩ := exists_of_turns_eq _ split
    obtain ⟨ids, counted, listed⟩ := exists_pending before
    exact ⟨ids, (congrArg Turn.answer same).trans (congrArg Answer.count counted), listed⟩
  others command id unconcerned := by
    apply Option.ext
    intro continuation
    have unparked : ((after empty commands).turn command).parked? ≠ some (id, continuation) :=
      fun parks => unconcerned (.inl ⟨continuation, parks⟩)
    rw [holds_perform, or_iff_right unparked, and_iff_right unconcerned]
  accounted := accounts commands
  orderly orderly := by
    have accounted := accounts commands
    obtain ⟨kept, nodup, _⟩ := orderly.parked unspent
    rw [kept, List.append_nil] at accounted
    exact ⟨kept, accounted, (accounted.map Prod.fst).nodup_iff.mpr nodup⟩

/-- Two continuations that are parked under ids that were issued, of which one is handed out, and
two that are parked one over the other under an id that was not. -/
theorem correlation_of_overwriting :
    let commands : List (Command String) := [.issue, .park ⟨1⟩ "first", .register "second",
      .resolve ⟨1⟩, .resolve ⟨1⟩, .park ⟨9⟩ "third", .park ⟨9⟩ "fourth", .pending]
    (ids (turns empty commands)).length < UInt64.size ∧
      handouts (turns empty commands) = [(⟨1⟩, "first")] ∧
      overwritten empty commands = [(⟨9⟩, "third")] ∧ Correlates commands := by
  intro commands
  have unspent : (ids (turns empty commands)).length < UInt64.size := by decide
  exact ⟨unspent, by decide, by decide, correlation commands unspent⟩

end HostBridge.CallbackTable
