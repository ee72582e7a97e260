import HostBridge.Handle

/-!
# Releasing a handle once

A run of steps on a handle is followed step by step, into the callbacks of releases, in the order in
which the steps begin.

Main statements: the steps that are followed are the ones that answer (`Handle.map_answer_trace`),
each of them finds the handle as the ones before it left it (`Handle.orderly_trace`), and so at most
one address is handed out, and a callback runs just if it is given that address
(`Handle.release_once`).
-/

namespace HostBridge.Handle

/-! ### Following a run -/

/-- Whether a step takes the address out of the handle. -/
def Step.takes : Step → Bool
  | .clear | .release _ => true
  | _ => false

/-- A step that was taken, and the handle that it found. -/
structure Visit where
  found : Handle
  step : Step

namespace Visit

/-- The handle that a step leaves. -/
def left (visit : Visit) : Handle := (visit.found.step visit.step).1

/-- What a step answers. -/
def answer (visit : Visit) : Answer := (visit.found.step visit.step).2

/-- Whether a step takes the address out of the handle. -/
def takes (visit : Visit) : Bool := visit.step.takes

end Visit

mutual

/-- A step with the steps that are taken during it. -/
def visits (handle : Handle) : Step → List Visit
  | .release body =>
    ⟨handle, .release body⟩ ::
      match handle.release with
      | (_, none) => []
      | (cleared, some _) => trace cleared body
  | step => [⟨handle, step⟩]

/-- The steps that are taken during a run, in the order in which they begin. -/
def trace (handle : Handle) : List Step → List Visit
  | [] => []
  | first :: rest => visits handle first ++ trace (handle.step first).1 rest

end

mutual

/-- An answer with those of the steps that were taken before it was given. -/
def Answer.withNested : Answer → List Answer
  | .released ran (some (received, answers)) =>
    .released ran (some (received, answers)) :: Answer.allNested answers
  | answer => [answer]

/-- Answers, each with those of the steps that were taken before it was given. -/
def Answer.allNested : List Answer → List Answer
  | [] => []
  | first :: rest => first.withNested ++ Answer.allNested rest

end

/-- The address that a step hands to the one who takes it: to the caller of a clearing, or to the
callback of a release if that runs. -/
def Answer.received? : Answer → Option UInt64
  | .cleared previous => some previous
  | .released _ callback => callback.map Prod.fst
  | _ => none

/-! ### Steps one by one -/

/-- A release empties the handle and hands out the address it held. -/
theorem release_eq (handle : Handle) :
    handle.release = (empty, if handle.address = 0 then none else some handle.address) :=
  rfl

/-- A release runs its body on the emptied handle, when there was an address. -/
theorem step_release (handle : Handle) (body : List Step) :
    handle.step (.release body) =
      if handle.address = 0 then (empty, .released false none)
      else ((empty.run body).1, .released true (some (handle.address, (empty.run body).2))) := by
  rw [step, release_eq]
  by_cases none : handle.address = 0
  · rw [if_pos none, if_pos none]
  · rw [if_neg none, if_neg none]

/-- A release is one visit, and the visits of its body come after it. -/
theorem visits_release (handle : Handle) (body : List Step) :
    handle.visits (.release body) =
      ⟨handle, .release body⟩ :: if handle.address = 0 then [] else empty.trace body := by
  rw [visits, release_eq]
  by_cases none : handle.address = 0
  · rw [if_pos none, if_pos none]
  · rw [if_neg none, if_neg none]

/-! ### The order of a run -/

/-- What is left of a handle after some steps. -/
def remaining (handle : Handle) (visits : List Visit) : Handle :=
  if visits.any Visit.takes then empty else handle

/-- Each step finds the handle as the steps before it left it. -/
def Orderly (handle : Handle) : List Visit → Prop
  | [] => True
  | first :: rest => first.found = handle ∧ Orderly (handle.remaining [first]) rest

theorem remaining_empty (visits : List Visit) : empty.remaining visits = empty := ite_self empty

theorem remaining_append (handle : Handle) (earlier later : List Visit) :
    handle.remaining (earlier ++ later) = (handle.remaining earlier).remaining later := by
  unfold remaining
  rw [List.any_append]
  cases earlier.any Visit.takes <;> simp

theorem orderly_append {handle : Handle} {earlier later : List Visit} :
    Orderly handle (earlier ++ later) ↔
      Orderly handle earlier ∧ Orderly (handle.remaining earlier) later := by
  induction earlier generalizing handle with
  | nil => simp [Orderly, remaining]
  | cons first rest ih =>
      rw [List.cons_append, Orderly, Orderly, ih, and_assoc, ← remaining_append,
        List.singleton_append]

mutual

/-- The visits of a step are orderly, and leave what the step leaves. -/
theorem orderly_visits (handle : Handle) (taken : Step) :
    Orderly handle (handle.visits taken) ∧
      (handle.step taken).1 = handle.remaining (handle.visits taken) := by
  cases taken with
  | release body =>
      obtain ⟨nested, last⟩ := orderly_trace empty body
      rw [visits_release, step_release]
      by_cases none : handle.address = 0
      · rw [if_pos none, if_pos none]
        exact ⟨⟨rfl, trivial⟩, rfl⟩
      · rw [if_neg none, if_neg none]
        refine ⟨⟨rfl, nested⟩, ?_⟩
        rw [← List.singleton_append, remaining_append]
        exact last
  | clear => exact ⟨⟨rfl, trivial⟩, rfl⟩
  | address => exact ⟨⟨rfl, trivial⟩, rfl⟩
  | isReleased => exact ⟨⟨rfl, trivial⟩, rfl⟩
  | shown => exact ⟨⟨rfl, trivial⟩, rfl⟩

/-- The visits of a run are orderly, and leave what the run leaves. -/
theorem orderly_trace (handle : Handle) (steps : List Step) :
    Orderly handle (handle.trace steps) ∧
      (handle.run steps).1 = handle.remaining (handle.trace steps) := by
  cases steps with
  | nil => exact ⟨trivial, rfl⟩
  | cons first rest =>
      obtain ⟨earlier, next⟩ := orderly_visits handle first
      obtain ⟨later, last⟩ := orderly_trace (handle.step first).1 rest
      rw [trace, orderly_append, remaining_append, ← next]
      exact ⟨⟨earlier, later⟩, last⟩

end

/-- Every visit finds what the visits before it leave. -/
theorem Orderly.found_eq {handle : Handle} {visits before after : List Visit} {visit : Visit}
    (orderly : Orderly handle visits) (split : visits = before ++ visit :: after) :
    visit.found = handle.remaining before := by
  rw [split, orderly_append] at orderly
  exact orderly.2.1

/-- Whatever happens in a callback, the step itself tells whether the address is taken. -/
theorem any_takes_visits (handle : Handle) (taken : Step) :
    (handle.visits taken).any Visit.takes = taken.takes := by
  cases taken with
  | release body =>
      rw [visits_release]
      rfl
  | clear => rfl
  | address => rfl
  | isReleased => rfl
  | shown => rfl

/-- Some visit takes the address exactly when some step at the top does. -/
theorem any_takes_trace (handle : Handle) (steps : List Step) :
    (handle.trace steps).any Visit.takes = steps.any Step.takes := by
  induction steps generalizing handle with
  | nil => rfl
  | cons first rest ih => rw [trace, List.any_append, any_takes_visits, ih, List.any_cons]

/-- A visit leaves the handle empty when it takes the address, and as it was otherwise. -/
theorem Visit.left_eq (visit : Visit) :
    visit.left = if visit.takes then empty else visit.found := by
  rw [left, (orderly_visits visit.found visit.step).2, remaining, any_takes_visits]
  rfl

/-! ### What is handed out -/

/-- The addresses that steps hand out, without those that stand for none. -/
def handed (visits : List Visit) : List UInt64 :=
  (visits.filterMap fun visit => visit.answer.received?).filter (· ≠ 0)

theorem handed_append (earlier later : List Visit) :
    handed (earlier ++ later) = handed earlier ++ handed later := by
  rw [handed, List.filterMap_append, List.filter_append]
  rfl

/-- One visit hands out the address it finds, if it takes it and there is one. -/
theorem handed_singleton (visit : Visit) :
    handed [visit] =
      if visit.found.address ≠ 0 ∧ visit.takes then [visit.found.address] else [] := by
  obtain ⟨found, taken⟩ := visit
  unfold handed Visit.answer Visit.takes
  dsimp only [List.filterMap]
  cases taken with
  | release body =>
      rw [step_release]
      by_cases none : found.address = 0 <;> simp [none, Answer.received?, Step.takes]
  | clear =>
      by_cases none : found.address = 0 <;> simp [none, step, clear, Answer.received?, Step.takes]
  | address => simp [step, Answer.received?, Step.takes]
  | isReleased => simp [step, Answer.received?, Step.takes]
  | shown => simp [step, Answer.received?, Step.takes]

/-- The first step that takes the address is given it, and nothing is left for the others. -/
theorem Orderly.handed_eq {handle : Handle} {visits : List Visit}
    (orderly : Orderly handle visits) :
    handed visits =
      if handle.address ≠ 0 ∧ visits.any Visit.takes then [handle.address] else [] := by
  induction visits generalizing handle with
  | nil => simp [handed]
  | cons first rest ih =>
      obtain ⟨found, later⟩ := orderly
      rw [← List.singleton_append, handed_append, handed_singleton, ih later, found]
      cases taking : first.takes with
      | false => simp [remaining, taking]
      | true => simp [remaining, taking, empty]

/-! ### The answers of a run -/

mutual

/-- The answers of the visits are those of the step, with the nested ones. -/
theorem map_answer_visits (handle : Handle) (taken : Step) :
    (handle.visits taken).map Visit.answer = (handle.step taken).2.withNested := by
  cases taken with
  | release body =>
      have nested := map_answer_trace empty body
      have answer : Visit.answer ⟨handle, .release body⟩ = (handle.step (.release body)).2 := rfl
      rw [visits_release, List.map_cons, answer, step_release]
      by_cases none : handle.address = 0
      · rw [if_pos none, if_pos none]
        rfl
      · rw [if_neg none, if_neg none, nested, Answer.withNested]
  | clear => rfl
  | address => rfl
  | isReleased => rfl
  | shown => rfl

theorem map_answer_trace (handle : Handle) (steps : List Step) :
    (handle.trace steps).map Visit.answer = Answer.allNested (handle.run steps).2 := by
  cases steps with
  | nil => rfl
  | cons first rest =>
      rw [trace, List.map_append, map_answer_visits, map_answer_trace]
      rfl

end

/-! ### Callbacks -/

mutual

/-- After a release of a held address the visits of its body follow. -/
theorem nested_visits {handle : Handle} {taken : Step} {before after : List Visit} {visit : Visit}
    {body : List Step} (split : handle.visits taken = before ++ visit :: after)
    (releases : visit.step = .release body) (holds : visit.found.address ≠ 0) :
    ∃ rest, after = empty.trace body ++ rest := by
  cases taken with
  | release outer =>
      rw [visits_release, List.cons_eq_append_iff] at split
      rcases split with ⟨rfl, here⟩ | ⟨inner, rfl, deeper⟩
      · obtain ⟨rfl, rfl⟩ := List.cons.inj here
        obtain rfl := Step.release.inj releases
        rw [if_neg holds]
        exact ⟨[], (List.append_nil _).symm⟩
      · by_cases none : handle.address = 0
        · rw [if_pos none] at deeper
          simp at deeper
        · rw [if_neg none] at deeper
          exact nested_trace deeper releases holds
  | _ =>
      -- the step is the only one, and no release
      rw [visits, List.cons_eq_append_iff] at split
      · rcases split with ⟨rfl, here⟩ | ⟨inner, rfl, deeper⟩
        · obtain ⟨rfl, rfl⟩ := List.cons.inj here
          cases releases
        · simp at deeper
      · intro outer same
        cases same

theorem nested_trace {handle : Handle} {steps : List Step} {before after : List Visit}
    {visit : Visit} {body : List Step} (split : handle.trace steps = before ++ visit :: after)
    (releases : visit.step = .release body) (holds : visit.found.address ≠ 0) :
    ∃ rest, after = empty.trace body ++ rest := by
  cases steps with
  | nil => simp [trace] at split
  | cons first rest =>
      rw [trace, List.append_eq_append_iff] at split
      rcases split with ⟨inner, rfl, later⟩ | ⟨inner, earlier, rest_eq⟩
      · exact nested_trace later releases holds
      · rw [List.cons_eq_append_iff] at rest_eq
        rcases rest_eq with ⟨rfl, later⟩ | ⟨inner, rfl, rfl⟩
        · exact nested_trace (later.trans (List.nil_append _).symm) releases holds
        · obtain ⟨rest', rfl⟩ := nested_visits earlier releases holds
          exact ⟨_, List.append_assoc ..⟩

end

/-- Releasing an empty handle runs nothing. -/
theorem released_of_empty {taken : Step} {ran : Bool} {callback : Option (UInt64 × List Answer)}
    (answer : (empty.step taken).2 = .released ran callback) : ran = false ∧ callback = none := by
  cases taken with
  | release body =>
      have none : empty.address = 0 := rfl
      rw [step_release, if_pos none] at answer
      cases answer
      exact ⟨rfl, rfl⟩
  | clear => cases answer
  | address => cases answer
  | isReleased => cases answer
  | shown => cases answer

/-- What a run of steps does to a handle and hands out. -/
structure ReleasesOnce (handle : Handle) (steps : List Step) : Prop where
  /-- The answers of all steps, nested ones included, are those of the steps that are followed. -/
  answers : (handle.trace steps).map Visit.answer = Answer.allNested (handle.run steps).2
  /-- A step finds the handle as it was, or empty after a step that took the address. -/
  found : ∀ before visit after, handle.trace steps = before ++ visit :: after →
    visit.found = if before.any Visit.takes then empty else handle
  /-- A step leaves the handle as it was, or empty if it or a step before it took the address. -/
  left : ∀ before visit after, handle.trace steps = before ++ visit :: after →
    visit.left = if before.any Visit.takes ∨ visit.takes then empty else handle
  last : (handle.run steps).1 = if steps.any Step.takes then empty else handle
  /-- One address is handed out, to one step, if there is one and some step takes it. -/
  handed : handed (handle.trace steps) =
    if handle.address ≠ 0 ∧ steps.any Step.takes then [handle.address] else []
  /-- A release runs its callback just if it finds an address, tells so, and hands it on; the steps
  of the callback come right after it, on the empty handle. -/
  releases : ∀ before visit after body, handle.trace steps = before ++ visit :: after →
    visit.step = .release body →
      if visit.found.address = 0 then visit.answer = .released false none
      else visit.answer = .released true (some (visit.found.address, (empty.run body).2)) ∧
        ∃ rest, after = empty.trace body ++ rest
  /-- No callback runs on a handle that was empty from the start. -/
  unreleased : handle = empty → ∀ visit ∈ handle.trace steps, ∀ ran callback,
    visit.answer = .released ran callback → ran = false ∧ callback = none

/-- An address is handed out once: whatever steps are taken on a handle, also in the callbacks of
releases, the handle keeps its address up to the first clearing or release and is empty from then
on, and that step alone gets the address, with a callback that runs just if there is one. -/
theorem release_once (handle : Handle) (steps : List Step) : handle.ReleasesOnce steps := by
  obtain ⟨orderly, last⟩ := orderly_trace handle steps
  refine ⟨map_answer_trace handle steps, ?_, ?_, ?_, ?_, ?_, ?_⟩
  · intro before visit after split
    exact orderly.found_eq split
  · intro before visit after split
    rw [visit.left_eq, orderly.found_eq split, remaining]
    cases before.any Visit.takes <;> cases visit.takes <;> rfl
  · rw [last, remaining, any_takes_trace]
  · rw [orderly.handed_eq, any_takes_trace]
  · intro before visit after body split releases
    have answer : visit.answer = (visit.found.step (.release body)).2 := by
      rw [Visit.answer, releases]
    rw [step_release] at answer
    by_cases none : visit.found.address = 0
    · rw [if_pos none] at answer ⊢
      exact answer
    · rw [if_neg none] at answer ⊢
      exact ⟨answer, nested_trace split releases none⟩
  · intro none visit taken ran callback answer
    obtain ⟨before, after, split⟩ := List.append_of_mem taken
    have found : visit.found = empty := by
      rw [orderly.found_eq split, none, remaining_empty]
    rw [Visit.answer, found] at answer
    exact released_of_empty answer

/-- A release in a callback, and a clearing behind it, are given nothing. -/
example :
    (run ⟨5⟩ [.address, .release [.address, .release [.shown], .clear], .clear]).2 =
      [.address 5, .released true (some (5, [.address 0, .released false none, .cleared 0])),
        .cleared 0] := rfl

end HostBridge.Handle
