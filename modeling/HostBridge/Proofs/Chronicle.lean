import Mathlib.Data.List.Basic
import Mathlib.Data.List.Induction

/-!
# Chronicles

A chronicle lists what the steps of a run yield, one after another.  What has happened in it and has
not been ended since is told by its last entry and the ones before it.

Main statements: `chronicle_append` and `chronicle_snoc` say what further steps add, and
`since_snoc` what one more entry changes.
-/

namespace HostBridge

section Chronicle

variable {σ κ τ : Type} (step : σ → κ → σ) (yields : σ → κ → List τ)

/-- What the steps of a run yield, one after another. -/
def chronicle : σ → List κ → List τ
  | _, [] => []
  | state, command :: commands =>
    yields state command ++ chronicle (step state command) commands

theorem chronicle_append (state : σ) (commands further : List κ) :
    chronicle step yields state (commands ++ further) =
      chronicle step yields state commands ++
        chronicle step yields (commands.foldl step state) further := by
  induction commands generalizing state with
  | nil => rfl
  | cons command commands ih =>
      rw [List.cons_append, chronicle, ih, chronicle, List.append_assoc, List.foldl_cons]

theorem chronicle_snoc (state : σ) (commands : List κ) (command : κ) :
    chronicle step yields state (commands ++ [command]) =
      chronicle step yields state commands ++ yields (commands.foldl step state) command := by
  rw [chronicle_append, chronicle, chronicle, List.append_nil]

end Chronicle

theorem filterMap_snoc {α β : Type} (f : α → Option β) (as : List α) (a : α) :
    (as ++ [a]).filterMap f = as.filterMap f ++ (f a).toList := by
  rw [List.filterMap_append, List.filterMap_eq_flatMap_toList f [a], List.flatMap_singleton]

/-- Something happened, and nothing has ended it since. -/
def Since {τ : Type} (happens ends : τ → Prop) (entries : List τ) : Prop :=
  ∃ earlier entry later, entries = earlier ++ entry :: later ∧ happens entry ∧
    ∀ other ∈ later, ¬ ends other

/-- Something happened since, when it just did, or had and is not ended by the last entry. -/
theorem since_snoc {τ : Type} {happens ends : τ → Prop} {entries : List τ} {last : τ} :
    Since happens ends (entries ++ [last]) ↔
      happens last ∨ ¬ ends last ∧ Since happens ends entries := by
  constructor
  · rintro ⟨earlier, entry, later, same, happened, lasting⟩
    cases later using List.reverseRecOn with
    | nil =>
        obtain ⟨_, final⟩ := List.append_inj' same rfl
        cases final
        exact .inl happened
    | append_singleton later other =>
        rw [← List.cons_append, ← List.append_assoc] at same
        obtain ⟨rfl, final⟩ := List.append_inj' same rfl
        cases final
        refine .inr ⟨lasting last (by simp), earlier, entry, later, rfl, happened, ?_⟩
        exact fun other member => lasting other (List.mem_append_left _ member)
  · rintro (happened | ⟨kept, earlier, entry, later, rfl, happened, lasting⟩)
    · exact ⟨entries, last, [], rfl, happened, fun _ member => nomatch member⟩
    · refine ⟨earlier, entry, later ++ [last], by simp, happened, ?_⟩
      intro other member
      rcases List.mem_append.mp member with listed | final
      · exact lasting other listed
      · rw [List.mem_singleton.mp final]
        exact kept

theorem not_since_nil {τ : Type} {happens ends : τ → Prop} : ¬ Since happens ends [] := by
  rintro ⟨earlier, entry, later, same, _⟩
  exact absurd same.symm (by simp)

end HostBridge
