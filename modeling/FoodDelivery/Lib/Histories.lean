/-
**Histories**: something happens somewhere in a list, given what happened before it.

`Somewhere P history` says that some entry of the history, with the entries before it, satisfies `P`;
`Since P Q history` that one does, and that no later entry satisfies `Q`. A history is read as it
grows: the lemmas say what one more entry at its end changes.
-/

import FoodDelivery.Lib.Runs
import Mathlib.Data.List.Basic

set_option autoImplicit false

namespace FoodDelivery.Lib

variable {α : Type*} {P Q : List α → α → Prop}

/-- Where an entry of a history stands when one more has been added: it is the new one, or it was
there before. -/
theorem split_append_singleton {history before after : List α} {last entry : α}
    (split : history ++ [last] = before ++ entry :: after) :
    (before = history ∧ entry = last ∧ after = []) ∨
      ∃ front, history = before ++ entry :: front ∧ after = front ++ [last] := by
  rcases List.eq_nil_or_concat after with rfl | ⟨front, final, rfl⟩
  · obtain ⟨rfl, same⟩ := List.append_inj' split rfl
    cases same
    exact Or.inl ⟨rfl, rfl, rfl⟩
  · rw [List.concat_eq_append, ← List.cons_append, ← List.append_assoc] at split
    obtain ⟨rfl, same⟩ := List.append_inj' split rfl
    cases same
    exact Or.inr ⟨front, rfl, List.concat_eq_append⟩

/-- Some entry satisfies `P` together with the entries before it. -/
def Somewhere (P : List α → α → Prop) (history : List α) : Prop :=
  ∃ before entry after, history = before ++ entry :: after ∧ P before entry

@[simp] theorem somewhere_nil : ¬ Somewhere P [] := by
  rintro ⟨before, entry, after, split, _⟩
  cases before <;> cases split

/-- One more entry. -/
theorem somewhere_append_singleton {history : List α} {last : α} :
    Somewhere P (history ++ [last]) ↔ Somewhere P history ∨ P history last := by
  constructor
  · rintro ⟨before, entry, after, split, holds⟩
    rcases split_append_singleton split with ⟨rfl, rfl, rfl⟩ | ⟨front, rfl, rfl⟩
    · exact Or.inr holds
    · exact Or.inl ⟨before, entry, front, rfl, holds⟩
  · rintro (⟨before, entry, after, rfl, holds⟩ | holds)
    · exact ⟨before, entry, after ++ [last], by simp, holds⟩
    · exact ⟨history, last, [], rfl, holds⟩

/-- `P` has happened, and `Q` has not happened since. -/
def Since (P Q : List α → α → Prop) (history : List α) : Prop :=
  ∃ before entry after, history = before ++ entry :: after ∧ P before entry ∧
    ¬ ∃ middle later rest, after = middle ++ later :: rest ∧
      Q (before ++ entry :: middle) later

theorem Since.somewhere {history : List α} (since : Since P Q history) : Somewhere P history := by
  obtain ⟨before, entry, after, split, holds, _⟩ := since
  exact ⟨before, entry, after, split, holds⟩

@[simp] theorem since_nil : ¬ Since P Q [] := fun since => somewhere_nil since.somewhere

/-- One more entry. -/
theorem since_append_singleton {history : List α} {last : α} :
    Since P Q (history ++ [last]) ↔ P history last ∨ (Since P Q history ∧ ¬ Q history last) := by
  constructor
  · rintro ⟨before, entry, after, split, holds, none_since⟩
    rcases split_append_singleton split with ⟨rfl, rfl, rfl⟩ | ⟨front, rfl, rfl⟩
    · exact Or.inl holds
    · refine Or.inr ⟨⟨before, entry, front, rfl, holds, ?_⟩, fun undone => ?_⟩
      · rintro ⟨middle, later, rest, rfl, undone⟩
        exact none_since ⟨middle, later, rest ++ [last], by simp, undone⟩
      · exact none_since ⟨front, last, [], by simp, undone⟩
  · rintro (holds | ⟨⟨before, entry, after, rfl, holds, none_since⟩, not_undone⟩)
    · refine ⟨history, last, [], rfl, holds, ?_⟩
      rintro ⟨middle, later, rest, split, _⟩
      cases middle <;> cases split
    · refine ⟨before, entry, after ++ [last], by simp, holds, ?_⟩
      rintro ⟨middle, later, rest, split, undone⟩
      rcases split_append_singleton split with ⟨rfl, rfl, rfl⟩ | ⟨front, rfl, rfl⟩
      · exact not_undone undone
      · exact none_since ⟨middle, later, front, rfl, undone⟩

/-! ### Facts that are set and cleared -/

section Latches

variable {σ ι : Type*} {step : σ → ι → σ} {start : σ} {labels : List ι}
  (Good Latched : σ → Prop) {Sets Clears : σ → ι → Prop}

/-- **What a run leaves set**, from what one step does to it where the invariant holds. -/
theorem run_iff_since (keep : ∀ s, ∀ label ∈ labels, Good s → Good (step s label))
    (good : Good start) (unset : ¬ Latched start)
    (once : ∀ s, ∀ label ∈ labels, Good s →
      (Latched (step s label) ↔ Sets s label ∨ (Latched s ∧ ¬ Clears s label))) :
    Latched (run step start labels) ↔
      Since (fun before label => Sets (run step start before) label)
        (fun before label => Clears (run step start before) label) labels := by
  -- The invariant is carried along: the last step is taken where it holds.
  have both : Good (run step start labels) ∧ (Latched (run step start labels) ↔
      Since (fun before label => Sets (run step start before) label)
        (fun before label => Clears (run step start before) label) labels) := by
    induction labels using List.reverseRecOn with
    | nil => exact ⟨good, iff_of_false unset since_nil⟩
    | append_singleton labels label ih =>
      have among : ∀ other ∈ labels, other ∈ labels ++ [label] :=
        fun _ member => List.mem_append_left _ member
      have last : label ∈ labels ++ [label] := List.mem_append_right _ (List.mem_singleton_self _)
      obtain ⟨before, so_far⟩ := ih (fun s other member => keep s other (among other member))
        (fun s other member => once s other (among other member))
      rw [run_append, since_append_singleton, ← so_far]
      exact ⟨keep _ label last before, once _ label last before⟩
  exact both.2

end Latches

end FoodDelivery.Lib
