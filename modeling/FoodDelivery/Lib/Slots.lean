/-
**Places in a list.**

`of_set`: who is found after one party was replaced is that party or another one as it was.
`found_append`, `of_append_singleton`: what was found stays where it was while the list grows, and what
is found after one more has been added was there before or is the last. `split_of_found`: who stands before
and after a party stands there still when it is replaced.
-/

import Mathlib.Data.List.Basic

set_option autoImplicit false

namespace FoodDelivery.Lib

variable {α : Type} {parties more : List α} {i j : Nat} {changed other last : α}

theorem of_set (found : (parties.set i changed)[j]? = some other) :
    (j = i ∧ other = changed) ∨ (j ≠ i ∧ parties[j]? = some other) := by
  rw [List.getElem?_set] at found
  by_cases same : i = j
  · rw [if_pos same] at found
    split at found
    · cases found
      exact Or.inl ⟨same.symm, rfl⟩
    · cases found
  · rw [if_neg same] at found
    exact Or.inr ⟨Ne.symm same, found⟩

theorem found_append (found : parties[i]? = some other) : (parties ++ more)[i]? = some other := by
  obtain ⟨inside, _⟩ := List.getElem?_eq_some_iff.mp found
  exact (List.getElem?_append_left inside).trans found

theorem of_append_singleton (found : (parties ++ [last])[i]? = some other) :
    parties[i]? = some other ∨ (i = parties.length ∧ other = last) := by
  by_cases inside : i < parties.length
  · rw [List.getElem?_append_left inside] at found
    exact Or.inl found
  · rw [List.getElem?_append_right (Nat.le_of_not_lt inside), List.getElem?_singleton] at found
    split at found
    · cases found
      exact Or.inr ⟨by omega, rfl⟩
    · cases found

theorem split_of_found (found : parties[i]? = some other) :
    ∃ before after, parties = before ++ other :: after ∧
      ∀ changed, parties.set i changed = before ++ changed :: after := by
  obtain ⟨inside, rfl⟩ := List.getElem?_eq_some_iff.mp found
  refine ⟨parties.take i, parties.drop (i + 1), ?_, fun changed => List.set_eq_take_append_cons_drop.trans
    (if_pos inside)⟩
  rw [← List.drop_eq_getElem_cons inside, List.take_append_drop]

end FoodDelivery.Lib
