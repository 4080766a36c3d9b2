/-
**The nearest candidates, at most so many of them.**

A search by distance answers with the closest candidates, in ascending order, and stops at a count:
`Closest` says what such an answer is. `closest_nearestOf`: sorting the candidates and keeping the first
`count` of them is such an answer.

`Closest.find?_nearest`: the first element of an answer that meets a condition is a nearest one of all
the candidates that meet it, listed or not. Nothing follows when no element of the answer meets it: the
candidates that were cut off may.
-/

import Mathlib.Data.List.Sort

set_option autoImplicit false

namespace FoodDelivery.Lib

variable {α D : Type} [LinearOrder D] {candidates : α → Prop} {distance : α → D} {count : Nat}
  {answer : List α}

/-- **What a search by distance answers.** A candidate that is left out is as far as any that is
listed, and is left out only because the answer is full. -/
structure Closest (candidates : α → Prop) (distance : α → D) (count : Nat) (answer : List α) :
    Prop where
  sound : ∀ x ∈ answer, candidates x
  distinct : answer.Nodup
  short : answer.length ≤ count
  ascending : answer.Pairwise fun x y => distance x ≤ distance y
  closest : ∀ x, candidates x → x ∉ answer →
    answer.length = count ∧ ∀ y ∈ answer, distance y ≤ distance x

/-- **The first that meets a condition is a nearest that does.** -/
theorem Closest.find?_nearest (closest : Closest candidates distance count answer) {p : α → Bool}
    {x : α} (found : answer.find? p = some x) :
    ∀ y, candidates y → p y = true → distance x ≤ distance y := by
  intro y candidate meets
  by_cases listed : y ∈ answer
  · obtain ⟨-, before, after, rfl, none⟩ := List.find?_eq_some_iff_append.mp found
    rcases List.mem_append.mp listed with earlier | later
    · exact absurd meets (by simpa using none y earlier)
    · rcases List.mem_cons.mp later with rfl | later
      · exact le_rfl
      · have ordered := (List.pairwise_append.mp closest.ascending).2.1
        exact (List.pairwise_cons.mp ordered).1 y later
  · exact (closest.closest y candidate listed).2 x (List.mem_of_find?_eq_some found)

/-! ### Sorting and keeping the first -/

/-- The candidates of a list in ascending distance, cut off at a count. -/
def nearestOf (distance : α → D) (count : Nat) (list : List α) : List α :=
  (list.insertionSort fun x y => distance x ≤ distance y).take count

theorem closest_nearestOf (distance : α → D) (count : Nat) {list : List α} (distinct : list.Nodup) :
    Closest (· ∈ list) distance count (nearestOf distance count list) := by
  let nearer : α → α → Prop := fun x y => distance x ≤ distance y
  have total : Std.Total nearer := ⟨fun x y => le_total (distance x) (distance y)⟩
  have transitive : IsTrans α nearer := ⟨fun _ _ _ => le_trans⟩
  have ordered : (list.insertionSort nearer).Pairwise nearer := List.pairwise_insertionSort nearer list
  have same : ∀ {x}, x ∈ list.insertionSort nearer ↔ x ∈ list := List.mem_insertionSort nearer
  refine ⟨fun x listed => same.mp (List.mem_of_mem_take listed), ?_, List.length_take_le _ _,
    ordered.sublist (List.take_sublist _ _), fun x candidate absent => ?_⟩
  · exact ((List.perm_insertionSort nearer list).nodup_iff.mpr distinct).sublist
      (List.take_sublist _ _)
  · -- a candidate that is not kept comes after all that are
    have split := List.take_append_drop count (list.insertionSort nearer)
    have dropped : x ∈ (list.insertionSort nearer).drop count := by
      have present := same.mpr candidate
      rw [← split, List.mem_append] at present
      exact present.resolve_left absent
    refine ⟨List.length_take_of_le ?_, fun y kept => ?_⟩
    · have left := List.length_pos_of_mem dropped
      rw [List.length_drop] at left
      exact (Nat.lt_of_sub_pos left).le
    · rw [← split] at ordered
      exact (List.pairwise_append.mp ordered).2.2 y kept x dropped

end FoodDelivery.Lib
