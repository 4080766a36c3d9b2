/-
**Places in a list that is sorted by a key.**

The rank of an element is the number of elements with a smaller key. `mem_take_iff` places an element
among the first `n` by its rank, and `full_of_not_mem_take` says what is there instead when it is not:
`n` elements with smaller keys. `countP_lt_countP` is the strict form of `List.countP_mono_left`, and
`findSome?_finRange` is the index at which a scan of `0, …, n - 1` stops. `beyond n` is what is left of
some numbers after the greatest `n`: all of it is smaller than what it leaves (`beyond_lt`), and it leaves
no more than `n` (`countP_not_beyond`).
-/

import Mathlib.Data.List.Count
import Mathlib.Data.List.FinRange
import Mathlib.Data.List.Sort

set_option autoImplicit false

namespace FoodDelivery.Lib

variable {α : Type} {key : α → Nat} {list : List α} {x : α} {n : Nat}

/-- A condition that one element less meets is met less often. -/
theorem countP_lt_countP {p q : α → Bool} (weaker : ∀ y ∈ list, p y = true → q y = true)
    (lost : ∃ y ∈ list, q y = true ∧ p y = false) : list.countP p < list.countP q := by
  have both : list.countP p = (list.filter q).countP p := by
    rw [List.countP_filter]
    refine List.countP_congr fun y member => ?_
    simp only [Bool.and_eq_true]
    exact ⟨fun meets => ⟨meets, weaker y member meets⟩, fun meets => meets.1⟩
  rw [both, List.countP_eq_length_filter (p := q), List.countP_lt_length_iff]
  obtain ⟨y, member, meets, misses⟩ := lost
  exact ⟨y, List.mem_filter.mpr ⟨member, meets⟩, misses⟩

/-- **Among the first `n`**: exactly when fewer than `n` elements have a smaller key. -/
theorem mem_take_iff (sorted : list.Pairwise fun first second => key first < key second)
    (member : x ∈ list) : x ∈ list.take n ↔ list.countP (fun y => key y < key x) < n := by
  induction list generalizing n with
  | nil => cases member
  | cons first list ih =>
    obtain ⟨smallest, rest⟩ := List.pairwise_cons.mp sorted
    rcases n with _ | n
    · simp
    · rcases List.mem_cons.mp member with rfl | later
      · have none_smaller : list.countP (fun y => key y < key x) = 0 := by
          refine List.countP_eq_zero.mpr fun y inside => ?_
          have above := smallest y inside
          simp only [decide_eq_true_eq]
          omega
        simp [none_smaller]
      · have below := smallest x later
        have different : x ≠ first := by
          rintro rfl
          exact Nat.lt_irrefl _ below
        rw [List.take_succ_cons, List.mem_cons, ih rest later,
          List.countP_cons_of_pos (by simpa using below)]
        constructor
        · rintro (same | small)
          · exact absurd same different
          · omega
        · intro small
          exact Or.inr (by omega)

/-- **Not among the first `n`**: they are `n` elements with smaller keys. -/
theorem full_of_not_mem_take (sorted : list.Pairwise fun first second => key first < key second)
    (member : x ∈ list) (left_out : x ∉ list.take n) :
    (list.take n).length = n ∧ ∀ y ∈ list.take n, key y < key x := by
  rw [mem_take_iff sorted member, Nat.not_lt] at left_out
  constructor
  · rw [List.length_take]
    have bound := List.countP_le_length (p := fun y => decide (key y < key x)) (l := list)
    omega
  · intro y inside
    have rank := (mem_take_iff sorted (List.mem_of_mem_take inside)).mp inside
    by_contra above
    have more : list.countP (fun z => key z < key x) ≤ list.countP (fun z => key z < key y) := by
      refine List.countP_mono_left fun z _ smaller => ?_
      simp only [decide_eq_true_eq] at smaller ⊢
      omega
    omega

/-- **The first answer of a scan**: some index answers, and none before it. -/
theorem findSome?_finRange {β : Type} {n : Nat} {f : Fin n → Option β} {b : β} :
    (List.finRange n).findSome? f = some b ↔ ∃ i, f i = some b ∧ ∀ j < i, f j = none := by
  induction n with
  | zero =>
    rw [List.finRange_zero, List.findSome?_nil]
    refine iff_of_false (Option.some_ne_none b).symm ?_
    rintro ⟨i, -⟩
    exact i.elim0
  | succ n hyp =>
    rw [List.finRange_succ, List.findSome?_cons, List.findSome?_map]
    cases first : f 0 with
    | some a =>
      constructor
      · rintro same
        exact ⟨0, first.trans same, fun j before => absurd before (Fin.not_lt_zero j)⟩
      · rintro ⟨i, here, before⟩
        by_cases zero : i = 0
        · exact first.symm.trans ((congrArg f zero).symm.trans here)
        · exact absurd (first.symm.trans (before 0 (Fin.pos_iff_ne_zero.mpr zero)))
            (Option.some_ne_none a)
    | none =>
      show List.findSome? (f ∘ Fin.succ) (List.finRange n) = some b ↔ _
      rw [hyp]
      constructor
      · rintro ⟨i, here, before⟩
        refine ⟨i.succ, here, fun j earlier => ?_⟩
        cases j using Fin.cases with
        | zero => exact first
        | succ j => exact before j (Fin.succ_lt_succ_iff.mp earlier)
      · rintro ⟨i, here, before⟩
        cases i using Fin.cases with
        | zero => exact absurd (first.symm.trans here) (Option.some_ne_none b).symm
        | succ i => exact ⟨i, here, fun j earlier => before j.succ (Fin.succ_lt_succ_iff.mpr earlier)⟩

/-! ### The greatest numbers -/

section Greatest

variable {ids : List Nat} {id other : Nat}

/-- What comes after the first `n` in descending order. -/
def beyond (n : Nat) (ids : List Nat) : List Nat := (ids.insertionSort (· ≥ ·)).drop n

theorem mem_of_mem_beyond (member : id ∈ beyond n ids) : id ∈ ids :=
  (List.mem_insertionSort (· ≥ ·)).mp (List.mem_of_mem_drop member)

/-- What is beyond is smaller than what is not. -/
theorem beyond_lt (member : id ∈ beyond n ids) (present : other ∈ ids) (kept : other ∉ beyond n ids) :
    id < other := by
  have sorted := List.pairwise_insertionSort (· ≥ ·) ids
  have listed : other ∈ ids.insertionSort (· ≥ ·) := (List.mem_insertionSort (· ≥ ·)).mpr present
  rw [← List.take_append_drop n (ids.insertionSort (· ≥ ·))] at sorted listed
  have first := (List.mem_append.mp listed).resolve_right kept
  have above : other ≥ id := (List.pairwise_append.mp sorted).2.2 other first id member
  have apart : id ≠ other := by
    rintro rfl
    exact kept member
  omega

/-- No more than `n` are not beyond. -/
theorem countP_not_beyond (n : Nat) (ids : List Nat) : ids.countP (fun id => id ∉ beyond n ids) ≤ n := by
  have few : ((ids.insertionSort (· ≥ ·)).take n).countP (fun id => id ∉ beyond n ids) ≤ n :=
    Nat.le_trans List.countP_le_length (List.length_take_le n _)
  have none_left : ((ids.insertionSort (· ≥ ·)).drop n).countP (fun id => id ∉ beyond n ids) = 0 :=
    List.countP_eq_zero.mpr fun id member kept => of_decide_eq_true kept member
  rw [← (List.perm_insertionSort (· ≥ ·) ids).countP_eq,
    ← List.take_append_drop n (ids.insertionSort (· ≥ ·)), List.countP_append]
  omega

end Greatest

end FoodDelivery.Lib
