/-
**Pages of a sorted answer.**

A query answers with its rows in some order that its keys allow (`Arranged`), and a page is a stretch of an
answer. The pages at 0, `step`, `2 * step`, … are asked one after the other, and each may be cut from
another answer. Rows with equal keys share the places from `before` to `through`; which of them is where,
each answer decides anew.

* `bounds_of_place`: the places a row may have;
* `pageWhole_iff`: the pages hold every row once, whatever the answers, exactly where no run of equal keys
  reaches over the end of a page;
* `pageWhole_iff_of_cut`: pages shorter than the step hold every row only if one page holds them all.
-/

import Mathlib.Data.List.Count
import Mathlib.Data.List.Nodup
import Mathlib.Order.Lattice

set_option autoImplicit false

namespace FoodDelivery.Lib

variable {α κ : Type}

/-! ### Pages -/

/-- `LIMIT limit OFFSET offset`. -/
def page (offset limit : Nat) (answer : List α) : List α := (answer.drop offset).take limit

/-- The first pages, one behind the other. -/
def pages (step limit : Nat) (answers : Nat → List α) (count : Nat) : List α :=
  (List.range count).flatMap fun n => page (n * step) limit (answers n)

section Page

variable {answer rows : List α} {answers : Nat → List α} {x : α} {offset limit step count : Nat}

theorem page_sublist : (page offset limit answer).Sublist answer :=
  (List.take_sublist _ _).trans (List.drop_sublist _ _)

/-- A page holds what stands at its places. -/
theorem mem_page : x ∈ page offset limit answer ↔
    ∃ i, answer[i]? = some x ∧ offset ≤ i ∧ i < offset + limit := by
  rw [page, List.mem_iff_getElem?]
  constructor
  · rintro ⟨i, found⟩
    rw [List.getElem?_take] at found
    by_cases within : i < limit
    · rw [if_pos within, List.getElem?_drop] at found
      exact ⟨offset + i, found, by omega, by omega⟩
    · rw [if_neg within] at found
      cases found
  · rintro ⟨i, found, low, high⟩
    refine ⟨i - offset, ?_⟩
    rw [List.getElem?_take, if_pos (by omega), List.getElem?_drop]
    rw [show offset + (i - offset) = i by omega]
    exact found

theorem mem_pages : x ∈ pages step limit answers count ↔
    ∃ n < count, ∃ i, (answers n)[i]? = some x ∧ n * step ≤ i ∧ i < n * step + limit := by
  simp only [pages, List.mem_flatMap, List.mem_range, mem_page]

/-- Pages of the step's own size, cut from one answer, are its beginning. -/
theorem pages_const (answer : List α) (step count : Nat) :
    pages step step (fun _ => answer) count = answer.take (count * step) := by
  induction count with
  | zero => simp [pages]
  | succ count hyp =>
    rw [pages] at hyp ⊢
    rw [List.range_succ, List.flatMap_append, hyp, List.flatMap_singleton, page, Nat.succ_mul,
      List.take_add]

end Page

/-! ### Answers -/

section Answers

variable [LinearOrder κ] (key : α → κ)

/-- An answer with the rows, sorted by their keys. -/
structure Arranged (rows answer : List α) : Prop where
  perm : answer.Perm rows
  sorted : answer.Pairwise fun x y => key x ≤ key y

/-- How many rows come before the row in every answer. -/
def before (rows : List α) (x : α) : Nat := rows.countP fun y => key y < key x

/-- How many come before the first that comes after it in every answer. -/
def through (rows : List α) (x : α) : Nat := rows.countP fun y => key y ≤ key x

/-- **The pages hold every row once**, whatever the answers they are cut from. -/
def PageWhole (rows : List α) (step limit : Nat) : Prop :=
  ∀ answers : Nat → List α, (∀ n, Arranged key rows (answers n)) →
    ∀ count, rows.length ≤ count * step → (pages step limit answers count).Perm rows

/-- No run of equal keys reaches over the end of a page. -/
def TiesWithin (rows : List α) (size : Nat) : Prop :=
  ∀ x ∈ rows, before key rows x / size = (through key rows x - 1) / size

variable {key} {rows answer : List α} {x y : α} {i size step limit : Nat}

/-- **The places of a row**: after what is before it, and among what is through. -/
theorem bounds_of_place (arranged : Arranged key rows answer) (found : answer[i]? = some x) :
    before key rows x ≤ i ∧ i < through key rows x := by
  obtain ⟨within, here⟩ := List.getElem?_eq_some_iff.mp found
  have parts := List.take_append_drop i answer
  have rest : answer.drop i = x :: answer.drop (i + 1) := by
    rw [List.drop_eq_getElem_cons within, here]
  have sorted := arranged.sorted
  rw [← parts, rest, List.pairwise_append] at sorted
  obtain ⟨-, later, across⟩ := sorted
  have length : (answer.take i).length = i := List.length_take_of_le (Nat.le_of_lt within)
  constructor
  · rw [before, ← arranged.perm.countP_eq, ← parts, rest, List.countP_append,
      List.countP_eq_zero (l := x :: _) |>.mpr, Nat.add_zero]
    · exact List.countP_le_length.trans_eq length
    · intro z member
      rw [decide_eq_true_iff, not_lt]
      rcases List.mem_cons.mp member with rfl | after
      · exact le_rfl
      · exact (List.pairwise_cons.mp later).1 z after
  · rw [through, ← arranged.perm.countP_eq, ← parts, rest, List.countP_append,
      List.countP_cons_of_pos (by simp), List.countP_eq_length.mpr, length]
    · omega
    · intro z member
      exact decide_eq_true (across z member x List.mem_cons_self)

theorem through_le_before (less : key x < key y) : through key rows x ≤ before key rows y :=
  List.countP_mono_left fun _ _ small =>
    decide_eq_true (lt_of_le_of_lt (of_decide_eq_true small) less)

/-- What stands at a row's places has its key. -/
theorem key_of_place (arranged : Arranged key rows answer) (found : answer[i]? = some y)
    (low : before key rows x ≤ i) (high : i < through key rows x) : key y = key x := by
  obtain ⟨low', high'⟩ := bounds_of_place arranged found
  rcases lt_trichotomy (key y) (key x) with less | same | more
  · have : through key rows y ≤ before key rows x := through_le_before less
    omega
  · exact same
  · have : through key rows x ≤ before key rows y := through_le_before more
    omega

theorem exists_place (arranged : Arranged key rows answer) (member : x ∈ rows) :
    ∃ i, answer[i]? = some x ∧ i < rows.length := by
  obtain ⟨i, found⟩ := List.mem_iff_getElem?.mp (arranged.perm.mem_iff.mpr member)
  obtain ⟨within, -⟩ := List.getElem?_eq_some_iff.mp found
  exact ⟨i, found, arranged.perm.length_eq ▸ within⟩

theorem exists_arranged (key : α → κ) (rows : List α) : ∃ answer, Arranged key rows answer := by
  refine ⟨rows.mergeSort fun x y => key x ≤ key y, List.mergeSort_perm _ _, ?_⟩
  have compared {x y z : α} (first : decide (key x ≤ key y) = true)
      (second : decide (key y ≤ key z) = true) : decide (key x ≤ key z) = true :=
    decide_eq_true (le_trans (of_decide_eq_true first) (of_decide_eq_true second))
  have sorted := @List.pairwise_mergeSort α (fun x y => decide (key x ≤ key y))
    (fun _ _ _ => compared) (fun x y => by simpa using le_total (key x) (key y)) rows
  exact sorted.imp fun small => of_decide_eq_true small

/-- Rows with one key change places. -/
theorem Arranged.swap {front back : List α} (arranged : Arranged key rows (front ++ x :: y :: back))
    (same : key x = key y) : Arranged key rows (front ++ y :: x :: back) where
  perm := ((List.Perm.swap x y back).append_left front).trans arranged.perm
  sorted := by
    have sorted := arranged.sorted
    simp only [List.pairwise_append, List.pairwise_cons, List.forall_mem_cons] at sorted ⊢
    obtain ⟨first, ⟨⟨-, afterX⟩, afterY, later⟩, across⟩ := sorted
    exact ⟨first, ⟨⟨le_of_eq same.symm, afterY⟩, afterX, later⟩, fun z member =>
      ⟨(across z member).2.1, (across z member).1, (across z member).2.2⟩⟩

/-- Two rows with one key that stand next to each other may change places. -/
theorem Arranged.exists_swap {m : Nat} (arranged : Arranged key rows answer)
    (first : answer[m]? = some x) (second : answer[m + 1]? = some y) (same : key x = key y) :
    ∃ swapped, Arranged key rows swapped ∧ swapped[m + 1]? = some x := by
  obtain ⟨here, rfl⟩ := List.getElem?_eq_some_iff.mp first
  obtain ⟨next, rfl⟩ := List.getElem?_eq_some_iff.mp second
  have parts : answer.take m ++ answer[m] :: answer[m + 1] :: answer.drop (m + 2) = answer := by
    rw [← List.drop_eq_getElem_cons next, ← List.drop_eq_getElem_cons here, List.take_append_drop]
  refine ⟨answer.take m ++ answer[m + 1] :: answer[m] :: answer.drop (m + 2),
    Arranged.swap (parts.symm ▸ arranged) same, ?_⟩
  have front : (answer.take m).length = m := List.length_take_of_le (by omega)
  rw [List.getElem?_append_right (by omega), front, Nat.add_sub_cancel_left]
  rfl

/-! ### Whole pages -/

/-- **Pages with ties inside them hold every row once.** -/
theorem pageWhole_of_tiesWithin (unique : rows.Nodup) (positive : 0 < size)
    (within : TiesWithin key rows size) : PageWhole key rows size size := by
  intro answers arranged count enough
  -- the page of a row is fixed by its key
  have home : ∀ {n i x}, (answers n)[i]? = some x → x ∈ rows → i / size = before key rows x / size := by
    intro n i x found member
    obtain ⟨low, high⟩ := bounds_of_place (arranged n) found
    refine Nat.le_antisymm ?_ (Nat.div_le_div_right low)
    rw [within x member]
    exact Nat.div_le_div_right (by omega)
  have belongs : ∀ {n x}, x ∈ page (n * size) size (answers n) →
      x ∈ rows ∧ n = before key rows x / size := by
    intro n x member
    have row := (arranged n).perm.mem_iff.mp (page_sublist.subset member)
    obtain ⟨i, found, low, high⟩ := mem_page.mp member
    refine ⟨row, (home found row).symm ▸ ?_⟩
    exact (Nat.div_eq_of_lt_le low (by rw [Nat.succ_mul]; exact high)).symm
  refine (List.perm_ext_iff_of_nodup ?_ unique).mpr fun x => ?_
  · refine List.nodup_flatMap.mpr ⟨fun n _ => ?_, ?_⟩
    · exact page_sublist.nodup ((arranged n).perm.nodup_iff.mpr unique)
    · refine List.nodup_range.imp fun {n m} different => ?_
      exact List.disjoint_left.mpr fun x first second =>
        different ((belongs first).2.trans (belongs second).2.symm)
  · constructor
    · intro member
      obtain ⟨n, -, inside⟩ := List.mem_flatMap.mp member
      exact (belongs inside).1
    · intro member
      obtain ⟨i, found, short⟩ := exists_place (arranged (before key rows x / size)) member
      have place := home found member
      refine mem_pages.mpr ⟨_, ?_, i, found, ?_, ?_⟩
      · rw [← place]
        exact Nat.div_lt_of_lt_mul (by rw [Nat.mul_comm]; exact Nat.lt_of_lt_of_le short enough)
      · rw [← place]
        exact Nat.div_mul_le_self i size
      · rw [← place]
        exact Nat.lt_div_mul_add positive

/-- A run of equal keys that begins on one page and ends on another reaches over the end of a page. -/
theorem exists_end_of_page (positive : 0 < size) (run : before key rows x < through key rows x)
    (apart : before key rows x / size ≠ (through key rows x - 1) / size) :
    ∃ k, before key rows x < k * size ∧ k * size < through key rows x := by
  have least : before key rows x / size ≤ (through key rows x - 1) / size :=
    Nat.div_le_div_right (by omega)
  have less := Nat.lt_of_le_of_ne least apart
  refine ⟨_, (Nat.div_lt_iff_lt_mul positive).mp less, ?_⟩
  have := Nat.div_mul_le_self (through key rows x - 1) size
  omega

/-- Whole pages share no row. -/
theorem PageWhole.disjoint {n : Nat} {answers : Nat → List α} (whole : PageWhole key rows size size)
    (unique : rows.Nodup) (positive : 0 < size) (arranged : ∀ n, Arranged key rows (answers n)) :
    List.Disjoint (page (n * size) size (answers n)) (page ((n + 1) * size) size (answers (n + 1))) := by
  have count : rows.length ≤ (rows.length + n + 2) * size :=
    Nat.le_trans (Nat.le_mul_of_pos_right _ positive) (Nat.mul_le_mul_right size (by omega))
  have distinct := (whole answers arranged _ count).nodup_iff.mpr unique
  have apart := List.pairwise_iff_getElem.mp (List.nodup_flatMap.mp distinct).2 n (n + 1)
    (by rw [List.length_range]; omega) (by rw [List.length_range]; omega) (Nat.lt_succ_self n)
  rw [List.getElem_range, List.getElem_range] at apart
  exact apart

/-- **A run of equal keys over the end of a page** puts one row into both pages: the later answer has it
after the end, the earlier one before. -/
theorem tiesWithin_of_pageWhole (unique : rows.Nodup) (positive : 0 < size)
    (whole : PageWhole key rows size size) : TiesWithin key rows size := by
  intro x member
  by_contra apart
  obtain ⟨answer, arranged⟩ := exists_arranged key rows
  obtain ⟨i, found, -⟩ := exists_place arranged member
  obtain ⟨low, high⟩ := bounds_of_place arranged found
  obtain ⟨k, later, earlier⟩ := exists_end_of_page positive (Nat.lt_of_le_of_lt low high) apart
  obtain ⟨n, rfl⟩ : ∃ n, k = n + 1 := Nat.exists_eq_add_one.mpr (by
    refine Nat.pos_of_ne_zero ?_
    rintro rfl
    omega)
  have width : (n + 1) * size = n * size + size := Nat.succ_mul n size
  -- the rows on the two sides of the end have one key
  have length : through key rows x ≤ answer.length :=
    arranged.perm.length_eq ▸ List.countP_le_length
  obtain ⟨m, last⟩ : ∃ m, (n + 1) * size = m + 1 := Nat.exists_eq_add_one.mpr (by omega)
  have here : answer[m]? = some answer[m] := List.getElem?_eq_getElem (by omega)
  have next : answer[m + 1]? = some answer[m + 1] := List.getElem?_eq_getElem (by omega)
  have same : key answer[m] = key answer[m + 1] :=
    (key_of_place arranged here (x := x) (by omega) (by omega)).trans
      (key_of_place arranged next (x := x) (by omega) (by omega)).symm
  obtain ⟨other, swapped, moved⟩ := arranged.exists_swap here next same
  -- the last row of the earlier page comes again first in the later one
  let answers : Nat → List α := fun page => if page = n then answer else other
  have permitted : ∀ page, Arranged key rows (answers page) := by
    intro page
    by_cases asked : page = n
    · rw [show answers page = answer from if_pos asked]
      exact arranged
    · rw [show answers page = other from if_neg asked]
      exact swapped
  have first : answer[m] ∈ page (n * size) size (answers n) := by
    refine mem_page.mpr ⟨m, ?_, by omega, by omega⟩
    rw [show answers n = answer from if_pos rfl]
    exact here
  have second : answer[m] ∈ page ((n + 1) * size) size (answers (n + 1)) := by
    refine mem_page.mpr ⟨m + 1, ?_, by omega, by omega⟩
    rw [show answers (n + 1) = other from if_neg (Nat.succ_ne_self n)]
    exact moved
  exact List.disjoint_left.mp (whole.disjoint unique positive permitted) first second

/-- On one page, no ties are parted. -/
theorem tiesWithin_of_length_le (one : rows.length ≤ size) : TiesWithin key rows size := by
  intro x member
  obtain ⟨answer, arranged⟩ := exists_arranged key rows
  obtain ⟨i, found, -⟩ := exists_place arranged member
  obtain ⟨low, high⟩ := bounds_of_place arranged found
  have all : through key rows x ≤ rows.length := List.countP_le_length
  rw [Nat.div_eq_of_lt (by omega), Nat.div_eq_of_lt (by omega)]

/-- **The pages hold every row once exactly where the ties lie within them.** -/
theorem pageWhole_iff (unique : rows.Nodup) (positive : 0 < size) :
    PageWhole key rows size size ↔ TiesWithin key rows size :=
  ⟨tiesWithin_of_pageWhole unique positive, pageWhole_of_tiesWithin unique positive⟩

/-- **Pages shorter than the step** leave out what stands between one's end and the next one's start. -/
theorem pageWhole_iff_of_cut (unique : rows.Nodup) (cut : limit < step) :
    PageWhole key rows step limit ↔ rows.length ≤ limit := by
  constructor
  · intro whole
    by_contra more
    obtain ⟨answer, arranged⟩ := exists_arranged key rows
    have here : limit < answer.length := arranged.perm.length_eq ▸ Nat.lt_of_not_le more
    have count : rows.length ≤ rows.length * step := Nat.le_mul_of_pos_right _ (by omega)
    have listed := (whole (fun _ => answer) (fun _ => arranged) _ count).mem_iff.mpr
      (arranged.perm.mem_iff.mp (List.getElem_mem here))
    obtain ⟨n, -, i, found, low, high⟩ := mem_pages.mp listed
    obtain ⟨within, same⟩ := List.getElem?_eq_some_iff.mp found
    have place : i = limit :=
      (List.Nodup.getElem_inj_iff (arranged.perm.nodup_iff.mpr unique)).mp same
    rcases n with _ | n
    · omega
    · have beyond : step ≤ (n + 1) * step := Nat.le_mul_of_pos_left step (Nat.succ_pos n)
      omega
  · intro short answers arranged count enough
    rcases count with _ | count
    · have none : rows = [] := List.length_eq_zero_iff.mp (by omega)
      rw [none]
      exact List.Perm.refl []
    · have first : page (0 * step) limit (answers 0) = answers 0 := by
        rw [page, Nat.zero_mul, List.drop_zero, List.take_of_length_le]
        exact (arranged 0).perm.length_eq.trans_le short
      have later : ∀ n, page ((n + 1) * step) limit (answers (n + 1)) = [] := by
        intro n
        have beyond : step ≤ (n + 1) * step := Nat.le_mul_of_pos_left step (Nat.succ_pos n)
        rw [page, List.drop_eq_nil_of_le, List.take_nil]
        have := (arranged (n + 1)).perm.length_eq
        omega
      rw [pages, List.range_succ_eq_map, List.flatMap_cons, first, List.flatMap_map,
        List.flatMap_eq_nil_iff.mpr fun n _ => later n, List.append_nil]
      exact (arranged 0).perm

end Answers

end FoodDelivery.Lib
