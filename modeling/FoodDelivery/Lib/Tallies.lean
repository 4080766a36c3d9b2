/-
**Adding up entries by their keys.**

A tally has one row for each key, in the order in which the keys came. It is made in two passes over the
entries, one that writes a zero for every key and one that adds up; adding to a key that has no row fails.

* `find?_tally`: the two passes never fail, and leave the sum of the entries of every key that has any;
* `sumOf_perm`, `sumOf_merge`: the sums do not depend on the order of the entries, nor on how the entries
  of a key are grouped.
-/

import FoodDelivery.Lib.Table
import Mathlib.Algebra.BigOperators.Group.List.Basic

set_option autoImplicit false

namespace FoodDelivery.Lib

variable {κ M : Type}

abbrev Tally (κ M : Type) := Table κ (κ × M) Prod.fst

variable [DecidableEq κ] [AddCommMonoid M]

/-- A row for the key of every entry, at zero. -/
def zeroTally (entries : List (κ × M)) : Tally κ M :=
  entries.foldl (fun tally entry => tally.put (entry.1, 0)) .empty

/-- Add to the row of a key. -/
def addTo (tally : Tally κ M) (entry : κ × M) : Option (Tally κ M) :=
  (tally.find? entry.1).map fun found => tally.put (entry.1, found.2 + entry.2)

/-- The two passes. -/
def tally (entries : List (κ × M)) : Option (Tally κ M) := entries.foldlM addTo (zeroTally entries)

/-- What the entries of a key come to. -/
def sumOf (entries : List (κ × M)) (k : κ) : M :=
  ((entries.filter fun entry => entry.1 = k).map Prod.snd).sum

variable {entries other : List (κ × M)} {table : Tally κ M} {k : κ}

theorem find?_zeroTally_from :
    (entries.foldl (fun tally entry => tally.put (entry.1, 0)) table).find? k =
      if k ∈ entries.map Prod.fst then some (k, 0) else table.find? k := by
  induction entries generalizing table with
  | nil => rfl
  | cons entry entries ih =>
    rw [List.foldl_cons, ih, Table.find?_put, List.map_cons]
    by_cases later : k ∈ entries.map Prod.fst
    · rw [if_pos later, if_pos (List.mem_cons_of_mem _ later)]
    · rw [if_neg later]
      by_cases own : entry.1 = k
      · subst own
        rw [if_pos rfl, if_pos List.mem_cons_self]
      · rw [if_neg own, if_neg]
        exact fun member => (List.mem_cons.mp member).elim (fun same => own same.symm) later

/-- **The first pass.** -/
theorem find?_zeroTally :
    (zeroTally entries).find? k = if k ∈ entries.map Prod.fst then some (k, 0) else none :=
  find?_zeroTally_from

@[simp] theorem sumOf_nil : sumOf ([] : List (κ × M)) k = 0 := rfl

theorem sumOf_cons (entry : κ × M) :
    sumOf (entry :: entries) k = (if entry.1 = k then entry.2 else 0) + sumOf entries k := by
  unfold sumOf
  by_cases own : entry.1 = k
  · rw [List.filter_cons_of_pos (by simpa using own), List.map_cons, List.sum_cons, if_pos own]
  · rw [List.filter_cons_of_neg (by simpa using own), if_neg own, zero_add]

theorem sumOf_eq_zero (absent : k ∉ entries.map Prod.fst) : sumOf entries k = 0 := by
  have none_left : (entries.filter fun entry => entry.1 = k) = [] := by
    refine List.filter_eq_nil_iff.mpr fun entry member own => ?_
    exact absent (of_decide_eq_true own ▸ List.mem_map_of_mem member)
  rw [sumOf, none_left]
  rfl

/-- **The second pass**, from rows for all the keys. -/
theorem find?_foldlM (entries : List (κ × M)) (table : Tally κ M)
    (covered : ∀ entry ∈ entries, (table.find? entry.1).isSome) :
    ∃ result, entries.foldlM addTo table = some result ∧ ∀ k, result.find? k =
      (table.find? k).map fun found => (found.1, found.2 + sumOf entries k) := by
  induction entries generalizing table with
  | nil =>
    refine ⟨table, rfl, fun k => ?_⟩
    cases table.find? k with
    | none => rfl
    | some found => rw [Option.map_some, sumOf_nil, add_zero]
  | cons entry entries ih =>
    obtain ⟨found, there⟩ := Option.isSome_iff_exists.mp (covered entry List.mem_cons_self)
    have added : addTo table entry = some (table.put (entry.1, found.2 + entry.2)) := by
      rw [addTo, there]
      rfl
    obtain ⟨result, rest, finds⟩ := ih (table.put (entry.1, found.2 + entry.2)) (by
      intro later member
      rw [Table.find?_put]
      split
      · rfl
      · exact covered later (List.mem_cons_of_mem _ member))
    refine ⟨result, ?_, fun k => ?_⟩
    · rw [List.foldlM_cons, added]
      exact rest
    · rw [finds, Table.find?_put, sumOf_cons]
      by_cases own : entry.1 = k
      · subst own
        have key : found.1 = entry.1 := Table.key_of_find? there
        rw [if_pos rfl, if_pos rfl, there, Option.map_some, Option.map_some, key, add_assoc]
      · rw [if_neg own, if_neg own, zero_add]

/-- **Both passes.** -/
theorem find?_tally (entries : List (κ × M)) : ∃ result, tally entries = some result ∧
    ∀ k, result.find? k = if k ∈ entries.map Prod.fst then some (k, sumOf entries k) else none := by
  obtain ⟨result, made, finds⟩ := find?_foldlM entries (zeroTally entries) (by
    intro entry member
    rw [find?_zeroTally, if_pos (List.mem_map_of_mem member)]
    rfl)
  refine ⟨result, made, fun k => ?_⟩
  rw [finds, find?_zeroTally]
  by_cases named : k ∈ entries.map Prod.fst
  · rw [if_pos named, if_pos named, Option.map_some, zero_add]
  · rw [if_neg named, if_neg named, Option.map_none]

/-- **In any order.** -/
theorem sumOf_perm (same : entries.Perm other) : sumOf entries k = sumOf other k :=
  ((same.filter _).map Prod.snd).sum_eq

/-- **In any groups.** -/
theorem sumOf_merge (key : κ) (first second : M) :
    sumOf ((key, first) :: (key, second) :: entries) k = sumOf ((key, first + second) :: entries) k := by
  rw [sumOf_cons, sumOf_cons, sumOf_cons, ← add_assoc]
  by_cases own : key = k
  · rw [if_pos own, if_pos own, if_pos own]
  · rw [if_neg own, if_neg own, if_neg own, zero_add]

end FoodDelivery.Lib
