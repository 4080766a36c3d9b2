/-
**Adding up over a table.**

`total weigh` is the sum of a weight over the rows. It depends only on what each key finds
(`total_congr`, `total_lt`), and a write changes it by the weight of the row that is
written and of the row that was there (`total_put`). `sum_map_set` is the same for a list that is
changed at one place.
-/

import FoodDelivery.Lib.Table
import Mathlib.Algebra.BigOperators.Group.Finset.Basic
import Mathlib.Algebra.GroupWithZero.Nat
import Mathlib.Algebra.Order.BigOperators.Group.Finset

set_option autoImplicit false

namespace FoodDelivery.Lib

/-- The sum of a weight over a list, when one entry is replaced. -/
theorem sum_map_set {α : Type} (weigh : α → Nat) {entries : List α} {i : Nat} {old : α}
    (present : entries[i]? = some old) (new : α) :
    ((entries.set i new).map weigh).sum + weigh old = (entries.map weigh).sum + weigh new := by
  induction entries generalizing i with
  | nil => cases present
  | cons first rest ih =>
    rcases i with _ | i
    · cases present
      simp only [List.set_cons_zero, List.map_cons, List.sum_cons]
      omega
    · have later := ih present
      simp only [List.set_cons_succ, List.map_cons, List.sum_cons]
      omega

namespace Table

variable {κ ρ : Type} {key : ρ → κ}

/-- The sum of a weight over the rows. -/
def total (table : Table κ ρ key) (weigh : ρ → Nat) : Nat := (table.rows.map weigh).sum

variable [DecidableEq κ]

/-- The weight of the row with a key. -/
def weight (table : Table κ ρ key) (weigh : ρ → Nat) (k : κ) : Nat := (table.find? k).elim 0 weigh

/-- The keys of a table. -/
def keys (table : Table κ ρ key) : Finset κ := (table.rows.map key).toFinset

variable {table other : Table κ ρ key} {weigh : ρ → Nat}

theorem weight_of_not_mem {k : κ} (absent : k ∉ table.keys) : table.weight weigh k = 0 := by
  have none_found : table.find? k = none := by
    refine find?_eq_none.mpr fun row member same => absent ?_
    exact List.mem_toFinset.mpr (same ▸ List.mem_map_of_mem member)
  rw [weight, none_found, Option.elim_none]

/-- **The total, key by key**, over any set of keys that has those of the table. -/
theorem total_eq_sum (weigh : ρ → Nat) {domain : Finset κ} (covers : table.keys ⊆ domain) :
    table.total weigh = ∑ k ∈ domain, table.weight weigh k := by
  have own : table.total weigh = ∑ k ∈ table.keys, table.weight weigh k := by
    unfold keys total
    rw [List.sum_toFinset _ table.unique, List.map_map]
    refine congrArg List.sum (List.map_congr_left fun row member => ?_)
    have found : table.find? (key row) = some row := find?_eq_some.mpr ⟨member, rfl⟩
    show weigh row = table.weight weigh (key row)
    rw [weight, found, Option.elim_some]
  rw [own]
  exact Finset.sum_subset covers fun k _ absent => weight_of_not_mem absent

theorem total_congr (same : ∀ k, table.weight weigh k = other.weight weigh k) :
    table.total weigh = other.total weigh := by
  rw [total_eq_sum weigh (Finset.subset_union_left : table.keys ⊆ table.keys ∪ other.keys),
    total_eq_sum weigh (Finset.subset_union_right : other.keys ⊆ table.keys ∪ other.keys)]
  exact Finset.sum_congr rfl fun k _ => same k

theorem total_lt (smaller : ∀ k, table.weight weigh k ≤ other.weight weigh k) {k : κ}
    (strict : table.weight weigh k < other.weight weigh k) :
    table.total weigh < other.total weigh := by
  have present : k ∈ other.keys := by
    by_contra absent
    rw [weight_of_not_mem absent] at strict
    exact Nat.not_lt_zero _ strict
  rw [total_eq_sum weigh (Finset.subset_union_left : table.keys ⊆ table.keys ∪ other.keys),
    total_eq_sum weigh (Finset.subset_union_right : other.keys ⊆ table.keys ∪ other.keys)]
  exact Finset.sum_lt_sum (fun k _ => smaller k) ⟨k, Finset.mem_union_right _ present, strict⟩

/-- **What a write adds**: the new row's weight, for the weight of the row that was there. -/
theorem total_put (table : Table κ ρ key) (row : ρ) (weigh : ρ → Nat) :
    (table.put row).total weigh + table.weight weigh (key row) = table.total weigh + weigh row := by
  let domain := insert (key row) ((table.put row).keys ∪ table.keys)
  have here : key row ∈ domain := Finset.mem_insert_self _ _
  have before := total_eq_sum weigh
    (Finset.subset_union_right.trans (Finset.subset_insert _ _) : table.keys ⊆ domain)
  have after := total_eq_sum weigh
    (Finset.subset_union_left.trans (Finset.subset_insert _ _) : (table.put row).keys ⊆ domain)
  rw [← Finset.add_sum_erase domain _ here] at before after
  have written : (table.put row).weight weigh (key row) = weigh row := by
    rw [weight, find?_put_self, Option.elim_some]
  have others : ∑ k ∈ domain.erase (key row), (table.put row).weight weigh k =
      ∑ k ∈ domain.erase (key row), table.weight weigh k := by
    refine Finset.sum_congr rfl fun k member => ?_
    rw [weight, weight, find?_put_other table (Ne.symm (Finset.ne_of_mem_erase member))]
  omega

end Table

end FoodDelivery.Lib
