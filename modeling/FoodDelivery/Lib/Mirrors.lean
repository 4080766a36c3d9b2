/-
**A table that copies another one, key by key.**

`Mirrors view source copy`: a lookup in the copy answers with the view of what the same lookup in the
source answers; a row whose view is `none` has no copy.

* `Mirrors.put`, `Mirrors.put_none`: a row is written and its view with it, or a row without a view;
* `Mirrors.put_of_view`: a row is written over with the same view, and nothing is copied;
* `Mirrors.modify`: rows are changed in place and keep their views.
-/

import FoodDelivery.Lib.Table

set_option autoImplicit false

namespace FoodDelivery.Lib

variable {κ ρ σ : Type} [DecidableEq κ] {key : ρ → κ} {copyKey : σ → κ}

/-- The copy holds the view of every row of the source that has one, and nothing else. -/
def Mirrors (view : ρ → Option σ) (source : Table κ ρ key) (copy : Table κ σ copyKey) : Prop :=
  ∀ k, copy.find? k = (source.find? k).bind view

variable {view : ρ → Option σ} {source : Table κ ρ key} {copy : Table κ σ copyKey}

theorem mirrors_empty (view : ρ → Option σ) :
    Mirrors view (Table.empty : Table κ ρ key) (Table.empty : Table κ σ copyKey) := fun _ => rfl

/-- **A row and its view.** -/
theorem Mirrors.put (mirrors : Mirrors view source copy) {row : ρ} {copied : σ}
    (seen : view row = some copied) (same : copyKey copied = key row) :
    Mirrors view (source.put row) (copy.put copied) := by
  intro k
  rw [Table.find?_put, Table.find?_put, same]
  by_cases own : key row = k
  · rw [if_pos own, if_pos own, Option.bind_some, seen]
  · rw [if_neg own, if_neg own, mirrors k]

/-- A row that has no view, over none that has. -/
theorem Mirrors.put_none (mirrors : Mirrors view source copy) {row : ρ} (unseen : view row = none)
    (absent : copy.find? (key row) = none) : Mirrors view (source.put row) copy := by
  intro k
  rw [Table.find?_put]
  by_cases own : key row = k
  · rw [if_pos own, Option.bind_some, unseen, ← own, absent]
  · rw [if_neg own, mirrors k]

/-- A row that is written over and looks the same. -/
theorem Mirrors.put_of_view (mirrors : Mirrors view source copy) {old row : ρ}
    (found : source.find? (key row) = some old) (looks : view row = view old) :
    Mirrors view (source.put row) copy := by
  intro k
  rw [Table.find?_put]
  by_cases own : key row = k
  · rw [if_pos own, Option.bind_some, looks, mirrors k, ← own, found, Option.bind_some]
  · rw [if_neg own, mirrors k]

/-- Rows that are changed in place and look the same. -/
theorem Mirrors.modify (mirrors : Mirrors view source copy) {change : ρ → ρ}
    (keeps : ∀ row, key (change row) = key row) (looks : ∀ row, view (change row) = view row) :
    Mirrors view (source.modify change keeps) copy := by
  intro k
  rw [Table.find?_modify, mirrors k]
  cases source.find? k with
  | none => rfl
  | some row => simp [looks]

end FoodDelivery.Lib
