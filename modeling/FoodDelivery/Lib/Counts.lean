/-
**Counting along a run.**

`times` is how many steps of a run meet a condition. `measure_run` is the counting rule: a measure that
every step raises by one when it meets the condition, and leaves otherwise, has been raised as many
times at the end of a run. `times_or` splits a count by two conditions that exclude each other, and
`times_eq_zero` says a count is nothing exactly when no step meets its condition.
-/

import FoodDelivery.Lib.Runs

set_option autoImplicit false

namespace FoodDelivery.Lib

variable {σ ι : Type*} (step : σ → ι → σ)

/-- How many steps of the run are taken from a state and with a label that `G` relates. -/
def times (G : σ → ι → Bool) : σ → List ι → Nat
  | _, [] => 0
  | s, label :: labels => (if G s label then 1 else 0) + times G (step s label) labels

variable {step} {G H : σ → ι → Bool} {P : σ → Prop} {s : σ} {labels : List ι}

@[simp] theorem times_nil : times step G s [] = 0 := rfl

@[simp] theorem times_cons (label : ι) : times step G s (label :: labels) =
    (if G s label then 1 else 0) + times step G (step s label) labels := rfl

theorem times_eq_zero :
    times step G s labels = 0 ↔ Throughout step (fun s label => G s label = false) s labels := by
  induction labels generalizing s with
  | nil => simp [Throughout]
  | cons label labels ih =>
    rw [times_cons, Nat.add_eq_zero_iff, ih, Throughout]
    simp

theorem times_or (apart : ∀ s label, G s label = true → H s label = false) :
    times step (fun s label => G s label || H s label) s labels =
      times step G s labels + times step H s labels := by
  induction labels generalizing s with
  | nil => simp
  | cons label labels ih =>
    simp only [times_cons, ih]
    by_cases meets : G s label = true
    · simp only [meets, apart s label meets, Bool.true_or, if_true, Bool.false_eq_true, if_false]
      omega
    · simp only [meets, Bool.false_or, Bool.false_eq_true, if_false]
      omega

/-- **The counting rule.** -/
theorem measure_run (measure : σ → Nat) (keep : ∀ s label, P s → P (step s label))
    (counts : ∀ s label, P s →
      measure (step s label) = measure s + if G s label then 1 else 0) (start : P s) :
    measure (run step s labels) = measure s + times step G s labels := by
  induction labels generalizing s with
  | nil => simp
  | cons label labels ih =>
    have rest := ih (keep s label start)
    have first := counts s label start
    rw [times_cons]
    change measure (run step (step s label) labels) = _
    omega

end FoodDelivery.Lib
