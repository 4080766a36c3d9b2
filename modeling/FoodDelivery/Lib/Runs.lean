/-
**Runs of a step function.**

A system is a state type, a label type and a total step function; a label that is not enabled in a
state leaves it as it is, so every list of labels is a run and every interleaving is such a list.

* `run` is the state a run ends in, `Always` a property of every state it visits, `Throughout` a
  property of every step it takes, `Onward` a relation between every earlier and every later state;
* `always_of_throughout` is the invariant rule: what the first state has and every step that meets
  its condition keeps holds in every state visited;
* `always_iff_throughout` is its exact form: when a step that misses the condition breaks the
  property at once, a run is safe if and only if all its steps meet the condition
  (`always_iff_throughout_of_doomed` when the damage shows only later);
* `onward_iff_throughout`: a reflexive and transitive relation holds onwards through a run if and
  only if every single step respects it.
-/

import Mathlib.Data.List.Infix

namespace FoodDelivery.Lib

variable {σ ι : Type*} (step : σ → ι → σ)

/-- The state a run ends in. -/
def run (s : σ) (labels : List ι) : σ := labels.foldl step s

/-- `P` holds in every state the run visits, the first and the last included. -/
def Always (P : σ → Prop) : σ → List ι → Prop
  | s, [] => P s
  | s, label :: labels => P s ∧ Always P (step s label) labels

/-- Every step of the run is taken from a state and with a label that `G` relates. -/
def Throughout (G : σ → ι → Prop) : σ → List ι → Prop
  | _, [] => True
  | s, label :: labels => G s label ∧ Throughout G (step s label) labels

/-- `R` relates every state the run visits to every state it visits later. -/
def Onward (R : σ → σ → Prop) : σ → List ι → Prop
  | _, [] => True
  | s, label :: labels => Always step (R s) s (label :: labels) ∧ Onward R (step s label) labels

variable {step}

@[simp] theorem run_nil (s : σ) : run step s [] = s := rfl

theorem run_append (s : σ) (first second : List ι) :
    run step s (first ++ second) = run step (run step s first) second := by
  simp [run]

instance decidableThroughout (G : σ → ι → Prop) [∀ s label, Decidable (G s label)] :
    ∀ s labels, Decidable (Throughout step G s labels)
  | _, [] => .isTrue trivial
  | s, label :: labels =>
    have := decidableThroughout G (step s label) labels
    inferInstanceAs (Decidable (G s label ∧ Throughout step G (step s label) labels))

variable {P Q : σ → Prop} {G H : σ → ι → Prop} {R : σ → σ → Prop} {s : σ} {labels : List ι}

theorem Always.head (always : Always step P s labels) : P s := by
  cases labels with
  | nil => exact always
  | cons label labels => exact always.1

theorem Always.last (always : Always step P s labels) : P (run step s labels) := by
  induction labels generalizing s with
  | nil => exact always
  | cons label labels ih => exact ih always.2

theorem Always.mono (weaker : ∀ s, P s → Q s) (always : Always step P s labels) :
    Always step Q s labels := by
  induction labels generalizing s with
  | nil => exact weaker s always
  | cons label labels ih => exact ⟨weaker s always.1, ih always.2⟩

theorem Onward.mono {R' : σ → σ → Prop} (weaker : ∀ s t, R s t → R' s t)
    (onward : Onward step R s labels) : Onward step R' s labels := by
  induction labels generalizing s with
  | nil => trivial
  | cons label labels ih => exact ⟨onward.1.mono (weaker s), ih onward.2⟩

theorem Throughout.mono (weaker : ∀ s label, G s label → H s label)
    (throughout : Throughout step G s labels) : Throughout step H s labels := by
  induction labels generalizing s with
  | nil => trivial
  | cons label labels ih => exact ⟨weaker s label throughout.1, ih throughout.2⟩

/-- What every step does, the steps of a run do. -/
theorem throughout_of_forall (each : ∀ s label, G s label) : Throughout step G s labels := by
  induction labels generalizing s with
  | nil => trivial
  | cons label labels ih => exact ⟨each s label, ih⟩

theorem throughout_of_mem {G : σ → ι → Prop} (each : ∀ label ∈ labels, ∀ s, G s label) :
    Throughout step G s labels := by
  induction labels generalizing s with
  | nil => trivial
  | cons label labels ih =>
    exact ⟨each label List.mem_cons_self s, ih fun later member => each later (List.mem_cons_of_mem _ member)⟩

/-- What every step from a state with an invariant does, the steps of a run do. -/
theorem throughout_of_step (keep : ∀ s label, P s → P (step s label))
    (each : ∀ s label, P s → G s label) (start : P s) : Throughout step G s labels := by
  induction labels generalizing s with
  | nil => trivial
  | cons label labels ih => exact ⟨each s label start, ih (keep s label start)⟩

/-- Two conditions that say the same of the steps from states with an invariant. -/
theorem throughout_congr (keep : ∀ s label, P s → P (step s label))
    (same : ∀ s label, P s → (G s label ↔ H s label)) (start : P s) :
    Throughout step G s labels ↔ Throughout step H s labels := by
  induction labels generalizing s with
  | nil => exact Iff.rfl
  | cons label labels ih =>
    exact and_congr (same s label start) (ih (keep s label start))

theorem Throughout.and (first : Throughout step G s labels) (second : Throughout step H s labels) :
    Throughout step (fun s label => G s label ∧ H s label) s labels := by
  induction labels generalizing s with
  | nil => trivial
  | cons label labels ih => exact ⟨⟨first.1, second.1⟩, ih first.2 second.2⟩

/-- **The invariant rule.** What the first state has, and every step that meets `G` keeps, holds in
every state of a run whose steps all meet `G`. -/
theorem always_of_throughout (keep : ∀ s label, P s → G s label → P (step s label)) (start : P s)
    (throughout : Throughout step G s labels) : Always step P s labels := by
  induction labels generalizing s with
  | nil => exact start
  | cons label labels ih =>
    exact ⟨start, ih (keep s label start throughout.1) throughout.2⟩

/-- **A condition that gives another.** Steps that meet `G` keep an invariant, and from where it holds they
meet `H` as well. -/
theorem throughout_of_throughout (keep : ∀ s label, P s → G s label → P (step s label))
    (each : ∀ s label, P s → G s label → H s label) (start : P s)
    (throughout : Throughout step G s labels) : Throughout step H s labels := by
  induction labels generalizing s with
  | nil => trivial
  | cons label labels ih =>
    exact ⟨each s label start throughout.1, ih (keep s label start throughout.1) throughout.2⟩

/-- What every step keeps holds in every state. -/
theorem always_of_step (keep : ∀ s label, P s → P (step s label)) (start : P s) :
    Always step P s labels := by
  induction labels generalizing s with
  | nil => exact start
  | cons label labels ih => exact ⟨start, ih (keep s label start)⟩

/-- What no step can restore held all along, if it holds at the end. -/
theorem always_of_last (lost : ∀ s label, P (step s label) → P s) (last : P (run step s labels)) :
    Always step P s labels := by
  induction labels generalizing s with
  | nil => exact last
  | cons label labels ih =>
    have rest := ih last
    exact ⟨lost s label rest.head, rest⟩

/-- **The exact invariant rule.** `Q` is an invariant of the steps that meet `G` and implies `P`;
a step that misses `G` leaves `P`. Then a run stays in `P` if and only if all its steps meet `G`. -/
theorem always_iff_throughout (keep : ∀ s label, Q s → G s label → Q (step s label))
    (implies : ∀ s, Q s → P s) (breaks : ∀ s label, Q s → ¬ G s label → ¬ P (step s label))
    (start : Q s) : Always step P s labels ↔ Throughout step G s labels := by
  refine ⟨fun always => ?_, fun met => (always_of_throughout keep start met).mono implies⟩
  induction labels generalizing s with
  | nil => trivial
  | cons label labels ih =>
    obtain ⟨_, rest⟩ := always
    have met : G s label := by
      by_contra missed
      exact breaks s label start missed rest.head
    exact ⟨met, ih (keep s label start met) rest⟩

/-- A doomed state stays doomed until the property breaks, so a run that leaves it has broken it. -/
theorem not_always_of_doomed {Doomed : σ → Prop}
    (persists : ∀ s label, Doomed s → Doomed (step s label) ∨ ¬ P (step s label))
    (doomed : Doomed s) (escaped : ¬ Doomed (run step s labels)) : ¬ Always step P s labels := by
  induction labels generalizing s with
  | nil => exact absurd doomed escaped
  | cons label labels ih =>
    rintro ⟨_, rest⟩
    rcases persists s label doomed with still | broken
    · exact ih still escaped rest
    · exact broken rest.head

/-- **The exact invariant rule, when the damage shows later.** A step that misses `G` dooms the run,
and a doomed state stays doomed until the property breaks. Then a run that does not end doomed stays
in `P` if and only if all its steps meet `G`. -/
theorem always_iff_throughout_of_doomed {Doomed : σ → Prop}
    (keep : ∀ s label, Q s → G s label → Q (step s label)) (implies : ∀ s, Q s → P s)
    (dooms : ∀ s label, Q s → ¬ G s label → Doomed (step s label))
    (persists : ∀ s label, Doomed s → Doomed (step s label) ∨ ¬ P (step s label))
    (start : Q s) (escaped : ¬ Doomed (run step s labels)) :
    Always step P s labels ↔ Throughout step G s labels := by
  refine ⟨fun always => ?_, fun met => (always_of_throughout keep start met).mono implies⟩
  induction labels generalizing s with
  | nil => trivial
  | cons label labels ih =>
    obtain ⟨_, rest⟩ := always
    have met : G s label := by
      by_contra missed
      exact not_always_of_doomed persists (dooms s label start missed) escaped rest
    exact ⟨met, ih (keep s label start met) escaped rest⟩

theorem always_of_relates (relates : ∀ s t u, R s t → R t u → R s u) {origin : σ}
    (here : R origin s) (steps : Throughout step (fun s label => R s (step s label)) s labels) :
    Always step (R origin) s labels :=
  always_of_throughout (fun t label soFar one => relates origin t (step t label) soFar one) here steps

/-- **Step by step is onwards.** A reflexive and transitive relation holds between every earlier and
every later state exactly when every single step respects it. -/
theorem onward_iff_throughout (reflexive : ∀ s, R s s)
    (transitive : ∀ s t u, R s t → R t u → R s u) :
    Onward step R s labels ↔ Throughout step (fun s label => R s (step s label)) s labels := by
  induction labels generalizing s with
  | nil => exact Iff.rfl
  | cons label labels ih =>
    constructor
    · rintro ⟨here, rest⟩
      exact ⟨here.2.head, ih.mp rest⟩
    · rintro ⟨one, rest⟩
      refine ⟨⟨reflexive s, ?_⟩, ih.mpr rest⟩
      exact always_of_relates transitive one rest

end FoodDelivery.Lib
