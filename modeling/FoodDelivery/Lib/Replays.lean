/-
**A log that is handled at least once.**

A consumer handles stretches of a log, one after the other; each starts at or before the place where the
last one stopped, and the last one stops at the end. `Replay log handled` says that `handled` is what such
a consumer has handled.

* `Absorbs step`: a step that comes again later might as well not have been taken;
* `Absorbs.run_replay`: then a replay leaves what one pass over the log leaves;
* `keepLast value` holds the last value that came along, and absorbs (`absorbs_keepLast`); what it ends
  with is the last value in the log (`run_keepLast`);
* `view_replay`: a part of a larger state that keeps the last value ends with it after any replay;
* `perm_handled_iff`: once every place of a log has been handled, what was handled is the log, in some
  order, if and only if no place was handled twice.
-/

import FoodDelivery.Lib.Runs
import Mathlib.Data.List.Perm.Subperm

set_option autoImplicit false

namespace FoodDelivery.Lib

variable {σ ε α : Type}

/-! ### Replays -/

/-- The stretch of a log from one place up to another. -/
structure Segment where
  start : Nat
  stop : Nat
deriving DecidableEq, Repr

def Segment.of (segment : Segment) (log : List ε) : List ε :=
  (log.drop segment.start).take (segment.stop - segment.start)

/-- The segments resume one another, from a place in a log of some length to its end. -/
def Resumes (length : Nat) : Nat → List Segment → Prop
  | place, [] => place = length
  | place, segment :: segments =>
    segment.start ≤ place ∧ segment.start ≤ segment.stop ∧ segment.stop ≤ length ∧
      Resumes length segment.stop segments

instance (length : Nat) : ∀ place segments, Decidable (Resumes length place segments)
  | _, [] => inferInstanceAs (Decidable (_ = _))
  | _, segment :: segments =>
    have := instDecidableResumes length segment.stop segments
    inferInstanceAs (Decidable (_ ∧ _ ∧ _ ∧ _))

/-- **Handled at least once, from the start to the end.** -/
def Replay (log handled : List ε) : Prop :=
  ∃ segments, Resumes log.length 0 segments ∧ handled = segments.flatMap fun segment => segment.of log

/-- One pass in order. -/
theorem replay_self (log : List ε) : Replay log log :=
  ⟨[{ start := 0, stop := log.length }], ⟨le_refl 0, Nat.zero_le _, le_refl _, rfl⟩, by
    simp [Segment.of]⟩

/-- A segment, and then the log from a place that the segment has reached. -/
theorem Segment.of_append_drop (segment : Segment) (log : List ε) {place : Nat}
    (started : segment.start ≤ place) (reached : place ≤ segment.stop) :
    ∃ again, segment.of log = (log.drop segment.start).take (place - segment.start) ++ again ∧
      ∀ event ∈ again, event ∈ log.drop place := by
  refine ⟨((log.drop segment.start).drop (place - segment.start)).take (segment.stop - place), ?_, ?_⟩
  · unfold Segment.of
    rw [← List.take_add]
    congr 1
    omega
  · intro event member
    have here := List.mem_of_mem_take member
    rw [List.drop_drop] at here
    rwa [Nat.add_sub_of_le started] at here

/-! ### Steps that absorb -/

/-- A step that is taken again later leaves no other trace. -/
def Absorbs (step : σ → ε → σ) : Prop :=
  ∀ s event log, event ∈ log → run step (step s event) log = run step s log

variable {step : σ → ε → σ} {s : σ} {log handled : List ε}

theorem Absorbs.run_again (absorbs : Absorbs step) {again : List ε}
    (all : ∀ event ∈ again, event ∈ log) : run step s (again ++ log) = run step s log := by
  induction again generalizing s with
  | nil => rfl
  | cons event again ih =>
    have rest : ∀ other ∈ again, other ∈ log := fun other member =>
      all other (List.mem_cons_of_mem _ member)
    show run step (step s event) (again ++ log) = _
    rw [ih rest]
    exact absorbs s event log (all event List.mem_cons_self)

/-- The steps to come do not depend on where, up to here, they are taken up. -/
def Ready (step : σ → ε → σ) (log : List ε) (goal : σ) (place : Nat) (s : σ) : Prop :=
  ∀ earlier ≤ place, run step s (log.drop earlier) = goal

/-- **One segment.** -/
theorem Absorbs.ready_segment (absorbs : Absorbs step) {goal : σ} {place : Nat} {segment : Segment}
    (ready : Ready step log goal place s) (from_here : segment.start ≤ place)
    (forwards : segment.start ≤ segment.stop) :
    Ready step log goal segment.stop (run step s (segment.of log)) := by
  intro earlier reached
  rw [← run_append]
  by_cases inside : segment.start ≤ earlier
  · obtain ⟨again, cut, all⟩ := segment.of_append_drop log inside reached
    rw [cut, List.append_assoc, run_append, absorbs.run_again all, ← run_append]
    have joined : (log.drop segment.start).take (earlier - segment.start) ++ log.drop earlier =
        log.drop segment.start := by
      have tail : log.drop earlier = (log.drop segment.start).drop (earlier - segment.start) := by
        rw [List.drop_drop, Nat.add_sub_of_le inside]
      rw [tail, List.take_append_drop]
    rw [joined]
    exact ready segment.start from_here
  · obtain ⟨again, cut, all⟩ := segment.of_append_drop log (le_refl _) forwards
    rw [Nat.sub_self, List.take_zero, List.nil_append] at cut
    have before : earlier ≤ segment.start := by omega
    rw [cut, absorbs.run_again fun event member => ?_]
    · exact ready earlier (before.trans from_here)
    · exact (List.drop_sublist_drop_left log before).subset (all event member)

theorem Absorbs.run_resumes (absorbs : Absorbs step) {goal : σ} {place : Nat} {segments : List Segment}
    (ready : Ready step log goal place s) (resumes : Resumes log.length place segments) :
    run step s (segments.flatMap fun segment => segment.of log) = goal := by
  induction segments generalizing place s with
  | nil =>
    have done := ready place (le_refl _)
    rw [show place = log.length from resumes, List.drop_length] at done
    exact done
  | cons segment segments ih =>
    obtain ⟨from_here, forwards, _, rest⟩ := resumes
    rw [List.flatMap_cons, run_append]
    exact ih (absorbs.ready_segment ready from_here forwards) rest

/-- **A replay leaves what one pass leaves.** -/
theorem Absorbs.run_replay (absorbs : Absorbs step) (replay : Replay log handled) (s : σ) :
    run step s handled = run step s log := by
  obtain ⟨segments, resumes, rfl⟩ := replay
  refine absorbs.run_resumes (fun earlier start => ?_) resumes
  rw [Nat.le_zero.mp start]
  rfl

/-! ### Keeping the last value -/

/-- What is kept, after an event that may carry a value. -/
def keepLast (value : ε → Option α) (kept : α) (event : ε) : α := (value event).getD kept

theorem run_keepLast (value : ε → Option α) (kept : α) (log : List ε) :
    run (keepLast value) kept log = (log.filterMap value).getLast?.getD kept := by
  induction log generalizing kept with
  | nil => rfl
  | cons event log ih =>
    show run (keepLast value) (keepLast value kept event) log = _
    rw [ih]
    unfold keepLast
    cases carried : value event with
    | none => simp [carried]
    | some value' =>
      rw [List.filterMap_cons_some carried, List.getLast?_cons]
      rfl

theorem absorbs_keepLast (value : ε → Option α) : Absorbs (keepLast value) := by
  intro kept event log member
  rw [run_keepLast, run_keepLast]
  unfold keepLast
  cases carried : value event with
  | none => rfl
  | some value' =>
    have nonempty : log.filterMap value ≠ [] :=
      List.ne_nil_of_mem (List.mem_filterMap.mpr ⟨event, member, carried⟩)
    rw [List.getLast?_eq_some_getLast nonempty]
    rfl

/-- **What keeps the last value ends with it.** Of a state that takes steps with more than an event, as
long as `Q` holds, which every step keeps. -/
theorem view_replay {η : Type} {step : σ → ε × η → σ} {Q : σ → Prop} (view : σ → α)
    (value : ε → Option α) (keep : ∀ s label, Q s → Q (step s label))
    (keeps : ∀ s label, Q s → view (step s label) = keepLast value (view s) label.1)
    {handled : List (ε × η)} (replay : Replay log (handled.map Prod.fst)) (start : Q s) :
    view (run step s handled) = (log.filterMap value).getLast?.getD (view s) := by
  have follows : ∀ labels s, Q s →
      view (run step s labels) = run (keepLast value) (view s) (labels.map Prod.fst) := by
    intro labels
    induction labels with
    | nil => exact fun _ _ => rfl
    | cons label labels ih =>
      intro s holds
      show view (run step (step s label) labels) = _
      rw [ih _ (keep s label holds), keeps s label holds]
      rfl
  rw [follows handled s start, (absorbs_keepLast value).run_replay replay, run_keepLast]

/-! ### Places that are handled -/

/-- What was handled, by the places of it. -/
def handledAt (log : List ε) (places : List Nat) : List ε := places.filterMap fun i => log[i]?

theorem handledAt_append {log : List ε} {i : Nat} {event : ε} (found : log[i]? = some event)
    (places : List Nat) : handledAt log (places ++ [i]) = handledAt log places ++ [event] := by
  rw [handledAt, List.filterMap_append, List.filterMap_cons_some found, List.filterMap_nil]
  rfl

theorem handledAt_range (log : List ε) : handledAt log (List.range log.length) = log := by
  induction log using List.reverseRecOn with
  | nil => rfl
  | append_singleton log event ih =>
    have front : handledAt (log ++ [event]) (List.range log.length) = handledAt log (List.range log.length) :=
      List.filterMap_congr fun i member => List.getElem?_append_left (List.mem_range.mp member)
    rw [List.length_append, List.length_singleton, List.range_succ, handledAt, List.filterMap_append]
    show handledAt _ _ ++ _ = _
    rw [front, ih]
    simp

theorem length_handledAt {places : List Nat} (inside : ∀ i ∈ places, i < log.length) :
    (handledAt log places).length = places.length := by
  induction places with
  | nil => rfl
  | cons i places ih =>
    have here : log[i]? = some _ := List.getElem?_eq_getElem (inside i List.mem_cons_self)
    rw [handledAt, List.filterMap_cons_some here, List.length_cons, List.length_cons]
    exact congrArg Nat.succ (ih fun j member => inside j (List.mem_cons_of_mem _ member))

/-- **All of a log was handled**: each event once if and only if no place twice. -/
theorem perm_handled_iff (f : ε → α) {places : List Nat} (inside : ∀ i ∈ places, i < log.length)
    (covered : ∀ i < log.length, i ∈ places) :
    ((handledAt log places).map f).Perm (log.map f) ↔ places.Nodup := by
  constructor
  · intro same
    have length : places.length = log.length := by
      rw [← length_handledAt inside, ← List.length_map f, same.length_eq, List.length_map]
    have once : (List.range log.length).Subperm places :=
      List.nodup_range.subperm fun i member => covered i (List.mem_range.mp member)
    have equal := once.perm_of_length_le (by rw [List.length_range, length])
    exact equal.nodup_iff.mp List.nodup_range
  · intro distinct
    have equal : places.Perm (List.range log.length) :=
      (List.perm_ext_iff_of_nodup distinct List.nodup_range).mpr fun i =>
        ⟨fun member => List.mem_range.mpr (inside i member),
          fun member => covered i (List.mem_range.mp member)⟩
    have handled := (equal.filterMap fun i => log[i]?).map f
    rwa [show (List.range log.length).filterMap (fun i => log[i]?) = log from handledAt_range log] at handled

end FoodDelivery.Lib
