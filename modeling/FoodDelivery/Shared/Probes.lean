/-
**Probes of a dependency that is down** (`shared/http_client.py`).

When the cooldown has run out, `is_open` is false for every request until one of them has recorded how it
ended, so a burst probes all at once.

`oneProbe_iff`: in every run of any number of concurrent requests, after the cooldown at most one is in
flight and the others fail fast exactly when the cooldown runs out with at most one in flight and no
request starts after it while another is.
-/

import FoodDelivery.Shared.HttpClient
import Mathlib.Algebra.Order.Group.Int

set_option autoImplicit false

namespace FoodDelivery.Shared

open FoodDelivery.Lib

variable {T : Type} [AddGroup T] [LinearOrder T]

/-- **The circuit has opened and its cooldown has run out.** -/
def HalfOpen (settings : BreakerSettings T) (history : List (Recorded T)) (now : T) : Prop :=
  settings.threshold ≤ failuresSinceSuccess history ∧
    ∃ time, lastFailure history = some time ∧ settings.cooldownSeconds ≤ now - time

/-- At most one request is in flight then. -/
def OneProbe (client : ServiceClient T) (s : Calls T) : Prop :=
  HalfOpen client.settings s.history s.now → s.inFlight.length ≤ 1

/-- And the others fail fast. -/
def OthersFailFast (client : ServiceClient T) (s : Calls T) (event : CallEvent T) : Prop :=
  ∀ request, event = .start request → request ∉ s.inFlight → s.inFlight ≠ [] →
    HalfOpen client.settings s.history s.now → client.FailsFast s (client.step s event) request

/-- The cooldown does not run out with several requests in flight, and after it none starts while another
is in flight. -/
def Spaced (client : ServiceClient T) (s : Calls T) : CallEvent T → Prop
  | .tick later => s.now ≤ later → HalfOpen client.settings s.history later → s.inFlight.length ≤ 1
  | .start request =>
    request ∉ s.inFlight → HalfOpen client.settings s.history s.now → s.inFlight = []
  | .finish _ _ => True

section Step

variable {settings : BreakerSettings T} {client : ServiceClient T} {s : Calls T}
  {event : CallEvent T} {history : List (Recorded T)} {now : T}

/-- After the cooldown the breaker lets requests through. -/
theorem not_tripped_of_halfOpen (halfOpen : HalfOpen settings history now) :
    ¬ Tripped settings history now := by
  obtain ⟨-, time, last, run_out⟩ := halfOpen
  rintro ⟨-, other, same, recent⟩
  obtain rfl := Option.some_inj.mp (last.symm.trans same)
  exact absurd recent (not_lt.mpr run_out)

/-- What is recorded now, closes the circuit or starts a new cooldown. -/
theorem not_halfOpen_recorded {answer : HttpAnswer} (counts : answer.recorded now ≠ []) :
    ¬ HalfOpen settings (history ++ answer.recorded now) now := by
  have failed : ¬ HalfOpen settings (history ++ [.failure now]) now := by
    rintro ⟨-, time, last, run_out⟩
    obtain rfl := Option.some_inj.mp (lastFailure_failure.symm.trans last)
    rw [sub_self] at run_out
    exact absurd settings.cooldown_pos (not_lt.mpr run_out)
  have succeeded : ¬ HalfOpen settings (history ++ [.success]) now := by
    rintro ⟨enough, -⟩
    rw [failuresSinceSuccess_success] at enough
    exact absurd settings.threshold_pos (Nat.not_le.mpr (Nat.lt_one_iff.mpr (Nat.le_zero.mp enough)))
  cases answer with
  | timeout => exact failed
  | transportError => exact failed
  | raised exception => exact absurd rfl counts
  | response statusCode =>
    by_cases answered : statusCode < 500
    · simpa only [HttpAnswer.recorded, if_pos answered] using succeeded
    · simpa only [HttpAnswer.recorded, if_neg answered] using failed

/-- A request that starts after the cooldown is sent. -/
theorem step_start_halfOpen {request : Nat} (tracks : Tracks client.settings s.breaker s.history)
    (halfOpen : HalfOpen client.settings s.history s.now) (fresh : request ∉ s.inFlight) :
    client.step s (.start request) = { s with inFlight := request :: s.inFlight } :=
  step_start_closed fresh fun tripped =>
    not_tripped_of_halfOpen halfOpen ((isOpen_iff tracks).mp tripped)

/-- **A step that is spaced** keeps at most one probe. -/
theorem oneProbe_step (one : OneProbe client s) (spaced : Spaced client s event) :
    OneProbe client (client.step s event) := by
  cases event with
  | tick later =>
    by_cases forward : s.now ≤ later
    · rw [ServiceClient.step, if_pos forward]
      exact spaced forward
    · rw [ServiceClient.step, if_neg forward]
      exact one
  | start request =>
    by_cases fresh : request ∈ s.inFlight
    · rw [ServiceClient.step, if_pos fresh]
      exact one
    · by_cases tripped : s.breaker.isOpen client.settings s.now = true
      · rw [step_start_open fresh tripped]
        exact one
      · rw [step_start_closed fresh tripped]
        intro halfOpen
        show (request :: s.inFlight).length ≤ 1
        rw [spaced fresh halfOpen]
        exact Nat.le_refl 1
  | finish request answer =>
    by_cases sent : request ∈ s.inFlight
    · rw [step_finish sent]
      by_cases counts : answer.recorded s.now = []
      · -- nothing was recorded: the probe is over, and another may start
        intro halfOpen
        simp only [counts, List.append_nil] at halfOpen
        exact (List.erase_sublist.length_le).trans (one halfOpen)
      · exact fun halfOpen => absurd halfOpen (not_halfOpen_recorded counts)
    · rw [ServiceClient.step, if_neg sent]
      exact one

/-- **A step that is not** makes two. -/
theorem not_oneProbe_step (tracks : Tracks client.settings s.breaker s.history)
    (crowded : ¬ Spaced client s event) : ¬ OneProbe client (client.step s event) := by
  intro one
  refine crowded ?_
  cases event with
  | tick later =>
    intro forward
    rw [ServiceClient.step, if_pos forward] at one
    exact one
  | start request =>
    intro fresh halfOpen
    rw [step_start_halfOpen tracks halfOpen fresh] at one
    exact List.length_eq_zero_iff.mp (Nat.le_zero.mp (Nat.le_of_succ_le_succ (one halfOpen)))
  | finish request answer => exact trivial

theorem othersFailFast_of_spaced (spaced : Spaced client s event) : OthersFailFast client s event := by
  rintro request rfl fresh busy halfOpen
  exact absurd (spaced fresh halfOpen) busy

end Step

/-- **When there is one probe at a time.** -/
theorem oneProbe_iff (client : ServiceClient T) (start : T) (events : List (CallEvent T)) :
    (Always client.step (OneProbe client) { now := start } events ∧
        Throughout client.step (OthersFailFast client) { now := start } events) ↔
      Throughout client.step (Spaced client) { now := start } events := by
  have exact_rule : Always client.step (OneProbe client) { now := start } events ↔
      Throughout client.step (Spaced client) { now := start } events := by
    refine always_iff_throughout
      (Q := fun s => Tracks client.settings s.breaker s.history ∧ OneProbe client s) ?_ ?_ ?_ ?_
    · exact fun s event sound spaced => ⟨tracks_step sound.1, oneProbe_step sound.2 spaced⟩
    · exact fun s sound => sound.2
    · exact fun s event sound crowded => not_oneProbe_step sound.1 crowded
    · exact ⟨tracks_nil, fun _ => Nat.zero_le 1⟩
  constructor
  · exact fun safe => exact_rule.mp safe.1
  · intro spaced
    refine ⟨exact_rule.mpr spaced, ?_⟩
    exact spaced.mono fun s event => othersFailFast_of_spaced

/-- A client that fails fast for ten seconds after two failures. -/
def cautious : ServiceClient Int where
  name := "restaurants-service"
  settings := { threshold := 2, cooldownSeconds := 10, cooldown_pos := by decide }

/-- Two requests time out, and eleven seconds later two come at once. -/
def burst : List (CallEvent Int) :=
  [.start 1, .start 2, .finish 1 .timeout, .finish 2 .timeout, .tick 11, .start 3, .start 4]

/-- **Both are sent.** -/
theorem not_oneProbe_burst : ¬ ∀ (client : ServiceClient Int) (start : Int)
    (events : List (CallEvent Int)),
    Always client.step (OneProbe client) { now := start } events ∧
      Throughout client.step (OthersFailFast client) { now := start } events := by
  intro always
  have last := (always cautious 0 burst).1.last
  have halfOpen : HalfOpen cautious.settings [.failure 0, .failure 0] 11 :=
    ⟨by decide, 0, by decide, by decide⟩
  exact absurd (last halfOpen) (by decide)

end FoodDelivery.Shared
