/-
**The circuit breaker and the client it protects** (`shared/http_client.py`).

A breaker keeps a count and a time. What it stands for is the history of what was recorded:

* `isOpen_iff`: it is open exactly when at least `threshold` failures were recorded since the last
  success and the cooldown has not run out since the last failure;
* `circuit_protects`: in every run of concurrent requests that share the breaker, those that start in such
  a period fail fast and all others are sent; an answer below 500, a 4xx too, is recorded as a success,
  and a timeout, a transport error and a 5xx as a failure.

Times are elements of any ordered group.
-/

import FoodDelivery.Lib.Runs
import FoodDelivery.Shared.Basic
import Mathlib.Algebra.Order.Group.Defs
import Mathlib.Data.List.DropRight

set_option autoImplicit false

namespace FoodDelivery.Shared

open FoodDelivery.Lib

variable {T : Type} [AddGroup T] [LinearOrder T]

/-! ### The breaker -/

/-- What a `CircuitBreaker` is made with. -/
structure BreakerSettings (T : Type) [AddGroup T] [LinearOrder T] where
  threshold : Nat := 5
  cooldownSeconds : T
  threshold_pos : 1 ≤ threshold := by decide
  cooldown_pos : 0 < cooldownSeconds

/-- What it keeps: `_failures` and `_opened_at`. -/
structure CircuitBreaker (T : Type) where
  failures : Nat := 0
  openedAt : Option T := none
deriving DecidableEq, Repr

namespace CircuitBreaker

/-- `is_open`, at the time that the clock shows. -/
def isOpen (settings : BreakerSettings T) (breaker : CircuitBreaker T) (now : T) : Bool :=
  match breaker.openedAt with
  | none => false
  | some openedAt => if now - openedAt ≥ settings.cooldownSeconds then false else true

/-- `record_success`. -/
def recordSuccess (_ : CircuitBreaker T) : CircuitBreaker T := { failures := 0, openedAt := none }

/-- `record_failure`, at the time that the clock shows. -/
def recordFailure (settings : BreakerSettings T) (breaker : CircuitBreaker T) (now : T) :
    CircuitBreaker T :=
  let failures := breaker.failures + 1
  { failures := failures
    openedAt := if failures ≥ settings.threshold then some now else breaker.openedAt }

end CircuitBreaker

/-- What is recorded. -/
inductive Recorded (T : Type) where
  | success
  | failure (time : T)
deriving DecidableEq, Repr

def CircuitBreaker.record (settings : BreakerSettings T) (breaker : CircuitBreaker T) :
    Recorded T → CircuitBreaker T
  | .success => breaker.recordSuccess
  | .failure time => breaker.recordFailure settings time

/-! ### What it stands for -/

def Recorded.isFailure : Recorded T → Bool
  | .success => false
  | .failure _ => true

def Recorded.failedAt : Recorded T → Option T
  | .success => none
  | .failure time => some time

/-- The number of failures since the last success. -/
def failuresSinceSuccess (history : List (Recorded T)) : Nat :=
  (history.rtakeWhile Recorded.isFailure).length

/-- The time of the last failure. -/
def lastFailure (history : List (Recorded T)) : Option T :=
  (history.filterMap Recorded.failedAt).getLast?

/-- **The circuit is open**: enough failures since the last success, the last of them recently. -/
def Tripped (settings : BreakerSettings T) (history : List (Recorded T)) (now : T) : Prop :=
  settings.threshold ≤ failuresSinceSuccess history ∧
    ∃ time, lastFailure history = some time ∧ now - time < settings.cooldownSeconds

section History

variable {settings : BreakerSettings T} {breaker : CircuitBreaker T} {history : List (Recorded T)}
  {now time : T}

omit [AddGroup T] [LinearOrder T] in
@[simp] theorem failuresSinceSuccess_success :
    failuresSinceSuccess (history ++ [.success]) = 0 := by
  simp [failuresSinceSuccess, Recorded.isFailure]

omit [AddGroup T] [LinearOrder T] in
@[simp] theorem failuresSinceSuccess_failure :
    failuresSinceSuccess (history ++ [.failure time]) = failuresSinceSuccess history + 1 := by
  simp [failuresSinceSuccess, List.rtakeWhile_concat, Recorded.isFailure]

omit [AddGroup T] [LinearOrder T] in
@[simp] theorem lastFailure_failure : lastFailure (history ++ [.failure time]) = some time := by
  simp [lastFailure, Recorded.failedAt]

/-- **What the count and the time are**, in terms of the history. -/
structure Tracks (settings : BreakerSettings T) (breaker : CircuitBreaker T)
    (history : List (Recorded T)) : Prop where
  failures : breaker.failures = failuresSinceSuccess history
  openedAt : breaker.openedAt =
    if settings.threshold ≤ failuresSinceSuccess history then lastFailure history else none

theorem tracks_nil : Tracks settings {} [] := by
  refine ⟨rfl, (if_neg ?_).symm⟩
  exact Nat.not_le_of_gt settings.threshold_pos

theorem tracks_record (tracks : Tracks settings breaker history) (recorded : Recorded T) :
    Tracks settings (breaker.record settings recorded) (history ++ [recorded]) := by
  cases recorded with
  | success =>
    refine ⟨failuresSinceSuccess_success.symm, ?_⟩
    rw [failuresSinceSuccess_success, if_neg (Nat.not_le_of_gt settings.threshold_pos)]
    rfl
  | failure time =>
    refine ⟨?_, ?_⟩
    · rw [failuresSinceSuccess_failure, ← tracks.failures]
      rfl
    · rw [failuresSinceSuccess_failure, lastFailure_failure, ← tracks.failures]
      by_cases enough : settings.threshold ≤ breaker.failures + 1
      · rw [if_pos enough]
        exact if_pos enough
      · -- the circuit was not open either
        have fewer : ¬ settings.threshold ≤ failuresSinceSuccess history := by
          rw [← tracks.failures]
          exact fun some_before => enough (Nat.le_succ_of_le some_before)
        rw [if_neg enough]
        exact (if_neg enough).trans (tracks.openedAt.trans (if_neg fewer))

theorem tracks_run (tracks : Tracks settings breaker history) (more : List (Recorded T)) :
    Tracks settings (run (CircuitBreaker.record settings) breaker more) (history ++ more) := by
  induction more generalizing breaker history with
  | nil => simpa using tracks
  | cons recorded more hyp =>
    have longer := hyp (tracks_record tracks recorded)
    rw [List.append_assoc, List.singleton_append] at longer
    exact longer

/-- **When the breaker is open.** -/
theorem isOpen_iff (tracks : Tracks settings breaker history) :
    breaker.isOpen settings now = true ↔ Tripped settings history now := by
  rw [CircuitBreaker.isOpen, tracks.openedAt]
  by_cases enough : settings.threshold ≤ failuresSinceSuccess history
  · rw [if_pos enough]
    refine Iff.trans ?_ (and_iff_right enough).symm
    cases lastFailure history with
    | none => simp
    | some time => simp
  · rw [if_neg enough]
    refine iff_of_false Bool.false_ne_true fun tripped => enough tripped.1

end History

/-! ### The client -/

/-- A `ServiceClient`, as far as its requests depend on it. -/
structure ServiceClient (T : Type) [AddGroup T] [LinearOrder T] where
  name : String
  settings : BreakerSettings T

/-- `ServiceUnavailableException`. -/
def serviceUnavailableException (message : String) : AppException where
  message := message
  statusCode := 503

def ServiceClient.unavailable (client : ServiceClient T) : Raised :=
  .app (serviceUnavailableException (client.name ++ " is unavailable"))

/-- How an HTTP call ends: with a response, with one of the two kinds of exceptions that are handled, or
with another one, such as a cancellation. -/
inductive HttpAnswer where
  | response (statusCode : Nat)
  | timeout
  | transportError
  | raised (exception : Raised)

/-- `request`, from where the call has ended: what it leaves of the breaker, and the status of the
response that it returns or what it raises. -/
def ServiceClient.settle (client : ServiceClient T) (breaker : CircuitBreaker T) (now : T) :
    HttpAnswer → CircuitBreaker T × Except Raised Nat
  | .timeout => (breaker.recordFailure client.settings now, .error client.unavailable)
  | .transportError => (breaker.recordFailure client.settings now, .error client.unavailable)
  | .raised exception => (breaker, .error exception)
  | .response statusCode =>
    if statusCode ≥ 500 then
      (breaker.recordFailure client.settings now, .error client.unavailable)
    else (breaker.recordSuccess, .ok statusCode)

/-- What an answer says about the dependency. -/
def HttpAnswer.recorded (now : T) : HttpAnswer → List (Recorded T)
  | .response statusCode => if statusCode < 500 then [.success] else [.failure now]
  | .timeout => [.failure now]
  | .transportError => [.failure now]
  | .raised _ => []

theorem breaker_settle (client : ServiceClient T) (breaker : CircuitBreaker T) (now : T)
    (answer : HttpAnswer) :
    (client.settle breaker now answer).1 =
      run (CircuitBreaker.record client.settings) breaker (answer.recorded now) := by
  cases answer with
  | timeout => rfl
  | transportError => rfl
  | raised exception => rfl
  | response statusCode =>
    rw [ServiceClient.settle, HttpAnswer.recorded]
    by_cases broken : statusCode ≥ 500
    · rw [if_pos broken, if_neg (Nat.not_lt.mpr broken)]
      rfl
    · rw [if_neg broken, if_pos (Nat.lt_of_not_ge broken)]
      rfl

/-! ### Concurrent requests -/

/-- The requests that share a client: those in flight, and the results of those that have ended.
`history` is what their answers said about the dependency. -/
structure Calls (T : Type) where
  now : T
  breaker : CircuitBreaker T := {}
  inFlight : List Nat := []
  results : List (Nat × Except Raised Nat) := []
  history : List (Recorded T) := []

/-- What happens next: time goes by, a request looks at the breaker and is sent, or an answer comes. -/
inductive CallEvent (T : Type) where
  | tick (later : T)
  | start (request : Nat)
  | finish (request : Nat) (answer : HttpAnswer)

/-- Between two events nothing else runs: there is no `await` between the check of the breaker and the
call, nor between the answer and its recording. -/
def ServiceClient.step (client : ServiceClient T) (s : Calls T) : CallEvent T → Calls T
  | .tick later => if s.now ≤ later then { s with now := later } else s
  | .start request =>
    if request ∈ s.inFlight then s
    else if s.breaker.isOpen client.settings s.now then
      { s with results := s.results ++ [(request, .error client.unavailable)] }
    else { s with inFlight := request :: s.inFlight }
  | .finish request answer =>
    if request ∈ s.inFlight then
      let settled := client.settle s.breaker s.now answer
      { s with
        breaker := settled.1
        inFlight := s.inFlight.erase request
        results := s.results ++ [(request, settled.2)]
        history := s.history ++ answer.recorded s.now }
    else s

/-- The request ends without a call. -/
def ServiceClient.FailsFast (client : ServiceClient T) (s next : Calls T) (request : Nat) : Prop :=
  next.inFlight = s.inFlight ∧
    next.results = s.results ++ [(request, .error client.unavailable)]

/-- The call goes out. -/
def Calls.Sends (s next : Calls T) (request : Nat) : Prop :=
  next.inFlight = request :: s.inFlight ∧ next.results = s.results

/-- **What every event does**: a request that starts fails fast while the circuit is open, and is sent
otherwise; an answer is recorded as what it says. -/
structure Protects (client : ServiceClient T) (s : Calls T) (event : CallEvent T) : Prop where
  open_fails : ∀ request, event = .start request → request ∉ s.inFlight →
    Tripped client.settings s.history s.now → client.FailsFast s (client.step s event) request
  closed_sends : ∀ request, event = .start request → request ∉ s.inFlight →
    ¬ Tripped client.settings s.history s.now → s.Sends (client.step s event) request
  records : ∀ request answer, event = .finish request answer → request ∈ s.inFlight →
    (client.step s event).breaker =
      run (CircuitBreaker.record client.settings) s.breaker (answer.recorded s.now)

section Client

variable {client : ServiceClient T} {s : Calls T} {event : CallEvent T} {request : Nat}
  {answer : HttpAnswer}

theorem step_finish (sent : request ∈ s.inFlight) :
    client.step s (.finish request answer) =
      { s with
        breaker := (client.settle s.breaker s.now answer).1
        inFlight := s.inFlight.erase request
        results := s.results ++ [(request, (client.settle s.breaker s.now answer).2)]
        history := s.history ++ answer.recorded s.now } :=
  if_pos sent

theorem step_start_open (fresh : request ∉ s.inFlight)
    (tripped : s.breaker.isOpen client.settings s.now = true) :
    client.step s (.start request) =
      { s with results := s.results ++ [(request, .error client.unavailable)] } :=
  (if_neg fresh).trans (if_pos tripped)

theorem step_start_closed (fresh : request ∉ s.inFlight)
    (closed : ¬ s.breaker.isOpen client.settings s.now = true) :
    client.step s (.start request) = { s with inFlight := request :: s.inFlight } :=
  (if_neg fresh).trans (if_neg closed)

/-- **Every event keeps the breaker in step with the history.** -/
theorem tracks_step (tracks : Tracks client.settings s.breaker s.history) :
    Tracks client.settings (client.step s event).breaker (client.step s event).history := by
  cases event with
  | tick later =>
    simp only [ServiceClient.step]
    split_ifs
    · exact tracks
    · exact tracks
  | start request =>
    simp only [ServiceClient.step]
    split_ifs
    · exact tracks
    · exact tracks
    · exact tracks
  | finish request answer =>
    by_cases sent : request ∈ s.inFlight
    · rw [step_finish sent]
      simp only [breaker_settle]
      exact tracks_run tracks _
    · rw [ServiceClient.step, if_neg sent]
      exact tracks

theorem protects_of_tracks (tracks : Tracks client.settings s.breaker s.history) :
    Protects client s event := by
  refine ⟨?_, ?_, ?_⟩
  · rintro request rfl fresh tripped
    rw [step_start_open fresh ((isOpen_iff tracks).mpr tripped)]
    exact ⟨rfl, rfl⟩
  · rintro request rfl fresh closed
    rw [step_start_closed fresh fun tripped => closed ((isOpen_iff tracks).mp tripped)]
    exact ⟨rfl, rfl⟩
  · rintro request answer rfl sent
    rw [step_finish sent]
    exact breaker_settle client s.breaker s.now answer

/-- **The breaker as a property of what was recorded.** For all settings, after every history it is open
at a time exactly when it should be; and in every run of concurrent requests, exactly those that start
while it should be open fail fast. -/
theorem circuit_protects (client : ServiceClient T) (start : T) (events : List (CallEvent T)) :
    (∀ (settings : BreakerSettings T) (history : List (Recorded T)) (now : T),
      (run (CircuitBreaker.record settings) {} history).isOpen settings now = true ↔
        Tripped settings history now) ∧
      Throughout client.step (Protects client) { now := start } events := by
  constructor
  · intro settings history now
    exact isOpen_iff (tracks_run tracks_nil history)
  · refine throughout_of_step (P := fun s => Tracks client.settings s.breaker s.history) ?_ ?_ ?_
    · exact fun s event => tracks_step
    · exact fun s event => protects_of_tracks
    · exact tracks_nil

end Client

end FoodDelivery.Shared
