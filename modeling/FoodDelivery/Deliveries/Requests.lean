/-
**When Google is not asked.**

A 403 is the answer to a disabled API, a revoked key or lapsed billing, and the same on every retry. The
poll that meets it sets a flag for ten minutes, and every poll looks at the flag before it asks.

`requests_after_rejection`: until the flag expires, the requests that are still sent are those of the polls
that had looked before. `spent_step`: while it is set, what was sent and what is about to be do not grow.
-/

import FoodDelivery.Deliveries.Tracking

set_option autoImplicit false

namespace FoodDelivery.Deliveries

open FoodDelivery.Lib

variable {settings : TrackingSettings} {t : Tracking} {poll : Poll}

/-! ### Requests -/

/-- The polls whose request is the next thing they send. -/
def Tracking.cleared (t : Tracking) : Nat := t.polls.countP fun poll => poll.phase.isCleared

/-- The requests that were sent, and those that are about to be. -/
def Tracking.spent (t : Tracking) : Nat := t.requests + t.cleared

/-- The flag was set, and does not expire before its time. -/
structure Suppressed (since : Timestamp) (t : Tracking) : Prop where
  flag : ∃ expires, t.mapsDisabled = some { value := (), expires := some expires } ∧
    since + mapsDisabledTtlSeconds ≤ expires
  onward : since ≤ t.now

section Requests

variable {since : Timestamp} {i : Nat}

theorem cleared_moved (found : t.polls[i]? = some poll) (phase : PollPhase) :
    (t.moved i poll phase).cleared + poll.phase.isCleared.toNat =
      t.cleared + phase.isCleared.toNat := by
  obtain ⟨before, after, split, set⟩ := split_of_found found
  unfold Tracking.cleared Tracking.moved
  rw [set, split]
  simp only [List.countP_append, List.countP_cons]
  cases poll.phase.isCleared <;> cases phase.isCleared <;> simp <;> omega

/-- A poll that goes on to anything but a request. -/
theorem cleared_moved_le (found : t.polls[i]? = some poll) {phase : PollPhase}
    (kept : phase.isCleared = true → poll.phase.isCleared = true) :
    (t.moved i poll phase).cleared ≤ t.cleared := by
  have moved := cleared_moved found phase
  cases held : phase.isCleared with
  | false =>
    rw [held] at moved
    exact (Nat.le_add_right _ _).trans moved.le
  | true =>
    rw [held, kept held] at moved
    exact (Nat.add_right_cancel moved).le

/-- **While the flag is set**, nothing more is spent. -/
theorem spent_step (redis : settings.redis = true) (suppressed : Suppressed since t)
    (early : t.now < since + mapsDisabledTtlSeconds) (label : TrackingStep) :
    Suppressed since (t.step settings label) ∧ (t.step settings label).spent ≤ t.spent := by
  obtain ⟨⟨expires, flag, lasts⟩, onward⟩ := suppressed
  have alive : t.mapsDisabled.read t.now ≠ none := by
    rw [flag, Cell.read, Option.filter_some_pos (by simpa [Lasting.alive] using lt_of_lt_of_le early lasts)]
    exact Option.some_ne_none _
  have done := stepped settings t label
  generalize t.step settings label = next at done
  cases done with
  | same => exact ⟨⟨⟨expires, flag, lasts⟩, onward⟩, le_rfl⟩
  | ticked later passes => exact ⟨⟨⟨expires, flag, lasts⟩, onward.trans passes⟩, le_rfl⟩
  | operated op =>
    obtain ⟨now, -, polls, -, disabled, requests, -⟩ := operate_frame t op
    refine ⟨⟨⟨expires, disabled.trans flag, lasts⟩, onward.trans now.ge⟩, ?_⟩
    unfold Tracking.spent Tracking.cleared
    rw [requests, polls]
  | deleted k orderId listed => exact ⟨⟨⟨expires, flag, lasts⟩, onward⟩, le_rfl⟩
  | located turn location => exact ⟨⟨⟨expires, flag, lasts⟩, onward⟩, le_rfl⟩
  | arrived caller orderId =>
    refine ⟨⟨⟨expires, flag, lasts⟩, onward⟩, ?_⟩
    unfold Tracking.spent Tracking.cleared
    rw [List.countP_append, List.countP_singleton]
    exact le_rfl
  | went i poll reply move found fits =>
    cases fits with
    | reads =>
      exact ⟨⟨⟨expires, flag, lasts⟩, onward⟩,
        Nat.add_le_add_left (cleared_moved_le found fun clear => by cases clear) _⟩
    | passes delivery held allowed =>
      exact ⟨⟨⟨expires, flag, lasts⟩, onward⟩,
        Nat.add_le_add_left (cleared_moved_le found fun clear => by cases clear) _⟩
    | onward phase leg passed clear =>
      exact ⟨⟨⟨expires, flag, lasts⟩, onward⟩,
        Nat.add_le_add_left (cleared_moved_le found fun set => absurd (clear set redis) alive) _⟩
    | sends journey held =>
      refine ⟨⟨⟨expires, flag, lasts⟩, onward⟩, ?_⟩
      have moved := cleared_moved found (.requesting journey)
      rw [held] at moved
      show t.requests + 1 + (t.moved i poll (.requesting journey)).cleared ≤ t.requests + t.cleared
      simp only [PollPhase.isCleared, Bool.toNat_true, Bool.toNat_false] at moved
      omega
    | suppresses journey held =>
      refine ⟨⟨⟨t.now + mapsDisabledTtlSeconds, if_pos redis, Int.add_le_add_right onward _⟩, onward⟩, ?_⟩
      exact Nat.add_le_add_left (cleared_moved_le found fun clear => by cases clear) _
    | bare journey passed =>
      exact ⟨⟨⟨expires, flag, lasts⟩, onward⟩,
        Nat.add_le_add_left (cleared_moved_le found fun clear => by cases clear) _⟩
    | cached journey routed held stored =>
      exact ⟨⟨⟨expires, flag, lasts⟩, onward⟩,
        Nat.add_le_add_left (cleared_moved_le found fun clear => by cases clear) _⟩
    | stores journey estimate held =>
      exact ⟨⟨⟨expires, flag, lasts⟩, onward⟩,
        Nat.add_le_add_left (cleared_moved_le found fun clear => by cases clear) _⟩
  | raised i poll raised found =>
    refine ⟨⟨⟨expires, flag, lasts⟩, onward⟩, Nat.add_le_add_left (cleared_moved_le found ?_) _⟩
    intro clear
    cases held : poll.phase <;> rw [held] at clear <;> first | rfl | cases clear

theorem now_le_step (settings : TrackingSettings) (t : Tracking) (label : TrackingStep) :
    t.now ≤ (t.step settings label).now := by
  have done := stepped settings t label
  generalize t.step settings label = next at done
  cases done with
  | ticked later onward => exact onward
  | operated op => exact (operate_frame t op).1.ge
  | went i poll reply move found fits => cases move <;> exact le_rfl
  | _ => exact le_rfl

theorem now_le_run (settings : TrackingSettings) (t : Tracking) (labels : List TrackingStep) :
    t.now ≤ (run (Tracking.step settings) t labels).now := by
  induction labels generalizing t with
  | nil => exact le_rfl
  | cons label labels ih => exact (now_le_step settings t label).trans (ih _)

theorem spent_run (redis : settings.redis = true) (suppressed : Suppressed since t)
    {labels : List TrackingStep}
    (early : (run (Tracking.step settings) t labels).now < since + mapsDisabledTtlSeconds) :
    (run (Tracking.step settings) t labels).spent ≤ t.spent := by
  induction labels generalizing t with
  | nil => exact le_rfl
  | cons label labels ih =>
    have here := lt_of_le_of_lt (now_le_run settings t (label :: labels)) early
    obtain ⟨still, less⟩ := spent_step redis suppressed here label
    exact (ih still early).trans less

/-- **A key that Google refuses is not asked with again.** From the moment that the flag is set until it
expires, whatever polls there are, the only requests that are still sent are those of the polls that had
looked at the flag before it was set. -/
theorem requests_after_rejection (settings : TrackingSettings) (redis : settings.redis = true)
    (t : Tracking) (i : Nat) (poll : Poll) (journey : Journey) (found : t.polls[i]? = some poll)
    (refused : poll.phase = .suppressing journey) (reply : RoutesReply) (labels : List TrackingStep)
    (early : (run (Tracking.step settings) (t.step settings (.goOn i reply)) labels).now <
      t.now + mapsDisabledTtlSeconds) :
    (run (Tracking.step settings) (t.step settings (.goOn i reply)) labels).requests ≤
      t.requests + t.cleared := by
  have set : t.step settings (.goOn i reply) = t.move settings i poll (.suppresses journey) := by
    simp only [Tracking.step, found, Tracking.pollMove, refused]
  rw [set] at early ⊢
  have suppressed : Suppressed t.now (t.move settings i poll (.suppresses journey)) :=
    ⟨⟨t.now + mapsDisabledTtlSeconds, if_pos redis, le_rfl⟩, le_rfl⟩
  calc (run (Tracking.step settings) (t.move settings i poll (.suppresses journey)) labels).requests
      ≤ (run (Tracking.step settings) (t.move settings i poll (.suppresses journey)) labels).spent :=
        Nat.le_add_right _ _
    _ ≤ (t.move settings i poll (.suppresses journey)).spent := spent_run redis suppressed early
    _ ≤ t.requests + t.cleared :=
        Nat.add_le_add_left (cleared_moved_le found fun clear => by cases clear) _

/-- A customer at home, with the driver at the door. -/
def doorstep : Journey where
  delivery := some { orderId := 1, driverId := some 4, status := .pickedUp }
  customerId := some 7
  driver := some ⟨12, 77⟩
  restaurant := none
  destination := some ⟨12, 77⟩

/-- Two polls of that order: one was refused, the other has just looked at the flag. -/
def refusedOnce : Tracking where
  now := 100
  db := .empty
  polls :=
    [{ caller := ⟨7, "customer"⟩, orderId := 1, phase := .suppressing doorstep },
      { caller := ⟨7, "customer"⟩, orderId := 1, phase := .cleared doorstep }]
  requests := 1

theorem requests_after_rejection_doorstep :
    (run (Tracking.step (.standard .still some))
      (refusedOnce.step (.standard .still some) (.goOn 0 .forbidden))
      [.goOn 1 .failed, .tick 400, .goOn 1 .forbidden, .goOn 1 .forbidden, .tick 699]).requests ≤ 2 :=
  requests_after_rejection (.standard .still some) rfl refusedOnce 0 _ doorstep rfl rfl .forbidden _
    (by decide)

end Requests

end FoodDelivery.Deliveries
