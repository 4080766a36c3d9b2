/-
**The hours as they are sent** (`_hour_to_schema` of `services/restaurants/app/service.py`, with the
validator of `OpeningHourDay` in `schemas.py`).

The rows of a week are read back through the validator that a week goes through on its way in: the times of
a closed day are dropped, and a day that is not closed must have both. The columns allow null, so a row can
fail it, and the page that shows the row fails with it.

`whole_always`: no row that the service has written does.
-/

import FoodDelivery.Restaurants.Runs

set_option autoImplicit false

namespace FoodDelivery.Restaurants

open FoodDelivery.Lib

/-- `f"{number:02d}"`. -/
def twoDigits (number : Nat) : String :=
  if number < 10 then "0" ++ toString number else toString number

/-- `format_hhmm`. -/
def formatHhmm (time : TimeOfDay) : String :=
  twoDigits (time / 3600000000) ++ ":" ++ twoDigits (time / 60000000 % 60)

/-- `OpeningHourDay`, as it is sent. -/
structure HoursShown where
  dayOfWeek : Weekday
  opensAt : Option String
  closesAt : Option String
  isClosed : Bool
deriving DecidableEq, Repr

/-- `_hour_to_schema`, with `_window_or_closed`, the validator of what it builds. -/
def hourToSchema (row : OpeningHour) : Except Raised HoursShown :=
  if row.isClosed = true then
    -- a closed day has no window: its times are dropped
    .ok { dayOfWeek := row.dayOfWeek, opensAt := none, closesAt := none, isClosed := true }
  else
    match row.opensAt, row.closesAt with
    | some opensAt, some closesAt =>
      .ok
        { dayOfWeek := row.dayOfWeek
          opensAt := some (formatHhmm opensAt)
          closesAt := some (formatHhmm closesAt)
          isClosed := false }
    | _, _ =>
      .error (.other "ValidationError" "opens_at and closes_at are required unless the day is closed")

/-- A day that is closed, or has both its times. -/
def OpeningHour.Whole (row : OpeningHour) : Prop :=
  row.isClosed = true ∨ (row.opensAt.isSome ∧ row.closesAt.isSome)

instance (row : OpeningHour) : Decidable row.Whole := inferInstanceAs (Decidable (_ ∨ _))

/-- **A row passes the validator** exactly when it is whole. -/
theorem hourToSchema_ok {row : OpeningHour} : (∃ shown, hourToSchema row = .ok shown) ↔ row.Whole := by
  obtain ⟨restaurantId, dayOfWeek, opensAt, closesAt, isClosed⟩ := row
  cases isClosed with
  | true => exact iff_of_true ⟨_, rfl⟩ (Or.inl rfl)
  | false =>
    cases opensAt with
    | none => simp [hourToSchema, OpeningHour.Whole]
    | some opensAt => cases closesAt <;> simp [hourToSchema, OpeningHour.Whole]

/-- The days of a week that came in are whole. -/
theorem OpeningHourDay.row_whole {schedule : WeekSchedule} {day : OpeningHourDay}
    (listed : day ∈ schedule.days) (restaurantId : Nat) : (day.row restaurantId).Whole := by
  have valid := schedule.windows day listed
  obtain ⟨dayOfWeek, opensAt, closesAt, isClosed⟩ := day
  cases isClosed with
  | true => exact Or.inl rfl
  | false =>
    obtain ⟨opens, closes⟩ : opensAt.isSome ∧ closesAt.isSome := by simpa using valid
    exact Or.inr ⟨by simpa [OpeningHourDay.row] using opens, by simpa [OpeningHourDay.row] using closes⟩

/-- Every row of a database is whole. -/
def State.WholeHours (s : State) : Prop := ∀ row ∈ s.openingHours.rows, row.Whole

theorem wholeHours_replace {s : State} (whole : s.WholeHours) (restaurantId : Nat)
    (schedule : WeekSchedule) : (replaceOpeningHours s restaurantId schedule).WholeHours := by
  have written : ∀ (days : List OpeningHourDay) (hours : Table (Nat × Weekday) OpeningHour OpeningHour.key),
      (∀ day ∈ days, day ∈ schedule.days) → (∀ row ∈ hours.rows, row.Whole) →
      ∀ row ∈ (days.foldl (fun hours day => hours.put (day.row restaurantId)) hours).rows, row.Whole := by
    intro days
    induction days with
    | nil => exact fun _ _ whole => whole
    | cons day days hyp =>
      intro hours valid whole
      refine hyp _ (fun other among => valid other (.tail _ among)) fun row stored => ?_
      rcases Table.mem_put.mp stored with rfl | ⟨old, -⟩
      · exact OpeningHourDay.row_whole (valid day List.mem_cons_self) restaurantId
      · exact whole row old
  exact written schedule.days _ (fun _ among => among) fun row kept => whole row (List.mem_filter.mp kept).1

/-- **What the service writes passes its own validator**, in every run. -/
theorem whole_always (env : Environment) (ops : List Operation) :
    Always (State.step env) State.WholeHours .empty ops := by
  refine always_of_step (fun s op whole => ?_) fun _ none => absurd none List.not_mem_nil
  rcases s.rescheduled env op with same | ⟨restaurantId, schedule, replaced⟩
  · unfold State.WholeHours
    rw [same]
    exact whole
  · unfold State.WholeHours
    rw [replaced]
    exact wholeHours_replace whole restaurantId schedule

end FoodDelivery.Restaurants
