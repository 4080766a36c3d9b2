/-
**Opening hours** (`services/restaurants/app/hours.py`).

The manual switch and the weekly schedule are evaluated once, for a local weekday and time of day. A
schedule with no rows leaves the decision to the switch alone. A window that closes before it opens
runs past midnight and belongs to the day it opened on.

`isOpen_of_accepting`: a restaurant that is switched off takes no orders, whatever its schedule.
-/

import FoodDelivery.Restaurants.Model

set_option autoImplicit false

namespace FoodDelivery.Restaurants

/-- The platform's restaurant-local clock. -/
structure LocalTime where
  weekday : Weekday
  time : TimeOfDay
deriving DecidableEq, Repr

/-- `replace(second=0, microsecond=0)`. -/
def LocalTime.toMinute (clock : LocalTime) : LocalTime :=
  { clock with time := ⟨clock.time - clock.time % 60000000, by omega⟩ }

/-- All clock-derived facts needed by API responses and checkout. -/
structure ScheduleStatus where
  acceptingOrders : Bool
  localDayOfWeek : Weekday
  currentClosesAt : Option TimeOfDay := none
  open24Hours : Bool := false
  nextOpensAt : Option TimeOfDay := none
  nextOpensDay : Option Weekday := none
deriving DecidableEq, Repr

/-- `{int(r.day_of_week): r for r in rows}.get(day)`: the last row of a day. -/
def byDay (rows : List OpeningHour) (day : Weekday) : Option OpeningHour :=
  rows.reverse.find? fun row => row.dayOfWeek = day

/-- The window of a row that has one. -/
def OpeningHour.window (row : OpeningHour) : Option (TimeOfDay × TimeOfDay) :=
  if row.isClosed then none
  else
    match row.opensAt, row.closesAt with
    | some opensAt, some closesAt => some (opensAt, closesAt)
    | _, _ => none

/-- Next scheduled opening within one week. -/
def nextOpen (rows : List OpeningHour) (day : Weekday) (now : TimeOfDay) :
    Option (Weekday × TimeOfDay) :=
  (List.finRange 7).findSome? fun ahead =>
    match byDay rows (day + ahead) with
    | none => none
    | some row =>
      if row.isClosed then none
      else
        match row.opensAt with
        | none => none
        | some opensAt =>
          if ahead = 0 ∧ opensAt ≤ now then none else some (day + ahead, opensAt)

/-- Closed for now, with the next opening. -/
def notAccepting (rows : List OpeningHour) (clock : LocalTime) : ScheduleStatus :=
  let next := nextOpen rows clock.weekday clock.time
  { acceptingOrders := false
    localDayOfWeek := clock.weekday
    nextOpensAt := next.map Prod.snd
    nextOpensDay := next.map Prod.fst }

/-- What today's row decides, when the clock is inside its window. -/
def todayStatus (rows : List OpeningHour) (clock : LocalTime) : Option ScheduleStatus :=
  match (byDay rows clock.weekday).bind OpeningHour.window with
  | none => none
  | some (opensAt, closesAt) =>
    if opensAt = closesAt then
      some { acceptingOrders := true, localDayOfWeek := clock.weekday, open24Hours := true }
    else if (opensAt < closesAt ∧ opensAt ≤ clock.time ∧ clock.time < closesAt) ∨
        (opensAt > closesAt ∧ clock.time ≥ opensAt) then
      some
        { acceptingOrders := true
          localDayOfWeek := clock.weekday
          currentClosesAt := some closesAt }
    else none

/-- The overnight carry from yesterday's row. -/
def yesterdayStatus (rows : List OpeningHour) (clock : LocalTime) : Option ScheduleStatus :=
  match (byDay rows (clock.weekday - 1)).bind OpeningHour.window with
  | none => none
  | some (opensAt, closesAt) =>
    if opensAt > closesAt ∧ clock.time < closesAt then
      some
        { acceptingOrders := true
          localDayOfWeek := clock.weekday
          currentClosesAt := some closesAt }
    else none

/-- The switch and the schedule at a minute. -/
def statusAt (isOpen : Bool) (rows : List OpeningHour) (clock : LocalTime) : ScheduleStatus :=
  if isOpen = false then notAccepting rows clock
  else if rows = [] then { acceptingOrders := true, localDayOfWeek := clock.weekday }
  else
    match todayStatus rows clock with
    | some status => status
    | none =>
      match yesterdayStatus rows clock with
      | some status => status
      | none => notAccepting rows clock

/-- Evaluate the manual switch and weekly schedule once. -/
def scheduleStatus (isOpen : Bool) (rows : List OpeningHour) (now : LocalTime) : ScheduleStatus :=
  statusAt isOpen rows now.toMinute

/-- Nothing is accepted while the switch is off. -/
theorem isOpen_of_accepting {isOpen : Bool} {rows : List OpeningHour} {clock : LocalTime}
    (accepting : (scheduleStatus isOpen rows clock).acceptingOrders = true) : isOpen = true := by
  by_contra closed
  rw [Bool.not_eq_true] at closed
  rw [scheduleStatus, statusAt, if_pos closed] at accepting
  exact Bool.noConfusion accepting

/-! ### When orders are taken -/

section Windows

variable {rows : List OpeningHour} {clock : LocalTime} {day : Weekday}

/-- The time is inside the part of a window that lies on its own day. -/
def insideToday (opensAt closesAt time : TimeOfDay) : Prop :=
  opensAt = closesAt ∨ (opensAt < closesAt ∧ opensAt ≤ time ∧ time < closesAt) ∨
    (closesAt < opensAt ∧ opensAt ≤ time)

/-- The time is inside the part of a window that runs past midnight. -/
def insideYesterday (opensAt closesAt time : TimeOfDay) : Prop :=
  closesAt < opensAt ∧ time < closesAt

instance (opensAt closesAt time : TimeOfDay) : Decidable (insideToday opensAt closesAt time) :=
  inferInstanceAs (Decidable (_ ∨ _))

instance (opensAt closesAt time : TimeOfDay) : Decidable (insideYesterday opensAt closesAt time) :=
  inferInstanceAs (Decidable (_ ∧ _))

theorem window_eq_some {row : OpeningHour} {opensAt closesAt : TimeOfDay} :
    row.window = some (opensAt, closesAt) ↔
      row.isClosed = false ∧ row.opensAt = some opensAt ∧ row.closesAt = some closesAt := by
  obtain ⟨restaurantId, dayOfWeek, opens, closes, isClosed⟩ := row
  cases isClosed with
  | true => simp [OpeningHour.window]
  | false =>
    cases opens with
    | none => simp [OpeningHour.window]
    | some opens =>
      cases closes with
      | none => simp [OpeningHour.window]
      | some closes => simp [OpeningHour.window]

/-- One row a day: the day's row is the one that is there. -/
theorem byDay_eq_some (distinct : (rows.map OpeningHour.dayOfWeek).Nodup) {row : OpeningHour} :
    byDay rows day = some row ↔ row ∈ rows ∧ row.dayOfWeek = day := by
  constructor
  · intro found
    rw [byDay] at found
    exact ⟨List.mem_reverse.mp (List.mem_of_find?_eq_some found),
      by simpa using List.find?_some found⟩
  · rintro ⟨present, same⟩
    obtain ⟨other, found⟩ : ∃ other, rows.reverse.find? (fun row => row.dayOfWeek = day) = some other :=
      Option.isSome_iff_exists.mp (List.find?_isSome.mpr
        ⟨row, List.mem_reverse.mpr present, decide_eq_true same⟩)
    have otherPresent := List.mem_reverse.mp (List.mem_of_find?_eq_some found)
    have otherSame : other.dayOfWeek = day := by simpa using List.find?_some found
    rw [byDay, found, List.inj_on_of_nodup_map distinct otherPresent present (otherSame.trans same.symm)]

/-- Today's row has a window and the clock is inside it. -/
def OpenToday (rows : List OpeningHour) (clock : LocalTime) (opensAt closesAt : TimeOfDay) : Prop :=
  (byDay rows clock.weekday).bind OpeningHour.window = some (opensAt, closesAt) ∧
    insideToday opensAt closesAt clock.time

/-- The day before. -/
def previousDay (day : Weekday) : Weekday := day - 1

/-- Yesterday's row has a window past midnight and the clock is inside its end. -/
def OpenFromYesterday (rows : List OpeningHour) (clock : LocalTime) (opensAt closesAt : TimeOfDay) :
    Prop :=
  (byDay rows (clock.weekday - 1)).bind OpeningHour.window = some (opensAt, closesAt) ∧
    insideYesterday opensAt closesAt clock.time

/-- The answer inside today's window. -/
def openStatus (clock : LocalTime) (opensAt closesAt : TimeOfDay) : ScheduleStatus :=
  { acceptingOrders := true
    localDayOfWeek := clock.weekday
    currentClosesAt := if opensAt = closesAt then none else some closesAt
    open24Hours := opensAt = closesAt }

/-- The answer inside the end of yesterday's window. -/
def carriedStatus (clock : LocalTime) (closesAt : TimeOfDay) : ScheduleStatus :=
  { acceptingOrders := true
    localDayOfWeek := clock.weekday
    currentClosesAt := some closesAt }

theorem todayStatus_eq_some {status : ScheduleStatus} :
    todayStatus rows clock = some status ↔
      ∃ opensAt closesAt, OpenToday rows clock opensAt closesAt ∧
        status = openStatus clock opensAt closesAt := by
  rw [todayStatus]
  cases found : (byDay rows clock.weekday).bind OpeningHour.window with
  | none => simp [OpenToday, found]
  | some window =>
    obtain ⟨opensAt, closesAt⟩ := window
    by_cases same : opensAt = closesAt
    · simp [OpenToday, found, insideToday, openStatus, same, eq_comm]
    · simp [OpenToday, found, insideToday, openStatus, same, eq_comm]

theorem yesterdayStatus_eq_some {status : ScheduleStatus} :
    yesterdayStatus rows clock = some status ↔
      ∃ opensAt closesAt, OpenFromYesterday rows clock opensAt closesAt ∧
        status = carriedStatus clock closesAt := by
  rw [yesterdayStatus]
  cases found : (byDay rows (clock.weekday - 1)).bind OpeningHour.window with
  | none => simp [OpenFromYesterday, found]
  | some window =>
    obtain ⟨opensAt, closesAt⟩ := window
    simp [OpenFromYesterday, found, insideYesterday, carriedStatus, eq_comm]

/-- **What a schedule decides.** Inside today's window, or inside the end of yesterday's, or closed with
the next opening. -/
theorem statusAt_cases (clock : LocalTime) (present : rows ≠ []) :
    (∃ opensAt closesAt, OpenToday rows clock opensAt closesAt ∧
        statusAt true rows clock = openStatus clock opensAt closesAt) ∨
      (∃ opensAt closesAt, OpenFromYesterday rows clock opensAt closesAt ∧
        statusAt true rows clock = carriedStatus clock closesAt) ∨
      ((¬ ∃ opensAt closesAt, OpenToday rows clock opensAt closesAt) ∧
        (¬ ∃ opensAt closesAt, OpenFromYesterday rows clock opensAt closesAt) ∧
        statusAt true rows clock = notAccepting rows clock) := by
  rw [statusAt, if_neg Bool.noConfusion, if_neg present]
  cases today : todayStatus rows clock with
  | some status =>
    obtain ⟨opensAt, closesAt, inside, decided⟩ := todayStatus_eq_some.mp today
    exact Or.inl ⟨opensAt, closesAt, inside, decided⟩
  | none =>
    have outside : ¬ ∃ opensAt closesAt, OpenToday rows clock opensAt closesAt := by
      rintro ⟨opensAt, closesAt, inside⟩
      have decided := todayStatus_eq_some.mpr ⟨opensAt, closesAt, inside, rfl⟩
      exact Option.some_ne_none _ (decided.symm.trans today)
    cases yesterday : yesterdayStatus rows clock with
    | some status =>
      obtain ⟨opensAt, closesAt, late, decided⟩ := yesterdayStatus_eq_some.mp yesterday
      exact Or.inr (Or.inl ⟨opensAt, closesAt, late, decided⟩)
    | none =>
      refine Or.inr (Or.inr ⟨outside, ?_, rfl⟩)
      rintro ⟨opensAt, closesAt, late⟩
      have decided := yesterdayStatus_eq_some.mpr ⟨opensAt, closesAt, late, rfl⟩
      exact Option.some_ne_none _ (decided.symm.trans yesterday)

/-- **When orders are taken.** With a schedule, exactly inside today's window or the end of
yesterday's. -/
theorem statusAt_accepting (present : rows ≠ []) :
    (statusAt true rows clock).acceptingOrders = true ↔
      (∃ opensAt closesAt, OpenToday rows clock opensAt closesAt) ∨
        ∃ opensAt closesAt, OpenFromYesterday rows clock opensAt closesAt := by
  obtain ⟨opensAt, closesAt, inside, decided⟩ | ⟨opensAt, closesAt, late, decided⟩ |
    ⟨outside, early, decided⟩ := statusAt_cases clock present
  · rw [decided]
    exact iff_of_true rfl (Or.inl ⟨opensAt, closesAt, inside⟩)
  · rw [decided]
    exact iff_of_true rfl (Or.inr ⟨opensAt, closesAt, late⟩)
  · rw [decided]
    exact iff_of_false Bool.noConfusion (not_or.mpr ⟨outside, early⟩)

end Windows

/-- A window past midnight: open on Monday at 22:00 until 02:00, so open on Tuesday at 01:00. -/
example : (scheduleStatus true [⟨1, 0, some (Minute.time 1320), some (Minute.time 120), false⟩]
    ⟨1, Minute.time 60⟩).acceptingOrders = true := by
  decide

/-- Monday at noon. -/
def mondayNoon : LocalTime := ⟨0, Minute.time 720⟩

end FoodDelivery.Restaurants
