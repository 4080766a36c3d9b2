/-
**The minutes of a week** (`services/restaurants/app/hours.py`, with the schedules that
`services/restaurants/app/schemas.py` lets through).

A minute is counted from a Monday at midnight, without an end: `clockAt` is the weekday and the time of
day it shows, so weeks wrap. A valid schedule gives each weekday at most one window of minutes, and the
restaurant is open inside today's window or inside the end of yesterday's.

* `accepts_iff`: when orders are taken, in minutes;
* `accepts_until_closing`: a closing time that is announced is kept, over midnight and over the end of
  the week, and a restaurant that is open all day stays open for the day.
-/

import FoodDelivery.Restaurants.Hours
import FoodDelivery.Restaurants.Service

set_option autoImplicit false

namespace FoodDelivery.Restaurants

/-! ### Minutes -/

@[simp] theorem Minute.time_inj {a b : Minute} : a.time = b.time ↔ a = b := by
  simp only [Minute.time, Fin.ext_iff]
  omega

@[simp] theorem Minute.time_lt {a b : Minute} : a.time < b.time ↔ a < b := by
  simp only [Minute.time, Fin.lt_def]
  omega

@[simp] theorem Minute.time_le {a b : Minute} : a.time ≤ b.time ↔ a ≤ b := by
  simp only [Minute.time, Fin.le_def]
  omega

/-- The weekday of the day with a number. -/
def weekdayOf (day : Nat) : Weekday := ⟨day % 7, Nat.mod_lt _ (by decide)⟩

/-- The minute of its day. -/
def minuteOf (m : Nat) : Minute := ⟨m % 1440, Nat.mod_lt _ (by decide)⟩

/-- What the clock shows at a minute. -/
def clockAt (m : Nat) : LocalTime := ⟨weekdayOf (m / 1440), (minuteOf m).time⟩

@[simp] theorem clockAt_toMinute (m : Nat) : (clockAt m).toMinute = clockAt m := by
  simp [LocalTime.toMinute, clockAt, Minute.time]

@[simp] theorem previousDay_weekdayOf (day : Nat) :
    previousDay (weekdayOf (day + 1)) = weekdayOf day := by
  simp only [previousDay, weekdayOf, Fin.ext_iff, Fin.sub_def]
  omega

theorem weekdayOf_add (day : Nat) (ahead : Fin 7) :
    weekdayOf day + ahead = weekdayOf (day + ahead) := by
  simp [weekdayOf, Fin.add_def]

/-! ### The windows of a schedule -/

namespace WeekSchedule

variable (schedule : WeekSchedule) (restaurantId : Nat)

/-- The rows that a schedule is stored as. -/
def rows : List OpeningHour := schedule.days.map (OpeningHourDay.row restaurantId)

/-- The minutes at which a weekday opens and closes. -/
def window (day : Weekday) : Option (Minute × Minute) :=
  (schedule.days.find? fun row => row.dayOfWeek = day).bind fun row =>
    row.opensAt.bind fun opensAt => row.closesAt.map fun closesAt => (opensAt, closesAt)

/-- The answer at a minute. -/
def status (m : Nat) : ScheduleStatus := scheduleStatus true (schedule.rows restaurantId) (clockAt m)

/-- Orders are taken at a minute. -/
def accepts (m : Nat) : Prop := (schedule.status restaurantId m).acceptingOrders = true

variable {schedule : WeekSchedule} {restaurantId : Nat}

theorem distinct_rows : ((schedule.rows restaurantId).map OpeningHour.dayOfWeek).Nodup := by
  rw [rows, List.map_map]
  exact schedule.distinct

/-- The stored row of a weekday. -/
theorem byDay_rows (day : Weekday) :
    byDay (schedule.rows restaurantId) day =
      (schedule.days.find? fun row => row.dayOfWeek = day).map (OpeningHourDay.row restaurantId) := by
  cases found : schedule.days.find? fun row => row.dayOfWeek = day with
  | none =>
    refine Option.eq_none_iff_forall_ne_some.mpr fun stored present => ?_
    obtain ⟨present, same⟩ := (byDay_eq_some distinct_rows).mp present
    obtain ⟨row, listed, rfl⟩ := List.mem_map.mp present
    exact List.find?_eq_none.mp found row listed (decide_eq_true same)
  | some row =>
    have same : row.dayOfWeek = day := by simpa using List.find?_some found
    exact (byDay_eq_some distinct_rows).mpr
      ⟨List.mem_map_of_mem (List.mem_of_find?_eq_some found), same⟩

/-- A day of a valid schedule has a window exactly when it is not closed. -/
theorem row_window {row : OpeningHourDay} (listed : row ∈ schedule.days) :
    (row.row restaurantId).window =
      (row.opensAt.bind fun opensAt => row.closesAt.map fun closesAt => (opensAt, closesAt)).map
        (Prod.map Minute.time Minute.time) := by
  have valid := schedule.windows row listed
  obtain ⟨dayOfWeek, opensAt, closesAt, isClosed⟩ := row
  cases isClosed with
  | true =>
    obtain ⟨rfl, rfl⟩ : opensAt = none ∧ closesAt = none := by simpa using valid
    rfl
  | false =>
    obtain ⟨opens, closes⟩ : opensAt.isSome ∧ closesAt.isSome := by simpa using valid
    obtain ⟨opensAt, rfl⟩ := Option.isSome_iff_exists.mp opens
    obtain ⟨closesAt, rfl⟩ := Option.isSome_iff_exists.mp closes
    rfl

/-- The window that the stored rows give a weekday. -/
theorem window_rows (day : Weekday) :
    (byDay (schedule.rows restaurantId) day).bind OpeningHour.window =
      (schedule.window day).map (Prod.map Minute.time Minute.time) := by
  rw [byDay_rows, window]
  cases found : schedule.days.find? fun row => row.dayOfWeek = day with
  | none => rfl
  | some row => exact row_window (List.mem_of_find?_eq_some found)

theorem window_rows_eq_some {day : Weekday} {opensAt closesAt : TimeOfDay} :
    (byDay (schedule.rows restaurantId) day).bind OpeningHour.window = some (opensAt, closesAt) ↔
      ∃ opens closes, schedule.window day = some (opens, closes) ∧ opensAt = opens.time ∧
        closesAt = closes.time := by
  rw [window_rows, Option.map_eq_some_iff]
  simp [eq_comm]

/-! ### When it is open -/

/-- Inside the window of the minute's own day. -/
def OpenOn (schedule : WeekSchedule) (m : Nat) (opens closes : Minute) : Prop :=
  schedule.window (weekdayOf (m / 1440)) = some (opens, closes) ∧
    (opens = closes ∨ (opens < closes ∧ opens ≤ minuteOf m ∧ minuteOf m < closes) ∨
      (closes < opens ∧ opens ≤ minuteOf m))

/-- Inside the end of the window of the day before. -/
def OpenSince (schedule : WeekSchedule) (m : Nat) (opens closes : Minute) : Prop :=
  schedule.window (previousDay (weekdayOf (m / 1440))) = some (opens, closes) ∧
    closes < opens ∧ minuteOf m < closes

theorem openToday_iff {m : Nat} {opensAt closesAt : TimeOfDay} :
    OpenToday (schedule.rows restaurantId) (clockAt m) opensAt closesAt ↔
      ∃ opens closes, schedule.OpenOn m opens closes ∧ opensAt = opens.time ∧
        closesAt = closes.time := by
  constructor
  · rintro ⟨window, inside⟩
    obtain ⟨opens, closes, minutes, rfl, rfl⟩ := window_rows_eq_some.mp window
    exact ⟨opens, closes, ⟨minutes, by simpa [insideToday, clockAt] using inside⟩, rfl, rfl⟩
  · rintro ⟨opens, closes, ⟨window, inside⟩, rfl, rfl⟩
    exact ⟨window_rows_eq_some.mpr ⟨opens, closes, window, rfl, rfl⟩,
      by simpa [insideToday, clockAt] using inside⟩

theorem openFromYesterday_iff {m : Nat} {opensAt closesAt : TimeOfDay} :
    OpenFromYesterday (schedule.rows restaurantId) (clockAt m) opensAt closesAt ↔
      ∃ opens closes, schedule.OpenSince m opens closes ∧ opensAt = opens.time ∧
        closesAt = closes.time := by
  constructor
  · rintro ⟨window, late⟩
    obtain ⟨opens, closes, minutes, rfl, rfl⟩ := window_rows_eq_some.mp window
    exact ⟨opens, closes, ⟨minutes, by simpa [insideYesterday, clockAt] using late⟩, rfl, rfl⟩
  · rintro ⟨opens, closes, ⟨window, late⟩, rfl, rfl⟩
    exact ⟨window_rows_eq_some.mpr ⟨opens, closes, window, rfl, rfl⟩,
      by simpa [insideYesterday, clockAt] using late⟩

theorem status_eq (m : Nat) :
    schedule.status restaurantId m = statusAt true (schedule.rows restaurantId) (clockAt m) := by
  rw [status, scheduleStatus, clockAt_toMinute]

theorem rows_ne_nil (present : schedule.days ≠ []) : schedule.rows restaurantId ≠ [] := by
  rwa [rows, ne_eq, List.map_eq_nil_iff]

/-- **When orders are taken.** Inside the window of the day, or the end of the window of the day
before. -/
theorem accepts_iff (present : schedule.days ≠ []) {m : Nat} :
    schedule.accepts restaurantId m ↔
      (∃ opens closes, schedule.OpenOn m opens closes) ∨
        ∃ opens closes, schedule.OpenSince m opens closes := by
  rw [accepts, status_eq, statusAt_accepting (rows_ne_nil present)]
  simp only [openToday_iff, openFromYesterday_iff]
  refine or_congr ⟨?_, ?_⟩ ⟨?_, ?_⟩
  · rintro ⟨-, -, opens, closes, inside, -⟩
    exact ⟨opens, closes, inside⟩
  · rintro ⟨opens, closes, inside⟩
    exact ⟨_, _, opens, closes, inside, rfl, rfl⟩
  · rintro ⟨-, -, opens, closes, late, -⟩
    exact ⟨opens, closes, late⟩
  · rintro ⟨opens, closes, late⟩
    exact ⟨_, _, opens, closes, late, rfl, rfl⟩

/-- A closing time is announced inside a window that ends at it. -/
theorem closes_of_currentClosesAt {m : Nat} {closing : TimeOfDay}
    (announced : (schedule.status restaurantId m).currentClosesAt = some closing) :
    schedule.days ≠ [] ∧ ∃ opens closes, closing = closes.time ∧ opens ≠ closes ∧
      (schedule.OpenOn m opens closes ∨ schedule.OpenSince m opens closes) := by
  rw [status_eq] at announced
  have present : schedule.rows restaurantId ≠ [] := by
    intro none
    rw [statusAt, if_neg Bool.noConfusion, if_pos none] at announced
    exact Option.some_ne_none _ announced.symm
  refine ⟨fun none => present (by rw [rows, none, List.map_nil]), ?_⟩
  obtain ⟨opensAt, closesAt, inside, decided⟩ | ⟨opensAt, closesAt, late, decided⟩ |
    ⟨-, -, decided⟩ := statusAt_cases (clockAt m) present
  · obtain ⟨opens, closes, within, rfl, rfl⟩ := openToday_iff.mp inside
    rw [decided] at announced
    have differ : opens.time ≠ closes.time := by
      intro same
      rw [openStatus, if_pos same] at announced
      exact Option.some_ne_none _ announced.symm
    rw [openStatus, if_neg differ, Option.some_inj] at announced
    exact ⟨opens, closes, announced.symm, fun same => differ (congrArg Minute.time same), Or.inl within⟩
  · obtain ⟨opens, closes, within, rfl, rfl⟩ := openFromYesterday_iff.mp late
    rw [decided] at announced
    exact ⟨opens, closes, (Option.some_inj.mp announced).symm, (Fin.ne_of_lt within.2.1).symm,
      Or.inr within⟩
  · rw [decided] at announced
    exact absurd announced.symm (Option.some_ne_none _)

/-- Open all day is announced on a day whose window opens when it closes. -/
theorem openOn_of_open24Hours {m : Nat}
    (announced : (schedule.status restaurantId m).open24Hours = true) :
    schedule.days ≠ [] ∧ ∃ opens, schedule.window (weekdayOf (m / 1440)) = some (opens, opens) := by
  rw [status_eq] at announced
  have present : schedule.rows restaurantId ≠ [] := by
    intro none
    rw [statusAt, if_neg Bool.noConfusion, if_pos none] at announced
    exact Bool.noConfusion announced
  refine ⟨fun none => present (by rw [rows, none, List.map_nil]), ?_⟩
  obtain ⟨opensAt, closesAt, inside, decided⟩ | ⟨opensAt, closesAt, late, decided⟩ |
    ⟨-, -, decided⟩ := statusAt_cases (clockAt m) present
  · obtain ⟨opens, closes, within, rfl, rfl⟩ := openToday_iff.mp inside
    rw [decided, openStatus, decide_eq_true_iff, Minute.time_inj] at announced
    exact ⟨opens, announced ▸ within.1⟩
  · rw [decided] at announced
    exact Bool.noConfusion announced
  · rw [decided] at announced
    exact Bool.noConfusion announced

/-! ### How long it stays open -/

section Closing

variable {m j : Nat} {opens closes : Minute}

/-- Before the clock next shows the closing minute, it is still the same day, or it is the next day
and earlier than the closing minute. -/
theorem before_closing (differ : minuteOf m ≠ closes)
    (ahead : ∀ i, 0 < i → i ≤ j → (clockAt (m + i)).time ≠ closes.time) :
    ((m + j) / 1440 = m / 1440 ∧ (minuteOf m < closes → minuteOf (m + j) < closes)) ∨
      ((m + j) / 1440 = m / 1440 + 1 ∧ closes < minuteOf m ∧ minuteOf (m + j) < closes) := by
  have bound := closes.isLt
  have never : ∀ i, 0 < i → i ≤ j → (m + i) % 1440 ≠ closes := fun i pos upTo same =>
    ahead i pos upTo (Minute.time_inj.mpr (Fin.ext same))
  simp only [ne_eq, Fin.ext_iff, Fin.lt_def, minuteOf] at differ ⊢
  by_cases early : m % 1440 < closes
  · have short : ¬ closes - m % 1440 ≤ j := fun long => never _ (by omega) long (by omega)
    exact Or.inl ⟨by omega, fun _ => by omega⟩
  · have short : ¬ 1440 - m % 1440 + closes ≤ j := fun long => never _ (by omega) long (by omega)
    by_cases sameDay : m % 1440 + j < 1440
    · exact Or.inl ⟨by omega, fun before => absurd before early⟩
    · exact Or.inr ⟨by omega, by omega, by omega⟩

/-- **Open until the window's own end**, which may be tomorrow. -/
theorem accepts_of_openOn (present : schedule.days ≠ []) (inside : schedule.OpenOn m opens closes)
    (differ : opens ≠ closes)
    (ahead : ∀ i, 0 < i → i ≤ j → (clockAt (m + i)).time ≠ closes.time) :
    schedule.accepts restaurantId (m + j) := by
  obtain ⟨window, allDay | ⟨forward, began, before⟩ | ⟨crossing, began⟩⟩ := inside
  · exact absurd allDay differ
  · obtain ⟨sameDay, still⟩ | ⟨-, after, -⟩ := before_closing (Fin.ne_of_lt before) ahead
    · refine (accepts_iff present).mpr (Or.inl ⟨opens, closes, sameDay ▸ window, Or.inr (Or.inl
        ⟨forward, ?_, still before⟩)⟩)
      simp only [minuteOf, Fin.le_def] at began ⊢
      omega
    · exact absurd after (Fin.lt_asymm before)
  · have after : closes < minuteOf m := Fin.lt_of_lt_of_le crossing began
    obtain ⟨sameDay, -⟩ | ⟨nextDay, -, before⟩ :=
      before_closing (Fin.ne_of_lt after).symm ahead
    · refine (accepts_iff present).mpr (Or.inl ⟨opens, closes, sameDay ▸ window, Or.inr (Or.inr
        ⟨crossing, ?_⟩)⟩)
      simp only [minuteOf, Fin.le_def] at began ⊢
      omega
    · refine (accepts_iff present).mpr (Or.inr ⟨opens, closes, ?_, crossing, before⟩)
      rw [nextDay, previousDay_weekdayOf]
      exact window

/-- **Open until the end of yesterday's window.** -/
theorem accepts_of_openSince (present : schedule.days ≠ [])
    (late : schedule.OpenSince m opens closes)
    (ahead : ∀ i, 0 < i → i ≤ j → (clockAt (m + i)).time ≠ closes.time) :
    schedule.accepts restaurantId (m + j) := by
  obtain ⟨window, crossing, before⟩ := late
  obtain ⟨sameDay, still⟩ | ⟨-, after, -⟩ := before_closing (Fin.ne_of_lt before) ahead
  · exact (accepts_iff present).mpr (Or.inr ⟨opens, closes, sameDay ▸ window, crossing, still before⟩)
  · exact absurd after (Fin.lt_asymm before)

/-- **A closing time is kept.** Whatever the schedule and the minute, a closing time that is announced
is one before which orders are taken at every minute, over midnight and over the end of the week; and
open all day is announced only if orders are taken for the rest of the day. -/
theorem accepts_until_closing (schedule : WeekSchedule) (restaurantId m : Nat) :
    (∀ closing, (schedule.status restaurantId m).currentClosesAt = some closing →
      ∀ j, (∀ i, 0 < i → i ≤ j → (clockAt (m + i)).time ≠ closing) →
        schedule.accepts restaurantId (m + j)) ∧
      ((schedule.status restaurantId m).open24Hours = true →
        ∀ j, (m + j) / 1440 = m / 1440 → schedule.accepts restaurantId (m + j)) := by
  constructor
  · intro closing announced j ahead
    obtain ⟨present, opens, closes, rfl, differ, inside | late⟩ :=
      closes_of_currentClosesAt announced
    · exact accepts_of_openOn present inside differ ahead
    · exact accepts_of_openSince present late ahead
  · intro announced j sameDay
    obtain ⟨present, opens, window⟩ := openOn_of_open24Hours announced
    exact (accepts_iff present).mpr (Or.inl ⟨opens, opens, sameDay ▸ window, Or.inl rfl⟩)

end Closing

end WeekSchedule

end FoodDelivery.Restaurants
