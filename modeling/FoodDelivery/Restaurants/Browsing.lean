/-
**The opening hours in the browse query** (`services/restaurants/app/hours.py`,
`within_schedule_clause`).

Checkout evaluates the loaded rows; browsing filters in the database before it pages, with a condition
over the nullable columns of `opening_hours`. The condition is a `Truth`, and the restaurant is listed
only when it is true.

`withinScheduleClause_iff`: at every instant the condition is true of a restaurant exactly when its rows
say that it takes orders.
-/

import FoodDelivery.Lib.Sql
import FoodDelivery.Restaurants.Hours

set_option autoImplicit false

namespace FoodDelivery.Restaurants

open FoodDelivery.Lib (Truth isNotNull compare existsIn compare_some isNotNull_eq_true
  existsIn_eq_true neg_existsIn_eq_true)

/-! ### The query -/

section Clause

variable (hours : List OpeningHour) (restaurantId : Nat)

/-- The conditions on a row that has a window on a day. -/
def windowOn (day : Weekday) (hour : OpeningHour) : List Truth :=
  [compare (· = ·) (some hour.restaurantId) (some restaurantId),
    compare (· = ·) (some hour.dayOfWeek) (some day),
    Truth.isFalse (some hour.isClosed),
    isNotNull hour.opensAt,
    isNotNull hour.closesAt]

/-- `no_schedule`. -/
def noSchedule : Truth :=
  (existsIn hours fun hour => compare (· = ·) (some hour.restaurantId) (some restaurantId)).neg

/-- The last condition of `same_day`: all day, or inside the part of the window on its own day. -/
def insideClause (hour : OpeningHour) (time : TimeOfDay) : Truth :=
  Truth.any
    [compare (· = ·) hour.opensAt hour.closesAt,
      Truth.all
        [compare (· < ·) hour.opensAt hour.closesAt,
          compare (· ≤ ·) hour.opensAt (some time),
          compare (· > ·) hour.closesAt (some time)],
      Truth.all
        [compare (· > ·) hour.opensAt hour.closesAt,
          compare (· ≤ ·) hour.opensAt (some time)]]

/-- `same_day`. -/
def sameDay (day : Weekday) (time : TimeOfDay) : Truth :=
  existsIn hours fun hour => Truth.all (windowOn restaurantId day hour ++ [insideClause hour time])

/-- `from_yesterday`. -/
def fromYesterday (day : Weekday) (time : TimeOfDay) : Truth :=
  existsIn hours fun hour => Truth.all (windowOn restaurantId day hour ++
    [compare (· > ·) hour.opensAt hour.closesAt,
      compare (· > ·) hour.closesAt (some time)])

/-- **SQL equivalent of the schedule check** for restaurant discovery, over the table of opening
hours. -/
def withinScheduleClause (now : LocalTime) : Truth :=
  let day := now.weekday
  let time := now.toMinute.time
  Truth.any
    [noSchedule hours restaurantId, sameDay hours restaurantId day time,
      fromYesterday hours restaurantId (previousDay day) time]

end Clause

/-! ### When its parts are true -/

section Parts

variable {hours : List OpeningHour} {restaurantId : Nat} {day : Weekday} {time : TimeOfDay}

theorem windowOn_true {hour : OpeningHour} :
    (∀ condition ∈ windowOn restaurantId day hour, condition = some true) ↔
      hour.restaurantId = restaurantId ∧ hour.dayOfWeek = day ∧
        ∃ opensAt closesAt, hour.window = some (opensAt, closesAt) := by
  rw [← Truth.all_eq_true]
  simp only [windowOn, Truth.all_cons, Truth.all_nil, compare_some, Truth.isFalse_eq_true,
    isNotNull_eq_true, window_eq_some, Option.some_inj, and_true]
  constructor
  · rintro ⟨owner, same, opened, ⟨opensAt, opens⟩, closesAt, closes⟩
    exact ⟨owner, same, opensAt, closesAt, opened, opens, closes⟩
  · rintro ⟨owner, same, opensAt, closesAt, opened, opens, closes⟩
    exact ⟨owner, same, opened, ⟨opensAt, opens⟩, closesAt, closes⟩

theorem noSchedule_true :
    noSchedule hours restaurantId = some true ↔
      ∀ hour ∈ hours, hour.restaurantId ≠ restaurantId := by
  simp only [noSchedule, neg_existsIn_eq_true, compare_some, ne_eq]

theorem insideClause_true {hour : OpeningHour} {opensAt closesAt : TimeOfDay}
    (window : hour.window = some (opensAt, closesAt)) :
    insideClause hour time = some true ↔ insideToday opensAt closesAt time := by
  obtain ⟨-, opens, closes⟩ := window_eq_some.mp window
  simp [insideClause, insideToday, opens, closes]

theorem sameDay_true :
    sameDay hours restaurantId day time = some true ↔
      ∃ hour ∈ hours, hour.restaurantId = restaurantId ∧ hour.dayOfWeek = day ∧
        ∃ opensAt closesAt, hour.window = some (opensAt, closesAt) ∧
          insideToday opensAt closesAt time := by
  rw [sameDay, existsIn_eq_true]
  refine exists_congr fun hour => and_congr_right fun _ => ?_
  rw [Truth.all_eq_true, List.forall_mem_append, windowOn_true, List.forall_mem_singleton]
  constructor
  · rintro ⟨⟨owner, same, opensAt, closesAt, window⟩, inside⟩
    exact ⟨owner, same, opensAt, closesAt, window, (insideClause_true window).mp inside⟩
  · rintro ⟨owner, same, opensAt, closesAt, window, inside⟩
    exact ⟨⟨owner, same, opensAt, closesAt, window⟩, (insideClause_true window).mpr inside⟩

theorem fromYesterday_true :
    fromYesterday hours restaurantId day time = some true ↔
      ∃ hour ∈ hours, hour.restaurantId = restaurantId ∧ hour.dayOfWeek = day ∧
        ∃ opensAt closesAt, hour.window = some (opensAt, closesAt) ∧
          insideYesterday opensAt closesAt time := by
  rw [fromYesterday, existsIn_eq_true]
  refine exists_congr fun hour => and_congr_right fun _ => ?_
  rw [Truth.all_eq_true, List.forall_mem_append, windowOn_true]
  constructor
  · rintro ⟨⟨owner, same, opensAt, closesAt, window⟩, late⟩
    refine ⟨owner, same, opensAt, closesAt, window, ?_⟩
    obtain ⟨-, opens, closes⟩ := window_eq_some.mp window
    simpa [opens, closes, insideYesterday] using late
  · rintro ⟨owner, same, opensAt, closesAt, window, late⟩
    refine ⟨⟨owner, same, opensAt, closesAt, window⟩, ?_⟩
    obtain ⟨-, opens, closes⟩ := window_eq_some.mp window
    simpa [opens, closes, insideYesterday] using late

end Parts

/-! ### Browse and checkout agree -/

section Agreement

variable {hours rows : List OpeningHour} {restaurantId : Nat}

/-- The rows that checkout loads, in any order, and the rows that the query sees. -/
theorem exists_window_iff (owned : rows.Perm (hours.filter (·.restaurantId = restaurantId)))
    (distinct : (rows.map OpeningHour.dayOfWeek).Nodup) {day : Weekday}
    {inside : TimeOfDay → TimeOfDay → Prop} :
    (∃ opensAt closesAt, (byDay rows day).bind OpeningHour.window = some (opensAt, closesAt) ∧
        inside opensAt closesAt) ↔
      ∃ hour ∈ hours, hour.restaurantId = restaurantId ∧ hour.dayOfWeek = day ∧
        ∃ opensAt closesAt, hour.window = some (opensAt, closesAt) ∧ inside opensAt closesAt := by
  have member : ∀ hour, hour ∈ rows ↔ hour ∈ hours ∧ hour.restaurantId = restaurantId := by
    intro hour
    rw [owned.mem_iff, List.mem_filter, decide_eq_true_iff]
  constructor
  · rintro ⟨opensAt, closesAt, window, within⟩
    obtain ⟨hour, found, window⟩ := Option.bind_eq_some_iff.mp window
    obtain ⟨present, same⟩ := (byDay_eq_some distinct).mp found
    obtain ⟨stored, owner⟩ := (member hour).mp present
    exact ⟨hour, stored, owner, same, opensAt, closesAt, window, within⟩
  · rintro ⟨hour, stored, owner, same, opensAt, closesAt, window, within⟩
    have found := (byDay_eq_some distinct).mpr ⟨(member hour).mpr ⟨stored, owner⟩, same⟩
    exact ⟨opensAt, closesAt, Option.bind_eq_some_iff.mpr ⟨hour, found, window⟩, within⟩

/-- **Browse and checkout agree.** Whatever the restaurant's week and whenever it is asked, its rows
take orders exactly when the query's condition is true of it. -/
theorem withinScheduleClause_iff (now : LocalTime)
    (owned : rows.Perm (hours.filter (·.restaurantId = restaurantId)))
    (distinct : (rows.map OpeningHour.dayOfWeek).Nodup) :
    (scheduleStatus true rows now).acceptingOrders = true ↔
      withinScheduleClause hours restaurantId now = some true := by
  rw [withinScheduleClause, Truth.any_eq_true, scheduleStatus]
  simp only [List.exists_mem_cons_iff, List.not_mem_nil, false_and, exists_false, or_false,
    noSchedule_true, sameDay_true, fromYesterday_true]
  by_cases empty : rows = []
  · have unlisted : ∀ hour ∈ hours, hour.restaurantId ≠ restaurantId := by
      intro hour stored owner
      have present : hour ∈ rows :=
        owned.mem_iff.mpr (List.mem_filter.mpr ⟨stored, decide_eq_true owner⟩)
      exact List.not_mem_nil (empty ▸ present)
    refine iff_of_true ?_ (Or.inl unlisted)
    rw [statusAt, if_neg Bool.noConfusion, if_pos empty]
  · have listed : ¬ ∀ hour ∈ hours, hour.restaurantId ≠ restaurantId := by
      intro unlisted
      obtain ⟨hour, present⟩ := List.exists_mem_of_ne_nil rows empty
      obtain ⟨stored, owner⟩ := List.mem_filter.mp (owned.mem_iff.mp present)
      exact unlisted hour stored (of_decide_eq_true owner)
    rw [statusAt_accepting empty, or_iff_right listed]
    exact or_congr (exists_window_iff owned distinct) (exists_window_iff owned distinct)

/-- A venue with no row that day and an overnight window the day before, next to another venue. -/
theorem withinScheduleClause_iff_overnight :
    (scheduleStatus true [⟨1, 6, some (Minute.time 1320), some (Minute.time 120), false⟩]
        ⟨0, Minute.time 60⟩).acceptingOrders = true ↔
      withinScheduleClause
        [⟨2, 0, none, none, true⟩, ⟨1, 6, some (Minute.time 1320), some (Minute.time 120), false⟩] 1
        ⟨0, Minute.time 60⟩ = some true :=
  withinScheduleClause_iff ⟨0, Minute.time 60⟩ (by decide) (by decide)

end Agreement

end FoodDelivery.Restaurants
