/-
**The next opening that is announced** (`services/restaurants/app/hours.py`, `_next_open`).

While no orders are taken the answer names the weekday and the time of the next opening. The scan looks
at today and the six days after it, and announces the opening time of the row it stops at.

* `nextAccepting`: when orders are taken next, which is on the first day that still has an opening to
  come, at its opening time, or at midnight when that day is open all day;
* `nextOpen_rows`: where the scan stops;
* `announcesOpening_iff`: so the announcement is right exactly when that day is less than a week away,
  and is not open all day under a time other than midnight.
-/

import FoodDelivery.Lib.Ranks
import FoodDelivery.Restaurants.Week

set_option autoImplicit false

namespace FoodDelivery.Restaurants

open FoodDelivery.Lib (findSome?_finRange)

namespace WeekSchedule

variable {schedule : WeekSchedule} {restaurantId : Nat}

/-! ### When orders are taken next -/

/-- The first minute after `m` at which orders are taken. -/
structure NextAccepting (schedule : WeekSchedule) (restaurantId m n : Nat) : Prop where
  later : m < n
  accepts : schedule.accepts restaurantId n
  first : ∀ k, m < k → k < n → ¬ schedule.accepts restaurantId k

/-- The day `ahead` days from the minute's own is the first one with an opening still to come: the
minute's own day when it opens later, or any day after it that has a window. -/
structure FirstOpening (schedule : WeekSchedule) (m ahead : Nat) (opens closes : Minute) : Prop where
  window : schedule.window (weekdayOf (m / 1440 + ahead)) = some (opens, closes)
  toCome : ahead = 0 → minuteOf m < opens
  first : ∀ earlier < ahead, ∀ opens' closes',
    schedule.window (weekdayOf (m / 1440 + earlier)) = some (opens', closes') →
      earlier = 0 ∧ opens' ≤ minuteOf m

/-- The minute at which a day's window begins: midnight when the day is open all day. -/
def opening (day : Nat) (opens closes : Minute) : Nat :=
  day * 1440 + if opens = closes then 0 else opens.val

theorem opening_div (day : Nat) (opens closes : Minute) : opening day opens closes / 1440 = day := by
  have bound := opens.isLt
  by_cases allDay : opens = closes
  · rw [opening, if_pos allDay]
    omega
  · rw [opening, if_neg allDay]
    omega

theorem minuteOf_opening (day : Nat) {opens closes : Minute} (differ : opens ≠ closes) :
    minuteOf (opening day opens closes) = opens := by
  have bound := opens.isLt
  rw [opening, if_neg differ]
  simp only [minuteOf, Fin.ext_iff]
  omega

theorem accepts_opening (present : schedule.days ≠ []) {day : Nat} {opens closes : Minute}
    (window : schedule.window (weekdayOf day) = some (opens, closes)) :
    schedule.accepts restaurantId (opening day opens closes) := by
  refine (accepts_iff present).mpr (Or.inl ⟨opens, closes, ?_, ?_⟩)
  · rwa [opening_div]
  · by_cases allDay : opens = closes
    · exact Or.inl allDay
    · rw [minuteOf_opening day allDay]
      rcases Nat.lt_or_gt_of_ne (Fin.val_ne_of_ne allDay) with forward | crossing
      · exact Or.inr (Or.inl ⟨forward, Fin.le_refl _, forward⟩)
      · exact Or.inr (Or.inr ⟨crossing, Fin.le_refl _⟩)

section Before

variable {m k ahead : Nat} {opens closes : Minute}

/-- The days from a minute to another before the first opening. -/
theorem days_before (later : m < k) (before : k < opening (m / 1440 + ahead) opens closes) :
    ∃ passed, k / 1440 = m / 1440 + passed ∧ passed ≤ ahead := by
  obtain ⟨passed, same⟩ := Nat.exists_eq_add_of_le (Nat.div_le_div_right (c := 1440) later.le)
  have upTo := Nat.div_le_div_right (c := 1440) before.le
  rw [opening_div, same] at upTo
  exact ⟨passed, same, Nat.le_of_add_le_add_left upTo⟩

/-- Until the first opening no day is inside its own window. -/
theorem not_openOn_before (closed : ¬ ∃ opens closes, schedule.OpenOn m opens closes)
    (next : schedule.FirstOpening m ahead opens closes) (later : m < k)
    (before : k < opening (m / 1440 + ahead) opens closes) :
    ¬ ∃ opens closes, schedule.OpenOn k opens closes := by
  rintro ⟨opens', closes', window, inside⟩
  obtain ⟨passed, same, upTo⟩ := days_before later before
  rw [same] at window
  rcases upTo.lt_or_eq with earlier | rfl
  · -- today's window, which has closed already
    obtain ⟨rfl, began⟩ := next.first passed earlier opens' closes' window
    have shut : ¬ (opens' = closes' ∨ (opens' < closes' ∧ opens' ≤ minuteOf m ∧
        minuteOf m < closes') ∨ (closes' < opens' ∧ opens' ≤ minuteOf m)) :=
      fun open' => closed ⟨opens', closes', window, open'⟩
    simp only [Fin.ext_iff, Fin.lt_def, Fin.le_def, minuteOf] at began shut inside
    omega
  · -- the day of the opening, which is not there yet
    obtain ⟨rfl, rfl⟩ : opens = opens' ∧ closes = closes' := by
      simpa using next.window.symm.trans window
    by_cases allDay : opens = closes
    · rw [opening, if_pos allDay] at before
      omega
    · rw [opening, if_neg allDay] at before
      simp only [Fin.ext_iff, Fin.lt_def, Fin.le_def, minuteOf] at allDay inside
      omega

/-- Until the first opening no day is inside the end of the window of the day before. -/
theorem not_openSince_before (closed : ¬ ∃ opens closes, schedule.OpenOn m opens closes)
    (early : ¬ ∃ opens closes, schedule.OpenSince m opens closes)
    (next : schedule.FirstOpening m ahead opens closes) (later : m < k)
    (before : k < opening (m / 1440 + ahead) opens closes) :
    ¬ ∃ opens closes, schedule.OpenSince k opens closes := by
  rintro ⟨opens', closes', window, crossing, late⟩
  obtain ⟨passed, same, upTo⟩ := days_before later before
  rw [same] at window
  rcases passed with _ | passed
  · -- the same day: then it was open at the minute already
    refine early ⟨opens', closes', window, crossing, ?_⟩
    simp only [Fin.lt_def, minuteOf] at late ⊢
    omega
  · -- the window began before the first opening, so today
    rw [← Nat.add_assoc, previousDay_weekdayOf] at window
    obtain ⟨rfl, began⟩ := next.first passed (Nat.lt_of_succ_le upTo) opens' closes' window
    exact closed ⟨opens', closes', window, Or.inr (Or.inr ⟨crossing, began⟩)⟩

/-- **When orders are taken next**: on the first day with an opening to come, when its window
begins. -/
theorem nextAccepting (present : schedule.days ≠ []) (closed : ¬ schedule.accepts restaurantId m)
    (next : schedule.FirstOpening m ahead opens closes) :
    schedule.NextAccepting restaurantId m (opening (m / 1440 + ahead) opens closes) := by
  rw [accepts_iff present, not_or] at closed
  obtain ⟨outside, early⟩ := closed
  refine ⟨?_, accepts_opening present next.window, fun k later before => ?_⟩
  · rcases ahead.eq_zero_or_pos with rfl | tomorrow
    · have toCome := next.toCome rfl
      have differ : opens ≠ closes := fun allDay =>
        outside ⟨opens, closes, next.window, Or.inl allDay⟩
      rw [opening, if_neg differ]
      simp only [Fin.lt_def, minuteOf] at toCome
      omega
    · have day := opening_div (m / 1440 + ahead) opens closes
      omega
  · rw [accepts_iff present, not_or]
    exact ⟨not_openOn_before outside next later before,
      not_openSince_before outside early next later before⟩

end Before

/-! ### Where the scan stops -/

/-- What one step of the scan answers for a valid schedule. -/
theorem nextOpen_rows (day : Weekday) (now : Minute) :
    nextOpen (schedule.rows restaurantId) day now.time =
      (List.finRange 7).findSome? fun ahead => (schedule.window (day + ahead)).bind fun window =>
        if ahead = 0 ∧ window.1 ≤ now then none else some (day + ahead, window.1.time) := by
  rw [nextOpen]
  congr 1
  funext ahead
  rw [byDay_rows, window]
  cases found : schedule.days.find? fun row => row.dayOfWeek = day + ahead with
  | none => rfl
  | some row =>
    have valid := schedule.windows row (List.mem_of_find?_eq_some found)
    obtain ⟨dayOfWeek, opensAt, closesAt, isClosed⟩ := row
    cases isClosed with
    | true =>
      obtain ⟨rfl, rfl⟩ : opensAt = none ∧ closesAt = none := by simpa using valid
      rfl
    | false =>
      obtain ⟨opens, closes⟩ : opensAt.isSome ∧ closesAt.isSome := by simpa using valid
      obtain ⟨opensAt, rfl⟩ := Option.isSome_iff_exists.mp opens
      obtain ⟨closesAt, rfl⟩ := Option.isSome_iff_exists.mp closes
      simp [OpeningHourDay.row]

/-- A step answers on a day with an opening to come. -/
theorem step_eq_some {m : Nat} {ahead : Fin 7} {answer : Weekday × TimeOfDay} :
    ((schedule.window (weekdayOf (m / 1440) + ahead)).bind fun window =>
        if ahead = 0 ∧ window.1 ≤ minuteOf m then none
        else some (weekdayOf (m / 1440) + ahead, window.1.time)) = some answer ↔
      ∃ opens closes, schedule.window (weekdayOf (m / 1440 + ahead)) = some (opens, closes) ∧
        ((ahead : Nat) = 0 → minuteOf m < opens) ∧
          answer = (weekdayOf (m / 1440 + ahead), opens.time) := by
  simp only [Option.bind_eq_some_iff, Option.ite_none_left_eq_some, Option.some_inj, Prod.exists,
    weekdayOf_add, not_and, Fin.not_le, Fin.ext_iff (a := ahead), Fin.val_zero,
    eq_comm (b := answer)]

/-- A step passes over a day without one. -/
theorem step_eq_none {m : Nat} {ahead : Fin 7} :
    ((schedule.window (weekdayOf (m / 1440) + ahead)).bind fun window =>
        if ahead = 0 ∧ window.1 ≤ minuteOf m then none
        else some (weekdayOf (m / 1440) + ahead, window.1.time)) = none ↔
      ∀ opens closes, schedule.window (weekdayOf (m / 1440 + ahead)) = some (opens, closes) →
        (ahead : Nat) = 0 ∧ opens ≤ minuteOf m := by
  simp only [Option.bind_eq_none_iff, Prod.forall, weekdayOf_add, ite_eq_left_iff,
    reduceCtorEq, imp_false, not_not, Fin.ext_iff (a := ahead), Fin.val_zero]

/-- **Where the scan stops**: at the first of seven days that still has an opening to come. -/
theorem nextOpen_eq_some (restaurantId : Nat) {m : Nat} {answer : Weekday × TimeOfDay} :
    nextOpen (schedule.rows restaurantId) (clockAt m).weekday (clockAt m).time = some answer ↔
      ∃ ahead < 7, ∃ opens closes, schedule.FirstOpening m ahead opens closes ∧
        answer = (weekdayOf (m / 1440 + ahead), opens.time) := by
  rw [clockAt, nextOpen_rows, findSome?_finRange]
  simp only [step_eq_some, step_eq_none]
  constructor
  · rintro ⟨ahead, ⟨opens, closes, window, toCome, same⟩, first⟩
    exact ⟨ahead, ahead.isLt, opens, closes, ⟨window, toCome, fun earlier before =>
      first ⟨earlier, before.trans ahead.isLt⟩ before⟩, same⟩
  · rintro ⟨ahead, week, opens, closes, next, same⟩
    exact ⟨⟨ahead, week⟩, ⟨opens, closes, next.window, next.toCome, same⟩, fun earlier before =>
      next.first earlier before⟩

/-! ### When the announcement is right -/

/-- The announced weekday and time are those of the next minute at which orders are taken. -/
def AnnouncesOpening (schedule : WeekSchedule) (restaurantId m : Nat) : Prop :=
  ∃ n, schedule.NextAccepting restaurantId m n ∧
    (schedule.status restaurantId m).nextOpensDay = some (clockAt n).weekday ∧
    (schedule.status restaurantId m).nextOpensAt = some (clockAt n).time

theorem NextAccepting.unique {m n n' : Nat} (next : schedule.NextAccepting restaurantId m n)
    (next' : schedule.NextAccepting restaurantId m n') : n = n' := by
  rcases Nat.lt_trichotomy n n' with before | same | after
  · exact absurd next.accepts (next'.first n next.later before)
  · exact same
  · exact absurd next'.accepts (next.first n' next'.later after)

/-- While it is closed, the answer is what the scan found. -/
theorem status_of_closed {m : Nat} (closed : ¬ schedule.accepts restaurantId m) :
    schedule.days ≠ [] ∧ schedule.status restaurantId m =
      notAccepting (schedule.rows restaurantId) (clockAt m) := by
  rw [accepts, status_eq] at closed
  rw [status_eq]
  have present : schedule.rows restaurantId ≠ [] := by
    intro none
    rw [statusAt, if_neg Bool.noConfusion, if_pos none] at closed
    exact closed rfl
  refine ⟨fun none => present (by rw [rows, none, List.map_nil]), ?_⟩
  obtain ⟨opensAt, closesAt, -, decided⟩ | ⟨opensAt, closesAt, -, decided⟩ | ⟨-, -, decided⟩ :=
    statusAt_cases (clockAt m) present
  · rw [decided] at closed
    exact absurd rfl closed
  · rw [decided] at closed
    exact absurd rfl closed
  · exact decided

theorem nextOpens_iff {m : Nat} (closed : ¬ schedule.accepts restaurantId m) {day : Weekday}
    {time : TimeOfDay} :
    ((schedule.status restaurantId m).nextOpensDay = some day ∧
        (schedule.status restaurantId m).nextOpensAt = some time) ↔
      ∃ ahead < 7, ∃ opens closes, schedule.FirstOpening m ahead opens closes ∧
        (day, time) = (weekdayOf (m / 1440 + ahead), opens.time) := by
  rw [← nextOpen_eq_some restaurantId, (status_of_closed closed).2, notAccepting]
  cases nextOpen (schedule.rows restaurantId) (clockAt m).weekday (clockAt m).time with
  | none => simp
  | some answer => simp [Prod.ext_iff]

theorem clockAt_opening (day : Nat) {opens closes : Minute} :
    clockAt (opening day opens closes) =
      ⟨weekdayOf day, Minute.time (if opens = closes then 0 else opens)⟩ := by
  rw [clockAt, opening_div]
  by_cases allDay : opens = closes
  · have midnight : minuteOf (opening day opens closes) = 0 := by
      rw [opening, if_pos allDay]
      simp [minuteOf]
    rw [midnight, if_pos allDay]
  · rw [minuteOf_opening day allDay, if_neg allDay]

/-- **When the announcement is right.** While the restaurant is closed, the announced weekday and time
are those of its next opening exactly when a day with an opening still to come is less than a week
ahead and the first such day is not open all day under a time other than midnight. -/
theorem announcesOpening_iff (schedule : WeekSchedule) (restaurantId m : Nat)
    (closed : ¬ schedule.accepts restaurantId m) :
    schedule.AnnouncesOpening restaurantId m ↔
      ∃ ahead < 7, ∃ opens closes, schedule.FirstOpening m ahead opens closes ∧
        (opens = closes → opens = 0) := by
  have present := (status_of_closed closed).1
  constructor
  · rintro ⟨n, next, announced⟩
    obtain ⟨ahead, week, opens, closes, first, same⟩ := (nextOpens_iff closed).mp announced
    refine ⟨ahead, week, opens, closes, first, fun allDay => ?_⟩
    rw [next.unique (nextAccepting present closed first), clockAt_opening, if_pos allDay] at same
    exact (Minute.time_inj.mp (Prod.ext_iff.mp same).2).symm
  · rintro ⟨ahead, week, opens, closes, first, midnight⟩
    refine ⟨_, nextAccepting present closed first, ?_⟩
    refine (nextOpens_iff closed).mpr ⟨ahead, week, opens, closes, first, ?_⟩
    rw [clockAt_opening]
    by_cases allDay : opens = closes
    · rw [if_pos allDay, midnight allDay]
    · rw [if_neg allDay]

/-- Open on Mondays only, from 09:00 to 17:00. -/
def mondays : WeekSchedule where
  days := [⟨weekdayOf 0, some (minuteOf 540), some (minuteOf 1020), false⟩]
  distinct := by decide
  windows := by decide

/-- On Sunday at midnight the next opening is on Monday at 09:00, and so it is announced. -/
theorem announcesOpening_iff_sunday : mondays.AnnouncesOpening 1 8640 := by
  refine (announcesOpening_iff mondays 1 8640 (by unfold accepts; decide)).mpr
    ⟨1, by decide, 540, 1020, ⟨by decide, by decide, fun earlier before opens closes window => ?_⟩,
      by decide⟩
  obtain rfl : earlier = 0 := by omega
  exact absurd window.symm (Option.some_ne_none _)

/-- On Monday at 18:00 no opening is announced, although next Monday at 09:00 is one. -/
theorem not_announcesOpening :
    ¬ ∀ (schedule : WeekSchedule) (restaurantId m : Nat),
      (∃ day ∈ schedule.days, day.isClosed = false) → ¬ schedule.accepts restaurantId m →
        schedule.AnnouncesOpening restaurantId m := by
  intro always
  obtain ⟨n, -, announced, -⟩ := always mondays 1 1080 (by decide) (by unfold accepts; decide)
  have silent : (mondays.status 1 1080).nextOpensDay = none := by decide
  exact Option.some_ne_none _ (announced.symm.trans silent)

end WeekSchedule

end FoodDelivery.Restaurants
