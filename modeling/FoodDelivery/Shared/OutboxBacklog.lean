/-
**A backlog with rows that can never be sent.**

A drain takes the first `batch_size` rows that are not published, whatever has become of them before.
Rows whose send always raises stay the first, and take their places in every batch.

`backlog_iff`: in every run of drains and new rows, nothing is lost, and every row that can be sent is
published within as many drains as there were rows before it, plus one, exactly when every such row has
fewer than `batch_size` unpublished failing rows before it.
-/

import FoodDelivery.Lib.Runs
import FoodDelivery.Shared.Outbox

set_option autoImplicit false

namespace FoodDelivery.Shared

open FoodDelivery.Lib

/-! ### Runs -/

/-- What happens to the table: a drain, or a new row. -/
inductive Tick where
  | drain (clock : OutboxRow → Timestamp)
  | record (gap : Nat) (topic : String) (key : Option String) (payload : String)

def Tick.isDrain : Tick → Bool
  | .drain _ => true
  | .record _ _ _ _ => false

/-- A broker that always refuses some rows and takes all the others. -/
def refuses (fails : Nat → Bool) (clock : OutboxRow → Timestamp) : Sender := fun row =>
  if fails row.id then none else some (clock row)

def OutboxTable.tick (batchSize : Nat) (fails : Nat → Bool) (table : OutboxTable) :
    Tick → OutboxTable
  | .drain clock => (drain table [] (refuses fails clock) batchSize).1
  | .record gap topic key payload => table.recordEvent gap topic key payload

/-! ### What has to hold -/

/-- Every row is still there, as it was but for one more attempt or for the time at which its own send
returned. -/
def Faithful (batchSize : Nat) (fails : Nat → Bool) (table : OutboxTable) (tick : Tick) : Prop :=
  ∀ row ∈ table.rows, ∃ after ∈ (table.tick batchSize fails tick).rows,
    after = row ∨ after = { row with attempts := row.attempts + 1 } ∨
      ∃ clock now, tick = .drain clock ∧ row ∈ table.select [] batchSize ∧
        refuses fails clock row = some now ∧ after = { row with publishedAt := some now }

/-- The rows before a row. -/
def OutboxTable.earlier (table : OutboxTable) (id : Nat) : Nat :=
  table.rows.countP fun other => other.id < id

/-- Every row that can be sent is published after one drain more than there are rows before it. -/
def Delivers (batchSize : Nat) (fails : Nat → Bool) (table : OutboxTable) : Prop :=
  ∀ ticks : List Tick, ∀ row ∈ table.rows, fails row.id = false →
    table.earlier row.id < ticks.countP Tick.isDrain →
    ∃ after ∈ (run (OutboxTable.tick batchSize fails) table ticks).rows,
      after.id = row.id ∧ after.pending = false

/-- The unpublished failing rows before a row. -/
def OutboxTable.stuck (fails : Nat → Bool) (table : OutboxTable) (id : Nat) : Nat :=
  table.rows.countP fun other => decide (other.id < id) && (other.pending && fails other.id)

/-- No row that can be sent waits behind a whole batch of rows that cannot. -/
def Unblocked (batchSize : Nat) (fails : Nat → Bool) (table : OutboxTable) : Prop :=
  ∀ row ∈ table.rows, row.pending = true → fails row.id = false →
    table.stuck fails row.id < batchSize

/-! ### One tick -/

variable (batchSize : Nat) (fails : Nat → Bool) {table : OutboxTable} {row : OutboxRow}

/-- The unpublished rows before a row that can be sent. -/
def OutboxTable.moving (fails : Nat → Bool) (table : OutboxTable) (id : Nat) : Nat :=
  table.rows.countP fun other => decide (other.id < id) && (other.pending && !fails other.id)

@[simp] theorem pending_attempt (clock : OutboxRow → Timestamp)
    (row : OutboxRow) :
    (row.attempt (refuses fails clock)).pending = (row.pending && fails row.id) := by
  cases refused : fails row.id <;> simp [OutboxRow.attempt, refuses, refused, OutboxRow.pending]

/-- The row with a row's id after a drain. -/
def OutboxTable.drained (batchSize : Nat) (fails : Nat → Bool) (clock : OutboxRow → Timestamp)
    (table : OutboxTable) (row : OutboxRow) : OutboxRow :=
  if row ∈ table.select [] batchSize then row.attempt (refuses fails clock) else row

theorem tick_drain_rows (clock : OutboxRow → Timestamp) :
    (table.tick batchSize fails (.drain clock)).rows =
      table.rows.map (table.drained batchSize fails clock) :=
  drain_rows table [] (refuses fails clock) batchSize

theorem drained_id (clock : OutboxRow → Timestamp) (row : OutboxRow) :
    (table.drained batchSize fails clock row).id = row.id := by
  unfold OutboxTable.drained
  split
  · exact attempt_id _ _
  · rfl

/-- A drain publishes only what is pending and can be sent. -/
theorem pending_drained (clock : OutboxRow → Timestamp) (row : OutboxRow) :
    (table.drained batchSize fails clock row).pending =
      (row.pending && (fails row.id || decide (row ∉ table.select [] batchSize))) := by
  unfold OutboxTable.drained
  split
  · rename_i taken
    rw [pending_attempt]
    simp [taken]
  · rename_i left_out
    simp [left_out]

/-- A row is there after every tick, and stays published. -/
theorem tick_row (tick : Tick) (member : row ∈ table.rows) :
    ∃ after ∈ (table.tick batchSize fails tick).rows, after.id = row.id ∧
      (row.pending = false → after.pending = false) := by
  cases tick with
  | drain clock =>
    refine ⟨_, tick_drain_rows batchSize fails clock ▸ List.mem_map_of_mem member,
      drained_id batchSize fails clock row, fun published => ?_⟩
    rw [pending_drained, published, Bool.false_and]
  | record gap topic key payload => exact ⟨row, List.mem_append_left _ member, rfl, id⟩

/-- New rows come after all the others. -/
theorem countP_record (gap : Nat) (topic : String) (key : Option String) (payload : String)
    (condition : OutboxRow → Bool) (member : row ∈ table.rows) :
    (table.recordEvent gap topic key payload).rows.countP
        (fun other => decide (other.id < row.id) && condition other) =
      table.rows.countP fun other => decide (other.id < row.id) && condition other := by
  have above : row.id < nextId (table.rows.map OutboxRow.id) + gap :=
    Nat.lt_add_right gap (lt_nextId (List.mem_map_of_mem member))
  rw [OutboxTable.recordEvent, List.countP_append, List.countP_singleton, if_neg, Nat.add_zero]
  simp only [Bool.and_eq_true, decide_eq_true_eq, not_and]
  omega

/-- **Failing rows stay where they are.** -/
theorem stuck_tick (tick : Tick) (member : row ∈ table.rows) :
    (table.tick batchSize fails tick).stuck fails row.id = table.stuck fails row.id := by
  cases tick with
  | drain clock =>
    unfold OutboxTable.stuck
    rw [tick_drain_rows, List.countP_map]
    refine List.countP_congr fun other _ => ?_
    simp only [Function.comp_apply, drained_id, pending_drained]
    cases fails other.id <;> simp
  | record gap topic key payload => exact countP_record gap topic key payload _ member

theorem moving_tick (tick : Tick) (member : row ∈ table.rows) :
    (table.tick batchSize fails tick).moving fails row.id ≤ table.moving fails row.id := by
  cases tick with
  | drain clock =>
    unfold OutboxTable.moving
    rw [tick_drain_rows, List.countP_map]
    refine List.countP_mono_left fun other _ => ?_
    simp only [Function.comp_apply, drained_id, pending_drained, Bool.and_eq_true]
    exact fun holds => ⟨holds.1, holds.2.1.1, holds.2.2⟩
  | record gap topic key payload =>
    exact le_of_eq (countP_record gap topic key payload _ member)

/-- **Nothing is lost.** -/
theorem faithful (table : OutboxTable) (tick : Tick) :
    Faithful batchSize fails table tick := by
  intro row member
  cases tick with
  | drain clock =>
    refine ⟨_, tick_drain_rows batchSize fails clock ▸ List.mem_map_of_mem member, ?_⟩
    unfold OutboxTable.drained
    split
    · rename_i taken
      cases outcome : refuses fails clock row with
      | none => exact Or.inr (Or.inl (by simp [OutboxRow.attempt, outcome]))
      | some now =>
        exact Or.inr (Or.inr ⟨clock, now, rfl, taken, outcome, by simp [OutboxRow.attempt, outcome]⟩)
    · exact Or.inl rfl
  | record gap topic key payload => exact ⟨row, List.mem_append_left _ member, Or.inl rfl⟩

/-- **A drain makes progress**: it publishes the row, or one before it. -/
theorem drain_progress (clock : OutboxRow → Timestamp) (member : row ∈ table.rows)
    (pending : row.pending = true) (sendable : fails row.id = false)
    (unblocked : table.stuck fails row.id < batchSize) :
    (table.drained batchSize fails clock row).pending = false ∨
      (table.tick batchSize fails (.drain clock)).moving fails row.id <
        table.moving fails row.id := by
  by_cases taken : row ∈ table.select [] batchSize
  · left
    rw [pending_drained]
    simp [sendable, taken]
  · right
    have free : row ∈ table.rows.filter fun row => row.pending && decide (row.id ∉ ([] : List Nat)) :=
      List.mem_filter.mpr ⟨member, by simp [pending]⟩
    obtain ⟨full, before⟩ := full_of_not_mem_take (table.sorted.filter _) free taken
    -- a batch of failing rows only would be as many as may not be there
    have some_sendable : ∃ other ∈ table.select [] batchSize, fails other.id = false := by
      by_contra none_sendable
      have all_stuck : (table.select [] batchSize).countP (fun other =>
          decide (other.id < row.id) && (other.pending && fails other.id)) = batchSize := by
        refine (List.countP_eq_length.mpr fun other inside => ?_).trans full
        have waits : other.pending = true := by
          have selected := (List.mem_filter.mp (List.mem_of_mem_take inside)).2
          simpa using selected
        have refused : fails other.id = true := by
          by_contra sendable
          exact none_sendable ⟨other, inside, eq_false_of_ne_true sendable⟩
        simp [before other inside, waits, refused]
      have part : (table.select [] batchSize).Sublist table.rows :=
        (List.take_sublist batchSize _).trans List.filter_sublist
      have within : _ ≤ table.stuck fails row.id := part.countP_le
      omega
    obtain ⟨other, inside, sendable_other⟩ := some_sendable
    have selected := (List.mem_filter.mp (List.mem_of_mem_take inside)).2
    unfold OutboxTable.moving
    rw [tick_drain_rows, List.countP_map]
    refine countP_lt_countP (fun y _ => ?_) ⟨other, mem_rows_of_select inside, ?_, ?_⟩
    · simp only [Function.comp_apply, drained_id, pending_drained, Bool.and_eq_true]
      exact fun holds => ⟨holds.1, holds.2.1.1, holds.2.2⟩
    · simp only [Bool.and_eq_true, decide_eq_true_eq] at selected
      simp [before other inside, selected.1, sendable_other]
    · simp [Function.comp_apply, drained_id, pending_drained, inside, sendable_other]

/-! ### Runs -/

/-- What is published stays published. -/
theorem published_run (ticks : List Tick) (member : row ∈ table.rows)
    (published : row.pending = false) :
    ∃ after ∈ (run (OutboxTable.tick batchSize fails) table ticks).rows,
      after.id = row.id ∧ after.pending = false := by
  induction ticks generalizing table row with
  | nil => exact ⟨row, member, rfl, published⟩
  | cons tick ticks ih =>
    obtain ⟨next, there, same, still⟩ := tick_row batchSize fails tick member
    obtain ⟨after, last, own, done⟩ := ih there (still published)
    exact ⟨after, last, own.trans same, done⟩

/-- **A row that is not blocked is published**, one drain at the latest after those before it. -/
theorem delivered_run (ticks : List Tick) (member : row ∈ table.rows)
    (sendable : fails row.id = false) (unblocked : table.stuck fails row.id < batchSize)
    (enough : table.moving fails row.id < ticks.countP Tick.isDrain) :
    ∃ after ∈ (run (OutboxTable.tick batchSize fails) table ticks).rows,
      after.id = row.id ∧ after.pending = false := by
  induction ticks generalizing table row with
  | nil => exact absurd enough (Nat.not_lt_zero _)
  | cons tick ticks ih =>
    by_cases published : row.pending = false
    · exact published_run batchSize fails (tick :: ticks) member published
    · have pending : row.pending = true := by simpa using published
      have stays := stuck_tick batchSize fails tick member
      have shrinks := moving_tick batchSize fails tick member
      cases tick with
      | drain clock =>
        have there : table.drained batchSize fails clock row ∈
            (table.tick batchSize fails (.drain clock)).rows :=
          tick_drain_rows batchSize fails clock ▸ List.mem_map_of_mem member
        have own : (table.drained batchSize fails clock row).id = row.id :=
          drained_id batchSize fails clock row
        rcases drain_progress batchSize fails clock member pending sendable unblocked with done | fewer
        · obtain ⟨after, last, same, published⟩ := published_run batchSize fails ticks there done
          exact ⟨after, last, same.trans own, published⟩
        · rw [List.countP_cons_of_pos rfl] at enough
          have next := ih there (own.symm ▸ sendable) (by rw [own, stays]; exact unblocked)
            (by rw [own]; omega)
          rw [own] at next
          exact next
      | record gap topic key payload =>
        rw [List.countP_cons_of_neg (by simp [Tick.isDrain])] at enough
        exact ih (List.mem_append_left _ member) sendable (by rw [stays]; exact unblocked)
          (lt_of_le_of_lt shrinks enough)

/-- **A row that is blocked is never published.** -/
theorem blocked_run (ticks : List Tick) (member : row ∈ table.rows)
    (blocked : batchSize ≤ table.stuck fails row.id) :
    row ∈ (run (OutboxTable.tick batchSize fails) table ticks).rows := by
  induction ticks generalizing table with
  | nil => exact member
  | cons tick ticks ih =>
    have stays := stuck_tick batchSize fails tick member
    refine ih ?_ (stays.symm ▸ blocked)
    cases tick with
    | drain clock =>
      have left_out : row ∉ table.select [] batchSize := by
        rw [mem_select_iff member]
        rintro ⟨_, _, few⟩
        have more : table.stuck fails row.id ≤ table.rows.countP (fun other =>
            decide (other.id < row.id) && (other.pending && decide (other.id ∉ ([] : List Nat)))) := by
          refine List.countP_mono_left fun other _ => ?_
          simp only [Bool.and_eq_true]
          exact fun holds => ⟨holds.1, holds.2.1, by simp⟩
        omega
      have same : table.drained batchSize fails clock row = row := if_neg left_out
      rw [tick_drain_rows, ← same]
      exact List.mem_map_of_mem member
    | record gap topic key payload => exact List.mem_append_left _ member

/-- **One table**: what can be sent is published in time exactly when nothing is blocked. -/
theorem delivers_iff (table : OutboxTable) :
    Delivers batchSize fails table ↔ Unblocked batchSize fails table := by
  constructor
  · intro delivers row member pending sendable
    by_contra blocked
    obtain ⟨after, there, same, published⟩ := delivers
      (List.replicate (table.earlier row.id + 1) (.drain fun _ => 0)) row member sendable
      (by simp [Tick.isDrain, List.countP_replicate])
    have still := blocked_run batchSize fails
      (List.replicate (table.earlier row.id + 1) (.drain fun _ => 0)) member
      (Nat.le_of_not_lt blocked)
    rw [OutboxTable.row_ext there still same] at published
    exact Bool.false_ne_true (published.symm.trans pending)
  · intro unblocked ticks row member sendable enough
    by_cases published : row.pending = false
    · exact published_run batchSize fails ticks member published
    · have fewer : table.moving fails row.id ≤ table.earlier row.id := by
        refine List.countP_mono_left fun other _ holds => ?_
        simp only [Bool.and_eq_true] at holds
        exact holds.1
      exact delivered_run batchSize fails ticks member sendable
        (unblocked row member (by simpa using published) sendable) (lt_of_le_of_lt fewer enough)

/-- **When nothing is lost and nothing starves**, in every state of a run. -/
theorem backlog_iff (table : OutboxTable) (ticks : List Tick) :
    (Throughout (OutboxTable.tick batchSize fails) (Faithful batchSize fails) table ticks ∧
        Always (OutboxTable.tick batchSize fails) (Delivers batchSize fails) table ticks) ↔
      Always (OutboxTable.tick batchSize fails) (Unblocked batchSize fails) table ticks := by
  have safe : Throughout (OutboxTable.tick batchSize fails) (Faithful batchSize fails) table ticks := by
    induction ticks generalizing table with
    | nil => trivial
    | cons tick ticks ih => exact ⟨faithful batchSize fails table tick, ih _⟩
  constructor
  · exact fun both => both.2.mono fun table => (delivers_iff batchSize fails table).mp
  · exact fun unblocked =>
      ⟨safe, unblocked.mono fun table => (delivers_iff batchSize fails table).mpr⟩

/-! ### Two rows that are refused -/

/-- Three events: the broker will not have the first two. -/
def twoRefused : OutboxTable where
  rows := [ { id := 1, topic := "order-events", key := some "1", payload := "\"too large\"" },
    { id := 2, topic := "order-events", key := some "2", payload := "\"too large\"" },
    { id := 3, topic := "order-events", key := some "3", payload := "\x7b\x7d" } ]
  sorted := by decide

/-- **Two rows starve all the others**, in batches of two. -/
theorem twoRefused_starves : ¬ ∀ (batchSize : Nat) (fails : Nat → Bool) (table : OutboxTable)
    (ticks : List Tick), 1 ≤ batchSize →
    Throughout (OutboxTable.tick batchSize fails) (Faithful batchSize fails) table ticks ∧
      Always (OutboxTable.tick batchSize fails) (Delivers batchSize fails) table ticks := by
  intro always
  have delivers := (always 2 (fun id => id < 3) twoRefused [] (by decide)).2.head
  have unblocked := (delivers_iff _ _ _).mp delivers
  have few := unblocked { id := 3, topic := "order-events", key := some "3", payload := "\x7b\x7d" }
    (by decide) rfl rfl
  exact absurd few (by decide)

end FoodDelivery.Shared
