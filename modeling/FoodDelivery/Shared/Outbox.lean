/-
**The transactional outbox** (`shared/outbox.py`), the same code in every service.

A table is its rows in the order of their ids, with the proof that they are: `order_by(model.id)` is
the list itself. A send is what it comes to, the time at which it returned or nothing when it raised.
-/

import FoodDelivery.Lib.Ranks
import FoodDelivery.Lib.Table
import FoodDelivery.Shared.Basic

set_option autoImplicit false

namespace FoodDelivery.Shared

open FoodDelivery.Lib

/-- A row of `outbox_events`; `payload` is the JSON text. -/
structure OutboxRow where
  id : Nat
  topic : String
  key : Option String
  payload : String
  attempts : Nat := 0
  publishedAt : Option Timestamp := none
deriving DecidableEq, Repr

structure OutboxTable where
  rows : List OutboxRow
  sorted : rows.Pairwise fun first second => first.id < second.id

/-- `published_at IS NULL`. -/
def OutboxRow.pending (row : OutboxRow) : Bool := row.publishedAt.isNone

/-- Write rows over the rows with their ids. -/
def OutboxTable.write (table : OutboxTable) (written : List OutboxRow) : OutboxTable where
  rows := table.rows.map fun row => (written.find? fun other => other.id = row.id).getD row
  sorted := by
    refine List.pairwise_map.mpr (table.sorted.imp fun {first second} before => ?_)
    have keeps : ∀ row : OutboxRow,
        ((written.find? fun other => other.id = row.id).getD row).id = row.id := by
      intro row
      cases found : written.find? fun other => other.id = row.id with
      | none => rfl
      | some other => simpa using List.find?_some found
    rw [keeps, keeps]
    exact before

/-- `record_event`, committed: ids only grow, and one that was rolled back leaves a gap. It is assumed that
rows become visible in the order of their ids; the database draws an id at the insert and shows the row at
the commit, so that a transaction that takes long shows a lower id later. -/
def OutboxTable.recordEvent (table : OutboxTable) (gap : Nat) (topic : String) (key : Option String)
    (payload : String) : OutboxTable where
  rows := table.rows ++
    [{ id := nextId (table.rows.map OutboxRow.id) + gap, topic := topic, key := key, payload := payload }]
  sorted := by
    refine List.pairwise_append.mpr ⟨table.sorted, List.pairwise_singleton _ _, ?_⟩
    intro old member new is_new
    rw [List.mem_singleton.mp is_new]
    exact Nat.lt_add_right gap (lt_nextId (List.mem_map_of_mem member))

/-- What a send of a row comes to: the time at which it returned, or none when it raised. -/
abbrev Sender := OutboxRow → Option Timestamp

/-- One turn of the loop: published, or one more attempt. -/
def OutboxRow.attempt (send : Sender) (row : OutboxRow) : OutboxRow :=
  match send row with
  | some now => { row with publishedAt := some now }
  | none => { row with attempts := row.attempts + 1 }

/-- The batch that is selected: the first rows that are not published, `FOR UPDATE SKIP LOCKED`. -/
def OutboxTable.select (table : OutboxTable) (locked : List Nat) (batchSize : Nat) : List OutboxRow :=
  (table.rows.filter fun row => row.pending && row.id ∉ locked).take batchSize

/-- Publish one batch of unpublished rows, and say how many went out. -/
def drain (table : OutboxTable) (locked : List Nat) (send : Sender) (batchSize : Nat) :
    OutboxTable × Nat :=
  let rows := table.select locked batchSize
  (table.write (rows.map (OutboxRow.attempt send)), rows.countP fun row => (send row).isSome)

/-! ### What they meet -/

variable {table : OutboxTable} {row other : OutboxRow} {send : Sender} {locked : List Nat}
  {batchSize : Nat}

@[simp] theorem attempt_id (send : Sender) (row : OutboxRow) : (row.attempt send).id = row.id := by
  unfold OutboxRow.attempt
  split <;> rfl

/-- An id is the id of one row. -/
theorem OutboxTable.row_ext (here : row ∈ table.rows) (there : other ∈ table.rows)
    (same : row.id = other.id) : row = other := by
  have unique : (table.rows.map OutboxRow.id).Nodup :=
    List.pairwise_map.mpr (table.sorted.imp fun before => Nat.ne_of_lt before)
  exact List.inj_on_of_nodup_map unique here there same

theorem mem_select_iff (member : row ∈ table.rows) :
    row ∈ table.select locked batchSize ↔ row.pending = true ∧ row.id ∉ locked ∧
      table.rows.countP (fun other =>
        decide (other.id < row.id) && (other.pending && other.id ∉ locked)) < batchSize := by
  unfold OutboxTable.select
  by_cases wanted : (row.pending && decide (row.id ∉ locked)) = true
  · rw [mem_take_iff (table.sorted.filter _) (List.mem_filter.mpr ⟨member, wanted⟩),
      List.countP_filter]
    simp only [Bool.and_eq_true, decide_eq_true_eq] at wanted
    exact ⟨fun small => ⟨wanted.1, wanted.2, small⟩, fun all => all.2.2⟩
  · constructor
    · intro inside
      exact absurd (List.mem_filter.mp (List.mem_of_mem_take inside)).2 wanted
    · rintro ⟨pending, free, _⟩
      exact absurd (by simp [pending, free]) wanted

theorem mem_rows_of_select (member : row ∈ table.select locked batchSize) : row ∈ table.rows :=
  (List.mem_filter.mp (List.mem_of_mem_take member)).1

/-- **What a drain does to each row.** -/
theorem drain_rows (table : OutboxTable) (locked : List Nat) (send : Sender) (batchSize : Nat) :
    (drain table locked send batchSize).1.rows = table.rows.map fun row =>
      if row ∈ table.select locked batchSize then row.attempt send else row := by
  refine List.map_congr_left fun row member => ?_
  by_cases taken : row ∈ table.select locked batchSize
  · rw [if_pos taken]
    have found : ((table.select locked batchSize).map (OutboxRow.attempt send)).find?
        (fun other => other.id = row.id) = some (row.attempt send) := by
      rw [List.find?_map]
      have first : (table.select locked batchSize).find? ((fun other => decide (other.id = row.id)) ∘
          OutboxRow.attempt send) = some row := by
        have some_row : ((table.select locked batchSize).find?
            ((fun other => decide (other.id = row.id)) ∘ OutboxRow.attempt send)).isSome :=
          List.find?_isSome.mpr ⟨row, taken, by simp⟩
        obtain ⟨other, found⟩ := Option.isSome_iff_exists.mp some_row
        have same : other.id = row.id := by simpa using List.find?_some found
        have inside := mem_rows_of_select (List.mem_of_find?_eq_some found)
        rw [found, OutboxTable.row_ext inside member same]
      rw [first]
      rfl
    rw [found]
    rfl
  · rw [if_neg taken]
    have absent : ((table.select locked batchSize).map (OutboxRow.attempt send)).find?
        (fun other => other.id = row.id) = none := by
      refine List.find?_eq_none.mpr fun other inside => ?_
      obtain ⟨old, selected, rfl⟩ := List.mem_map.mp inside
      intro same
      have own : old.id = row.id := by simpa using same
      exact taken (OutboxTable.row_ext (mem_rows_of_select selected) member own ▸ selected)
    rw [absent]
    rfl

end FoodDelivery.Shared
