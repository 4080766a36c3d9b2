/-
**Tables with a unique key column.**

A `Table` is the rows of a relation in the order they were inserted, together with the proof that no
two rows share a key: the unique constraint is a field, so a table that violates it cannot be built.

* `find?` is the lookup by key, `first?` the first row that meets a condition;
* `put` writes a row: over the row with its key, or at the end;
* `find?_put_self`, `find?_put_other`: what a lookup sees after a write;
* `find?_of_first?`: a row found by a condition is the row its own key finds, and `first?_put` keeps
  it the first when it is written over;
* `countP_put`: what a write adds to the rows that meet a condition;
* `modify` changes rows in place (`find?_modify`) and `filter` deletes some (`find?_filter`);
* `filter_put_of_unseen`, `filter_filter_of_unseen`, `filter_modify_of_unseen`: what does not show through a
  condition on the rows;
* `nextId` is the key an identity column gives next, which no row has (`nextId_not_mem`).
-/

import Mathlib.Data.List.Nodup

namespace FoodDelivery.Lib

/-- Rows in insertion order, no two with one key. -/
structure Table (κ ρ : Type) (key : ρ → κ) where
  rows : List ρ
  unique : (rows.map key).Nodup

namespace Table

variable {κ ρ : Type} {key : ρ → κ}

/-- The table with no rows. -/
def empty : Table κ ρ key := ⟨[], List.nodup_nil⟩

theorem eq_of_rows {first second : Table κ ρ key} (same : first.rows = second.rows) :
    first = second := by
  cases first
  cases second
  cases same
  rfl

/-- The first row that meets a condition. -/
def first? (table : Table κ ρ key) (condition : ρ → Bool) : Option ρ :=
  table.rows.find? condition

variable [DecidableEq κ]

/-- The row with a key. -/
def find? (table : Table κ ρ key) (k : κ) : Option ρ :=
  table.rows.find? fun row => key row = k

/-- Replace the row with the new row's key. -/
def replaceRow (row : ρ) (rows : List ρ) (key : ρ → κ) : List ρ :=
  rows.map fun old => if key old = key row then row else old

theorem map_key_replaceRow (row : ρ) (rows : List ρ) (key : ρ → κ) :
    (replaceRow row rows key).map key = rows.map key := by
  rw [replaceRow, List.map_map]
  refine List.map_congr_left fun old _ => ?_
  by_cases same : key old = key row
  · simp [same]
  · simp [same]

/-- **Write a row**: over the row with its key when there is one, else at the end. -/
def put (table : Table κ ρ key) (row : ρ) : Table κ ρ key :=
  if present : key row ∈ table.rows.map key then
    ⟨replaceRow row table.rows key, by rw [map_key_replaceRow]; exact table.unique⟩
  else
    ⟨table.rows ++ [row], by
      rw [List.map_append, List.map_singleton]
      refine List.nodup_append.mpr ⟨table.unique, List.nodup_singleton _, fun k old k' new => ?_⟩
      rw [List.mem_singleton.mp new]
      exact fun same => present (same ▸ old)⟩

/-- A lookup answers with a row of the table that has the key. -/
theorem find?_eq_some {table : Table κ ρ key} {k : κ} {row : ρ} :
    table.find? k = some row ↔ row ∈ table.rows ∧ key row = k := by
  constructor
  · intro found
    exact ⟨List.mem_of_find?_eq_some found, by simpa using List.find?_some found⟩
  · rintro ⟨member, rfl⟩
    unfold find?
    have some_row : (table.rows.find? fun other => key other = key row).isSome :=
      List.find?_isSome.mpr ⟨row, member, by simp⟩
    obtain ⟨other, found⟩ := Option.isSome_iff_exists.mp some_row
    have same : key other = key row := by simpa using List.find?_some found
    rw [found, List.inj_on_of_nodup_map table.unique (List.mem_of_find?_eq_some found) member same]

theorem find?_eq_none {table : Table κ ρ key} {k : κ} :
    table.find? k = none ↔ ∀ row ∈ table.rows, key row ≠ k := by
  simp [find?, List.find?_eq_none]

theorem key_of_find? {table : Table κ ρ key} {k : κ} {row : ρ} (found : table.find? k = some row) :
    key row = k :=
  (find?_eq_some.mp found).2

/-- **A row found by a condition is the row its key finds.** -/
theorem find?_of_first? {table : Table κ ρ key} {condition : ρ → Bool} {row : ρ}
    (found : table.first? condition = some row) :
    table.find? (key row) = some row ∧ condition row = true :=
  ⟨find?_eq_some.mpr ⟨List.mem_of_find?_eq_some found, rfl⟩, List.find?_some found⟩

/-- Every row of the table after a write is the new row or an old row with another key. -/
theorem mem_put {table : Table κ ρ key} {row other : ρ} :
    other ∈ (table.put row).rows ↔ other = row ∨ (other ∈ table.rows ∧ key other ≠ key row) := by
  unfold put
  split
  · rename_i present
    simp only [replaceRow, List.mem_map]
    constructor
    · rintro ⟨old, member, rfl⟩
      by_cases same : key old = key row
      · exact Or.inl (if_pos same)
      · rw [if_neg same]
        exact Or.inr ⟨member, same⟩
    · rintro (rfl | ⟨member, different⟩)
      · obtain ⟨old, member, same⟩ := List.mem_map.mp present
        exact ⟨old, member, if_pos same⟩
      · exact ⟨other, member, if_neg different⟩
  · rename_i absent
    rw [List.mem_append, List.mem_singleton]
    constructor
    · rintro (member | rfl)
      · exact Or.inr ⟨member, fun same => absent (same ▸ List.mem_map_of_mem member)⟩
      · exact Or.inl rfl
    · rintro (rfl | ⟨member, _⟩)
      · exact Or.inr rfl
      · exact Or.inl member

/-- The written row is found by its key. -/
theorem find?_put_self (table : Table κ ρ key) (row : ρ) :
    (table.put row).find? (key row) = some row :=
  find?_eq_some.mpr ⟨mem_put.mpr (Or.inl rfl), rfl⟩

/-- **The frame of a write**: every other key finds what it found before. -/
theorem find?_put_other (table : Table κ ρ key) {row : ρ} {k : κ} (other : key row ≠ k) :
    (table.put row).find? k = table.find? k := by
  apply Option.ext
  intro found
  rw [find?_eq_some, find?_eq_some, mem_put]
  constructor
  · rintro ⟨rfl | ⟨member, _⟩, same⟩
    · exact absurd same other
    · exact ⟨member, same⟩
  · rintro ⟨member, rfl⟩
    exact ⟨Or.inr ⟨member, Ne.symm other⟩, rfl⟩

theorem find?_put (table : Table κ ρ key) (row : ρ) (k : κ) :
    (table.put row).find? k = if key row = k then some row else table.find? k := by
  split
  · rename_i same
    rw [← same, find?_put_self]
  · rename_i other
    exact find?_put_other table other

/-- **A condition's first row stays the first** when it is written over and still meets it. -/
theorem first?_put {table : Table κ ρ key} {condition : ρ → Bool} {old row : ρ}
    (found : table.first? condition = some old) (same : key row = key old)
    (meets : condition row = true) : (table.put row).first? condition = some row := by
  have present : key row ∈ table.rows.map key := by
    rw [same]
    exact List.mem_map_of_mem (List.mem_of_find?_eq_some found)
  unfold put first?
  rw [dif_pos present]
  obtain ⟨meets_old, before, after, split, none_before⟩ := List.find?_eq_some_iff_append.mp found
  have distinct := table.unique
  rw [split, List.map_append, List.map_cons] at distinct
  refine List.find?_eq_some_iff_append.mpr ⟨meets, replaceRow row before key,
    replaceRow row after key, ?_, ?_⟩
  · show replaceRow row table.rows key = _
    unfold replaceRow
    rw [split, List.map_append, List.map_cons, if_pos same.symm]
  · intro other member
    obtain ⟨original, in_before, rfl⟩ := List.mem_map.mp member
    have different : key original ≠ key row := by
      intro clash
      rw [same] at clash
      have apart := (List.nodup_append.mp distinct).2.2 (key original)
        (List.mem_map_of_mem in_before) (key old) List.mem_cons_self
      exact apart clash
    rw [if_neg different]
    exact none_before original in_before

/-! ### Counting rows -/

omit [DecidableEq κ] in

theorem nodup_rows (table : Table κ ρ key) : table.rows.Nodup := table.unique.of_map key

/-- **The rows after a write**: the new row, and those with other keys. -/
theorem put_perm (table : Table κ ρ key) (row : ρ) :
    (table.put row).rows.Perm (row :: table.rows.filter fun other => key other ≠ key row) := by
  refine (List.perm_ext_iff_of_nodup (table.put row).nodup_rows ?_).mpr fun other => ?_
  · refine List.nodup_cons.mpr ⟨fun member => ?_, table.nodup_rows.filter _⟩
    exact of_decide_eq_true (List.mem_filter.mp member).2 rfl
  · rw [mem_put, List.mem_cons, List.mem_filter, decide_eq_true_iff]

/-- The row that a key finds, and those with other keys. -/
theorem find?_perm (table : Table κ ρ key) (k : κ) :
    table.rows.Perm ((table.find? k).toList ++ table.rows.filter fun other => key other ≠ k) := by
  refine (List.perm_ext_iff_of_nodup table.nodup_rows ?_).mpr fun other => ?_
  · refine List.nodup_append.mpr ⟨?_, table.nodup_rows.filter _, fun found member other rest => ?_⟩
    · cases table.find? k with
      | none => exact List.nodup_nil
      | some found => exact List.nodup_singleton found
    · rintro rfl
      exact of_decide_eq_true (List.mem_filter.mp rest).2 (key_of_find? (Option.mem_toList.mp member))
  · rw [List.mem_append, Option.mem_toList, find?_eq_some, List.mem_filter,
      decide_eq_true_iff]
    constructor
    · intro member
      by_cases same : key other = k
      · exact Or.inl ⟨member, same⟩
      · exact Or.inr ⟨member, same⟩
    · rintro (⟨member, _⟩ | ⟨member, _⟩)
      · exact member
      · exact member

/-- **What a write adds to a count**: the new row, for the row that was there. -/
theorem countP_put (table : Table κ ρ key) (row : ρ) (p : ρ → Bool) :
    (table.put row).rows.countP p + (table.find? (key row)).toList.countP p =
      table.rows.countP p + [row].countP p := by
  rw [(table.put_perm row).countP_eq p, (table.find?_perm (key row)).countP_eq p,
    List.countP_append, ← List.singleton_append, List.countP_append]
  omega

/-! ### Changing and deleting rows -/

omit [DecidableEq κ] in

theorem unique_map {change : ρ → ρ} (table : Table κ ρ key)
    (keeps : ∀ row, key (change row) = key row) : ((table.rows.map change).map key).Nodup := by
  rw [List.map_map, show key ∘ change = key from funext keeps]
  exact table.unique

/-- Change every row in place. -/
def modify (table : Table κ ρ key) (change : ρ → ρ) (keeps : ∀ row, key (change row) = key row) :
    Table κ ρ key :=
  ⟨table.rows.map change, table.unique_map keeps⟩

theorem find?_modify (table : Table κ ρ key) {change : ρ → ρ}
    (keeps : ∀ row, key (change row) = key row) (k : κ) :
    (table.modify change keeps).find? k = (table.find? k).map change := by
  unfold find? modify
  rw [List.find?_map]
  congr 2
  funext row
  simp [keeps]

/-- Keep the rows that meet a condition and delete the others. -/
def filter (table : Table κ ρ key) (keep : ρ → Bool) : Table κ ρ key :=
  ⟨table.rows.filter keep, table.unique.sublist (List.filter_sublist.map key)⟩

/-- A lookup after a deletion. -/
theorem find?_filter (table : Table κ ρ key) (keep : ρ → Bool) (k : κ) :
    (table.filter keep).find? k = (table.find? k).filter keep := by
  ext row
  rw [find?_eq_some, Option.filter_eq_some_iff, find?_eq_some]
  show row ∈ table.rows.filter keep ∧ key row = k ↔ _
  rw [List.mem_filter]
  constructor
  · rintro ⟨⟨member, kept⟩, same⟩
    exact ⟨⟨member, same⟩, kept⟩
  · rintro ⟨⟨member, same⟩, kept⟩
    exact ⟨⟨member, kept⟩, same⟩

/-! ### What is seen of a table through a condition -/

variable {table : Table κ ρ key} {seen : ρ → Bool}

/-- **A write is not seen** when neither the new row nor the row it replaces is. -/
theorem filter_put_of_unseen {row : ρ} (new : seen row = false)
    (old : ∀ other ∈ table.rows, key other = key row → seen other = false) :
    (table.put row).rows.filter seen = table.rows.filter seen := by
  unfold put
  split
  · have replaced : ∀ rows : List ρ, (∀ other ∈ rows, key other = key row → seen other = false) →
        (replaceRow row rows key).filter seen = rows.filter seen := by
      intro rows old
      induction rows with
      | nil => rfl
      | cons first rows hyp =>
        have rest := hyp fun other member => old other (List.mem_cons_of_mem _ member)
        rw [replaceRow] at rest ⊢
        by_cases same : key first = key row
        · have unseen := old first List.mem_cons_self same
          simp [same, new, unseen, rest]
        · simp [same, List.filter_cons, rest]
    exact replaced table.rows old
  · simp [new]

omit [DecidableEq κ] in
/-- A deletion is not seen when no row that goes is. -/
theorem filter_filter_of_unseen {keep : ρ → Bool}
    (gone : ∀ row ∈ table.rows, keep row = false → seen row = false) :
    (table.filter keep).rows.filter seen = table.rows.filter seen := by
  rw [filter, List.filter_filter]
  refine List.filter_congr fun row member => ?_
  cases kept : keep row with
  | true => rw [Bool.and_true]
  | false => rw [gone row member kept, Bool.and_false]

omit [DecidableEq κ] in
/-- A change is not seen when the rows it changes are not seen, before and after. -/
theorem filter_modify_of_unseen {change : ρ → ρ} (keeps : ∀ row, key (change row) = key row)
    (changed : ∀ row ∈ table.rows, change row = row ∨ seen row = false ∧ seen (change row) = false) :
    (table.modify change keeps).rows.filter seen = table.rows.filter seen := by
  have each : ∀ rows : List ρ,
      (∀ row ∈ rows, change row = row ∨ seen row = false ∧ seen (change row) = false) →
        (rows.map change).filter seen = rows.filter seen := by
    intro rows changed
    induction rows with
    | nil => rfl
    | cons first rows hyp =>
      have rest := hyp fun row member => changed row (List.mem_cons_of_mem _ member)
      rcases changed first List.mem_cons_self with same | ⟨before, after⟩
      · rw [List.map_cons, same, List.filter_cons, List.filter_cons, rest]
      · rw [List.map_cons, List.filter_cons_of_neg (by simp [after]),
          List.filter_cons_of_neg (by simp [before]), rest]
  exact each table.rows changed

end Table

/-- What a sharper condition lets through, it lets through of what a wider one did. -/
theorem filter_filter_of_imp {α : Type} {rows : List α} {wide sharp : α → Bool}
    (within : ∀ row ∈ rows, sharp row = true → wide row = true) :
    (rows.filter wide).filter sharp = rows.filter sharp := by
  rw [List.filter_filter]
  refine List.filter_congr fun row member => ?_
  cases kept : sharp row with
  | true => rw [within row member kept, Bool.and_true]
  | false => rw [Bool.false_and]

/-! ### Identity columns -/

/-- The key an identity column gives next. -/
def nextId (ids : List Nat) : Nat := ids.foldr max 0 + 1

theorem lt_nextId {ids : List Nat} {id : Nat} (member : id ∈ ids) : id < nextId ids := by
  unfold nextId
  induction ids with
  | nil => cases member
  | cons first ids ih =>
    rw [List.foldr_cons]
    rcases List.mem_cons.mp member with rfl | later
    · omega
    · have small := ih later
      omega

theorem nextId_not_mem (ids : List Nat) : nextId ids ∉ ids :=
  fun member => Nat.lt_irrefl _ (lt_nextId member)

end FoodDelivery.Lib
