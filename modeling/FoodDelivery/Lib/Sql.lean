/-
**The three truth values of a condition over nullable columns.**

A condition is true, false or null: `Truth` is an optional Boolean. A comparison with a null is null,
`conj`, `disj` and `neg` are the connectives of the standard, and a `WHERE` keeps a row only when its
condition is true.

Each connective has the lemma that says when it is *true*, which is all that a `WHERE` asks:
`conj_eq_true`, `disj_eq_true`, `neg_eq_true`, `compare_some`, `existsIn_eq_true`. `EXISTS` is never
null, so `neg_existsIn_eq_true` holds as well. `perm_flatMap_filter`: grouping loses and repeats no row
(`perm_iff_filter` compares two tables by their groups), and `outerJoin_of_unique`: neither does an outer
join on a unique key. `find?_groupBy` reads one group.
-/

import Mathlib.Data.Fintype.Option
import Mathlib.Data.List.Basic

set_option autoImplicit false

namespace FoodDelivery.Lib

/-- A truth value: null is `none`. -/
abbrev Truth := Option Bool

namespace Truth

/-- `AND`: false as soon as one side is. -/
def conj : Truth → Truth → Truth
  | some false, _ => some false
  | _, some false => some false
  | some true, some true => some true
  | _, _ => none

/-- `OR`: true as soon as one side is. -/
def disj : Truth → Truth → Truth
  | some true, _ => some true
  | _, some true => some true
  | some false, some false => some false
  | _, _ => none

/-- `NOT`. -/
def neg (condition : Truth) : Truth := condition.map not

/-- `IS FALSE`: never null. -/
def isFalse (condition : Truth) : Truth := some (condition == some false)

/-- The conjunction of several conditions. -/
def all (conditions : List Truth) : Truth := conditions.foldr conj (some true)

/-- The disjunction of several conditions. -/
def any (conditions : List Truth) : Truth := conditions.foldr disj (some false)

theorem conj_eq_true (a b : Truth) : a.conj b = some true ↔ a = some true ∧ b = some true := by
  revert a b
  decide

theorem disj_eq_true (a b : Truth) : a.disj b = some true ↔ a = some true ∨ b = some true := by
  revert a b
  decide

theorem neg_eq_true (a : Truth) : a.neg = some true ↔ a = some false := by
  revert a
  decide

theorem isFalse_eq_true (a : Truth) : a.isFalse = some true ↔ a = some false := by
  revert a
  decide

theorem all_eq_true {conditions : List Truth} :
    all conditions = some true ↔ ∀ condition ∈ conditions, condition = some true := by
  induction conditions with
  | nil => simp [all]
  | cons condition rest hyp =>
    rw [all] at hyp
    rw [all, List.foldr_cons, conj_eq_true, hyp, List.forall_mem_cons]

theorem any_eq_true {conditions : List Truth} :
    any conditions = some true ↔ ∃ condition ∈ conditions, condition = some true := by
  induction conditions with
  | nil => simp [any]
  | cons condition rest hyp =>
    rw [any] at hyp
    rw [any, List.foldr_cons, disj_eq_true, hyp, List.exists_mem_cons_iff]

@[simp] theorem all_nil : all [] = some true := rfl

@[simp] theorem any_nil : any [] = some false := rfl

@[simp] theorem all_cons (condition : Truth) (rest : List Truth) :
    all (condition :: rest) = some true ↔ condition = some true ∧ all rest = some true := by
  rw [all_eq_true, all_eq_true, List.forall_mem_cons]

@[simp] theorem any_cons (condition : Truth) (rest : List Truth) :
    any (condition :: rest) = some true ↔ condition = some true ∨ any rest = some true := by
  rw [any_eq_true, any_eq_true, List.exists_mem_cons_iff]

end Truth

/-! ### Columns -/

section Columns

variable {α ρ : Type}

/-- `IS NOT NULL`. -/
def isNotNull (column : Option α) : Truth := some column.isSome

/-- A comparison, which is null when a side is. -/
def compare (relation : α → α → Prop) [DecidableRel relation] (left right : Option α) : Truth :=
  left.bind fun x => right.map fun y => decide (relation x y)

/-- `EXISTS (SELECT … WHERE condition)`. -/
def existsIn (rows : List ρ) (condition : ρ → Truth) : Truth :=
  some (rows.any fun row => condition row = some true)

theorem isNotNull_eq_true {column : Option α} :
    isNotNull column = some true ↔ ∃ value, column = some value := by
  rw [isNotNull, Option.some_inj, Option.isSome_iff_exists]

@[simp] theorem compare_some (relation : α → α → Prop) [DecidableRel relation] (x y : α) :
    compare relation (some x) (some y) = some true ↔ relation x y := by
  simp [compare]

theorem existsIn_eq_true {rows : List ρ} {condition : ρ → Truth} :
    existsIn rows condition = some true ↔ ∃ row ∈ rows, condition row = some true := by
  simp [existsIn]

theorem neg_existsIn_eq_true {rows : List ρ} {condition : ρ → Truth} :
    (existsIn rows condition).neg = some true ↔ ∀ row ∈ rows, condition row ≠ some true := by
  rw [Truth.neg_eq_true, existsIn, Option.some_inj]
  simp

end Columns

/-! ### Groups -/

section Groups

variable {κ ρ : Type} [DecidableEq κ] {key : ρ → κ}

/-- **The groups of some rows**, one behind the other, are the rows, if there is a group for each. -/
theorem perm_flatMap_filter (key : ρ → κ) (keys : List κ) (rows : List ρ) (distinct : keys.Nodup)
    (covered : ∀ row ∈ rows, key row ∈ keys) :
    (keys.flatMap fun k => rows.filter fun row => key row = k).Perm rows := by
  induction keys generalizing rows with
  | nil =>
    have none : rows = [] := List.eq_nil_iff_forall_not_mem.mpr fun row member =>
      List.not_mem_nil (covered row member)
    rw [none, List.flatMap_nil]
  | cons k keys hyp =>
    obtain ⟨fresh, distinct⟩ := List.nodup_cons.mp distinct
    have others : (keys.flatMap fun k' => rows.filter fun row => key row = k') =
        keys.flatMap fun k' => (rows.filter fun row => !decide (key row = k)).filter fun row =>
          key row = k' := by
      refine List.flatMap_congr fun k' later => ?_
      rw [List.filter_filter]
      refine List.filter_congr fun row _ => ?_
      by_cases here : key row = k'
      · have apart : key row ≠ k := by
          rw [here]
          rintro rfl
          exact fresh later
        simp [here, here ▸ apart]
      · simp [here]
    rw [List.flatMap_cons, others]
    refine List.Perm.trans ?_ (List.filter_append_perm (fun row => decide (key row = k)) rows)
    refine (hyp _ distinct fun row member => ?_).append_left _
    obtain ⟨member, apart⟩ := List.mem_filter.mp member
    exact (List.mem_cons.mp (covered row member)).resolve_left (by simpa using apart)

/-- Two tables have the same rows if and only if they have the same groups. -/
theorem perm_iff_filter [DecidableEq ρ] (key : ρ → κ) {rows rows' : List ρ} : rows.Perm rows' ↔
    ∀ k, (rows.filter fun row => key row = k).Perm (rows'.filter fun row => key row = k) := by
  refine ⟨fun same k => same.filter _, fun same => List.perm_iff_count.mpr fun row => ?_⟩
  have count := (same (key row)).count_eq row
  rwa [List.count_filter (by simp), List.count_filter (by simp)] at count

/-- `GROUP BY`: the keys that occur, each with its rows. -/
def groupBy (key : ρ → κ) (rows : List ρ) : List (κ × List ρ) :=
  (rows.map key).dedup.map fun k => (k, rows.filter fun row => key row = k)

theorem groupBy_keys (key : ρ → κ) (rows : List ρ) :
    ((groupBy key rows).map Prod.fst).Nodup := by
  have keys : (groupBy key rows).map Prod.fst = (rows.map key).dedup := by
    rw [groupBy, List.map_map]
    exact List.map_id _
  rw [keys]
  exact List.nodup_dedup _

/-- A value for each of some keys, looked up. -/
theorem find?_pairs {β : Type} (value : κ → β) (keys : List κ) (k : κ) :
    (keys.map fun k' => (k', value k')).find? (fun entry => entry.1 = k) =
      if k ∈ keys then some (k, value k) else none := by
  induction keys with
  | nil => rfl
  | cons first keys hyp =>
    rw [List.map_cons]
    by_cases here : first = k
    · subst here
      rw [List.find?_cons_of_pos (by simp), if_pos List.mem_cons_self]
    · rw [List.find?_cons_of_neg (by simpa using here), hyp]
      simp only [List.mem_cons, Ne.symm here, false_or]

/-- **The group of a key**: there is one where the key occurs, and it has the key's rows. -/
theorem find?_groupBy (key : ρ → κ) (rows : List ρ) (k : κ) :
    (groupBy key rows).find? (fun group => group.1 = k) =
      if (rows.filter fun row => key row = k) = [] then none
      else some (k, rows.filter fun row => key row = k) := by
  have occurs : k ∈ (rows.map key).dedup ↔ (rows.filter fun row => key row = k) ≠ [] := by
    rw [List.mem_dedup, List.mem_map, Ne, List.filter_eq_nil_iff]
    simp
  rw [groupBy, find?_pairs]
  simp only [occurs, ne_eq, ite_not]

/-- `SELECT key, count(*) … GROUP BY key`: the keys that occur, each with how often. -/
theorem mem_groupBy_length {rows : List ρ} {k : κ} {n : Nat} :
    (k, n) ∈ ((groupBy key rows).map fun group => (group.1, group.2.length)) ↔
      0 < n ∧ n = rows.countP fun row => key row = k := by
  have counted : ∀ k', (rows.filter fun row => key row = k').length =
      rows.countP fun row => key row = k' := fun _ => List.countP_eq_length_filter.symm
  simp only [groupBy, List.map_map, List.mem_map, Function.comp_apply, Prod.mk.injEq, List.mem_dedup]
  constructor
  · rintro ⟨_, ⟨row, member, rfl⟩, rfl, rfl⟩
    rw [counted]
    exact ⟨List.countP_pos_iff.mpr ⟨row, member, decide_eq_true rfl⟩, rfl⟩
  · rintro ⟨positive, rfl⟩
    obtain ⟨row, member, own⟩ := List.countP_pos_iff.mp positive
    exact ⟨k, ⟨row, member, of_decide_eq_true own⟩, rfl, counted k⟩

end Groups

/-! ### Joins -/

section Joins

variable {α β κ : Type} [DecidableEq κ]

/-- `LEFT OUTER JOIN … ON`: a row with no partner is joined with nulls. -/
def outerJoin (left : List α) (right : List β) (on : α → β → Bool) : List (α × Option β) :=
  left.flatMap fun a =>
    let partners := right.filter (on a)
    if partners.isEmpty = true then [(a, none)] else partners.map fun b => (a, some b)

/-- Where the key is unique, one row has it or none. -/
theorem filter_eq_find? {rows : List β} {key : β → κ} (unique : (rows.map key).Nodup) (k : κ) :
    (rows.filter fun row => key row = k) = (rows.find? fun row => key row = k).toList := by
  induction rows with
  | nil => rfl
  | cons row rows hyp =>
    obtain ⟨fresh, unique⟩ := List.nodup_cons.mp unique
    by_cases here : key row = k
    · have others : (rows.filter fun row => key row = k) = [] := by
        refine List.filter_eq_nil_iff.mpr fun other member => ?_
        rw [decide_eq_true_iff]
        exact fun same => fresh (List.mem_map.mpr ⟨other, member, same.trans here.symm⟩)
      rw [List.filter_cons_of_pos (by simpa using here), List.find?_cons_of_pos (by simpa using here),
        others]
      rfl
    · rw [List.filter_cons_of_neg (by simpa using here), List.find?_cons_of_neg (by simpa using here)]
      exact hyp unique

/-- **A join on a unique key** has one row for each row on its left. -/
theorem outerJoin_of_unique (left : List α) (key : α → κ) {right : List β} {key' : β → κ}
    (unique : (right.map key').Nodup) :
    (outerJoin left right fun a b => key' b = key a) =
      left.map fun a => (a, right.find? fun b => key' b = key a) := by
  rw [outerJoin, List.map_eq_flatMap]
  refine List.flatMap_congr fun a _ => ?_
  dsimp only
  rw [filter_eq_find? unique]
  cases right.find? fun b => decide (key' b = key a) with
  | none => rfl
  | some b => rfl

end Joins

end FoodDelivery.Lib
