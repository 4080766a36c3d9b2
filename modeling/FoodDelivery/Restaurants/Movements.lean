/-
**Whether a reservation can be taken back** (`services/restaurants/app/inventory.py`).

`_move` statement by statement: a dictionary of what is wanted of each item, in two passes over the lines,
and then the rows of the items that it names, each changed once and never below zero.

* `reserve_release`: for any menu and any lines, `restore_order` after `apply_order` gives back the menu if
  and only if no total exceeds the stock of its item; both depend only on the totals; what is untracked,
  gone or not named stays as it is; and no reservation leaves a negative stock;
* `move_stockRows`: on a menu without negative stocks it is the `move` of `Inventory`.
-/

import FoodDelivery.Lib.Tallies
import FoodDelivery.Restaurants.Inventory
import Mathlib.Algebra.Ring.Int.Defs

set_option autoImplicit false

namespace FoodDelivery.Restaurants.Movements

open FoodDelivery.Lib

/-! ### The code -/

/-- What stock movement reads of a row of `menu_items`: the columns are integers. -/
structure StockRow where
  id : Nat
  stockQuantity : Option Int
deriving DecidableEq, Repr

abbrev StockRows := Table Nat StockRow StockRow.id

/-- And of an order line. -/
structure OrderLine where
  menuItemId : Nat
  quantity : Int
deriving DecidableEq, Repr

def OrderLine.entry (line : OrderLine) : Nat × Int := (line.menuItemId, line.quantity)

/-- The body of the loop over the rows; a row that is not in `wanted` is not selected. -/
def moveRow (wanted : Tally Nat Int) (sign : Int) (item : StockRow) : StockRow :=
  match wanted.find? item.id with
  | none => item
  | some entry =>
    { item with stockQuantity := item.stockQuantity.map fun stock => max 0 (stock + sign * entry.2) }

theorem moveRow_id (wanted : Tally Nat Int) (sign : Int) (item : StockRow) :
    (moveRow wanted sign item).id = item.id := by
  unfold moveRow
  split <;> rfl

/-- `_move`; `none` is a `KeyError`. -/
def move (items : StockRows) (orderItems : List OrderLine) (sign : Int) : Option StockRows := do
  let wanted ← tally (orderItems.map OrderLine.entry)
  if wanted.rows.isEmpty then return items
  else return items.modify (moveRow wanted sign) (moveRow_id wanted sign)

def applyOrder (items : StockRows) (orderItems : List OrderLine) : Option StockRows :=
  move items orderItems (-1)

def restoreOrder (items : StockRows) (orderItems : List OrderLine) : Option StockRows :=
  move items orderItems 1

/-! ### What has to hold -/

/-- The quantities of an item over all the lines that name it. -/
def total (lines : List OrderLine) (id : Nat) : Int := sumOf (lines.map OrderLine.entry) id

abbrev Named (lines : List OrderLine) (id : Nat) : Prop := id ∈ lines.map OrderLine.menuItemId

def stockOf (items : StockRows) (id : Nat) : Option Int := (items.find? id).bind StockRow.stockQuantity

/-- No total exceeds the stock of its item. -/
def WithinStock (items : StockRows) (lines : List OrderLine) : Prop :=
  ∀ id stock, Named lines id → stockOf items id = some stock → total lines id ≤ stock

def NoneNegative (items : StockRows) : Prop := ∀ id stock, stockOf items id = some stock → 0 ≤ stock

/-- Two lists of lines that name the same items with the same totals. -/
structure SameTotals (lines other : List OrderLine) : Prop where
  named : ∀ id, Named lines id ↔ Named other id
  totals : ∀ id, total lines id = total other id

/-- What is untracked, gone or not named stays as it is. -/
def LeavesOthers (items : StockRows) (lines : List OrderLine) (moved : StockRows) : Prop :=
  ∀ id, stockOf items id = none ∨ ¬ Named lines id → moved.find? id = items.find? id

/-! ### What is wanted -/

variable {items : StockRows} {lines other : List OrderLine} {sign : Int} {item : StockRow} {id : Nat}

theorem keys_entries (lines : List OrderLine) :
    (lines.map OrderLine.entry).map Prod.fst = lines.map OrderLine.menuItemId := List.map_map

theorem total_cons (line : OrderLine) (lines : List OrderLine) (id : Nat) :
    total (line :: lines) id = (if line.menuItemId = id then line.quantity else 0) + total lines id :=
  sumOf_cons line.entry

theorem total_eq_zero (absent : ¬ Named lines id) : total lines id = 0 :=
  sumOf_eq_zero (by rw [keys_entries]; exact absent)

theorem total_nonneg (nonneg : ∀ line ∈ lines, 0 ≤ line.quantity) (id : Nat) : 0 ≤ total lines id := by
  induction lines with
  | nil => exact Int.le_refl 0
  | cons line lines ih =>
    have first := nonneg line List.mem_cons_self
    have rest := ih fun later member => nonneg later (List.mem_cons_of_mem _ member)
    rw [total_cons]
    split <;> omega

/-- **In any order.** -/
theorem sameTotals_perm (same : lines.Perm other) : SameTotals lines other where
  named _ := (same.map OrderLine.menuItemId).mem_iff
  totals _ := sumOf_perm (same.map OrderLine.entry)

/-- **In any groups**: two lines of an item, or one. -/
theorem sameTotals_merge (menuItemId : Nat) (first second : Int) (lines : List OrderLine) :
    SameTotals (⟨menuItemId, first⟩ :: ⟨menuItemId, second⟩ :: lines)
      (⟨menuItemId, first + second⟩ :: lines) where
  named id := by simp [Named]
  totals _ := sumOf_merge menuItemId first second

/-- One item, by its total. -/
def movedRow (lines : List OrderLine) (sign : Int) (item : StockRow) : StockRow :=
  if Named lines item.id then
    { item with
      stockQuantity := item.stockQuantity.map fun stock => max 0 (stock + sign * total lines item.id) }
  else item

theorem movedRow_id (lines : List OrderLine) (sign : Int) (item : StockRow) :
    (movedRow lines sign item).id = item.id := by
  unfold movedRow
  split <;> rfl

/-- **What `_move` computes**: the dictionary has the totals, and nothing is ever missing from it. -/
theorem move_eq (items : StockRows) (lines : List OrderLine) (sign : Int) :
    move items lines sign = some (items.modify (movedRow lines sign) (movedRow_id lines sign)) := by
  obtain ⟨wanted, made, finds⟩ := find?_tally (lines.map OrderLine.entry)
  have rows : ∀ item, moveRow wanted sign item = movedRow lines sign item := by
    intro item
    unfold moveRow movedRow
    rw [finds, keys_entries]
    by_cases named : Named lines item.id
    · rw [if_pos named, if_pos named]
      rfl
    · rw [if_neg named, if_neg named]
  have ends : move items lines sign = if wanted.rows.isEmpty then some items else
      some (items.modify (moveRow wanted sign) (moveRow_id wanted sign)) := by
    unfold move
    rw [made]
    rfl
  have same : items.modify (moveRow wanted sign) (moveRow_id wanted sign) =
      items.modify (movedRow lines sign) (movedRow_id lines sign) :=
    Table.eq_of_rows (List.map_congr_left fun item _ => rows item)
  rw [ends, same]
  split
  · rename_i nothing
    -- `if not wanted`: there is no row to change
    have untouched : ∀ item ∈ items.rows, movedRow lines sign item = item := by
      intro item _
      rw [← rows, moveRow, Table.find?, List.isEmpty_iff.mp nothing]
      rfl
    refine congrArg some (Table.eq_of_rows ?_)
    exact ((List.map_congr_left untouched).trans (List.map_id _)).symm
  · rfl

/-! ### One item -/

theorem stockOf_modify (items : StockRows) (lines : List OrderLine) (sign : Int) (id : Nat) :
    stockOf (items.modify (movedRow lines sign) (movedRow_id lines sign)) id =
      (items.find? id).bind fun item => (movedRow lines sign item).stockQuantity := by
  rw [stockOf, Table.find?_modify]
  cases items.find? id with
  | none => rfl
  | some item => rfl

/-- What is not tracked, or not named, is not changed. -/
theorem movedRow_of_other (otherwise : item.stockQuantity = none ∨ ¬ Named lines item.id) :
    movedRow lines sign item = item := by
  unfold movedRow
  by_cases named : Named lines item.id
  · rcases otherwise with untracked | absent
    · obtain ⟨id, stock⟩ := item
      cases untracked
      rw [if_pos named]
      rfl
    · exact absurd named absent
  · rw [if_neg named]

/-- **The inverse, for one item**: the clamp does not act exactly when the total is there. -/
theorem movedRow_cancels (nonneg : 0 ≤ total lines item.id) :
    movedRow lines 1 (movedRow lines (-1) item) = item ↔
      ∀ stock, Named lines item.id → item.stockQuantity = some stock → total lines item.id ≤ stock := by
  by_cases named : Named lines item.id
  · obtain ⟨id, tracked⟩ := item
    have there : movedRow lines 1 (movedRow lines (-1) ⟨id, tracked⟩) =
        ⟨id, (tracked.map fun stock => max 0 (stock + -1 * total lines id)).map
          fun stock => max 0 (stock + 1 * total lines id)⟩ := by
      simp only [movedRow, if_pos named]
    have nonneg : 0 ≤ total lines id := nonneg
    rw [there, StockRow.mk.injEq]
    cases tracked with
    | none => simp
    | some stock =>
      simp only [Option.map_some, Option.some.injEq, true_and]
      constructor
      · rintro same _ - rfl
        omega
      · intro enough
        have covers := enough stock named rfl
        omega
  · rw [movedRow_of_other (Or.inr (by rwa [movedRow_id])), movedRow_of_other (Or.inr named)]
    exact iff_of_true rfl fun _ absent => absurd absent named

/-- A stock that is not negative becomes what its total makes of it, whether it is named or not. -/
theorem movedRow_eq (nonneg : ∀ stock, item.stockQuantity = some stock → 0 ≤ stock) :
    movedRow lines sign item =
      { item with
        stockQuantity := item.stockQuantity.map fun stock =>
          max 0 (stock + sign * total lines item.id) } := by
  by_cases named : Named lines item.id
  · rw [movedRow, if_pos named]
  · rw [movedRow, if_neg named, total_eq_zero named]
    obtain ⟨id, tracked⟩ := item
    cases tracked with
    | none => rfl
    | some stock =>
      have positive := nonneg stock rfl
      rw [Option.map_some, Int.mul_zero, Int.add_zero, max_eq_right positive]

/-- What is left of a named item is not negative. -/
theorem movedRow_nonneg (named : Named lines item.id) {stock : Int}
    (left : (movedRow lines sign item).stockQuantity = some stock) : 0 ≤ stock := by
  rw [movedRow, if_pos named] at left
  obtain ⟨before, -, rfl⟩ := Option.map_eq_some_iff.mp left
  exact le_max_left 0 _

/-! ### The menu -/

theorem move_congr (same : SameTotals lines other) (items : StockRows) (sign : Int) :
    move items other sign = move items lines sign := by
  rw [move_eq, move_eq]
  refine congrArg some (Table.eq_of_rows (List.map_congr_left fun item _ => ?_))
  unfold movedRow
  by_cases named : Named lines item.id
  · rw [if_pos named, if_pos ((same.named item.id).mp named), same.totals]
  · rw [if_neg named, if_neg fun too => named ((same.named item.id).mpr too)]

theorem row_nonneg (nonneg : NoneNegative items) (member : item ∈ items.rows) (stock : Int)
    (tracked : item.stockQuantity = some stock) : 0 ≤ stock := by
  refine nonneg item.id stock ?_
  have found : items.find? item.id = some item := Table.find?_eq_some.mpr ⟨member, rfl⟩
  rw [stockOf, found]
  exact tracked

/-- Without a negative stock the totals alone decide. -/
theorem move_congr_of_totals (nonneg : NoneNegative items)
    (same : ∀ id, total lines id = total other id) (sign : Int) :
    move items other sign = move items lines sign := by
  rw [move_eq, move_eq]
  refine congrArg some (Table.eq_of_rows (List.map_congr_left fun item member => ?_))
  rw [movedRow_eq (row_nonneg nonneg member), movedRow_eq (row_nonneg nonneg member), same]

theorem leavesOthers_moved (items : StockRows) (lines : List OrderLine) (sign : Int) :
    LeavesOthers items lines (items.modify (movedRow lines sign) (movedRow_id lines sign)) := by
  intro id otherwise
  rw [Table.find?_modify]
  cases found : items.find? id with
  | none => rfl
  | some item =>
    have own : item.id = id := Table.key_of_find? found
    rw [stockOf, found, ← own] at otherwise
    exact congrArg some (movedRow_of_other otherwise)

theorem stockOf_moved_nonneg (named : Named lines id) {stock : Int}
    (left : stockOf (items.modify (movedRow lines sign) (movedRow_id lines sign)) id = some stock) :
    0 ≤ stock := by
  rw [stockOf_modify] at left
  obtain ⟨item, found, rest⟩ := Option.bind_eq_some_iff.mp left
  have own : item.id = id := Table.key_of_find? found
  exact movedRow_nonneg (own ▸ named) rest

/-- **No negative stock.** -/
theorem noneNegative_moved (nonneg : NoneNegative items) :
    NoneNegative (items.modify (movedRow lines sign) (movedRow_id lines sign)) := by
  intro id stock left
  by_cases named : Named lines id
  · exact stockOf_moved_nonneg named left
  · refine nonneg id stock ?_
    rw [stockOf, ← leavesOthers_moved items lines sign id (Or.inr named)]
    exact left

/-- **There and back.** -/
theorem restore_apply (nonneg : ∀ line ∈ lines, 0 ≤ line.quantity) (items : StockRows) :
    restoreOrder (items.modify (movedRow lines (-1)) (movedRow_id lines (-1))) lines = some items ↔
      WithinStock items lines := by
  have back : restoreOrder (items.modify (movedRow lines (-1)) (movedRow_id lines (-1))) lines =
      some items ↔ ∀ item ∈ items.rows, movedRow lines 1 (movedRow lines (-1) item) = item := by
    unfold restoreOrder
    rw [move_eq, Option.some_inj]
    constructor
    · intro same item member
      have rows : (items.rows.map (movedRow lines (-1))).map (movedRow lines 1) = items.rows.map id :=
        (congrArg Table.rows same).trans (List.map_id _).symm
      rw [List.map_map] at rows
      exact List.map_inj_left.mp rows item member
    · intro each
      refine Table.eq_of_rows ?_
      show (items.rows.map (movedRow lines (-1))).map (movedRow lines 1) = items.rows
      rw [List.map_map]
      exact (List.map_congr_left each).trans (List.map_id _)
  rw [back]
  constructor
  · intro each id stock named tracked
    obtain ⟨item, found, rest⟩ := Option.bind_eq_some_iff.mp tracked
    obtain ⟨member, rfl⟩ := Table.find?_eq_some.mp found
    exact (movedRow_cancels (total_nonneg nonneg item.id)).mp (each item member) stock named rest
  · intro within item member
    refine (movedRow_cancels (total_nonneg nonneg item.id)).mpr fun stock named tracked => ?_
    refine within item.id stock named ?_
    have found : items.find? item.id = some item := Table.find?_eq_some.mpr ⟨member, rfl⟩
    rw [stockOf, found]
    exact tracked

/-- **Reserving and putting back.** -/
theorem reserve_release (items : StockRows) (lines : List OrderLine) : ∃ reserved released,
    applyOrder items lines = some reserved ∧ restoreOrder items lines = some released ∧
    -- they cancel out
    ((∀ line ∈ lines, 0 ≤ line.quantity) →
      (restoreOrder reserved lines = some items ↔ WithinStock items lines)) ∧
    -- only the totals count
    (∀ other, SameTotals lines other ∨ (NoneNegative items ∧ ∀ id, total lines id = total other id) →
      applyOrder items other = some reserved ∧ restoreOrder items other = some released) ∧
    -- the other items stay
    LeavesOthers items lines reserved ∧ LeavesOthers items lines released ∧
    -- nothing becomes negative
    (∀ id stock, Named lines id → stockOf reserved id = some stock → 0 ≤ stock) ∧
    (NoneNegative items → NoneNegative reserved) := by
  refine ⟨_, _, move_eq items lines (-1), move_eq items lines 1, ?_, ?_,
    leavesOthers_moved items lines (-1), leavesOthers_moved items lines 1,
    fun _ _ named left => stockOf_moved_nonneg named left, noneNegative_moved⟩
  · exact fun nonneg => restore_apply nonneg items
  · rintro other (same | ⟨nonneg, same⟩)
    · exact ⟨(move_congr same items (-1)).trans (move_eq items lines (-1)),
        (move_congr same items 1).trans (move_eq items lines 1)⟩
    · exact ⟨(move_congr_of_totals nonneg same (-1)).trans (move_eq items lines (-1)),
        (move_congr_of_totals nonneg same 1).trans (move_eq items lines 1)⟩

/-- A line for three, split over two, of an item that has five; the other item is not tracked. -/
example :
    let items : StockRows := ⟨[⟨1, some 5⟩, ⟨2, none⟩], by decide⟩
    let lines : List OrderLine := [⟨1, 2⟩, ⟨2, 4⟩, ⟨1, 1⟩, ⟨9, 7⟩]
    (applyOrder items lines).map Table.rows = some [⟨1, some 2⟩, ⟨2, none⟩] := by decide

/-! ### The menu of the service -/

def orderLine (line : StockLine) : OrderLine := ⟨line.menuItemId, line.quantity⟩

/-- What stock movement reads of a menu. -/
def stockRows (items : Items) : StockRows where
  rows := items.rows.map fun item => ⟨item.id, item.stockQuantity.map Int.ofNat⟩
  unique := by
    rw [List.map_map]
    exact items.unique

theorem total_orderLines (lines : List StockLine) (id : Nat) :
    total (lines.map orderLine) id = wanted lines id := by
  induction lines with
  | nil => rfl
  | cons line lines ih =>
    rw [List.map_cons, total_cons, ih, wanted_cons]
    show (if line.menuItemId = id then (line.quantity : Int) else 0) + _ = _
    split <;> omega

/-- **The same movement**, on a menu whose stocks are natural numbers. -/
theorem move_stockRows (s : State) (lines : List StockLine) (sign : Int) :
    move (stockRows s.items) (lines.map orderLine) sign =
      some (stockRows (Restaurants.move s lines sign).items) := by
  rw [move_eq]
  refine congrArg some (Table.eq_of_rows ?_)
  show List.map _ (List.map _ s.items.rows) = List.map _ (List.map (moveItem lines sign) s.items.rows)
  rw [List.map_map, List.map_map]
  refine List.map_congr_left fun item _ => ?_
  have nonneg : ∀ stock, item.stockQuantity.map Int.ofNat = some stock → 0 ≤ stock := by
    intro stock tracked
    obtain ⟨count, -, rfl⟩ := Option.map_eq_some_iff.mp tracked
    exact Int.natCast_nonneg count
  show movedRow _ sign ⟨item.id, item.stockQuantity.map Int.ofNat⟩ =
    ⟨(moveItem lines sign item).id, (moveItem lines sign item).stockQuantity.map Int.ofNat⟩
  rw [movedRow_eq nonneg, moveItem_id, stockQuantity_moveItem, total_orderLines, Option.map_map,
    Option.map_map]
  refine congrArg _ (Option.map_congr fun stock _ => ?_)
  exact (Int.toNat_of_nonneg (le_max_left 0 _)).symm

end FoodDelivery.Restaurants.Movements
