/-
**Stock movement for menu items** (`services/restaurants/app/inventory.py`).

An item with no stock quantity is not tracked and is skipped in every direction, and so is a line
whose item is gone. `move` adds up the lines of an item and changes its row once, never below zero;
`find?_move` says what it leaves of each item.
-/

import FoodDelivery.Restaurants.Model
import Mathlib.Algebra.GroupWithZero.Nat
import Mathlib.Algebra.Order.BigOperators.Group.List
import Mathlib.Algebra.Order.Group.Nat

set_option autoImplicit false

namespace FoodDelivery.Restaurants

open FoodDelivery.Lib

abbrev Items := Table Nat MenuItem MenuItem.id

/-- The stock quantity of an item, when it is there and tracked. -/
def stockOf (items : Items) (id : Nat) : Option Nat := (items.find? id).bind MenuItem.stockQuantity

/-- What stock movement reads of an order line. -/
structure StockLine where
  menuItemId : Nat
  quantity : Nat
deriving DecidableEq, Repr

/-- True if `quantity` cannot be met from what is left. -/
def shortfall (item : MenuItem) (quantity : Nat) : Bool :=
  match item.stockQuantity with
  | none => false
  | some stock => stock < quantity

/-- `wanted[id]`: the quantities of an item over all the lines that name it. -/
def wanted (lines : List StockLine) (menuItemId : Nat) : Nat :=
  ((lines.filter fun line => line.menuItemId = menuItemId).map StockLine.quantity).sum

/-- `max(0, stock + sign * quantity)`; `sign` is -1 to take stock and 1 to put it back. -/
def movedStock (sign : Int) (quantity stock : Nat) : Nat :=
  (max 0 ((stock : Int) + sign * (quantity : Int))).toNat

/-- One item of `_move`. -/
def moveItem (lines : List StockLine) (sign : Int) (item : MenuItem) : MenuItem :=
  if item.id ∈ lines.map StockLine.menuItemId then
    { item with stockQuantity := item.stockQuantity.map (movedStock sign (wanted lines item.id)) }
  else item

theorem moveItem_id (lines : List StockLine) (sign : Int) (item : MenuItem) :
    (moveItem lines sign item).id = item.id := by
  unfold moveItem
  split <;> rfl

/-- `_move`, up to the flush of the caller's commit. -/
def move (s : State) (lines : List StockLine) (sign : Int) : State :=
  { s with items := s.items.modify (moveItem lines sign) (moveItem_id lines sign) }

/-- Decrement stock for the lines of an order being placed. -/
def applyOrder (s : State) (lines : List StockLine) : State := move s lines (-1)

/-- Put stock back for the lines of a cancelled or rejected order. -/
def restoreOrder (s : State) (lines : List StockLine) : State := move s lines 1

/-! ### What moves -/

theorem wanted_eq_zero {lines : List StockLine} {menuItemId : Nat}
    (absent : menuItemId ∉ lines.map StockLine.menuItemId) : wanted lines menuItemId = 0 := by
  have none_left : (lines.filter fun line => line.menuItemId = menuItemId) = [] := by
    refine List.filter_eq_nil_iff.mpr fun line member => ?_
    simp only [decide_eq_true_eq]
    exact fun same => absent (same ▸ List.mem_map_of_mem member)
  rw [wanted, none_left]
  rfl

@[simp] theorem wanted_cons (line : StockLine) (lines : List StockLine) (menuItemId : Nat) :
    wanted (line :: lines) menuItemId =
      (if line.menuItemId = menuItemId then line.quantity else 0) + wanted lines menuItemId := by
  unfold wanted
  by_cases same : line.menuItemId = menuItemId
  · simp [same]
  · simp [same]

theorem quantity_le_wanted {lines : List StockLine} {line : StockLine} (member : line ∈ lines) :
    line.quantity ≤ wanted lines line.menuItemId := by
  unfold wanted
  refine List.le_sum_of_mem (List.mem_map_of_mem ?_)
  simpa using member

/-- **The stock of an item after its lines have moved.** -/
theorem stockQuantity_moveItem (lines : List StockLine) (sign : Int) (item : MenuItem) :
    (moveItem lines sign item).stockQuantity =
      item.stockQuantity.map (movedStock sign (wanted lines item.id)) := by
  by_cases named : item.id ∈ lines.map StockLine.menuItemId
  · rw [moveItem, if_pos named]
  · rw [moveItem, if_neg named, wanted_eq_zero named]
    cases item.stockQuantity with
    | none => rfl
    | some stock => simp [movedStock]

theorem stockQuantity_taken (lines : List StockLine) (item : MenuItem) :
    (moveItem lines (-1) item).stockQuantity =
      item.stockQuantity.map fun stock => stock - wanted lines item.id := by
  rw [stockQuantity_moveItem]
  refine Option.map_congr fun stock _ => ?_
  unfold movedStock
  omega

theorem stockQuantity_returned (lines : List StockLine) (item : MenuItem) :
    (moveItem lines 1 item).stockQuantity =
      item.stockQuantity.map fun stock => stock + wanted lines item.id := by
  rw [stockQuantity_moveItem]
  refine Option.map_congr fun stock _ => ?_
  unfold movedStock
  omega

/-- Where no two lines are for one item, an item's lines are its line. -/
theorem wanted_of_distinct {lines : List StockLine}
    (distinct : (lines.map StockLine.menuItemId).Nodup) {line : StockLine} (member : line ∈ lines) :
    wanted lines line.menuItemId = line.quantity := by
  induction lines with
  | nil => cases member
  | cons first lines ih =>
    obtain ⟨apart, rest⟩ := List.nodup_cons.mp distinct
    rcases List.mem_cons.mp member with rfl | later
    · simp [wanted_eq_zero apart]
    · have other : first.menuItemId ≠ line.menuItemId :=
        fun same => apart (same ▸ List.mem_map_of_mem later)
      simp [other, ih rest later]

theorem find?_move (s : State) (lines : List StockLine) (sign : Int) (id : Nat) :
    (move s lines sign).items.find? id = (s.items.find? id).map (moveItem lines sign) :=
  s.items.find?_modify (moveItem_id lines sign) id

theorem stockOf_applyOrder (s : State) (lines : List StockLine) (id : Nat) :
    stockOf (applyOrder s lines).items id =
      (stockOf s.items id).map fun stock => stock - wanted lines id := by
  unfold stockOf applyOrder
  rw [find?_move]
  cases found : s.items.find? id with
  | none => rfl
  | some item =>
    have own : item.id = id := Table.key_of_find? found
    rw [Option.map_some, Option.bind_some, Option.bind_some, stockQuantity_taken, own]

theorem stockOf_restoreOrder (s : State) (lines : List StockLine) (id : Nat) :
    stockOf (restoreOrder s lines).items id =
      (stockOf s.items id).map fun stock => stock + wanted lines id := by
  unfold stockOf restoreOrder
  rw [find?_move]
  cases found : s.items.find? id with
  | none => rfl
  | some item =>
    have own : item.id = id := Table.key_of_find? found
    rw [Option.map_some, Option.bind_some, Option.bind_some, stockQuantity_returned, own]

end FoodDelivery.Restaurants
