/-
**The cart** (`services/orders/app/cart.py`): what Redis holds for a user, what is saved when an item is
added, updated or removed (an update to zero), and the view of it.

Redis holds a JSON object keyed by the menu item's id, so no two lines of a cart are for one item; the
view has them in the order of their ids (`distinct_view`).
-/

import FoodDelivery.Orders.Checkout
import FoodDelivery.Shared.Amounts
import Mathlib.Algebra.Ring.Rat
import Mathlib.Data.List.Sort

set_option autoImplicit false

namespace FoodDelivery.Orders

open FoodDelivery.Lib

/-- A stored line: the name and price as they were when the item was added. -/
structure StoredLine where
  menuItemId : Nat
  name : String
  unitPrice : Money
  quantity : Nat
deriving DecidableEq, Repr

structure StoredCart where
  restaurantId : Option Nat := none
  items : Table Nat StoredLine StoredLine.menuItemId := .empty

/-- How many of an item a cart holds. -/
def StoredCart.quantity (cart : StoredCart) (menuItemId : Nat) : Nat :=
  ((cart.items.find? menuItemId).map StoredLine.quantity).getD 0

/-! ### Changing the cart -/

/-- A row of the restaurants service's menu lookup. -/
structure MenuRow where
  restaurantId : Nat
  name : String
  price : Money
  isAvailable : Bool := true
deriving DecidableEq, Repr

/-- `ConflictException`. -/
def conflictException (message : String) : AppException where
  message := message
  statusCode := 409

/-- `add_item`, up to where it loads the cart: the item, from the rows that the lookup found. -/
def itemToAdd (menuItemId : Nat) (rows : List MenuRow) : Except Raised MenuRow :=
  match rows with
  | [] => .error (.app (notFoundException "Menu item" (toString menuItemId)))
  | item :: _ =>
    if item.isAvailable = false then
      .error (.app (conflictException "This item is not available right now."))
    else .ok item

/-- `add_item`, from where it has loaded the cart: what it saves. -/
def addItem (cart : StoredCart) (menuItemId quantity : Nat) (item : MenuRow) :
    Except Raised StoredCart :=
  if cart.restaurantId ≠ none ∧ cart.restaurantId ≠ some item.restaurantId then
    .error (.app (conflictException
      "Your cart has items from another restaurant. Clear it to order from this one."))
  else
    .ok
      { restaurantId := some item.restaurantId
        items := cart.items.put
          { menuItemId := menuItemId
            name := item.name
            unitPrice := item.price
            quantity := cart.quantity menuItemId + quantity } }

/-- `update_item`: what it saves of the cart it has loaded. -/
def updateItem (cart : StoredCart) (menuItemId quantity : Nat) : Except Raised StoredCart :=
  match cart.items.find? menuItemId with
  | none => .error (.app (notFoundException "Cart item" (toString menuItemId)))
  | some line =>
    let items :=
      if quantity = 0 then cart.items.filter fun other => other.menuItemId ≠ menuItemId
      else cart.items.put { line with quantity := quantity }
    .ok
      { restaurantId := if items.rows = [] then none else cart.restaurantId
        items := items }

theorem quantity_addItem {cart next : StoredCart} {menuItemId quantity : Nat} {item : MenuRow}
    (outcome : addItem cart menuItemId quantity item = .ok next) (id : Nat) :
    next.quantity id = cart.quantity id + if id = menuItemId then quantity else 0 := by
  unfold addItem at outcome
  split at outcome
  · cases outcome
  · cases outcome
    unfold StoredCart.quantity
    rw [Table.find?_put]
    by_cases same : id = menuItemId
    · subst same
      simp
    · have other : menuItemId ≠ id := fun equal => same equal.symm
      simp [other, same]

theorem quantity_updateItem {cart next : StoredCart} {menuItemId quantity : Nat}
    (outcome : updateItem cart menuItemId quantity = .ok next) (id : Nat) :
    next.quantity id = if id = menuItemId then quantity else cart.quantity id := by
  unfold updateItem at outcome
  cases found : cart.items.find? menuItemId with
  | none => simp [found] at outcome
  | some line =>
    have own : line.menuItemId = menuItemId := Table.key_of_find? found
    simp only [found, Except.ok.injEq] at outcome
    subst outcome
    unfold StoredCart.quantity
    dsimp only
    by_cases none_left : quantity = 0
    · rw [if_pos none_left, Table.find?_filter]
      by_cases same : id = menuItemId
      · subst same
        simp [found, own, none_left, Option.filter]
      · cases other : cart.items.find? id with
        | none => simp [same]
        | some row =>
          have key : row.menuItemId = id := Table.key_of_find? other
          simp [key, same, Option.filter]
    · rw [if_neg none_left, Table.find?_put]
      by_cases same : id = menuItemId
      · subst same
        simp [own]
      · have other : line.menuItemId ≠ id := fun equal => same (equal.symm.trans own)
        simp [other, same]

/-! ### The view -/

/-- What `_price_hash` digests. -/
def priceText (items : List CartItemView) : String :=
  String.intercalate ";" (items.map fun i => toString i.menuItemId ++ ":" ++ i.unitPrice.text)

def StoredLine.view (line : StoredLine) : CartItemView where
  menuItemId := line.menuItemId
  name := line.name
  unitPrice := line.unitPrice.resent
  quantity := line.quantity
  lineTotal := line.unitPrice.resent * line.quantity

/-- Build the cart view from what is stored, its amounts exact (`Orders.CartInvariant` has them as they are
rounded); `sha256` is the hex digest of the hashing library. -/
def StoredCart.view (sha256 : String → String) (cart : StoredCart) : CartView :=
  if cart.items.rows = [] then {}
  else
    let items := (cart.items.rows.map StoredLine.view).insertionSort
      fun first second => first.menuItemId ≤ second.menuItemId
    { restaurantId := cart.restaurantId
      items := items
      subtotal := (items.map CartItemView.lineTotal).sum
      priceHash := sha256 (priceText items) }

/-- **No two lines of a cart are for one item.** -/
theorem distinct_view (sha256 : String → String) (cart : StoredCart) :
    ((cart.view sha256).items.map CartItemView.menuItemId).Nodup := by
  unfold StoredCart.view
  split
  · exact List.nodup_nil
  · have sorted := List.perm_insertionSort
      (fun first second : CartItemView => first.menuItemId ≤ second.menuItemId)
      (cart.items.rows.map StoredLine.view)
    refine (sorted.map CartItemView.menuItemId).nodup_iff.mpr ?_
    rw [List.map_map]
    exact cart.items.unique

/-- A line of a view shows a stored line. -/
theorem stored_of_mem_view {sha256 : String → String} {cart : StoredCart} {line : CartItemView}
    (member : line ∈ (cart.view sha256).items) : ∃ stored ∈ cart.items.rows, stored.view = line := by
  unfold StoredCart.view at member
  split at member
  · cases member
  · exact List.mem_map.mp (List.mem_insertionSort _ |>.mp member)

/-- Every line of a view comes to its price times its quantity, -/
theorem lineTotal_of_mem_view {sha256 : String → String} {cart : StoredCart} {line : CartItemView}
    (member : line ∈ (cart.view sha256).items) : line.lineTotal = line.unitPrice * line.quantity := by
  obtain ⟨stored, -, rfl⟩ := stored_of_mem_view member
  rfl

/-- and the view to the sum of its lines. -/
theorem subtotal_view (sha256 : String → String) (cart : StoredCart) :
    (cart.view sha256).subtotal = ((cart.view sha256).items.map CartItemView.lineTotal).sum := by
  unfold StoredCart.view
  split
  · rfl
  · rfl

theorem priceHash_view {sha256 : String → String} {cart : StoredCart}
    (filled : (cart.view sha256).items ≠ []) :
    (cart.view sha256).priceHash = sha256 (priceText (cart.view sha256).items) := by
  unfold StoredCart.view at filled ⊢
  split
  · rename_i empty
    rw [if_pos empty] at filled
    exact absurd rfl filled
  · rfl

end FoodDelivery.Orders
