/-
**A customer's basket** (`services/orders/app/cart.py` and `services/orders/app/reorder.py`).

A `Basket` is the cart that Redis holds for a customer, together with the history of what was added to it
and taken out. Every operation answers with what it returns or raises and with the basket it leaves: an
operation that raises half way has saved what it had done by then. What the restaurants service answers
is an argument, one answer for every call.

A past order is one of the orders database: `PastOrders` says that its lines are for different items and
have quantities, as every order has that was made from a cart (`Orders.Reorder`).
-/

import FoodDelivery.Orders.Cart
import FoodDelivery.Orders.Service

set_option autoImplicit false

namespace FoodDelivery.Orders

open FoodDelivery.Lib

/-! ### The basket -/

/-- What changed in a cart. -/
inductive Entry where
  | added (menuItemId restaurantId : Nat)
  | removed (menuItemId : Nat)
  | cleared
deriving DecidableEq, Repr

structure Basket where
  cart : StoredCart := {}
  history : List Entry := []

namespace Basket

/-- What the lookup of one item answers: its rows, or the failure of the call. -/
abbrev Answer := Except Raised (List MenuRow)

/-- `add_item`: what it saves, with the answer of its lookup. -/
def addItem (b : Basket) (menuItemId quantity : Nat) (answer : Answer) : Except Raised Basket := do
  let rows ← answer
  let item ← itemToAdd menuItemId rows
  let cart ← Orders.addItem b.cart menuItemId quantity item
  return { cart := cart, history := b.history ++ [.added menuItemId item.restaurantId] }

/-- `update_item`. -/
def updateItem (b : Basket) (menuItemId quantity : Nat) : Except Raised Basket := do
  let cart ← Orders.updateItem b.cart menuItemId quantity
  let removed := if quantity = 0 then [.removed menuItemId] else []
  return { cart := cart, history := b.history ++ removed }

/-- `remove_item`. -/
def removeItem (b : Basket) (menuItemId : Nat) : Except Raised Basket := b.updateItem menuItemId 0

/-- `clear_cart`. -/
def clearCart (b : Basket) : Basket := { cart := {}, history := b.history ++ [.cleared] }

end Basket

/-! ### Ordering again -/

/-- Orders as they were placed. -/
structure PastOrders where
  state : State
  positive : ∀ order ∈ state.orders.rows, ∀ line ∈ order.items, 1 ≤ line.quantity
  distinct : ∀ order ∈ state.orders.rows, (order.items.map OrderItem.menuItemId).Nodup

/-- A row of the batch lookup. -/
structure LookupRow where
  id : Nat
  isAvailable : Bool
  stockQuantity : Option Int := none
deriving DecidableEq, Repr

/-- `UNAVAILABLE`. -/
def unavailable : String := "no longer on the menu"

/-- `SOLD_OUT`. -/
def soldOut : String := "sold out"

/-- True if the quantity cannot be met from what is left. -/
def short (item : LookupRow) (quantity : Nat) : Bool :=
  match item.stockQuantity with
  | none => false
  | some left => left < quantity

/-- `{item["id"]: item for item in rows}.get(id)`: the last row of an id. -/
def currentRow (rows : List LookupRow) (id : Nat) : Option LookupRow :=
  rows.reverse.find? fun row => row.id = id

/-- Why a line is not carried over, if it is not. -/
def skipReason (rows : List LookupRow) (line : OrderItem) : Option String :=
  match currentRow rows line.menuItemId with
  | none => some unavailable
  | some item =>
    if item.isAvailable = false then some unavailable
    else if short item line.quantity then some soldOut
    else none

/-- The entry of a line that is not carried over. -/
def skippedText (line : OrderItem) (reason : String) : String := line.name ++ " — " ++ reason

/-- What a reorder answers. -/
structure ReorderResult where
  cart : CartView
  skipped : List String

/-- The loop of `reorder`, over the lines of the order and the answers of their lookups. -/
def refill (rows : List LookupRow) :
    List (OrderItem × Basket.Answer) → List String → Basket → Except Raised (List String) × Basket
  | [], skipped, b => (.ok skipped, b)
  | (line, answer) :: lines, skipped, b =>
    match skipReason rows line with
    | some reason => refill rows lines (skipped ++ [skippedText line reason]) b
    | none =>
      match b.addItem line.menuItemId line.quantity answer with
      | .error raised => (.error raised, b)
      | .ok b => refill rows lines skipped b

/-- `get_order_for_user` and the checks of `reorder`: the lines of the caller's own order. -/
def linesToReorder (s : State) (user : Identity) (orderId : Nat) : Except Raised (List OrderItem) :=
  match s.orders.find? orderId with
  | none => .error (.app (notFoundException "Order" (toString orderId)))
  | some order => do
    let order ← orderForUser s user order
    if order.customerId ≠ user.userId then
      .error (.app (conflictException "Only the customer who placed an order can reorder it"))
    else if order.items = [] then
      .error (.app (conflictException "That order has no items to reorder"))
    else return order.items

/-- The answers of the restaurants service to one reorder: to the batch lookup, and to the lookup of
every line. -/
structure ReorderAnswers where
  batch : Except Raised (List LookupRow)
  items : Nat → Basket.Answer

/-- The lines with the answers to their lookups. -/
def asked (lines : List OrderItem) (answers : ReorderAnswers) : List (OrderItem × Basket.Answer) :=
  lines.zipIdx.map fun indexed => (indexed.1, answers.items indexed.2)

/-- **Replace the cart with what can still be ordered** from a past order. `view` is the view of a
cart. -/
def reorder (view : StoredCart → CartView) (s : State) (user : Identity) (orderId : Nat)
    (answers : ReorderAnswers) (b : Basket) : Except Raised ReorderResult × Basket :=
  match linesToReorder s user orderId with
  | .error raised => (.error raised, b)
  | .ok lines =>
    match answers.batch with
    | .error raised => (.error raised, b)
    | .ok rows =>
      match refill rows (asked lines answers) [] b.clearCart with
      | (.error raised, b) => (.error raised, b)
      | (.ok skipped, b) => (.ok { cart := view b.cart, skipped := skipped }, b)

/-! ### What the operations do -/

theorem itemToAdd_ok {menuItemId : Nat} {rows : List MenuRow} {item : MenuRow} :
    itemToAdd menuItemId rows = .ok item ↔ rows.head? = some item ∧ item.isAvailable = true := by
  cases rows with
  | nil => simp [itemToAdd]
  | cons row rows =>
    by_cases available : row.isAvailable = true
    · simp only [itemToAdd, available, Bool.true_eq_false, if_false, Except.ok.injEq,
        List.head?_cons, Option.some_inj]
      constructor
      · rintro rfl
        exact ⟨rfl, available⟩
      · exact fun same => same.1
    · simp only [itemToAdd, Bool.not_eq_true _ ▸ available, if_true, List.head?_cons,
        Option.some_inj]
      refine iff_of_false (fun same => by cases same) ?_
      rintro ⟨rfl, on⟩
      exact available on

/-- What `add_item` saves. -/
def savedLine (cart : StoredCart) (menuItemId quantity : Nat) (item : MenuRow) : StoredLine where
  menuItemId := menuItemId
  name := item.name
  unitPrice := item.price
  quantity := cart.quantity menuItemId + quantity

theorem addItem_ok {cart next : StoredCart} {menuItemId quantity : Nat} {item : MenuRow} :
    addItem cart menuItemId quantity item = .ok next ↔
      (cart.restaurantId = none ∨ cart.restaurantId = some item.restaurantId) ∧
        next =
          { restaurantId := some item.restaurantId
            items := cart.items.put (savedLine cart menuItemId quantity item) } := by
  by_cases mixed : cart.restaurantId ≠ none ∧ cart.restaurantId ≠ some item.restaurantId
  · rw [addItem, if_pos mixed]
    refine iff_of_false (fun same => by cases same) fun parts => ?_
    exact parts.1.elim mixed.1 mixed.2
  · rw [addItem, if_neg mixed, Except.ok.injEq, eq_comm (b := next)]
    rw [not_and_or, not_not, not_not] at mixed
    exact (and_iff_right mixed).symm

theorem updateItem_ok {cart next : StoredCart} {menuItemId quantity : Nat} :
    updateItem cart menuItemId quantity = .ok next ↔
      ∃ line items, cart.items.find? menuItemId = some line ∧
        items = (if quantity = 0 then cart.items.filter fun other => other.menuItemId ≠ menuItemId
          else cart.items.put { line with quantity := quantity }) ∧
        next = { restaurantId := if items.rows = [] then none else cart.restaurantId, items := items } := by
  unfold updateItem
  cases cart.items.find? menuItemId with
  | none => simp
  | some line =>
    constructor
    · intro same
      cases same
      exact ⟨line, _, rfl, rfl, rfl⟩
    · rintro ⟨other, items, found, rfl, rfl⟩
      cases found
      rfl

namespace Basket

theorem addItem_ok {b next : Basket} {menuItemId quantity : Nat} {answer : Answer} :
    b.addItem menuItemId quantity answer = .ok next ↔
      ∃ rows item, answer = .ok rows ∧ rows.head? = some item ∧ item.isAvailable = true ∧
        (b.cart.restaurantId = none ∨ b.cart.restaurantId = some item.restaurantId) ∧
        next =
          { cart :=
              { restaurantId := some item.restaurantId
                items := b.cart.items.put (savedLine b.cart menuItemId quantity item) }
            history := b.history ++ [.added menuItemId item.restaurantId] } := by
  constructor
  · intro outcome
    obtain ⟨rows, found, outcome⟩ := bind_eq_ok.mp outcome
    obtain ⟨item, picked, outcome⟩ := bind_eq_ok.mp outcome
    obtain ⟨cart, saved, outcome⟩ := bind_eq_ok.mp outcome
    obtain ⟨first, available⟩ := itemToAdd_ok.mp picked
    obtain ⟨owner, rfl⟩ := Orders.addItem_ok.mp saved
    cases outcome
    exact ⟨rows, item, found, first, available, owner, rfl⟩
  · rintro ⟨rows, item, found, first, available, owner, rfl⟩
    refine bind_eq_ok.mpr ⟨rows, found, bind_eq_ok.mpr ⟨item, itemToAdd_ok.mpr ⟨first, available⟩, ?_⟩⟩
    exact bind_eq_ok.mpr ⟨_, Orders.addItem_ok.mpr ⟨owner, rfl⟩, rfl⟩

theorem updateItem_ok {b next : Basket} {menuItemId quantity : Nat} :
    b.updateItem menuItemId quantity = .ok next ↔
      Orders.updateItem b.cart menuItemId quantity = .ok next.cart ∧
        next.history = b.history ++ if quantity = 0 then [.removed menuItemId] else [] := by
  constructor
  · intro outcome
    obtain ⟨cart, saved, outcome⟩ := bind_eq_ok.mp outcome
    cases outcome
    exact ⟨saved, rfl⟩
  · rintro ⟨saved, same⟩
    refine bind_eq_ok.mpr ⟨next.cart, saved, congrArg Except.ok ?_⟩
    rw [← same]

end Basket

/-! ### What the loop of a reorder does -/

section Refill

variable {rows : List LookupRow} {pairs : List (OrderItem × Basket.Answer)}
  {skipped out : List String} {b filled : Basket} {raised : Raised}

/-- The lines that the batch lookup lets through, with the answers to their own lookups. -/
def carried (rows : List LookupRow) (pairs : List (OrderItem × Basket.Answer)) :
    List (OrderItem × Basket.Answer) :=
  pairs.filter fun pair => skipReason rows pair.1 = none

/-- The entries of the lines that it does not. -/
def skippedTexts (rows : List LookupRow) (lines : List OrderItem) : List String :=
  lines.filterMap fun line => (skipReason rows line).map (skippedText line)

/-- `add_item` for a line of the order. -/
def Basket.addLine (b : Basket) (pair : OrderItem × Basket.Answer) : Except Raised Basket :=
  b.addItem pair.1.menuItemId pair.1.quantity pair.2

/-- **A loop that ends** has added every line that is carried over and named every other. -/
theorem refill_eq_ok :
    refill rows pairs skipped b = (.ok out, filled) ↔
      (carried rows pairs).foldlM Basket.addLine b = .ok filled ∧
        out = skipped ++ skippedTexts rows (pairs.map Prod.fst) := by
  induction pairs generalizing skipped b with
  | nil => simp [refill, carried, skippedTexts, pure, Except.pure, eq_comm, and_comm]
  | cons pair pairs hyp =>
    obtain ⟨line, answer⟩ := pair
    rw [refill, carried, List.map_cons, skippedTexts]
    cases reason : skipReason rows line with
    | some text =>
      rw [List.filter_cons_of_neg (by simp [reason]), List.filterMap_cons_some (by rw [reason]; rfl)]
      simp only
      rw [hyp, List.append_assoc, List.singleton_append]
      rfl
    | none =>
      rw [List.filter_cons_of_pos (by simp [reason]), List.foldlM_cons,
        List.filterMap_cons_none (by rw [reason]; rfl)]
      cases added : b.addItem line.menuItemId line.quantity answer with
      | error raised => simp [Basket.addLine, added, bind, Except.bind]
      | ok next =>
        simp only [Basket.addLine, added]
        rw [hyp]
        rfl

/-- **A loop that raises** has added the lines before the one that failed. -/
theorem refill_eq_error :
    refill rows pairs skipped b = (.error raised, filled) ↔
      StopsAt Basket.addLine (carried rows pairs) b filled raised := by
  induction pairs generalizing skipped b with
  | nil => exact iff_of_false (fun same => by cases same) not_stopsAt_nil
  | cons pair pairs hyp =>
    obtain ⟨line, answer⟩ := pair
    rw [refill, carried]
    cases reason : skipReason rows line with
    | some text =>
      rw [List.filter_cons_of_neg (by simp [reason])]
      exact hyp
    | none =>
      rw [List.filter_cons_of_pos (by simp [reason]), stopsAt_cons]
      cases added : b.addItem line.menuItemId line.quantity answer with
      | error failure =>
        -- the first line that is carried over is the one that failed
        simp [Basket.addLine, added, eq_comm]
      | ok next =>
        simp only [Basket.addLine, added, reduceCtorEq, false_and, false_or, Except.ok.injEq,
          exists_eq_left']
        exact hyp

end Refill

/-- **What a reorder does**: it changes nothing and raises, or it clears the cart and refills it. -/
theorem reorder_cases (view : StoredCart → CartView) (s : State) (user : Identity) (orderId : Nat)
    (answers : ReorderAnswers) (b : Basket) :
    (∃ raised, reorder view s user orderId answers b = (.error raised, b)) ∨
      ∃ lines rows outcome filled, linesToReorder s user orderId = .ok lines ∧
        answers.batch = .ok rows ∧
        refill rows (asked lines answers) [] b.clearCart = (outcome, filled) ∧
        reorder view s user orderId answers b =
          (outcome.map fun skipped => { cart := view filled.cart, skipped := skipped }, filled) := by
  unfold reorder
  cases found : linesToReorder s user orderId with
  | error raised => exact Or.inl ⟨raised, rfl⟩
  | ok lines =>
    cases batch : answers.batch with
    | error raised => exact Or.inl ⟨raised, rfl⟩
    | ok rows =>
      rcases loop : refill rows (asked lines answers) [] b.clearCart with ⟨outcome, filled⟩
      refine Or.inr ⟨lines, rows, outcome, filled, rfl, rfl, loop, ?_⟩
      simp only [loop]
      cases outcome with
      | error raised => rfl
      | ok skipped => rfl

end FoodDelivery.Orders
