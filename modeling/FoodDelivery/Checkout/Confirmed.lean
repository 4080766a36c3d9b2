/-
**What the customer confirmed.** A checkout brings the price hash of the cart that the customer was
shown, and goes on only when the stored cart still has it.

The hash is of the menu items and their prices: with a hash that no two texts share it fixes both
(`priced_of_priceText`), and says nothing of the quantities.

`paysConfirmed_iff`: a checkout that succeeds orders what was shown, at the total that was shown, if and
only if the stored cart has the quantities that were shown. Carts in two tabs do not
(`secondTab_not_confirmed`).
-/

import FoodDelivery.Checkout.AllOrNothing
import FoodDelivery.Checkout.Placing
import Mathlib.Logic.Equiv.Basic

set_option autoImplicit false

namespace FoodDelivery.Checkout

open FoodDelivery.Lib
open FoodDelivery.Orders (CartItemView CartView CheckoutRequest Order OrderItem StoredCart
  StoredLine Written priceText)
open FoodDelivery.Restaurants (Items LocalTime)

/-! ### What has to hold -/

/-- A line, as the customer understands it: the menu item, its price and how many. -/
def shownLine (line : CartItemView) : Nat × Money × Nat :=
  (line.menuItemId, line.unitPrice, line.quantity)

def orderedLine (line : OrderItem) : Nat × Money × Nat :=
  (line.menuItemId, line.unitPrice, line.quantity)

/-- **The customer pays what they confirmed.** -/
structure PaysConfirmed (shown : CartView) (order : Order) : Prop where
  total : order.total = shown.subtotal
  lines : order.items.map orderedLine = shown.items.map shownLine

/-! ### What the hash covers -/

/-- A line's part of the text that is hashed. -/
def pricedLine (line : CartItemView) : Nat × Money := (line.menuItemId, line.unitPrice)

theorem priceText_eq (items : List CartItemView) :
    priceText items = (String.singleton ';').intercalate
      ((items.map pricedLine).map fun line => toString line.1 ++ ":" ++ line.2.text) := by
  rw [List.map_map]
  rfl

/-- A part tells its menu item and its price. -/
theorem pricedLine_inj {first second : Nat × Money}
    (same : toString first.1 ++ ":" ++ first.2.text = toString second.1 ++ ":" ++ second.2.text) :
    first = second := by
  have chars := congrArg String.toList same
  rw [String.toList_append, String.toList_append, String.toList_append, String.toList_append,
    List.append_assoc, List.append_assoc] at chars
  have no_colon : ∀ n : Nat, ':' ∉ (toString n).toList := not_mem_toString (by decide)
  have none_in_text : ∀ amount : Money, ':' ∉ amount.text.toList :=
    Money.not_mem_text (by decide) (by decide) (by decide)
  obtain ⟨item, _, price⟩ := (List.append_cons_inj_of_notMem (no_colon _) (none_in_text _)).mp chars
  exact Prod.ext (toString_inj (String.toList_inj.mp item))
    (Money.text_injective (String.toList_inj.mp price))

/-- **The hashed text fixes the menu items and their prices.** -/
theorem priced_of_priceText {first second : List CartItemView} (filled : first ≠ [])
    (filled' : second ≠ []) (same : priceText first = priceText second) :
    first.map pricedLine = second.map pricedLine := by
  have clear : ∀ items : List CartItemView, ∀ text ∈ (items.map pricedLine).map
      (fun line => toString line.1 ++ ":" ++ line.2.text), ';' ∉ text.toList := by
    intro items text member
    obtain ⟨line, _, rfl⟩ := List.mem_map.mp member
    rw [String.toList_append, String.toList_append, List.mem_append, List.mem_append, not_or, not_or]
    exact ⟨⟨not_mem_toString (by decide) _, by decide⟩,
      Money.not_mem_text (by decide) (by decide) (by decide) _⟩
  rw [priceText_eq, priceText_eq] at same
  have parts := intercalate_inj (clear first) (clear second) (by simpa using filled)
    (by simpa using filled') same
  exact (List.map_injective_iff.mpr fun _ _ equal => pricedLine_inj equal) parts

/-! ### Quantities -/

theorem quantity_of_mem_view {sha256 : String → String} {cart : StoredCart} {line : CartItemView}
    (member : line ∈ (cart.view sha256).items) : line.quantity = cart.quantity line.menuItemId := by
  unfold StoredCart.view at member
  split at member
  · cases member
  · obtain ⟨stored, among, rfl⟩ := List.mem_map.mp (List.mem_insertionSort _ |>.mp member)
    have found : cart.items.find? stored.menuItemId = some stored :=
      Table.find?_eq_some.mpr ⟨among, rfl⟩
    show stored.quantity = ((cart.items.find? stored.menuItemId).map StoredLine.quantity).getD 0
    rw [found]
    rfl

theorem quantity_of_not_mem_view (sha256 : String → String) {cart : StoredCart} {id : Nat}
    (absent : ∀ line ∈ (cart.view sha256).items, line.menuItemId ≠ id) : cart.quantity id = 0 := by
  unfold StoredCart.quantity
  rw [Table.find?_eq_none.mpr]
  · rfl
  · intro stored among same
    have some_row : cart.items.rows ≠ [] := List.ne_nil_of_mem among
    unfold StoredCart.view at absent
    rw [if_neg some_row] at absent
    refine absent stored.view ?_ same
    exact (List.mem_insertionSort _).mpr (List.mem_map_of_mem among)

/-- **A cart's quantities are those of its lines.** -/
theorem quantities_of_lines (sha256 : String → String) {first second : StoredCart}
    (same : (first.view sha256).items.map shownLine = (second.view sha256).items.map shownLine)
    (id : Nat) : first.quantity id = second.quantity id := by
  by_cases named : ∃ line ∈ (first.view sha256).items, line.menuItemId = id
  · obtain ⟨line, member, rfl⟩ := named
    have among : shownLine line ∈ (second.view sha256).items.map shownLine :=
      same ▸ List.mem_map_of_mem member
    obtain ⟨other, there, equal⟩ := List.mem_map.mp among
    obtain ⟨item, rest⟩ := Prod.mk.inj equal
    rw [← quantity_of_mem_view member, ← item, ← quantity_of_mem_view there]
    exact (Prod.mk.inj rest).2.symm
  · have unnamed : ∀ cart : StoredCart, (cart.view sha256).items.map shownLine =
        (first.view sha256).items.map shownLine → cart.quantity id = 0 := by
      intro cart equal
      refine quantity_of_not_mem_view sha256 fun line member own => ?_
      have among : shownLine line ∈ (first.view sha256).items.map shownLine :=
        equal ▸ List.mem_map_of_mem member
      obtain ⟨other, there, lines⟩ := List.mem_map.mp among
      exact named ⟨other, there, (Prod.mk.inj lines).1.trans own⟩
    rw [unnamed first rfl, unnamed second same.symm]

/-- Lines with the same menu items and prices are the same where the quantities are. -/
theorem lines_of_quantities {sha256 : String → String} {first second : StoredCart}
    (priced : (first.view sha256).items.map pricedLine = (second.view sha256).items.map pricedLine)
    (same : ∀ id, first.quantity id = second.quantity id) :
    (first.view sha256).items.map shownLine = (second.view sha256).items.map shownLine := by
  have counted : ∀ cart : StoredCart, (cart.view sha256).items.map shownLine =
      ((cart.view sha256).items.map pricedLine).map fun line =>
        (line.1, line.2, cart.quantity line.1) := by
    intro cart
    rw [List.map_map]
    refine List.map_congr_left fun line member => ?_
    rw [shownLine, quantity_of_mem_view member]
    rfl
  rw [counted first, counted second, priced]
  simp only [same]

/-- The order has the lines of the cart. -/
theorem lines_of_exact {menu : Items} {lines : List CartItemView} {items : List OrderItem}
    (exact_lines : List.Forall₂ (LineExact menu) lines items) :
    items.map orderedLine = lines.map shownLine := by
  induction exact_lines with
  | nil => rfl
  | cons pair _ ih =>
    obtain ⟨item, _, rfl⟩ := pair
    rw [List.map_cons, List.map_cons, ih]
    rfl

/-- What a cart comes to is told by its lines. -/
theorem subtotal_of_lines {sha256 : String → String} {first second : StoredCart}
    (same : (first.view sha256).items.map shownLine = (second.view sha256).items.map shownLine) :
    (first.view sha256).subtotal = (second.view sha256).subtotal := by
  have totals : ∀ cart : StoredCart, (cart.view sha256).subtotal =
      (((cart.view sha256).items.map shownLine).map fun line =>
        line.2.1 * (line.2.2 : Money)).sum := by
    intro cart
    rw [Orders.subtotal_view, List.map_map]
    refine congrArg List.sum (List.map_congr_left fun line member => ?_)
    exact Orders.lineTotal_of_mem_view member
  rw [totals, totals, same]

/-- A cart with some of an item is not empty. -/
theorem filled_of_quantity {cart : StoredCart} {id : Nat} (sha256 : String → String)
    (some_there : 1 ≤ cart.quantity id) : (cart.view sha256).items ≠ [] := by
  intro empty
  have none_there : cart.quantity id = 0 :=
    quantity_of_not_mem_view sha256 fun other listed => by
      rw [empty] at listed
      cases listed
  omega

/-! ### The checkout -/

/-- The order that is added is one only. -/
theorem Adds.unique {before after : Orders.State} {order other : Order}
    (adds : Adds before after order) (again : Adds before after other) : order = other := by
  have own : order.id = other.id := by
    by_contra apart
    have there := adds.there
    rw [again.others order.id apart, adds.new] at there
    cases there
  have there := adds.there
  rw [own, again.there, Option.some_inj] at there
  exact there.symm

/-- **The customer pays what they confirmed** if and only if the cart has, when it is checked out, the
quantities that they were shown. -/
theorem paysConfirmed_iff (setting : Setting) (faults : Faults) (user : Identity)
    (request : CheckoutRequest) (authHeader : String) (now : Timestamp) (clock : LocalTime)
    (w : World) (shown : StoredCart) (injective : Function.Injective setting.sha256)
    (confirms : request.priceHash = (shown.view setting.sha256).priceHash)
    (succeeds : ((createOrderFromCheckout setting faults user request authHeader now clock).exec
      w).2 = .ok ()) :
    (∃ order, Adds w.orders ((createOrderFromCheckout setting faults user request authHeader now
        clock).exec w).1.orders order ∧ PaysConfirmed (shown.view setting.sha256) order) ↔
      ∀ id, w.cart.quantity id = shown.quantity id := by
  obtain ⟨committed, _, returned⟩ :=
    exec_createOrder_orders setting faults user request authHeader now clock w
  obtain ⟨written, prepared, orders⟩ := committed (returned succeeds)
  obtain ⟨absent, exact_order, hash, filled, positive⟩ := exact_of_prepared prepared
  rw [orders]
  have ordered := lines_of_exact exact_order.lines
  constructor
  · rintro ⟨order, adds, pays⟩
    have same : order = written.order := adds.unique (adds_commit absent)
    refine quantities_of_lines setting.sha256 ?_
    rw [← pays.lines, same, ordered]
  · intro quantities
    have filled' : (shown.view setting.sha256).items ≠ [] := by
      obtain ⟨line, member⟩ := List.exists_mem_of_ne_nil _ filled
      have among : shownLine line ∈ written.order.items.map orderedLine :=
        ordered ▸ List.mem_map_of_mem member
      obtain ⟨item, there, same⟩ := List.mem_map.mp among
      have some_ordered := positive item there
      rw [(Prod.mk.inj (Prod.mk.inj same).2).2, quantity_of_mem_view member, quantities]
        at some_ordered
      exact filled_of_quantity setting.sha256 some_ordered
    have texts : priceText (w.cart.view setting.sha256).items =
        priceText (shown.view setting.sha256).items := by
      rw [confirms, Orders.priceHash_view filled, Orders.priceHash_view filled'] at hash
      exact (injective hash).symm
    have lines := lines_of_quantities (priced_of_priceText filled filled' texts) quantities
    refine ⟨written.order, adds_commit absent, ?_, ordered.trans lines⟩
    rw [← subtotal_of_lines lines, ← exact_order.shown, exact_order.subtotal, exact_order.total]

/-! ### Two tabs -/

/-- The services of the example, with a hash that no two texts share and that digests the texts of the
example as SHA-256 does. -/
def collisionFree : Setting :=
  { threeUsers with
    sha256 := Equiv.swap "1:200.00"
      "54995733a75f142290a8505ba590b0fcf44200b20d407ef0f7c229d7eeb636f5" }

/-- One portion in a cart. -/
def onePortion : StoredCart where
  restaurantId := some 3
  items := (Table.empty : Table Nat StoredLine StoredLine.menuItemId).put ⟨1, "Thali", 20000, 1⟩

/-- A customer who is shown the cart that is stored gets what they were shown. -/
theorem paysConfirmed_iff_oneTab :
    (∃ order, Adds readyToOrder.orders ((createOrderFromCheckout collisionFree .noFaults
        ⟨7, "customer"⟩ cashRequest "Bearer customer" 10 ⟨0, 720⟩).exec readyToOrder).1.orders order ∧
      PaysConfirmed (twoPortions.view collisionFree.sha256) order) ↔
      ∀ id, readyToOrder.cart.quantity id = twoPortions.quantity id :=
  paysConfirmed_iff collisionFree .noFaults ⟨7, "customer"⟩ cashRequest "Bearer customer" 10 ⟨0, 720⟩
    readyToOrder twoPortions (Equiv.injective _) (by decide) (by decide)

/-- **One portion confirmed, two paid for.** The customer is shown a cart of one portion, adds another in
a second tab and checks out in the first: the hash is the same, and so the order is of two. -/
theorem secondTab_not_confirmed :
    ¬ ∀ (setting : Setting) (faults : Faults) (user : Identity) (request : CheckoutRequest)
      (authHeader : String) (now : Timestamp) (clock : LocalTime) (w : World) (shown : StoredCart),
      Function.Injective setting.sha256 →
      request.priceHash = (shown.view setting.sha256).priceHash →
      ((createOrderFromCheckout setting faults user request authHeader now clock).exec w).2 = .ok () →
      ∃ order, Adds w.orders ((createOrderFromCheckout setting faults user request authHeader now
        clock).exec w).1.orders order ∧ PaysConfirmed (shown.view setting.sha256) order := by
  intro always
  obtain ⟨order, adds, pays⟩ := always collisionFree .noFaults ⟨7, "customer"⟩ cashRequest
    "Bearer customer" 10 ⟨0, 720⟩ readyToOrder onePortion (Equiv.injective _) (by decide) (by decide)
  have charged : ∀ placed ∈ ((createOrderFromCheckout collisionFree .noFaults ⟨7, "customer"⟩
      cashRequest "Bearer customer" 10 ⟨0, 720⟩).exec readyToOrder).1.orders.orders.rows,
      placed.total = 40000 := by decide
  have shown : (onePortion.view collisionFree.sha256).subtotal = 20000 := by decide
  have total := pays.total
  rw [charged order (Table.find?_eq_some.mp adds.there).1, shown] at total
  exact absurd total (by decide)

end FoodDelivery.Checkout
