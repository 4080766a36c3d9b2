/-
**Stock that orders hold.**

An order holds the portions it was placed with until it is cancelled or rejected; then it has to give
them back. Its customer's cancel and the kitchen's reject forward the caller's header with the
release-stock call. The status route and the two sweeps call it without one, which is a 401 that is
ignored, and the status route does not call it at all when it rejects.

`Conserved` says that nothing is lost, `Credited` which steps lose nothing. `checkout_cases` is the
inversion of a checkout: nothing happened, or an order was placed and its lines were taken from stock.
-/

import FoodDelivery.Checkout.Model
import FoodDelivery.Lib.Totals

set_option autoImplicit false

namespace FoodDelivery.Checkout

open FoodDelivery.Lib
open FoodDelivery.Orders (Action Order OrderItem Performed StockRelease StoredCart CheckoutRequest
  ended checkoutCall checkoutReply)
open FoodDelivery.Restaurants (Items OrderLine Served StockLine LocalTime stockOf wanted applyOrder
  restoreOrder)

/-! ### What has to hold -/

/-- What stock movement sees of an order's line. -/
def lineStock (line : OrderItem) : StockLine := ⟨line.menuItemId, line.quantity⟩

/-- The portions of an item that an order holds. -/
def holding (id : Nat) (order : Order) : Nat :=
  if ended order.status then 0 else wanted (order.items.map lineStock) id

/-- The portions of an item that all orders hold. -/
def held (orders : Orders.State) (id : Nat) : Nat := orders.orders.total (holding id)

/-- **Stock is conserved**, for the items that were tracked at the start: what is left and what orders
hold is what there was. -/
def Conserved (start : Items) (s : State) : Prop :=
  ∀ id stock, stockOf start id = some stock →
    ∃ left, stockOf s.restaurants.items id = some left ∧ left + held s.orders id = stock

/-- An order holds an item that was tracked at the start. -/
def HoldsTracked (start : Items) (order : Order) : Prop :=
  ∃ line ∈ order.items, (stockOf start line.menuItemId).isSome

instance (start : Items) (order : Order) : Decidable (HoldsTracked start order) :=
  inferInstanceAs (Decidable (∃ line ∈ order.items, (stockOf start line.menuItemId).isSome))

/-- The order that a status request is about to cancel or reject. -/
def endedByStatus (setting : Setting) (s : State) (authorization : Option String) (orderId : Nat)
    (target : OrderStatus) : Option Order :=
  if ended target then
    (requireRole setting.verify ["restaurant", "admin"] authorization).bind fun user =>
      (s.orders.orders.find? orderId).filter fun order =>
        (Orders.ownedRestaurant s.orders user order.restaurantId).isOk ∧
          target ∈ Orders.allowed order.status
  else none

/-- The orders that a sweep is about to cancel. -/
def endedBySweep (setting : Setting) (s : State) (authorization : Option String)
    (status : OrderStatus) (window : Int) (now : Timestamp) : List Order :=
  if (requireRole setting.verify ["admin"] authorization).isSome then
    s.orders.orders.rows.filter (Orders.isStale status window now)
  else []

/-- Nothing that is about to end without its stock being given back holds a tracked item. -/
def Credited (setting : Setting) (start : Items) (s : State) : Label → Prop
  | .request authorization (.setStatus orderId target) _ =>
    ∀ order ∈ endedByStatus setting s authorization orderId target, ¬ HoldsTracked start order
  | .request authorization .expireUnpaid now =>
    ∀ order ∈ endedBySweep setting s authorization .paymentPending Orders.paymentWindowSeconds now,
      ¬ HoldsTracked start order
  | .request authorization .expireAcceptances now =>
    ∀ order ∈ endedBySweep setting s authorization .paymentSuccess
      Orders.restaurantAcceptTimeoutSeconds now, ¬ HoldsTracked start order
  | _ => True

/-! ### A checkout -/

theorem checkoutReply_refused {served : Served} (restaurantId addressId : Nat)
    (refused : 400 ≤ served.statusCode ∨ ∃ answer, served.answer = some answer ∧ answer.ok = false) :
    ∃ raised, checkoutReply restaurantId addressId (wireResponse served) = .error raised := by
  unfold checkoutReply wireResponse
  split_ifs with missing failed
  · exact ⟨_, rfl⟩
  · exact ⟨_, rfl⟩
  · rcases refused with status | ⟨answer, same, not_ok⟩
    · exact absurd status failed
    · rw [same]
      exact ⟨_, by simp [wireVerdict, not_ok]; rfl⟩

theorem checkoutReply_accepted (restaurantId addressId id : Nat)
    (validated : List Restaurants.ValidatedLine) :
    checkoutReply restaurantId addressId
        (wireResponse { statusCode := 200, answer := some (Restaurants.accept id validated) }) =
      .ok
        { restaurantId := id
          addressId := addressId
          items := validated.map wireLine
          subtotal := Restaurants.subtotalOf validated } := by
  have sent : (Restaurants.subtotalOf validated).resent = Restaurants.subtotalOf validated :=
    Money.resent_eq _
  unfold wireResponse
  rw [Option.map_some, wireVerdict, show (Restaurants.accept id validated).subtotal =
    Restaurants.subtotalOf validated from rfl, sent]
  rfl

/-- The call names the lines of the cart, none twice. -/
theorem distinct_of_checkoutCall {orders : Orders.State} {sha256 : String → String}
    {cart : StoredCart} {customerId : Nat} {request : CheckoutRequest}
    {call : Nat × Orders.ValidateRequest}
    (calls : checkoutCall orders (cart.view sha256) customerId request = .ok call) :
    call.2.reserve = true ∧ (((wireBody call.2).items.map OrderLine.stock).map
      StockLine.menuItemId).Nodup := by
  have distinct := Orders.distinct_view sha256 cart
  obtain ⟨restaurantId, body⟩ := call
  obtain ⟨_, _, _, rfl⟩ := Orders.checkoutAddress_ok.mp (Orders.checkoutCall_ok.mp calls).2
  refine ⟨rfl, ?_⟩
  simpa [wireBody, OrderLine.stock, Function.comp_def] using distinct

/-- A new order is advanced and announced, whatever it holds. -/
theorem placeOrder_new (orders : Orders.State) (id customerId : Nat) (request : CheckoutRequest)
    (validated : Orders.ValidatedOrder) (now : Timestamp) :
    ∃ written, Orders.placeOrder orders (Orders.newOrder id customerId request validated now) =
        .ok written ∧
      written.order.id = id ∧ written.order.customerId = customerId ∧
      written.order.items = validated.items ∧ ended written.order.status = false := by
  obtain ⟨addressId, priceHash, method⟩ := request
  cases method with
  | cod => exact ⟨_, rfl, rfl, rfl, rfl, rfl⟩
  | card => exact ⟨_, rfl, rfl, rfl, rfl, rfl⟩

/-- The orders service's side of a checkout whose validation raised. -/
theorem step_create_error {orders : Orders.State} {user : Identity} {request : CheckoutRequest}
    {view : Orders.CartView} {post : Nat → Orders.ValidateRequest → Except Raised Orders.Response}
    {now : Timestamp} {raised : Raised}
    (failed : Orders.validateCheckout orders view user.userId request post = .error raised) :
    orders.step (.createOrderFromCheckout user request true view post, now) = orders := by
  unfold Orders.State.step Orders.Operation.outcome Orders.createOrderFromCheckout
  simp only [failed]
  rfl

theorem step_create_commit {orders : Orders.State} {user : Identity} {request : CheckoutRequest}
    {view : Orders.CartView} {post : Nat → Orders.ValidateRequest → Except Raised Orders.Response}
    {now : Timestamp} {validated : Orders.ValidatedOrder} {written : Orders.Written}
    (valid : Orders.validateCheckout orders view user.userId request post = .ok validated)
    (place : Orders.placeOrder orders
      (Orders.newOrder orders.nextOrderId user.userId request validated now) = .ok written) :
    orders.step (.createOrderFromCheckout user request true view post, now) =
      orders.commit written := by
  have created : Orders.createOrderFromCheckout orders user request true view post now =
      .ok (orders.commit written) := by
    unfold Orders.createOrderFromCheckout
    rw [if_neg (by decide), valid]
    exact congrArg (· >>= fun written => pure (orders.commit written)) place
  unfold Orders.State.step Orders.Operation.outcome
  simp only [created]

/-- And of one whose validation returned. -/
theorem step_create_ok {orders : Orders.State} {user : Identity} {request : CheckoutRequest}
    {view : Orders.CartView} {post : Nat → Orders.ValidateRequest → Except Raised Orders.Response}
    {now : Timestamp} {validated : Orders.ValidatedOrder}
    (valid : Orders.validateCheckout orders view user.userId request post = .ok validated) :
    ∃ written, orders.step (.createOrderFromCheckout user request true view post, now) =
        orders.commit written ∧
      orders.orders.find? written.order.id = none ∧ written.order.items = validated.items ∧
      ended written.order.status = false := by
  obtain ⟨written, place, id, _, items, open_⟩ :=
    placeOrder_new orders orders.nextOrderId user.userId request validated now
  refine ⟨written, step_create_commit valid place, ?_, items, open_⟩
  rw [id]
  exact Orders.find?_nextOrderId orders

theorem one_le_of_valid {lines : List OrderLine} (valid : lines.all OrderLine.valid = true) :
    ∀ line ∈ lines.map OrderLine.stock, 1 ≤ line.quantity := by
  intro line member
  obtain ⟨sent, among, rfl⟩ := List.mem_map.mp member
  exact of_decide_eq_true (List.all_eq_true.mp valid sent among)

/-- Lines that are covered one by one are covered together when they are for different items. -/
theorem wanted_le_of_distinct {items : Items} {lines : List OrderLine}
    (distinct : ((lines.map OrderLine.stock).map StockLine.menuItemId).Nodup)
    (covered : ∀ line ∈ lines, ∀ stock ∈ stockOf items line.menuItemId, line.quantity ≤ stock)
    (id stock : Nat) (tracked : stockOf items id = some stock) :
    wanted (lines.map OrderLine.stock) id ≤ stock := by
  by_cases named : id ∈ (lines.map OrderLine.stock).map StockLine.menuItemId
  · obtain ⟨line, member, rfl⟩ := List.mem_map.mp named
    rw [Restaurants.wanted_of_distinct distinct member]
    obtain ⟨sent, among, rfl⟩ := List.mem_map.mp member
    exact covered sent among stock tracked
  · rw [Restaurants.wanted_eq_zero named]
    exact Nat.zero_le stock

/-- **The outcomes of a checkout**: nothing, or an order that holds what was taken from stock. -/
theorem checkout_cases (setting : Setting) (s : State) (user : Identity) (authHeader : String)
    (request : CheckoutRequest) (acquired : Bool) (cart : StoredCart) (now : Timestamp)
    (clock : LocalTime) :
    s.checkout setting user authHeader request acquired cart now clock = s ∨
    ∃ written lines, s.checkout setting user authHeader request acquired cart now clock =
        ⟨s.orders.commit written, applyOrder s.restaurants lines⟩ ∧
      s.orders.orders.find? written.order.id = none ∧
      ended written.order.status = false ∧
      written.order.items.map lineStock = lines ∧
      (∀ line ∈ lines, 1 ≤ line.quantity) ∧
      ∀ id stock, stockOf s.restaurants.items id = some stock → wanted lines id ≤ stock := by
  cases acquired with
  | false => exact Or.inl rfl
  | true =>
    unfold State.checkout
    cases calls : checkoutCall s.orders (cart.view setting.sha256) user.userId request with
    | error raised =>
      refine Or.inl ?_
      rw [step_create_error]
      · rfl
      · unfold Orders.validateCheckout
        rw [calls]
        rfl
    | ok call =>
      obtain ⟨reserves, distinct⟩ := distinct_of_checkoutCall calls
      rcases Restaurants.serveValidateOrder_cases setting.verify setting.env.runtime s.restaurants
        call.1 (forwarded authHeader) (wireBody call.2) clock reserves with
        ⟨_, served, serves, refused⟩ | ⟨_, id, validated, valid, passed, serves⟩
      · refine Or.inl ?_
        obtain ⟨raised, fails⟩ := checkoutReply_refused call.1 request.addressId refused
        rw [step_create_error]
        · show (⟨s.orders, (s.ask setting authHeader clock call.1 call.2).2⟩ : State) = s
          unfold State.ask
          rw [serves]
        · unfold Orders.validateCheckout
          rw [calls]
          show checkoutReply _ _ (wireResponse (s.ask setting authHeader clock call.1 call.2).1) = _
          unfold State.ask
          rw [serves]
          exact fails
      · refine Or.inr ?_
        have asked : s.ask setting authHeader clock call.1 call.2 =
            ({ statusCode := 200, answer := some (Restaurants.accept id validated) },
              applyOrder s.restaurants ((wireBody call.2).items.map OrderLine.stock)) := serves
        have validates : Orders.validateCheckout s.orders (cart.view setting.sha256) user.userId
            request (fun restaurantId body =>
              .ok (wireResponse (s.ask setting authHeader clock restaurantId body).1)) = .ok
            { restaurantId := id
              addressId := request.addressId
              items := validated.map wireLine
              subtotal := Restaurants.subtotalOf validated } := by
          unfold Orders.validateCheckout
          rw [calls]
          show checkoutReply _ _ (wireResponse (s.ask setting authHeader clock call.1 call.2).1) = _
          rw [asked]
          exact checkoutReply_accepted _ _ _ _
        obtain ⟨written, commits, absent, items, open_⟩ := step_create_ok validates
        obtain ⟨same, covered⟩ := Restaurants.stock_of_validateLines passed
        refine ⟨written, (wireBody call.2).items.map OrderLine.stock, ?_, absent, open_, ?_, ?_, ?_⟩
        · rw [commits]
          show (⟨_, (s.ask setting authHeader clock call.1 call.2).2⟩ : State) = _
          rw [asked]
        · rw [items, List.map_map, ← same]
          rfl
        · exact one_le_of_valid valid
        · exact wanted_le_of_distinct distinct covered

end FoodDelivery.Checkout
