/-
**Orders and restaurants together.**

The orders service calls the restaurants service twice: a checkout asks validate-order, which checks
and reserves, and an order that ends asks release-stock, whose refusal is ignored. Every request of a
user brings an Authorization header; the two sweeps that expire orders bring an operator's, and do not
pass it on.

A step is a request, a message or an edit on the restaurants' side, one at a time and with no faults.
-/

import FoodDelivery.Orders.Cart
import FoodDelivery.Orders.Runs
import FoodDelivery.Restaurants.Runs

set_option autoImplicit false

namespace FoodDelivery.Checkout

open FoodDelivery.Lib
open FoodDelivery.Orders (CartView CheckoutRequest StockRelease StoredCart checkoutCall checkoutReply)
open FoodDelivery.Restaurants (Items OrderLine Served ValidateOrderResponse ValidatedLine LocalTime
  serveValidateOrder serveReleaseStock)

/-! ### On the wire

Amounts travel as texts, in both directions. -/

/-- The validate-order body, as the restaurants service reads it. -/
def wireBody (body : Orders.ValidateRequest) : Restaurants.ValidateOrderRequest where
  items := body.items.map fun line => ⟨line.menuItemId, line.quantity, line.unitPrice.resent⟩
  address := { city := body.city, latitude := body.latitude, longitude := body.longitude }
  reserve := body.reserve

def wireLine (line : ValidatedLine) : Orders.OrderItem where
  menuItemId := line.menuItemId
  name := line.name
  unitPrice := line.unitPrice.resent
  quantity := line.quantity
  lineTotal := line.lineTotal.resent

/-- The answer, as the orders service reads it. -/
def wireVerdict (answer : ValidateOrderResponse) : Orders.Verdict where
  ok := some answer.ok
  code := answer.code
  message := answer.message
  restaurantId := answer.restaurantId
  subtotal := some answer.subtotal.resent
  items := some (answer.items.map wireLine)

def wireResponse (served : Served) : Orders.Response where
  statusCode := served.statusCode
  json := served.answer.map wireVerdict

/-- The release-stock body, as the restaurants service reads it. -/
def wireRelease (lines : List Orders.OrderItem) : List OrderLine :=
  lines.map fun line => ⟨line.menuItemId, line.quantity, line.unitPrice.resent⟩

/-! ### The state -/

structure State where
  orders : Orders.State
  restaurants : Restaurants.State

/-- What both services are deployed with: the check of an Authorization header, the hash behind the
price hash of a cart, and the restaurants service's own. -/
structure Setting where
  verify : String → Option Identity
  sha256 : String → String
  env : Restaurants.Environment

/-- No orders yet. -/
def State.start (restaurants : Restaurants.State) : State where
  orders := .empty
  restaurants := restaurants

/-! ### The steps -/

/-- The call of validate-order. -/
def State.ask (setting : Setting) (s : State) (authHeader : String) (clock : LocalTime)
    (restaurantId : Nat) (body : Orders.ValidateRequest) : Served × Restaurants.State :=
  serveValidateOrder setting.verify setting.env.runtime s.restaurants restaurantId
    (forwarded authHeader) (wireBody body) clock

/-- A checkout, with the call it makes on its way. -/
def State.checkout (setting : Setting) (s : State) (user : Identity) (authHeader : String)
    (request : CheckoutRequest) (acquired : Bool) (cart : StoredCart) (now : Timestamp)
    (clock : LocalTime) : State where
  orders := s.orders.step
    (.createOrderFromCheckout user request acquired (cart.view setting.sha256)
      (fun restaurantId body => .ok (wireResponse (s.ask setting authHeader clock restaurantId body).1)),
      now)
  restaurants :=
    if acquired = false then s.restaurants
    else
      match checkoutCall s.orders (cart.view setting.sha256) user.userId request with
      | .error _ => s.restaurants
      | .ok call => (s.ask setting authHeader clock call.1 call.2).2

/-- A call of release-stock. Whatever it answers is ignored. -/
def release (setting : Setting) (restaurants : Restaurants.State) (call : StockRelease) :
    Restaurants.State :=
  (serveReleaseStock setting.verify restaurants call.restaurantId (forwarded call.authHeader)
    (wireRelease call.lines)).2

/-- A step of the orders service, with the release-stock calls it makes on its way. -/
def State.onOrders (setting : Setting) (s : State) (op : Orders.Operation) (now : Timestamp) :
    State :=
  let orders := s.orders.step (op, now)
  { orders := orders
    restaurants :=
      (orders.releases.drop s.orders.releases.length).foldl (release setting) s.restaurants }

/-- The routes of the orders service that change an order. -/
inductive Route where
  | checkout (request : CheckoutRequest) (acquired : Bool) (cart : StoredCart) (clock : LocalTime)
  | cancel (orderId : Nat)
  | accept (orderId : Nat)
  | reject (orderId : Nat) (reason : Option String)
  | setStatus (orderId : Nat) (target : OrderStatus)
  | expireAcceptances
  | expireUnpaid

/-- Who may call a route. -/
def Route.roles : Route → List String
  | .checkout _ _ _ _ => ["customer"]
  | .cancel _ => ["customer"]
  | .accept _ => ["restaurant", "admin"]
  | .reject _ _ => ["restaurant", "admin"]
  | .setStatus _ _ => ["restaurant", "admin"]
  | .expireAcceptances => ["admin"]
  | .expireUnpaid => ["admin"]

/-- What a route asks of the service; `authHeader` is `authorization or ""`. A checkout is apart. -/
def Route.operation (user : Identity) (authHeader : String) : Route → Option Orders.Operation
  | .checkout _ _ _ _ => none
  | .cancel orderId => some (.cancelByCustomer orderId user authHeader)
  | .accept orderId => some (.acceptByRestaurant orderId user)
  | .reject orderId reason => some (.rejectByRestaurant orderId user reason authHeader)
  | .setStatus orderId target => some (.advanceStatus orderId user target)
  | .expireAcceptances => some .expirePendingAcceptances
  | .expireUnpaid => some .expireUnpaidOrders

/-- A message of another service, which moves an order along or updates a read-model. -/
inductive Message where
  | payment (payload : Orders.PaymentEvent)
  | delivery (payload : Orders.DeliveryEvent)
  | address (payload : Orders.AddressEvent)
  | restaurant (payload : Orders.RestaurantEvent)
  | user (payload : Orders.UserEvent)

def Message.operation : Message → Orders.Operation
  | .payment payload => .applyPaymentEvent payload
  | .delivery payload => .applyDeliveryEvent payload
  | .address payload => .applyAddressEvent payload
  | .restaurant payload => .applyRestaurantEvent payload
  | .user payload => .applyUserEvent payload

/-- The operations of the restaurants service that are neither an owner's edit of stock nor calls of
the two endpoints: they leave the stock of every item that is there alone. -/
def leavesStock : Restaurants.Operation → Bool
  | .updateItem _ _ _ data => data.stockQuantity = none
  | .deleteItem _ _ _ => false
  | .validateOrder _ _ _ => false
  | .releaseStock _ => false
  | _ => true

/-- What can happen. -/
inductive Label where
  | request (authorization : Option String) (route : Route) (now : Timestamp)
  | message (message : Message) (now : Timestamp)
  | edit (op : Restaurants.Operation)

def State.step (setting : Setting) (s : State) : Label → State
  | .request authorization route now =>
    match requireRole setting.verify route.roles authorization with
    | none => s
    | some user =>
      match route with
      | .checkout request acquired cart clock =>
        s.checkout setting user (authorization.getD "") request acquired cart now clock
      | route =>
        match route.operation user (authorization.getD "") with
        | none => s
        | some op => s.onOrders setting op now
  | .message message now => s.onOrders setting message.operation now
  | .edit op =>
    if leavesStock op then { s with restaurants := s.restaurants.step setting.env op } else s

/-! ### A small setting -/

/-- A customer, an owner and an operator, each known by their header. -/
def threeUsers : Setting where
  verify header :=
    if header = "Bearer customer" then some ⟨7, "customer"⟩
    else if header = "Bearer owner" then some ⟨9, "restaurant"⟩
    else if header = "Bearer admin" then some ⟨1, "admin"⟩
    else none
  sha256 text :=
    if text = "1:200.00" then "54995733a75f142290a8505ba590b0fcf44200b20d407ef0f7c229d7eeb636f5"
    else ""
  env :=
    { adminAlertEmail := ""
      runtime := { distanceKm := fun _ _ => 0, foldCity := id, showKm := fun _ => "" } }

/-- A venue with five portions of its dish. -/
def fivePortions : Restaurants.State :=
  { Restaurants.State.empty with
    restaurants := (Table.empty : Table Nat Restaurants.Restaurant Restaurants.Restaurant.id).put
      { id := 3, ownerId := 9, name := "Spice", city := "Surat", isOpen := true
        approvalStatus := .approved }
    items := (Table.empty : Items).put
      { id := 1, restaurantId := 3, categoryId := 1, name := "Thali", price := 20000
        stockQuantity := some 5 } }

/-- Two portions in a cart. -/
def twoPortions : Orders.StoredCart where
  restaurantId := some 3
  items := (Table.empty : Table Nat Orders.StoredLine Orders.StoredLine.menuItemId).put
    ⟨1, "Thali", 20000, 2⟩

/-- They are to be paid in cash. -/
def cashRequest : CheckoutRequest where
  addressId := 5
  priceHash := "54995733a75f142290a8505ba590b0fcf44200b20d407ef0f7c229d7eeb636f5"
  paymentMethod := .cod

end FoodDelivery.Checkout
