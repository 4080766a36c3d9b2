/-
**The order lifecycle** (`services/orders/app/service.py`).

Each state change of the source reads one order, decides against what it read, writes and commits.
The part between the read and the commit is a function of the row that was read: it raises, or
returns having written nothing (`none`), or says what to write (`Written`). `Action` names the eight
of them and `Action.body` is the one that belongs to each, so that an action can be run in one go
(`State.onOrder`, `State.sweep`) or with others in between its read and its commit.
-/

import FoodDelivery.Orders.StateMachine
import FoodDelivery.Orders.Checkout

set_option autoImplicit false

namespace FoodDelivery.Orders

/-! ### Helpers of the lifecycle -/

/-- The restaurant, if this caller manages it. 404 before 403. -/
def ownedRestaurant (s : State) (user : Identity) (restaurantId : Nat) :
    Except Raised RestaurantSnapshot :=
  match s.restaurants.find? restaurantId with
  | none => .error (.app (notFoundException "Restaurant" (toString restaurantId)))
  | some snapshot =>
    if snapshot.ownerId ≠ user.userId ∧ user.role ≠ "admin" then
      .error (.app (forbiddenException "You do not manage this restaurant"))
    else .ok snapshot

/-- The outbox event for the order's current status. -/
def emitStatus (s : State) (order : Order) : OutboxEvent :=
  let customer := s.customers.find? order.customerId
  let address := s.addresses.find? order.addressId
  let restaurant := s.restaurants.find? order.restaurantId
  .orderEvents
    { orderId := order.id
      status := order.status
      customerId := order.customerId
      customerName := (customer.map CustomerSnapshot.displayName).getD ""
      restaurantId := order.restaurantId
      restaurantName := restaurant.map RestaurantSnapshot.name
      total := order.total
      paymentMethod := order.paymentMethod
      paymentStatus := order.paymentStatus
      destinationLatitude := address.bind AddressSnapshot.latitude
      destinationLongitude := address.bind AddressSnapshot.longitude }

/-- Tell the owner an order is waiting, when the owner is known. -/
def notifyRestaurant (s : State) (order : Order) : List OutboxEvent :=
  match s.restaurants.find? order.restaurantId with
  | none => []
  | some restaurant =>
    [.notificationEvents
      { userId := restaurant.ownerId
        type := "order.new"
        message := "New order #" ++ toString order.id ++ " — " ++ order.total.text ++ " to prepare."
        orderId := some order.id }]

/-- Ask the payments service to settle or refund. Recorded, not called. -/
def requestPaymentAction (order : Order) (action : PaymentAction) : OutboxEvent :=
  .paymentCommands { orderId := order.id, action := action, amount := order.total }

/-- Put a cancelled order's stock back. -/
def restoreStock (order : Order) (authHeader : String := "") : StockRelease where
  restaurantId := order.restaurantId
  lines := order.items
  authHeader := authHeader

def recordRefund (order : Order) (refund : RefundStatus) : Order :=
  if refund = .full then
    { order with
      refundStatus := refund
      refundAmount := order.total
      paymentStatus := .refunded }
  else { order with refundStatus := refund, refundAmount := 0 }

/-- `get_order_for_user`, past its lookup: whether the caller may see the order. -/
def orderForUser (s : State) (user : Identity) (order : Order) : Except Raised Order :=
  if user.userId = order.customerId ∨ user.role = "admin" then .ok order
  else
    match ownedRestaurant s user order.restaurantId with
    | .ok _ => .ok order
    | .error _ => .error (.app (forbiddenException "You cannot view this order"))

/-! ### The state changes, from the row that was read to what is written -/

/-- Move an order from PAYMENT_PENDING to PAYMENT_SUCCESS; one that is in any other status is
returned untouched. -/
def markPaid (s : State) (now : Timestamp) (order : Order) : Except Raised (Option Written) :=
  if order.status ≠ .paymentPending then .ok none
  else do
    let order ← applyTransition order .paymentSuccess .system (some "payment confirmed")
    let order := { order with paymentStatus := .success, updatedAt := now }
    return some
      { order := order
        outbox := emitStatus s order :: notifyRestaurant s order }

def cancelByCustomer (s : State) (user : Identity) (authHeader : String) (now : Timestamp)
    (order : Order) : Except Raised (Option Written) := do
  let order ← orderForUser s user order
  let current := order.status
  if customerCancelAllowed current = false then
    .error (orderError "CANCEL_NOT_ALLOWED"
      "This order can no longer be cancelled without restaurant approval.")
  else
    let order ← applyTransition order .cancelled .customer
    let order := { order with cancelledBy := some .customer, updatedAt := now }
    let refund := refundOnCancel current .customer
    let order := recordRefund order refund
    return some
      { order := order
        outbox := emitStatus s order ::
          if refund = .full then [requestPaymentAction order .refund] else []
        release := some (restoreStock order authHeader) }

def acceptByRestaurant (s : State) (user : Identity) (now : Timestamp) (order : Order) :
    Except Raised (Option Written) := do
  let _ ← ownedRestaurant s user order.restaurantId
  let order ← applyTransition order .restaurantAccepted .restaurant
  let order := { order with updatedAt := now }
  return some { order := order, outbox := [emitStatus s order] }

def rejectByRestaurant (s : State) (user : Identity) (reason : Option String) (authHeader : String)
    (now : Timestamp) (order : Order) : Except Raised (Option Written) := do
  let _ ← ownedRestaurant s user order.restaurantId
  let order ← applyTransition order .rejected .restaurant reason
  let order := { order with
    cancelledBy := some .restaurant
    cancelReason := reason
    updatedAt := now }
  let order := recordRefund order .full
  return some
    { order := order
      outbox := [emitStatus s order, requestPaymentAction order .refund]
      release := some (restoreStock order authHeader) }

def advanceStatus (s : State) (user : Identity) (target : OrderStatus) (now : Timestamp)
    (order : Order) : Except Raised (Option Written) := do
  let _ ← ownedRestaurant s user order.restaurantId
  let current := order.status
  let order ← applyTransition order target .restaurant
  let order := { order with updatedAt := now }
  if target = .cancelled then
    let order := { order with cancelledBy := some .restaurant }
    let refund := refundOnCancel current .restaurant
    let order := recordRefund order refund
    return some
      { order := order
        outbox := emitStatus s order ::
          if refund = .full then [requestPaymentAction order .refund] else []
        release := some (restoreStock order) }
  else
    return some
      { order := order
        outbox := emitStatus s order ::
          if target = .delivered then [requestPaymentAction order .settle] else [] }

/-- Advance an order on behalf of the assigned driver. -/
def driverAdvance (s : State) (target : OrderStatus) (now : Timestamp) (order : Order) :
    Except Raised (Option Written) := do
  let order ← applyTransition order target .driver
  let order := { order with updatedAt := now }
  return some
    { order := order
      outbox := emitStatus s order ::
        if target = .delivered then [requestPaymentAction order .settle] else [] }

/-- `settings.payment_window_seconds`. -/
def paymentWindowSeconds : Int := 900

/-- `settings.restaurant_accept_timeout_seconds`. -/
def restaurantAcceptTimeoutSeconds : Int := 300

/-- The `WHERE` of a sweep: the status it looks for, untouched since the cutoff. -/
def isStale (status : OrderStatus) (window : Int) (now : Timestamp) (order : Order) : Bool :=
  order.status = status ∧ order.updatedAt < now - window

/-- Cancel a card order that was never paid for. One order of the sweep. -/
def expireUnpaidOrder (s : State) (now : Timestamp) (order : Order) :
    Except Raised (Option Written) :=
  if isStale .paymentPending paymentWindowSeconds now order then do
    let order ← applyTransition order .cancelled .system (some "payment was not completed in time")
    let order := { order with
      cancelledBy := some .system
      cancelReason := some "payment was not completed in time"
      updatedAt := now }
    let order := recordRefund order .none
    return some
      { order := order
        outbox := [emitStatus s order]
        release := some (restoreStock order) }
  else .ok none

/-- Cancel an order the restaurant never accepted. One order of the sweep. -/
def expirePendingAcceptance (s : State) (now : Timestamp) (order : Order) :
    Except Raised (Option Written) :=
  if isStale .paymentSuccess restaurantAcceptTimeoutSeconds now order then do
    let order ← applyTransition order .cancelled .system (some "restaurant acceptance timeout")
    let order := { order with cancelledBy := some .system, updatedAt := now }
    let order := recordRefund order .full
    return some
      { order := order
        outbox := [emitStatus s order, requestPaymentAction order .refund]
        release := some (restoreStock order) }
  else .ok none

/-! ### The eight state changes as one family -/

/-- A state change of one order, with the arguments its request brings. -/
inductive Action where
  | markPaid
  | cancelByCustomer (user : Identity) (authHeader : String)
  | acceptByRestaurant (user : Identity)
  | rejectByRestaurant (user : Identity) (reason : Option String) (authHeader : String)
  | advanceStatus (user : Identity) (target : OrderStatus)
  | driverAdvance (target : OrderStatus)
  | expireUnpaidOrders
  | expirePendingAcceptances
deriving DecidableEq, Repr

/-- What an action does with the row it read. -/
def Action.body (s : State) (now : Timestamp) : Action → Order → Except Raised (Option Written)
  | .markPaid => Orders.markPaid s now
  | .cancelByCustomer user authHeader => Orders.cancelByCustomer s user authHeader now
  | .acceptByRestaurant user => Orders.acceptByRestaurant s user now
  | .rejectByRestaurant user reason authHeader =>
    Orders.rejectByRestaurant s user reason authHeader now
  | .advanceStatus user target => Orders.advanceStatus s user target now
  | .driverAdvance target => Orders.driverAdvance s target now
  | .expireUnpaidOrders => expireUnpaidOrder s now
  | .expirePendingAcceptances => expirePendingAcceptance s now

/-- Whether an action reads its row through `_locked_order`. The customer's cancel reads it with
`session.get` and `_load_full`, the two sweeps with a plain `select`. -/
def Action.locks : Action → Bool
  | .markPaid => true
  | .cancelByCustomer _ _ => false
  | .acceptByRestaurant _ => true
  | .rejectByRestaurant _ _ _ => true
  | .advanceStatus _ _ => true
  | .driverAdvance _ => true
  | .expireUnpaidOrders => false
  | .expirePendingAcceptances => false

/-! ### Running an action with nothing in between -/

/-- Read an order, run an action's body on it and commit what it writes. -/
def State.onOrder (s : State) (orderId : Nat) (action : Action) (now : Timestamp) :
    Except Raised State :=
  match s.orders.find? orderId with
  | none => .error (.app (notFoundException "Order" (toString orderId)))
  | some order => do
    match ← action.body s now order with
    | none => return s
    | some written => return s.commit written

/-- `for order in stale`: the sweep's body on each row of its `select`, one commit at the end. -/
def State.sweepRows (s : State) (action : Action) (now : Timestamp) :
    List Order → Except Raised State
  | [] => .ok s
  | order :: stale => do
    match ← action.body s now order with
    | none => s.sweepRows action now stale
    | some written => (s.commit written).sweepRows action now stale

/-- An expiry sweep: the body takes the rows its `WHERE` selects and passes over the others. -/
def State.sweep (s : State) (action : Action) (now : Timestamp) : Except Raised State :=
  s.sweepRows action now s.orders.rows

/-! ### Placing an order -/

/-- The order as `create_order_from_checkout` first adds it, with its CREATED baseline event. -/
def newOrder (id customerId : Nat) (request : CheckoutRequest) (validated : ValidatedOrder)
    (now : Timestamp) : Order where
  id := id
  customerId := customerId
  restaurantId := validated.restaurantId
  addressId := validated.addressId
  status := .created
  paymentMethod := request.paymentMethod
  paymentStatus := .pending
  subtotal := validated.subtotal
  deliveryFee := 0
  total := validated.subtotal
  createdAt := now
  updatedAt := now
  items := validated.items
  events := [⟨none, .created, .system, none⟩]

/-- The order is advanced as far as its payment method allows, and announced. -/
def placeOrder (s : State) (order : Order) : Except Raised Written := do
  let order ← applyTransition order .paymentPending .system
  if order.paymentMethod = .cod then
    let order ← applyTransition order .paymentSuccess .system
      (some "COD: to be collected on delivery")
    let order := { order with paymentStatus := .success }
    return { order := order, outbox := emitStatus s order :: notifyRestaurant s order }
  else
    return { order := order, outbox := [emitStatus s order] }

/-- The id the database gives the next order. -/
def State.nextOrderId (s : State) : Nat :=
  (s.orders.rows.map Order.id).foldr max 0 + 1

/-- Place an order. `acquired` is the answer of the per-user lock and `cart` what Redis holds for
the caller when the checkout reads it. -/
def createOrderFromCheckout (s : State) (user : Identity) (request : CheckoutRequest)
    (acquired : Bool) (cart : CartView)
    (post : Nat → ValidateRequest → Except Raised Response) (now : Timestamp) :
    Except Raised State :=
  if acquired = false then
    .error (orderError "CHECKOUT_IN_PROGRESS" "A checkout is already in progress.")
  else do
    let validated ← validateCheckout s cart user.userId request post
    let written ← placeOrder s (newOrder s.nextOrderId user.userId request validated now)
    return s.commit written

end FoodDelivery.Orders
