/-
**A checkout with its failure points** (`create_order_from_checkout` and `validate_checkout`, call by
call).

A checkout makes its calls one after the other, and each of them can fail: Redis, the orders database
and the restaurants service. `Faults` says which do, and how; the process can also die between any two
calls (`Program.cut`). What does not fit its column fails the flush, fault or not. `exec_noFaults` says that
without faults, for a cart that fits, this is the checkout of `State.checkout`.
-/

import FoodDelivery.Checkout.Columns
import FoodDelivery.Checkout.Stock
import FoodDelivery.Lib.Program

set_option autoImplicit false

namespace FoodDelivery.Checkout

open FoodDelivery.Lib
open FoodDelivery.Orders (CheckoutRequest StoredCart ValidatedOrder ValidateRequest Written
  checkoutAddress checkoutCart checkoutReply)
open FoodDelivery.Restaurants (LocalTime Served)

/-! ### What can go wrong -/

/-- A call of Redis or of the database: it takes effect, or it raises before it does or after. -/
inductive Fault where
  | none
  | before (raised : Raised)
  | after (raised : Raised)

/-- A reply that a checkout does not take for an answer that is ok: it does not decode, lacks a key or
is somebody else's error page. -/
structure Garbled where
  reply : Orders.Response
  unreadable : ∀ restaurantId addressId,
    ∃ raised, checkoutReply restaurantId addressId reply = .error raised

/-- What becomes of the call of validate-order: it is answered; it never reaches the service, or the
circuit is open; it is handled and the answer is lost, late or a 5xx; it is handled and the answer is
garbled on its way. -/
inductive Exchange where
  | answered
  | lost
  | unanswered
  | garbled (reply : Garbled)

/-- The service handled the call. -/
def Exchange.handled : Exchange → Bool
  | .lost => false
  | _ => true

/-- What goes wrong in one checkout, call by call. -/
structure Faults where
  lock : Fault := .none
  cart : Fault := .none
  address : Fault := .none
  post : Exchange := .answered
  flush : Fault := .none
  emit : Fault := .none
  commit : Fault := .none
  clearCart : Fault := .none
  load : Fault := .none
  unlock : Fault := .none

/-- Nothing goes wrong. -/
def Faults.noFaults : Faults := {}

/-! ### The program -/

/-- What a checkout of one user works on: the lock and the cart that Redis has for them, and the two
databases. -/
structure World where
  locked : Bool
  cart : StoredCart
  orders : Orders.State
  restaurants : Restaurants.State

/-- The two databases. -/
def World.databases (w : World) : Orders.State × Restaurants.State := (w.orders, w.restaurants)

abbrev Call := Program World Raised

/-- A call of Redis or of the database. -/
def call {α : Type} (fault : Fault) (view : World → α) (update : World → World) : Call α :=
  match fault with
  | .none => .modify view update
  | .before raised => .raise raised
  | .after raised => do
    let _ ← (.modify view update : Call α)
    .raise raised

/-- What a function of the code returns or raises. -/
def lift {α : Type} : Except Raised α → Call α
  | .ok value => .ret value
  | .error raised => .raise raised

/-- `ServiceUnavailableException`. -/
def unavailable : Raised := .app { message := "restaurants-service is unavailable", statusCode := 503 }

/-- `restaurants().post(".../validate-order")`. -/
def post (setting : Setting) (exchange : Exchange) (authHeader : String) (restaurantId : Nat)
    (body : ValidateRequest) (clock : LocalTime) : Call Orders.Response :=
  let serve (w : World) : Served × Restaurants.State :=
    Restaurants.serveValidateOrder setting.verify setting.env.runtime w.restaurants restaurantId
      (forwarded authHeader) (wireBody body) clock
  let handle (w : World) : World := { w with restaurants := (serve w).2 }
  match exchange with
  | .answered => .modify (fun w => wireResponse (serve w).1) handle
  | .lost => .raise unavailable
  | .unanswered => do
    let _ ← (.modify (fun _ => ()) handle : Call Unit)
    .raise unavailable
  | .garbled garbled => .modify (fun _ => garbled.reply) handle

/-- Turn a cart into a validated order, reserving stock as it goes. -/
def validateCheckout (setting : Setting) (faults : Faults) (cart : Orders.CartView)
    (customerId : Nat) (request : CheckoutRequest) (authHeader : String) (clock : LocalTime) :
    Call ValidatedOrder := do
  let restaurantId ← lift (checkoutCart cart request)
  let address ← call faults.address (fun w => w.orders.addresses.find? request.addressId) id
  let body ← lift (checkoutAddress address cart customerId request)
  let response ← post setting faults.post authHeader restaurantId body clock
  lift (checkoutReply restaurantId request.addressId response)

/-- The order is added, advanced, announced and committed. -/
def commitOrder (faults : Faults) (user : Identity) (request : CheckoutRequest)
    (validated : ValidatedOrder) (now : Timestamp) : Call Unit := do
  let orderId ← call faults.flush (fun w => w.orders.nextOrderId) id
  lift (flushed validated)
  let placed ← call faults.emit
    (fun w => Orders.placeOrder w.orders
      (Orders.newOrder orderId user.userId request validated now)) id
  let written ← lift placed
  call faults.commit (fun _ => ()) fun w => { w with orders := w.orders.commit written }

/-- What is done under the lock, up to the commit. -/
def placeOrder (setting : Setting) (faults : Faults) (user : Identity) (request : CheckoutRequest)
    (authHeader : String) (now : Timestamp) (clock : LocalTime) : Call Unit := do
  let cart ← call faults.cart (fun w => w.cart.view setting.sha256) id
  let validated ← validateCheckout setting faults cart user.userId request authHeader clock
  commitOrder faults user request validated now

/-- Place an order. -/
def createOrderFromCheckout (setting : Setting) (faults : Faults) (user : Identity)
    (request : CheckoutRequest) (authHeader : String) (now : Timestamp) (clock : LocalTime) :
    Call Unit := do
  let acquired ← call faults.lock (fun w => !w.locked) fun w => { w with locked := true }
  if acquired = false then
    .raise (Orders.orderError "CHECKOUT_IN_PROGRESS" "A checkout is already in progress.")
  else
    Program.andFinally
      (do
        placeOrder setting faults user request authHeader now clock
        call faults.clearCart (fun _ => ()) fun w => { w with cart := {} }
        call faults.load (fun _ => ()) id)
      (call faults.unlock (fun _ => ()) fun w => { w with locked := false })

/-! ### Without faults -/

theorem keeps_call {α : Type} (fault : Fault) (view : World → α) {update : World → World}
    (keeps : ∀ w, (update w).databases = w.databases) :
    (call fault view update).Keeps World.databases := by
  cases fault with
  | none => exact fun w => ⟨keeps w, trivial⟩
  | before raised => trivial
  | after raised => exact fun w => ⟨keeps w, trivial⟩

section

variable {α β : Type} {view : World → α} {update : World → World} {rest : α → Call β}

theorem exec_call (w : World) :
    (call .none view update >>= rest).exec w = (rest (view w)).exec (update w) := rfl

theorem exec_lift_ok (value : α) (w : World) :
    (lift (.ok value) >>= rest).exec w = (rest value).exec w := rfl

theorem exec_lift_error (raised : Raised) (w : World) :
    (lift (.error raised) >>= rest).exec w = (w, .error raised) := rfl

end

theorem exec_commitOrder {user : Identity} {request : CheckoutRequest} {validated : ValidatedOrder}
    {now : Timestamp} {w : World} {written : Written} (stored : flushed validated = .ok ())
    (placed : Orders.placeOrder w.orders
      (Orders.newOrder w.orders.nextOrderId user.userId request validated now) = .ok written) :
    ((commitOrder {} user request validated now).exec w).1 =
      { w with orders := w.orders.commit written } := by
  unfold commitOrder
  dsimp only
  rw [exec_call, stored, exec_lift_ok, exec_call]
  dsimp only [id_eq]
  rw [placed, exec_lift_ok]
  rfl

/-- An answer that is ok can be stored exactly when what was asked fits the columns. -/
theorem storable_of_reply {setting : Setting} {restaurants : Restaurants.State} {authHeader : String}
    {restaurantId addressId : Nat} {body : ValidateRequest} {clock : LocalTime} {validated : ValidatedOrder}
    (reply : checkoutReply restaurantId addressId (wireResponse
      (Restaurants.serveValidateOrder setting.verify setting.env.runtime restaurants restaurantId
        (forwarded authHeader) (wireBody body) clock).1) = .ok validated) :
    Storable validated ↔ FitsColumns (wireBody body).items := by
  rcases Restaurants.serveValidateOrder_outcome setting.verify setting.env.runtime restaurants
    restaurantId (forwarded authHeader) (wireBody body) clock with
    ⟨_, served, serves, refusal⟩ | ⟨_, restaurant, passed, _, _, lines, _, serves⟩
  · obtain ⟨raised, fails⟩ :=
      checkoutReply_refused restaurantId addressId (refusal.imp_left And.left)
    rw [serves, fails] at reply
    cases reply
  · rw [serves, checkoutReply_accepted] at reply
    cases reply
    exact storable_iff lines restaurant.id addressId

theorem exec_placeOrder (setting : Setting) (user : Identity) (request : CheckoutRequest)
    (authHeader : String) (now : Timestamp) (clock : LocalTime) (w : World)
    (fits : ∀ asked, Orders.checkoutCall w.orders (w.cart.view setting.sha256) user.userId request =
      .ok asked → FitsColumns (wireBody asked.2).items) :
    ((placeOrder setting .noFaults user request authHeader now clock).exec w).1.databases =
      let next := State.checkout setting ⟨w.orders, w.restaurants⟩ user authHeader request true
        w.cart now clock
      (next.orders, next.restaurants) := by
  unfold State.checkout placeOrder validateCheckout
  simp only [Program.bind_assoc]
  dsimp only [Faults.noFaults]
  rw [exec_call, if_neg (by decide)]
  cases cartOk : checkoutCart (w.cart.view setting.sha256) request with
  | error raised =>
    have stops : Orders.checkoutCall w.orders (w.cart.view setting.sha256) user.userId request =
        .error raised := by
      unfold Orders.checkoutCall
      rw [cartOk]
      rfl
    rw [exec_lift_error, stops, step_create_error]
    · rfl
    · unfold Orders.validateCheckout
      rw [stops]
      rfl
  | ok restaurantId =>
    rw [exec_lift_ok, exec_call]
    dsimp only [id_eq]
    cases addressOk : checkoutAddress (w.orders.addresses.find? request.addressId)
        (w.cart.view setting.sha256) user.userId request with
    | error raised =>
      have stops : Orders.checkoutCall w.orders (w.cart.view setting.sha256) user.userId request =
          .error raised := by
        unfold Orders.checkoutCall
        rw [cartOk, addressOk]
        rfl
      rw [exec_lift_error, stops, step_create_error]
      · rfl
      · unfold Orders.validateCheckout
        rw [stops]
        rfl
    | ok body =>
      have asks : Orders.checkoutCall w.orders (w.cart.view setting.sha256) user.userId request =
          .ok (restaurantId, body) := Orders.checkoutCall_ok.mpr ⟨cartOk, addressOk⟩
      let answer := State.ask setting ⟨w.orders, w.restaurants⟩ authHeader clock restaurantId body
      have validates : Orders.validateCheckout w.orders (w.cart.view setting.sha256) user.userId
          request (fun restaurantId body => .ok (wireResponse
            (State.ask setting ⟨w.orders, w.restaurants⟩ authHeader clock restaurantId body).1)) =
          checkoutReply restaurantId request.addressId (wireResponse answer.1) := by
        unfold Orders.validateCheckout
        rw [asks]
        rfl
      rw [asks, exec_lift_ok]
      show ((lift (checkoutReply restaurantId request.addressId (wireResponse answer.1)) >>= _).exec
        { w with restaurants := answer.2 }).1.databases = _
      cases reply : checkoutReply restaurantId request.addressId (wireResponse answer.1) with
      | error raised =>
        rw [exec_lift_error, step_create_error (validates.trans reply)]
        rfl
      | ok validated =>
        obtain ⟨written, placed, _⟩ :=
          placeOrder_new w.orders w.orders.nextOrderId user.userId request validated now
        have stored : flushed validated = .ok () := if_pos ((storable_of_reply reply).mpr (fits _ asks))
        have commits := exec_commitOrder (w := { w with restaurants := answer.2 }) stored placed
        rw [exec_lift_ok, commits, step_create_commit (validates.trans reply) placed]
        rfl

/-- **Without faults, this is the checkout** of two services that do not fail, for a cart that fits the
columns. -/
theorem exec_noFaults (setting : Setting) (user : Identity) (request : CheckoutRequest)
    (authHeader : String) (now : Timestamp) (clock : LocalTime) (w : World)
    (fits : ∀ asked, Orders.checkoutCall w.orders (w.cart.view setting.sha256) user.userId request =
      .ok asked → FitsColumns (wireBody asked.2).items) :
    ((createOrderFromCheckout setting .noFaults user request authHeader now clock).exec w).1.databases =
      let next := State.checkout setting ⟨w.orders, w.restaurants⟩ user authHeader request (!w.locked)
        w.cart now clock
      (next.orders, next.restaurants) := by
  obtain ⟨locked, cart, orders, restaurants⟩ := w
  cases locked with
  | true => rfl
  | false =>
    refine Eq.trans ?_ (exec_placeOrder setting user request authHeader now clock
      ⟨true, cart, orders, restaurants⟩ fits)
    have unlock : (call Fault.none (fun _ => ()) fun w => { w with locked := false }).Keeps
        World.databases := keeps_call _ _ fun _ => rfl
    refine (Program.exec_andFinally_of_keeps unlock _).trans (Program.exec_bind_of_keeps ?_ _)
    exact fun _ => Program.Keeps.bind (keeps_call _ _ fun _ => rfl) fun _ => keeps_call _ _ fun _ => rfl

end FoodDelivery.Checkout
