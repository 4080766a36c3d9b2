/-
**Validating a cart into an order** (`services/orders/app/checkout.py`, `cart_schemas.py`).

The restaurants service's answer is a parameter: `post` is the call of its validate-order endpoint,
with whatever it replies or raises.

`checkoutCall_ok` and `checkoutAddress_ok` say when a call is made, and with which body.
-/

import FoodDelivery.Lib.Outcomes
import FoodDelivery.Orders.Model

set_option autoImplicit false

namespace FoodDelivery.Orders

open FoodDelivery.Lib

/-! ### The cart and the request -/

structure CartItemView where
  menuItemId : Nat
  name : String
  unitPrice : Money
  quantity : Nat
  lineTotal : Money
deriving DecidableEq, Repr

structure CartView where
  restaurantId : Option Nat := none
  items : List CartItemView := []
  subtotal : Money := 0
  priceHash : String := ""
deriving DecidableEq, Repr

structure CheckoutRequest where
  addressId : Nat
  priceHash : String
  paymentMethod : PaymentMethod := .cod
deriving DecidableEq, Repr

structure ValidatedOrder where
  restaurantId : Nat
  addressId : Nat
  items : List OrderItem
  subtotal : Money
deriving DecidableEq, Repr

/-! ### The call to the restaurants service -/

/-- One line of the validate-order body. -/
structure RequestLine where
  menuItemId : Nat
  quantity : Nat
  unitPrice : Money
deriving DecidableEq, Repr

/-- The validate-order body. -/
structure ValidateRequest where
  items : List RequestLine
  city : String
  latitude : Option Coordinate
  longitude : Option Coordinate
  reserve : Bool
deriving DecidableEq

/-- The decoded validate-order answer; a missing field is `none`. -/
structure Verdict where
  ok : Option Bool := none
  code : Option String := none
  message : Option String := none
  restaurantId : Option Nat := none
  subtotal : Option Money := none
  items : Option (List OrderItem) := none
deriving DecidableEq, Repr

/-- A response below 500; `json` is `none` when the body does not decode. -/
structure Response where
  statusCode : Nat
  json : Option Verdict
deriving DecidableEq, Repr

/-- A cart that cannot become an order, with a code the frontend handles. -/
def checkoutError (code message : String) : Raised :=
  .app { message := message, statusCode := 409, code := some code }

/-- `value or default`, for a string that may be missing. -/
def orText (value : Option String) (default : String) : String :=
  match value with
  | some text => if text = "" then default else text
  | none => default

/-- A key of the answer that has to be there. -/
def required {α : Type} (field : Option α) (name : String) : Except Raised α :=
  match field with
  | some value => .ok value
  | none => .error (.other "KeyError" name)

/-! ### The checkout, part by part -/

/-- The checks of the cart, before anything is read: the restaurant to ask. -/
def checkoutCart (cart : CartView) (request : CheckoutRequest) : Except Raised Nat :=
  match cart.items, cart.restaurantId with
  | [], _ => .error (checkoutError "EMPTY_CART" "Your cart is empty.")
  | _, none => .error (checkoutError "EMPTY_CART" "Your cart is empty.")
  | _, some restaurantId =>
    if request.priceHash ≠ cart.priceHash then
      .error (checkoutError "PRICE_MISMATCH_REFRESH" "Prices changed. Please review your cart.")
    else .ok restaurantId

/-- The check of the address that was read, and the body for it. -/
def checkoutAddress (address : Option AddressSnapshot) (cart : CartView) (customerId : Nat)
    (request : CheckoutRequest) : Except Raised ValidateRequest :=
  match address with
  | none => .error (.app (notFoundException "Address" (toString request.addressId)))
  | some address =>
    if address.userId ≠ customerId then
      .error (.app (notFoundException "Address" (toString request.addressId)))
    else
      .ok
        { items := cart.items.map fun i => ⟨i.menuItemId, i.quantity, i.unitPrice⟩
          city := address.city
          latitude := address.latitude
          longitude := address.longitude
          reserve := true }

/-- The call that a checkout makes, or what it raises before it makes one. -/
def checkoutCall (s : State) (cart : CartView) (customerId : Nat) (request : CheckoutRequest) :
    Except Raised (Nat × ValidateRequest) := do
  let restaurantId ← checkoutCart cart request
  let body ← checkoutAddress (s.addresses.find? request.addressId) cart customerId request
  return (restaurantId, body)

/-- What a checkout makes of the response. -/
def checkoutReply (restaurantId addressId : Nat) (response : Response) :
    Except Raised ValidatedOrder :=
  if response.statusCode = 404 then
    .error (.app (notFoundException "Restaurant" (toString restaurantId)))
  else if response.statusCode ≥ 400 then
    .error (checkoutError "CHECKOUT_FAILED" "Your cart could not be checked out.")
  else
    match response.json with
    | none => .error (.other "JSONDecodeError" "")
    | some verdict =>
      if verdict.ok ≠ some true then
        .error (checkoutError (orText verdict.code "CHECKOUT_FAILED")
          (orText verdict.message "Your cart could not be checked out."))
      else do
        let restaurantId ← required verdict.restaurantId "restaurant_id"
        let subtotal ← required verdict.subtotal "subtotal"
        let items ← required verdict.items "items"
        return { restaurantId, addressId, items, subtotal }

/-- Turn a cart into a validated order, reserving stock as it goes. The address was looked up by the
request's id, which is its own. -/
def validateCheckout (s : State) (cart : CartView) (customerId : Nat) (request : CheckoutRequest)
    (post : Nat → ValidateRequest → Except Raised Response) : Except Raised ValidatedOrder := do
  let call ← checkoutCall s cart customerId request
  let response ← post call.1 call.2
  checkoutReply call.1 request.addressId response

/-- A call is made when the cart and the address pass. -/
theorem checkoutCall_ok {s : State} {cart : CartView} {customerId : Nat} {request : CheckoutRequest}
    {restaurantId : Nat} {body : ValidateRequest} :
    checkoutCall s cart customerId request = .ok (restaurantId, body) ↔
      checkoutCart cart request = .ok restaurantId ∧
        checkoutAddress (s.addresses.find? request.addressId) cart customerId request = .ok body := by
  constructor
  · intro calls
    obtain ⟨chosen, cartOk, rest⟩ := bind_eq_ok.mp calls
    obtain ⟨sent, addressOk, same⟩ := bind_eq_ok.mp rest
    cases same
    exact ⟨cartOk, addressOk⟩
  · rintro ⟨cartOk, addressOk⟩
    unfold checkoutCall
    rw [cartOk, addressOk]
    rfl

/-- The body asks to reserve the lines of the cart. -/
theorem checkoutAddress_ok {address : Option AddressSnapshot} {cart : CartView} {customerId : Nat}
    {request : CheckoutRequest} {body : ValidateRequest} :
    checkoutAddress address cart customerId request = .ok body ↔
      ∃ row, address = some row ∧ row.userId = customerId ∧
        body =
          { items := cart.items.map fun i => ⟨i.menuItemId, i.quantity, i.unitPrice⟩
            city := row.city
            latitude := row.latitude
            longitude := row.longitude
            reserve := true } := by
  unfold checkoutAddress
  cases address with
  | none => simp
  | some row =>
    by_cases own : row.userId = customerId
    · simp [own, eq_comm]
    · simp [own]

end FoodDelivery.Orders
