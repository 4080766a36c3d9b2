/-
**What every service shares**: the error contract, the caller's identity, and the values that
travel between services (an order's status and how it is paid).

Money is a `Numeric(10, 2)` column and is modelled by its number of hundredths; a `datetime` is its
number of seconds.
-/

import Mathlib.Data.Int.Notation

set_option autoImplicit false

namespace FoodDelivery

/-- A `Numeric(10, 2)` amount, in hundredths. -/
abbrev Money := Int

/-- The significant digits of Python's `Decimal`, in the context it starts with. -/
def decimalDigits : Nat := 28

/-- A `datetime`, in seconds. -/
abbrev Timestamp := Int

/-- `str(amount)`: always two decimals. -/
def Money.text (amount : Money) : String :=
  let cents := amount.natAbs
  (if amount < 0 then "-" else "") ++ toString (cents / 100) ++ "."
    ++ toString (cents % 100 / 10) ++ toString (cents % 10)

example : Money.text 20050 = "200.50" := by decide

/-! ### Errors -/

/-- The base application exception; `code` is the machine reason carried in `details`. -/
structure AppException where
  message : String
  statusCode : Nat := 400
  code : Option String := none
deriving DecidableEq, Repr

def notFoundException (resource identifier : String) : AppException where
  message := resource ++ " with ID " ++ identifier ++ " not found"
  statusCode := 404

def forbiddenException (message : String) : AppException where
  message := message
  statusCode := 403

/-- What a call raises: an application exception, or another exception by its class name. -/
inductive Raised where
  | app (exception : AppException)
  | other (className message : String)
deriving DecidableEq, Repr

/-! ### The caller -/

/-- The caller, as far as a service needs to know: `Identity` without the token fields, which no
function modelled here reads. -/
structure Identity where
  userId : Nat
  role : String
deriving DecidableEq, Repr

/-- `auth.identity()`: the caller behind an Authorization header. No header, an empty one and one that
does not verify are a 401, which is `none`. `verify` is the check of a header, with the JWT library
behind it; every service checks with the same secret. -/
def authenticate (verify : String → Option Identity) (authorization : Option String) :
    Option Identity :=
  (authorization.filter fun header => header ≠ "").bind verify

/-- `auth.require_role(*roles)`. -/
def requireRole (verify : String → Option Identity) (roles : List String)
    (authorization : Option String) : Option Identity :=
  (authenticate verify authorization).filter fun user => user.role ∈ roles

/-- The header that `ServiceClient.request` sends along: none for an empty one. -/
def forwarded (authHeader : String) : Option String :=
  if authHeader = "" then none else some authHeader

/-- A caller who was let in here is let in there: their header is forwarded as it came. -/
theorem authenticate_forwarded {verify : String → Option Identity} {authorization : Option String}
    {user : Identity} (known : authenticate verify authorization = some user) :
    authenticate verify (forwarded (authorization.getD "")) = some user := by
  unfold authenticate at known ⊢
  cases authorization with
  | none => cases known
  | some header =>
    by_cases empty : header = ""
    · rw [empty] at known
      cases known
    · simpa [forwarded, empty] using known

/-! ### Values on the wire -/

inductive OrderStatus where
  | created
  | paymentPending
  | paymentSuccess
  | restaurantAccepted
  | preparing
  | readyForPickup
  | outForDelivery
  | delivered
  | completed
  | cancelled
  | rejected
deriving DecidableEq, Repr

def OrderStatus.value : OrderStatus → String
  | .created => "CREATED"
  | .paymentPending => "PAYMENT_PENDING"
  | .paymentSuccess => "PAYMENT_SUCCESS"
  | .restaurantAccepted => "RESTAURANT_ACCEPTED"
  | .preparing => "PREPARING"
  | .readyForPickup => "READY_FOR_PICKUP"
  | .outForDelivery => "OUT_FOR_DELIVERY"
  | .delivered => "DELIVERED"
  | .completed => "COMPLETED"
  | .cancelled => "CANCELLED"
  | .rejected => "REJECTED"

inductive PaymentMethod where
  | cod
  | card
deriving DecidableEq, Repr

/-- Where a payment stands. -/
inductive PaymentTxStatus where
  | pending
  | authorized
  | succeeded
  | failed
  | refunded
deriving DecidableEq, Repr

/-- Where a delivery stands. -/
inductive DeliveryStatus where
  | unassigned
  | assigned
  | accepted
  | pickedUp
  | delivered
deriving DecidableEq, Repr

/-- What `payment-commands` asks of the payments service. -/
inductive PaymentAction where
  | settle
  | refund
deriving DecidableEq, Repr

/-- A row of `payment-commands`. -/
structure PaymentCommand where
  orderId : Nat
  action : PaymentAction
  amount : Money
deriving DecidableEq, Repr

end FoodDelivery
