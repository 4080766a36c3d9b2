/-
**The order state machine** (`services/orders/app/state_machine.py`): the legal transitions and the
refund rules.

`applyTransition_ok` says all that a transition does to an order; `cancelled_allowed_iff` and
`allowed_of_settled` read the table for the operations that cancel and for the orders that are done.
The source's `to` is `target` here, `to` being a keyword.
-/

import FoodDelivery.Lib.Outcomes
import FoodDelivery.Orders.Model

set_option autoImplicit false

namespace FoodDelivery.Orders

/-- `ALLOWED`: the statuses an order may move to. -/
def allowed : OrderStatus → List OrderStatus
  | .created => [.paymentPending, .cancelled]
  | .paymentPending => [.paymentSuccess, .cancelled]
  | .paymentSuccess => [.restaurantAccepted, .cancelled, .rejected]
  | .restaurantAccepted => [.preparing, .cancelled]
  | .preparing => [.readyForPickup, .cancelled]
  | .readyForPickup => [.outForDelivery, .cancelled]
  | .outForDelivery => [.delivered, .cancelled]
  | .delivered => [.completed]
  | .completed => []
  | .cancelled => []
  | .rejected => []

/-- `PRE_PREP_STATES`. -/
def prePrepStates : List OrderStatus :=
  [.created, .paymentPending, .paymentSuccess, .restaurantAccepted]

/-- `UNPAID_STATES`: states an order can be cancelled from where no money has been taken yet. -/
def unpaidStates : List OrderStatus := [.created, .paymentPending]

/-- A client-actionable order error; `code` is a stable machine reason. -/
def orderError (code message : String) : Raised :=
  .app { message := message, statusCode := 409, code := some code }

def assertTransitionAllowed (current target : OrderStatus) : Except Raised Unit :=
  if target ∉ allowed current then
    .error (orderError "ILLEGAL_TRANSITION"
      ("Cannot move order from " ++ current.value ++ " to " ++ target.value ++ "."))
  else .ok ()

/-- Validate and apply a status change and append an audit event. No commit. -/
def applyTransition (order : Order) (target : OrderStatus) (actor : Actor)
    (reason : Option String := none) : Except Raised Order := do
  assertTransitionAllowed order.status target
  return { order with
    status := target
    events := order.events ++ [⟨some order.status, target, actor, reason⟩] }

def customerCancelAllowed (current : OrderStatus) : Bool := current ∈ prePrepStates

/-- What to refund when an order is cancelled from `current` by `actor`. -/
def refundOnCancel (current : OrderStatus) (actor : Actor) : RefundStatus :=
  if current ∈ unpaidStates then .none
  else if actor ∈ [.system, .customer] then .full
  else if current ∈ prePrepStates then .full else .none

/-- **A transition**: it is in the table, and it changes the status and appends one audit event. -/
theorem applyTransition_ok {order moved : Order} {target : OrderStatus} {actor : Actor}
    {reason : Option String} :
    applyTransition order target actor reason = .ok moved ↔
      target ∈ allowed order.status ∧
        moved = { order with
          status := target
          events := order.events ++ [⟨some order.status, target, actor, reason⟩] } := by
  by_cases legal : target ∈ allowed order.status
  · simp [applyTransition, assertTransitionAllowed, legal, eq_comm]
  · simp [applyTransition, assertTransitionAllowed, legal]

/-- What follows a transition runs on the order it leaves. -/
theorem bind_applyTransition_ok {α : Type} {order : Order} {target : OrderStatus} {actor : Actor}
    {reason : Option String} {rest : Order → Except Raised α} {result : α} :
    (applyTransition order target actor reason >>= rest) = .ok result ↔
      target ∈ allowed order.status ∧
        rest { order with
          status := target
          events := order.events ++ [⟨some order.status, target, actor, reason⟩] } = .ok result := by
  simp [Lib.bind_eq_ok, applyTransition_ok, and_assoc]

/-- The statuses an ended order has. -/
def ended (status : OrderStatus) : Bool := status = .cancelled ∨ status = .rejected

/-- The statuses an order can no longer be cancelled from. -/
def settledStatuses : List OrderStatus := [.delivered, .completed, .cancelled, .rejected]

/-- A settled order moves nowhere but from DELIVERED to COMPLETED. -/
theorem allowed_of_settled {current target : OrderStatus} (settled : current ∈ settledStatuses)
    (legal : target ∈ allowed current) : current = .delivered ∧ target = .completed := by
  revert settled legal
  cases current <;> cases target <;> decide

theorem not_ended_of_allowed {current target : OrderStatus} (legal : target ∈ allowed current) :
    ended current = false := by
  revert legal
  cases current <;> cases target <;> decide

theorem ne_of_allowed {current target : OrderStatus} (legal : target ∈ allowed current) :
    target ≠ current := by
  revert legal
  cases current <;> cases target <;> decide

/-- An order that can still be cancelled is not settled. -/
theorem cancelled_allowed_iff (current : OrderStatus) :
    .cancelled ∈ allowed current ↔ current ∉ settledStatuses := by
  cases current <;> decide

end FoodDelivery.Orders
