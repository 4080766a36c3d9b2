/-
**What the payments service does with the orders service's messages**
(`services/payments/app/consumer.py`).

A payload is what its JSON object holds; a key that is missing or null is `none`, and so is an action
the service does not know.
-/

import FoodDelivery.Payments.Service

set_option autoImplicit false

namespace FoodDelivery.Payments

open FoodDelivery.Lib

/-- The payload of `order-events`, as far as it is read. -/
structure OrderEvent where
  orderId : Option Nat
  customerId : Option Nat := none
  status : Option OrderStatus := none
  total : Option Money := none
  paymentMethod : Option PaymentMethod := none
deriving DecidableEq, Repr

/-- The payload of `payment-commands`, as far as it is read. -/
structure Command where
  orderId : Option Nat
  action : Option PaymentAction
deriving DecidableEq, Repr

/-- `PAYABLE_STATUSES`: "this order exists and needs a payment record". -/
def payableStatuses : List OrderStatus := [.paymentPending, .paymentSuccess]

/-- The snapshot as a session that found `found` leaves it. -/
def snapshotAfter (orderId : Nat) (payload : OrderEvent) (found : Option OrderSnapshot) :
    OrderSnapshot :=
  let snapshot := found.getD
    { orderId := orderId, customerId := payload.customerId.getD 0, status := payload.status }
  { snapshot with
    status := payload.status.or snapshot.status
    customerId := payload.customerId.getD snapshot.customerId
    total := payload.total.getD snapshot.total
    paymentMethod := payload.paymentMethod.getD snapshot.paymentMethod }

/-- The `UPDATE` of a snapshot that was read as `before` and is now `after`. -/
def overwriteSnapshot (before after row : OrderSnapshot) : OrderSnapshot :=
  { row with
    customerId := if after.customerId = before.customerId then row.customerId else after.customerId
    status := if after.status = before.status then row.status else after.status
    total := if after.total = before.total then row.total else after.total
    paymentMethod :=
      if after.paymentMethod = before.paymentMethod then row.paymentMethod else after.paymentMethod }

/-- `session.commit()` of a snapshot: an insert when none was found, and then `false` is the
`IntegrityError` of an order that has one by now; else an update. -/
def commitSnapshot (found : Option OrderSnapshot) (after : OrderSnapshot) : Handler Bool :=
  match found with
  | none =>
    Program.modify (fun w => w.snapshots.find? after.orderId = none) fun w =>
      if w.snapshots.find? after.orderId = none then
        { w with snapshots := w.snapshots.put after }
      else w
  | some before =>
    Program.modify (fun _ => true) fun w =>
      match w.snapshots.find? after.orderId with
      | none => w
      | some row => { w with snapshots := w.snapshots.put (overwriteSnapshot before after row) }

/-- Mirror what the orders service says, and create the payment of an order that needs one. -/
def applyOrderEvent (gateway : Gateway) (payload : OrderEvent) : Handler Unit := do
  match payload.orderId with
  | none => return ()
  | some orderId =>
    let found ← Program.read fun w => w.snapshots.find? orderId
    let snapshot := snapshotAfter orderId payload found
    if ← commitSnapshot found snapshot then
      if ∃ status ∈ payableStatuses, snapshot.status = some status then
        let _ ← createPaymentForOrder gateway snapshot
        return ()
      else return ()
    else .raise (.other "IntegrityError" "")

/-- Do what the orders service asked: settle or refund. -/
def applyPaymentCommand (gateway : Gateway) (payload : Command) : Handler Unit := do
  match payload.orderId with
  | none => return ()
  | some orderId =>
    match ← Program.read fun w => w.snapshots.find? orderId with
    | none =>
      .raise (.other "LookupError" ("no snapshot for order " ++ toString orderId ++ " yet"))
    | some snapshot =>
      match payload.action with
      | some .settle =>
        let _ ← capturePayment snapshot
        return ()
      | some .refund =>
        let _ ← refundPayment gateway snapshot
        return ()
      | none => return ()

end FoodDelivery.Payments
