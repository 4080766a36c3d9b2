/-
**The tables of the payments service** (`services/payments/app/models.py`), and the world its
handlers act on: the database, the dedupe keys that Redis holds, and the calls made to the payment
providers with what they answered.

A handler is a `Handler`, a program of atomic actions on a `World`: each query, each commit, each
Redis call and each provider call is one action. A commit writes the columns that differ from what
the handler's own session had read (`World.update`), whatever the row holds by then.
-/

import FoodDelivery.Lib.Program
import FoodDelivery.Lib.Table
import FoodDelivery.Shared.Basic

set_option autoImplicit false

namespace FoodDelivery.Payments

open FoodDelivery.Lib

/-! ### Rows -/

/-- A row of `payments`. One per order, which the unique constraint on `order_id` enforces. -/
structure Payment where
  orderId : Nat
  provider : PaymentMethod
  amount : Money
  status : PaymentTxStatus := .pending
  providerRef : Option String := none
  idempotencyKey : Option String := none
deriving DecidableEq, Repr

/-- What this service knows about an order. A status that is the empty string is `none`. -/
structure OrderSnapshot where
  orderId : Nat
  customerId : Nat
  status : Option OrderStatus
  total : Money := 0
  paymentMethod : PaymentMethod := .cod
deriving DecidableEq, Repr

/-- The payload of a row of `payment-events`. -/
structure PaymentEvent where
  orderId : Nat
  paymentStatus : PaymentTxStatus
  provider : PaymentMethod
  amount : Money
deriving DecidableEq, Repr

/-! ### Providers' answers -/

structure ProviderResult where
  ok : Bool
  reference : Option String := none
  status : String := ""
  checkoutUrl : Option String := none
deriving DecidableEq, Repr

/-- A call of a provider for an order, with its outcome. A refund that moves money says so in
`effective`: the answer can be lost on the way. -/
inductive ProviderCall where
  | authorize (orderId : Nat) (idempotencyKey : String) (outcome : Except Raised ProviderResult)
  | verify (orderId : Nat) (reference : Option String) (outcome : Except Raised ProviderResult)
  | refund (orderId : Nat) (reference : Option String) (amount : Money) (effective : Bool)
    (outcome : Except Raised ProviderResult)

/-! ### The world -/

structure World where
  snapshots : Table Nat OrderSnapshot OrderSnapshot.orderId
  payments : Table Nat Payment Payment.orderId
  outbox : List PaymentEvent
  seen : List String
  calls : List ProviderCall

/-- Nothing stored and nothing called. -/
def World.empty : World where
  snapshots := .empty
  payments := .empty
  outbox := []
  seen := []
  calls := []

/-- The payment of an order. -/
def World.payment (w : World) (orderId : Nat) : Option Payment := w.payments.find? orderId

/-- The payment events recorded for an order. -/
def World.eventsOf (w : World) (orderId : Nat) : List PaymentEvent :=
  w.outbox.filter fun event => event.orderId = orderId

theorem World.orderId_of_eventsOf {w : World} {orderId : Nat} {event : PaymentEvent}
    (member : event ∈ w.eventsOf orderId) : event.orderId = orderId :=
  of_decide_eq_true (List.mem_filter.mp member).2

def World.put (w : World) (payment : Payment) : World :=
  { w with payments := w.payments.put payment }

def World.call (w : World) (call : ProviderCall) : World := { w with calls := w.calls ++ [call] }

def World.record (w : World) (event : PaymentEvent) : World :=
  { w with outbox := w.outbox ++ [event] }

/-- The `UPDATE` of a payment that was read as `before` and is now `after`: a column that did not
change is not in its `SET`. -/
def World.update (w : World) (before after : Payment) : World :=
  match w.payment before.orderId with
  | none => w
  | some row =>
    w.put { row with
      status := if after.status = before.status then row.status else after.status
      providerRef :=
        if after.providerRef = before.providerRef then row.providerRef else after.providerRef }

@[simp] theorem World.payment_put (w : World) (payment : Payment) (orderId : Nat) :
    (w.put payment).payment orderId =
      if payment.orderId = orderId then some payment else w.payment orderId :=
  Table.find?_put w.payments payment orderId

@[simp] theorem World.payment_call (w : World) (call : ProviderCall) (orderId : Nat) :
    (w.call call).payment orderId = w.payment orderId := rfl

@[simp] theorem World.payment_record (w : World) (event : PaymentEvent) (orderId : Nat) :
    (w.record event).payment orderId = w.payment orderId := rfl

@[simp] theorem World.calls_call (w : World) (call : ProviderCall) :
    (w.call call).calls = w.calls ++ [call] := rfl

@[simp] theorem World.outbox_record (w : World) (event : PaymentEvent) :
    (w.record event).outbox = w.outbox ++ [event] := rfl

theorem World.orderId_of_payment {w : World} {orderId : Nat} {payment : Payment}
    (found : w.payment orderId = some payment) : payment.orderId = orderId :=
  Table.key_of_find? found

/-- An update of a row that nobody has written since it was read. -/
theorem World.update_of_current {w : World} {before : Payment} {status : PaymentTxStatus}
    {ref : Option String} (current : w.payment before.orderId = some before) :
    w.update before { before with status := status, providerRef := ref } =
      w.put { before with status := status, providerRef := ref } := by
  unfold World.update
  rw [current]
  dsimp only
  congr 2
  · split
    · rename_i same
      exact same.symm
    · rfl
  · split
    · rename_i same
      exact same.symm
    · rfl

/-- The payment of an order says SUCCEEDED. -/
def World.Succeeded (w : World) (orderId : Nat) : Prop :=
  (w.payment orderId).map Payment.status = some .succeeded

instance (w : World) (orderId : Nat) : Decidable (w.Succeeded orderId) :=
  inferInstanceAs (Decidable (_ = _))

/-- The payment of an order says REFUNDED. -/
def World.Refunded (w : World) (orderId : Nat) : Prop :=
  (w.payment orderId).map Payment.status = some .refunded

instance (w : World) (orderId : Nat) : Decidable (w.Refunded orderId) :=
  inferInstanceAs (Decidable (_ = _))

/-- A SUCCEEDED payment event has been recorded for the order. -/
def World.Announced (w : World) (orderId : Nat) : Prop :=
  ∃ recorded ∈ w.eventsOf orderId, recorded.paymentStatus = .succeeded

/-! ### Handlers -/

/-- A request or message handler of the service. -/
abbrev Handler := Program World Raised

/-- `select(Payment).where(Payment.order_id == order_id)`. -/
def getPayment (orderId : Nat) : Handler (Option Payment) :=
  Program.read fun w => w.payment orderId

/-- `session.commit()` after the session changed `before` into `after`. -/
def commitPayment (before after : Payment) : Handler Unit :=
  Program.modify (fun _ => ()) fun w => w.update before after

/-- `session.refresh(payment)`. -/
def refresh (payment : Payment) : Handler Payment :=
  Program.read fun w => (w.payment payment.orderId).getD payment

/-- `outbox.record_event` and the commit of its transaction. -/
def commitEvent (event : PaymentEvent) : Handler Unit :=
  Program.modify (fun _ => ()) fun w => w.record event

/-- The event that says an order's money has moved. -/
def succeededEvent (payment : Payment) : PaymentEvent where
  orderId := payment.orderId
  paymentStatus := .succeeded
  provider := payment.provider
  amount := payment.amount

/-- Call a provider: the call is made, and answers or raises. -/
def callProvider (record : Except Raised ProviderResult → ProviderCall)
    (outcome : Except Raised ProviderResult) : Handler ProviderResult :=
  .act (fun w => w.call (record outcome)) fun _ =>
    match outcome with
    | .ok result => .ret result
    | .error raised => .raise raised

end FoodDelivery.Payments
