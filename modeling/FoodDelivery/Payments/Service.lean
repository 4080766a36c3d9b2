/-
**The payment lifecycle** (`services/payments/app/service.py`).

Each function is a `Handler`, one action for each query, provider call and commit, in the source's
order. `provider` is the argument of that name and `gateway` what `provider_for` resolves to without
it.
-/

import FoodDelivery.Payments.Providers

set_option autoImplicit false

namespace FoodDelivery.Payments

open FoodDelivery.Lib

/-- `PaymentGatewayError`. -/
def paymentGatewayError : Raised :=
  .app { message := "The payment provider is unavailable. Please try again.", statusCode := 502 }

/-- Turn a provider-level failure into a 502; a clean "not paid" is none. -/
def raiseIfProviderFailed (result : ProviderResult) : Handler Unit :=
  if result.ok = false ∧ result.status = "error" then .raise paymentGatewayError else pure ()

/-- A payment, with the hosted checkout URL that is never stored. -/
structure Receipt where
  payment : Payment
  checkoutUrl : Option String := none
deriving DecidableEq, Repr

/-- `session.add(payment)` and its commit: `false` is the `IntegrityError`. The idempotency key is
the order's too, so both unique constraints come to one. -/
def insertPayment (payment : Payment) : Handler Bool :=
  Program.modify (fun w => w.payment payment.orderId = none) fun w =>
    if w.payment payment.orderId = none then w.put payment else w

/-- The payment that an authorisation creates. -/
def newPayment (order : OrderSnapshot) (provider : PaymentProvider) (result : ProviderResult) :
    Payment where
  orderId := order.orderId
  provider := provider.name
  amount := order.total
  status := if result.ok then .authorized else .failed
  providerRef := result.reference
  idempotencyKey := some ("order-" ++ toString order.orderId)

/-- Idempotent: returns the existing payment if one already exists for the order. -/
def createPaymentForOrder (gateway : Gateway) (order : OrderSnapshot)
    (provider : Option PaymentProvider := none) : Handler Receipt := do
  match ← getPayment order.orderId with
  | some existing => return { payment := existing }
  | none =>
    let provider := providerOr provider gateway order.paymentMethod
    let idem := "order-" ++ toString order.orderId
    let result ← callProvider (.authorize order.orderId idem)
      (provider.authorize order.total idem order.orderId)
    let payment := newPayment order provider result
    if ← insertPayment payment then
      let payment ← refresh payment
      return { payment := payment, checkoutUrl := result.checkoutUrl }
    else
      match ← getPayment order.orderId with
      | none => .raise (.other "IntegrityError" "")
      | some winner => return { payment := winner }

/-- `CAPTURABLE`: statuses a capture may move from. -/
def capturable : List PaymentTxStatus := [.pending, .authorized]

theorem ne_succeeded_of_capturable {status : PaymentTxStatus} (may : status ∈ capturable) :
    status ≠ .succeeded := by
  rintro rfl
  exact absurd may (by decide)

/-- Capture an authorized payment. -/
def capturePayment (order : OrderSnapshot) : Handler (Option Payment) := do
  match ← getPayment order.orderId with
  | none => return none
  | some payment =>
    if payment.status ∉ capturable then return some payment
    else
      commitPayment payment { payment with status := .succeeded }
      let payment ← refresh payment
      return some payment

/-- Re-authorize a FAILED payment. -/
def retryPayment (gateway : Gateway) (order : OrderSnapshot)
    (provider : Option PaymentProvider := none) : Handler (Option Payment) := do
  match ← getPayment order.orderId with
  | none => return none
  | some payment =>
    if payment.status ≠ .failed then return some payment
    else
      let provider := providerOr provider gateway payment.provider
      let idem := "order-" ++ toString order.orderId ++ "-retry"
      let result ← callProvider (.authorize order.orderId idem)
        (provider.authorize order.total idem order.orderId)
      commitPayment payment { payment with
        status := if result.ok then .authorized else .failed
        providerRef := result.reference }
      let payment ← refresh payment
      raiseIfProviderFailed result
      return some payment

/-- Hand back a checkout URL for an order still awaiting card payment. -/
def resumeCardPayment (gateway : Gateway) (order : OrderSnapshot)
    (provider : Option PaymentProvider := none) : Handler (Option Receipt) := do
  match ← getPayment order.orderId with
  | none => return none
  | some payment =>
    if payment.provider ≠ .card ∨ order.status ≠ some .paymentPending then
      return some { payment := payment }
    else
      let provider := providerOr provider gateway .card
      let idem := "order-" ++ toString order.orderId ++ "-resume"
      let result ← callProvider (.authorize order.orderId idem)
        (provider.authorize order.total idem order.orderId)
      commitPayment payment { payment with
        status := if result.ok then .authorized else .failed
        providerRef := result.reference }
      let payment ← refresh payment
      raiseIfProviderFailed result
      return some { payment := payment, checkoutUrl := result.checkoutUrl }

/-- Settle a card order by asking the provider whether it was actually paid. -/
def confirmCardPayment (gateway : Gateway) (order : OrderSnapshot)
    (provider : Option PaymentProvider := none) : Handler (Option Payment) := do
  match ← getPayment order.orderId with
  | none => return none
  | some payment =>
    if payment.provider ≠ .card ∨ order.status ≠ some .paymentPending then return some payment
    else
      let provider := providerOr provider gateway .card
      let result ← callProvider (.verify order.orderId payment.providerRef)
        (provider.verify payment.providerRef)
      if result.ok = false then return some payment
      else
        commitPayment payment { payment with
          status := .succeeded
          providerRef := orElse result.reference payment.providerRef }
        let payment ← refresh payment
        commitEvent { succeededEvent payment with orderId := order.orderId }
        return some payment

/-- The statuses a payment can be refunded from: money was taken or held. -/
def refundable : List PaymentTxStatus := [.authorized, .succeeded]

/-- What can be refunded has not been. -/
theorem ne_refunded_of_refundable {status : PaymentTxStatus} (may : status ∈ refundable) :
    status ≠ .refunded := by
  rintro rfl
  exact absurd may (by decide)

/-- Execute a refund via the provider and mark the payment REFUNDED. The answer is not looked at. -/
def refundPayment (gateway : Gateway) (order : OrderSnapshot)
    (provider : Option PaymentProvider := none) : Handler (Option Payment) := do
  match ← getPayment order.orderId with
  | none => return none
  | some payment =>
    if payment.status = .refunded then return some payment
    else if payment.status ∉ refundable then return some payment
    else
      let provider := providerOr provider gateway payment.provider
      let _ ← callProvider
        (.refund order.orderId payment.providerRef order.total
          (provider.moves payment.providerRef order.total))
        (provider.refund payment.providerRef order.total)
      commitPayment payment { payment with status := .refunded }
      let payment ← refresh payment
      return some payment

end FoodDelivery.Payments
