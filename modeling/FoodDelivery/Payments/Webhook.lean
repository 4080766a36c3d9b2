/-
**The Stripe webhook** (`services/payments/app/webhook.py`): what a verified event does.
-/

import FoodDelivery.Payments.Service

set_option autoImplicit false

namespace FoodDelivery.Payments

open FoodDelivery.Lib

/-- The event types the handler tells apart; `other` is every other type, or none. -/
inductive EventType where
  | intentSucceeded
  | intentFailed
  | checkoutCompleted
  | checkoutAsyncSucceeded
  | checkoutAsyncFailed
  | other
deriving DecidableEq, Repr

/-- A verified event, as far as it is read: its id and type, and of its object the id, the intent
and the payment status. A missing key is `none`. -/
structure StripeEvent where
  id : Option String
  type : EventType
  ref : Option String
  paymentIntent : Option String := none
  paymentStatus : Option SessionStatus := none
deriving DecidableEq, Repr

/-- `_SETTLES`. -/
def settles : List EventType := [.intentSucceeded, .checkoutCompleted, .checkoutAsyncSucceeded]

/-- `_FAILS`. -/
def fails : List EventType := [.intentFailed, .checkoutAsyncFailed]

theorem not_fails_of_settles {type : EventType} (settling : type ∈ settles) : type ∉ fails := by
  revert settling
  cases type <;> decide

/-- What the handler returns. -/
inductive WebhookOutcome where
  | duplicate
  | ignored
  | unknown
  | failed
  | awaitingPayment
  | paid
deriving DecidableEq, Repr

/-- `_SEEN_KEY`. -/
def seenKey (eventId : String) : String := "stripe:evt:" ++ eventId

/-- `redis.set(key, "1", nx=True)`: whether the key was set, which it is when it was not there. -/
def setSeen (key : String) : Handler Bool :=
  Program.modify (fun w => key ∉ w.seen) fun w =>
    if key ∈ w.seen then w else { w with seen := w.seen ++ [key] }

/-- `select(Payment).where(Payment.provider_ref == ref)`, where a null matches a null. -/
def World.paymentByRef (w : World) (ref : Option String) : Option Payment :=
  w.payments.first? fun payment => payment.providerRef = ref

/-- The two Checkout events that carry the intent. -/
def carriesIntent : List EventType := [.checkoutCompleted, .checkoutAsyncSucceeded]

/-- The reference a settling event leaves in the row: the intent, when it carries one. -/
def StripeEvent.refAfter (event : StripeEvent) (before : Option String) : Option String :=
  if event.type ∈ carriesIntent then orElse event.paymentIntent before else before

/-- A completed session that has not been paid yet. -/
def StripeEvent.awaiting (event : StripeEvent) : Bool :=
  event.type ∈ carriesIntent ∧ event.paymentStatus = some .unpaid

/-- The part of `handle_event` behind the dedupe. -/
def applyEvent (event : StripeEvent) : Handler WebhookOutcome := do
  if event.type ∉ settles ++ fails then return .ignored
  else
    match ← Program.read fun w => w.paymentByRef event.ref with
    | none => return .unknown
    | some payment =>
      if event.type ∈ fails then
        commitPayment payment { payment with status := .failed }
        return .failed
      else if event.awaiting then
        commitPayment payment { payment with providerRef := event.refAfter payment.providerRef }
        return .awaitingPayment
      else
        commitPayment payment { payment with
          status := .succeeded
          providerRef := event.refAfter payment.providerRef }
        commitEvent (succeededEvent payment)
        return .paid

/-- The id a delivery is deduplicated by, when there is a Redis to do it and the id is not empty. -/
def StripeEvent.dedupeId (event : StripeEvent) (redis : Bool) : Option String :=
  if redis then orElse event.id none else none

/-- Apply a verified event. -/
def handleEvent (redis : Bool) (event : StripeEvent) : Handler WebhookOutcome := do
  match event.dedupeId redis with
  | none => applyEvent event
  | some eventId =>
    if ← setSeen (seenKey eventId) then applyEvent event
    else return .duplicate

end FoodDelivery.Payments
