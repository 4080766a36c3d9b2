/-
**The payment providers** (`services/payments/app/providers.py`).

A provider answers three calls. The answers of one that lives elsewhere are whatever it gives, so a
`PaymentProvider` is any three functions; the cash and the stand-in card provider are the source's,
and the Stripe provider is the source's over an `Sdk` whose every call may raise. The Stripe provider
itself never raises: a failure of the SDK becomes an answer that is not `ok`
(`stripeProvider_answers`).
-/

import FoodDelivery.Payments.Model

set_option autoImplicit false

namespace FoodDelivery.Payments

/-- What a provider does with each call. `moves` is whether a refund call moves money. -/
structure PaymentProvider where
  name : PaymentMethod
  authorize : Money → String → Nat → Except Raised ProviderResult
  verify : Option String → Except Raised ProviderResult
  refund : Option String → Money → Except Raised ProviderResult
  moves : Option String → Money → Bool

/-- Cash on Delivery: nothing is captured up front, and a refund is a bookkeeping void. -/
def codProvider : PaymentProvider where
  name := .cod
  authorize := fun _ _ _ => .ok { ok := true, reference := none, status := "to_collect" }
  verify := fun reference => .ok { ok := false, reference := reference, status := "to_collect" }
  refund := fun reference _ => .ok { ok := true, reference := reference, status := "void" }
  moves := fun _ _ => false

/-- The deterministic stand-in for an online provider. -/
def cardProvider : PaymentProvider where
  name := .card
  authorize := fun _ idempotencyKey _ =>
    .ok { ok := true, reference := some ("pi_" ++ idempotencyKey), status := "authorized" }
  verify := fun reference => .ok { ok := true, reference := reference, status := "paid" }
  refund := fun reference _ => .ok { ok := true, reference := reference, status := "refunded" }
  moves := fun _ _ => true

/-! ### Stripe -/

structure Settings where
  stripeSecretKey : Option String := none
  stripeCurrency : String := "inr"
  frontendBaseUrl : String := "http://localhost:5173"
deriving DecidableEq, Repr

/-- The `payment_status` of a Checkout Session. -/
inductive SessionStatus where
  | paid
  | unpaid
  | noPaymentRequired
deriving DecidableEq, Repr

def SessionStatus.value : SessionStatus → String
  | .paid => "paid"
  | .unpaid => "unpaid"
  | .noPaymentRequired => "no_payment_required"

structure CheckoutSession where
  id : String
  status : Option String := none
  url : Option String := none
  paymentStatus : Option SessionStatus := none
  paymentIntent : Option String := none
deriving DecidableEq, Repr

structure PaymentIntent where
  id : String
  status : String
deriving DecidableEq, Repr

/-- The arguments of `stripe.checkout.Session.create`. -/
structure SessionRequest where
  quantity : Nat
  currency : String
  unitAmount : Money
  productName : String
  successUrl : String
  cancelUrl : String
  clientReferenceId : String
  idempotencyKey : String
deriving DecidableEq, Repr

/-- The calls of the Stripe SDK. Any of them may raise; `moves` is whether a refund is created,
which a lost answer does not tell. -/
structure Sdk where
  createSession : SessionRequest → Except Raised CheckoutSession
  retrieveSession : String → Except Raised CheckoutSession
  retrieveIntent : Option String → Except Raised PaymentIntent
  createRefund : Option String → Except Raised String
  moves : Option String → Bool

/-- `base.rstrip("/")`. -/
def rstripSlash (base : String) : String :=
  String.ofList (base.toList.reverse.dropWhile (· = '/')).reverse

/-- `(reference or "").startswith("cs_")`: the reference of a Checkout Session. -/
def sessionId? (reference : Option String) : Option String :=
  match reference with
  | none => none
  | some text => if "cs_".toList.isPrefixOf text.toList then some text else none

/-- `a or b`, for a string that may be missing. -/
def orElse (a b : Option String) : Option String :=
  match a with
  | some text => if text = "" then b else some text
  | none => b

/-- `except Exception`: whatever is raised becomes the given answer. -/
def answering (attempt : Except Raised ProviderResult) (failed : ProviderResult) :
    Except Raised ProviderResult :=
  match attempt with
  | .ok result => .ok result
  | .error _ => .ok failed

/-- Resolve a stored reference to the PaymentIntent a refund needs. -/
def paymentIntentFor (sdk : Sdk) (reference : Option String) : Except Raised (Option String) :=
  match sessionId? reference with
  | none => .ok reference
  | some id => do
    let session ← sdk.retrieveSession id
    return orElse session.paymentIntent reference

/-- Stripe Checkout. -/
def stripeProvider (settings : Settings) (sdk : Sdk) : PaymentProvider where
  name := .card
  authorize := fun amount idempotencyKey orderId =>
    answering
      (do
        let base := rstripSlash settings.frontendBaseUrl
        let checkout ← sdk.createSession
          { quantity := 1
            currency := settings.stripeCurrency
            unitAmount := amount
            productName := "Order #" ++ toString orderId
            successUrl := base ++ "/orders/" ++ toString orderId ++ "?paid=1"
            cancelUrl := base ++ "/orders/" ++ toString orderId
            clientReferenceId := toString orderId
            idempotencyKey := idempotencyKey }
        return {
          ok := true
          reference := some checkout.id
          status := (orElse checkout.status (some "open")).getD ""
          checkoutUrl := checkout.url })
      { ok := false, status := "error" }
  verify := fun reference =>
    answering
      (match sessionId? reference with
      | some id => do
        let checkout ← sdk.retrieveSession id
        return {
          ok := checkout.paymentStatus = some .paid ∨
            checkout.paymentStatus = some .noPaymentRequired
          reference := orElse checkout.paymentIntent reference
          status := (checkout.paymentStatus.map SessionStatus.value).getD "unpaid" }
      | none => do
        let intent ← sdk.retrieveIntent reference
        return {
          ok := intent.status = "succeeded", reference := some intent.id, status := intent.status })
      { ok := false, reference := reference, status := "error" }
  refund := fun reference _ =>
    answering
      (do
        let intent ← paymentIntentFor sdk reference
        let status ← sdk.createRefund intent
        return { ok := true, reference := reference, status := status })
      { ok := false, status := "error" }
  moves := fun reference _ =>
    match paymentIntentFor sdk reference with
    | .ok intent => sdk.moves intent
    | .error _ => false

theorem answering_ok (attempt : Except Raised ProviderResult) (failed : ProviderResult) :
    ∃ result, answering attempt failed = .ok result := by
  unfold answering
  split
  · exact ⟨_, rfl⟩
  · exact ⟨_, rfl⟩

/-- **The Stripe provider never raises**: it always answers. -/
theorem stripeProvider_answers (settings : Settings) (sdk : Sdk) :
    (∀ amount idempotencyKey orderId, ∃ result,
      (stripeProvider settings sdk).authorize amount idempotencyKey orderId = .ok result) ∧
      (∀ reference, ∃ result, (stripeProvider settings sdk).verify reference = .ok result) ∧
      ∀ reference amount, ∃ result,
        (stripeProvider settings sdk).refund reference amount = .ok result :=
  ⟨fun _ _ _ => answering_ok _ _, fun _ => answering_ok _ _, fun _ _ => answering_ok _ _⟩

/-! ### Which provider -/

/-- The settings of the process and the SDK it has. -/
structure Gateway where
  settings : Settings
  sdk : Sdk

/-- Resolve the provider for an order's payment method. -/
def providerFor (gateway : Gateway) (method : PaymentMethod) : PaymentProvider :=
  match method with
  | .card =>
    if orElse gateway.settings.stripeSecretKey none ≠ none then
      stripeProvider gateway.settings gateway.sdk
    else cardProvider
  | .cod => codProvider

/-- `provider or provider_for(method)`. -/
def providerOr (provider : Option PaymentProvider) (gateway : Gateway) (method : PaymentMethod) :
    PaymentProvider :=
  provider.getD (providerFor gateway method)

/-- A process without the optional `stripe` package. -/
def noSdk : Sdk where
  createSession := fun _ => .error (.other "ModuleNotFoundError" "No module named 'stripe'")
  retrieveSession := fun _ => .error (.other "ModuleNotFoundError" "No module named 'stripe'")
  retrieveIntent := fun _ => .error (.other "ModuleNotFoundError" "No module named 'stripe'")
  createRefund := fun _ => .error (.other "ModuleNotFoundError" "No module named 'stripe'")
  moves := fun _ => false

/-- A process with no Stripe key: the stand-in takes the cards. -/
def standIn : Gateway where
  settings := {}
  sdk := noSdk

/-- A process whose Stripe opens one session, with one intent, that has been paid. -/
def stripeTest : Gateway where
  settings := { stripeSecretKey := some "sk_test_1" }
  sdk :=
    { createSession := fun _ => .ok { id := "cs_1", status := some "open", url := some "https://pay" }
      retrieveSession := fun id =>
        .ok { id := id, paymentStatus := some .paid, paymentIntent := some "pi_1" }
      retrieveIntent := fun _ => .ok { id := "pi_1", status := "succeeded" }
      createRefund := fun _ => .ok "succeeded"
      moves := fun _ => true }

end FoodDelivery.Payments
