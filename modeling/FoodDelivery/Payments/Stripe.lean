/-
**What Stripe keeps for the service**: the Checkout Sessions it has opened, each under the idempotency
key it was asked for with, and whether they have been paid, have expired and have been refunded.

`Account.sdk` is the SDK over these sessions. A key that comes again gets its session again; a refund is
of an intent that has been paid, once. `Account.moves_eq` and `Account.verify_eq` say what the provider's
refund and verify come to: whichever of its two ids a reference is, they are about the session it names.
-/

import FoodDelivery.Payments.Providers

set_option autoImplicit false

namespace FoodDelivery.Payments

open FoodDelivery.Lib

/-! ### Sessions -/

/-- A Checkout Session. Its intent is what takes the money, and what is refunded. -/
structure Session where
  key : String
  amount : Money
  paid : Bool := false
  expired : Bool := false
  refunded : Bool := false
deriving DecidableEq, Repr

abbrev Sessions := Table String Session Session.key

/-- The customer can pay it. -/
def Session.payable (s : Session) : Bool := !s.paid && !s.expired

/-- Its money is with the service. -/
def Session.held (s : Session) : Bool := s.paid && !s.refunded

/-- The account of the service: the settings it is used with, and the ids that Stripe gives the session
and the intent of a key. -/
structure Account where
  settings : Settings
  keyed : orElse settings.stripeSecretKey none ≠ none
  session : String → String
  intent : String → String
  session_cs : ∀ key, sessionId? (some (session key)) = some (session key)
  intent_pi : ∀ key, sessionId? (some (intent key)) = none
  intent_ne : ∀ key, intent key ≠ ""
  session_injective : Function.Injective session
  intent_injective : Function.Injective intent

/-- A reference is the session's id or its intent's. -/
def Account.names (account : Account) (reference : Option String) (s : Session) : Bool :=
  reference = some (account.session s.key) ∨ reference = some (account.intent s.key)

/-! ### The SDK -/

/-- What becomes of a call: it is answered; it never reaches Stripe; Stripe carries it out and the answer
is lost. A read that is not answered is one that never got there. -/
inductive Exchange where
  | answered
  | lost
  | unanswered
deriving DecidableEq, Repr

def connectionError : Raised := .other "APIConnectionError" ""

def invalidRequest : Raised := .other "InvalidRequestError" ""

/-- A session, as it is retrieved. -/
def Account.checkout (account : Account) (s : Session) : CheckoutSession where
  id := account.session s.key
  status := some (if s.paid then "complete" else if s.expired then "expired" else "open")
  url := some ("https://checkout.stripe.com/" ++ account.session s.key)
  paymentStatus := some (if s.paid then .paid else .unpaid)
  paymentIntent := if s.paid then some (account.intent s.key) else none

/-- The session of a key: the one that was opened under it, or a new one. -/
def sessionFor (sessions : Sessions) (key : String) (amount : Money) : Session :=
  (sessions.find? key).getD { key := key, amount := amount }

theorem key_sessionFor (sessions : Sessions) (key : String) (amount : Money) :
    (sessionFor sessions key amount).key = key := by
  unfold sessionFor
  cases found : sessions.find? key with
  | none => rfl
  | some s => exact Table.key_of_find? found

/-- The calls of the SDK. -/
def Account.sdk (account : Account) (sessions : Sessions) (exchange : Exchange) : Sdk where
  createSession request :=
    if exchange ≠ .answered then .error connectionError
    else .ok (account.checkout (sessionFor sessions request.idempotencyKey request.unitAmount))
  retrieveSession id :=
    if exchange = .lost then .error connectionError
    else
      match sessions.first? fun s => account.session s.key = id with
      | none => .error invalidRequest
      | some s => .ok (account.checkout s)
  retrieveIntent reference :=
    if exchange = .lost then .error connectionError
    else
      match sessions.first? fun s => s.paid && reference = some (account.intent s.key) with
      | none => .error invalidRequest
      | some s => .ok { id := account.intent s.key, status := "succeeded" }
  createRefund intent :=
    if exchange ≠ .answered then .error connectionError
    else if sessions.rows.any fun s => s.held && intent = some (account.intent s.key) then
      .ok "succeeded"
    else .error invalidRequest
  moves intent :=
    exchange ≠ .lost && sessions.rows.any fun s => s.held && intent = some (account.intent s.key)

/-- The process, with its Stripe as it is when a call is made. -/
def Account.gateway (account : Account) (sessions : Sessions) (exchange : Exchange) : Gateway where
  settings := account.settings
  sdk := account.sdk sessions exchange

theorem Account.providerFor_card (account : Account) (sessions : Sessions) (exchange : Exchange) :
    providerFor (account.gateway sessions exchange) .card =
      stripeProvider account.settings (account.sdk sessions exchange) :=
  if_pos account.keyed

/-! ### The session that a reference names -/

variable {account : Account} {sessions : Sessions} {exchange : Exchange} {reference : Option String}

/-- A session's id is no intent's. -/
theorem Account.session_ne_intent (account : Account) (key other : String) :
    account.session key ≠ account.intent other := by
  intro same
  have cs := account.session_cs key
  rw [same, account.intent_pi] at cs
  cases cs

theorem sessionId?_eq {text : Option String} {id : String} (cs : sessionId? text = some id) :
    text = some id := by
  unfold sessionId? at cs
  split at cs
  · cases cs
  · split_ifs at cs
    exact cs

/-- The intents that a reference which is not a session's id names. -/
theorem any_intent (condition : Session → Bool) (other : sessionId? reference = none) :
    (sessions.rows.any fun s => condition s && reference = some (account.intent s.key)) =
      sessions.rows.any fun s => condition s && account.names reference s := by
  congr 1
  funext s
  have not_session : reference ≠ some (account.session s.key) := by
    rintro rfl
    rw [account.session_cs] at other
    cases other
  simp [Account.names, not_session]

/-- What is said of the session with a key. -/
theorem any_of_key (condition : Session → Bool) {names : Session → Bool} {s : Session}
    (member : s ∈ sessions.rows) (named : ∀ other, names other = true ↔ other.key = s.key) :
    (sessions.rows.any fun other => condition other && names other) = condition s := by
  by_cases meets : condition s = true
  · rw [meets, List.any_eq_true]
    exact ⟨s, member, by rw [meets, (named s).mpr rfl]; rfl⟩
  · rw [Bool.not_eq_true] at meets
    rw [meets, List.any_eq_false]
    intro other among holds
    rw [Bool.and_eq_true] at holds
    have own : other = s :=
      List.inj_on_of_nodup_map sessions.unique among member ((named other).mp holds.2)
    rw [own, meets] at holds
    exact absurd holds.1 Bool.false_ne_true

/-- A session's id names the one session with it. -/
theorem any_session (condition : Session → Bool) {s : Session} (id : String)
    (found : sessions.first? (fun s => account.session s.key = id) = some s) :
    (sessions.rows.any fun s => condition s && account.names (some id) s) = condition s := by
  obtain ⟨row, same⟩ := Table.find?_of_first? found
  obtain ⟨member, _⟩ := Table.find?_eq_some.mp row
  have id_eq : account.session s.key = id := of_decide_eq_true same
  refine any_of_key condition member fun other => ?_
  simp only [Account.names, ← id_eq, Option.some_inj, decide_eq_true_eq]
  constructor
  · rintro (same | same)
    · exact (account.session_injective same).symm
    · exact absurd same (account.session_ne_intent s.key other.key)
  · intro same
    rw [same]
    exact Or.inl rfl

/-- An id that is no session's names none. -/
theorem any_unknown (condition : Session → Bool) {id : String} (cs : sessionId? reference = some id)
    (unknown : sessions.first? (fun s => account.session s.key = id) = none) :
    (sessions.rows.any fun s => condition s && account.names reference s) = false := by
  rw [List.any_eq_false]
  intro s member named
  have absent := List.find?_eq_none.mp unknown s member
  rw [Bool.and_eq_true] at named
  rcases of_decide_eq_true named.2 with same | same
  · rw [same, account.session_cs, Option.some_inj] at cs
    exact absent (decide_eq_true cs)
  · rw [same, account.intent_pi] at cs
    cases cs

/-- The intent that a session's id is resolved to is the session's, once it has been paid; before, the id
itself is passed on, which is no intent's. -/
theorem Account.moves_of_session (account : Account) (reached : exchange ≠ .lost) {s : Session}
    (member : s ∈ sessions.rows) {id : String} (cs : sessionId? (some id) = some id) :
    (account.sdk sessions exchange).moves (orElse (account.checkout s).paymentIntent (some id)) =
      s.held := by
  by_cases paid : s.paid = true
  · have intent : orElse (account.checkout s).paymentIntent (some id) =
        some (account.intent s.key) := by
      simp [Account.checkout, paid, orElse, account.intent_ne]
    have intents : (sessions.rows.any fun other => other.held &&
        decide (some (account.intent s.key) = some (account.intent other.key))) = s.held :=
      any_of_key Session.held member fun other => by
        simp [account.intent_injective.eq_iff, eq_comm]
    rw [intent]
    show (decide (exchange ≠ .lost) && _) = s.held
    rw [intents, decide_eq_true reached, Bool.true_and]
  · rw [Bool.not_eq_true] at paid
    have unheld : s.held = false := by
      rw [Session.held, paid]
      rfl
    have intent : orElse (account.checkout s).paymentIntent (some id) = some id := by
      simp [Account.checkout, paid, orElse]
    rw [intent, unheld]
    show (decide (exchange ≠ .lost) && _) = false
    rw [Bool.and_eq_false_iff]
    refine Or.inr (List.any_eq_false.mpr fun other _ named => ?_)
    rw [Bool.and_eq_true, decide_eq_true_eq] at named
    rw [named.2, account.intent_pi] at cs
    cases cs

/-- **A refund moves the money of the session that the reference names**, when it is held and Stripe
gets the call. -/
theorem Account.moves_eq (account : Account) (sessions : Sessions) (exchange : Exchange)
    (reference : Option String) (amount : Money) :
    (stripeProvider account.settings (account.sdk sessions exchange)).moves reference amount =
      (exchange ≠ .lost && sessions.rows.any fun s => s.held && account.names reference s) := by
  unfold stripeProvider paymentIntentFor
  dsimp only
  cases cs : sessionId? reference with
  | none =>
    show (account.sdk sessions exchange).moves reference = _
    rw [← any_intent Session.held cs]
    rfl
  | some id =>
    have reference_eq := sessionId?_eq cs
    by_cases lost : exchange = .lost
    · simp [Account.sdk, lost, bind, Except.bind]
    · cases found : sessions.first? (fun s => account.session s.key = id) with
      | none =>
        rw [any_unknown Session.held cs found]
        simp [Account.sdk, lost, found, bind, Except.bind]
      | some s =>
        obtain ⟨member, _⟩ := Table.find?_eq_some.mp (Table.find?_of_first? found).1
        rw [reference_eq, any_session Session.held id found]
        have asked : (account.sdk sessions exchange).retrieveSession id =
            .ok (account.checkout s) := by
          simp [Account.sdk, lost, found]
        dsimp only
        rw [asked, decide_eq_true (show exchange ≠ .lost from lost), Bool.true_and]
        exact account.moves_of_session lost member (reference_eq ▸ cs)

/-- **A reference is verified when the session it names has been paid.** -/
theorem Account.verify_eq (account : Account) (sessions : Sessions) (exchange : Exchange)
    (reference : Option String) :
    ∃ result, (stripeProvider account.settings (account.sdk sessions exchange)).verify reference =
        .ok result ∧
      result.ok =
        (exchange ≠ .lost && sessions.rows.any fun s => s.paid && account.names reference s) := by
  unfold stripeProvider
  dsimp only
  cases cs : sessionId? reference with
  | none =>
    by_cases lost : exchange = .lost
    · exact ⟨_, by simp [Account.sdk, lost, answering, bind, Except.bind]; rfl, by simp [lost]⟩
    · rw [← any_intent Session.paid cs]
      cases found : sessions.first? (fun s => s.paid && reference = some (account.intent s.key)) with
      | none =>
        have none_paid : (sessions.rows.any fun s =>
            s.paid && reference = some (account.intent s.key)) = false :=
          List.any_eq_false.mpr (List.find?_eq_none.mp found)
        exact ⟨_, by simp [Account.sdk, lost, found, answering, bind, Except.bind]; rfl, by
          rw [none_paid, Bool.and_false]⟩
      | some s =>
        have some_paid : (sessions.rows.any fun s =>
            s.paid && reference = some (account.intent s.key)) = true :=
          List.any_eq_true.mpr ⟨s, List.mem_of_find?_eq_some found, by
            simpa using List.find?_some found⟩
        exact ⟨_, by simp [Account.sdk, lost, found, answering, bind, Except.bind]; rfl, by
          rw [some_paid, Bool.and_true, decide_eq_true lost]⟩
  | some id =>
    by_cases lost : exchange = .lost
    · exact ⟨_, by simp [Account.sdk, lost, answering, bind, Except.bind]; rfl, by simp [lost]⟩
    · cases found : sessions.first? (fun s => account.session s.key = id) with
      | none =>
        rw [any_unknown Session.paid cs found]
        exact ⟨_, by simp [Account.sdk, lost, found, answering, bind, Except.bind]; rfl, by simp⟩
      | some s =>
        rw [sessionId?_eq cs, any_session Session.paid id found]
        refine ⟨_, by simp [Account.sdk, lost, found, answering, bind, Except.bind]; rfl, ?_⟩
        cases paid : s.paid <;> simp [Account.checkout, lost, paid]

end FoodDelivery.Payments
