/-
**An order's till**: the payments service together with the sessions that Stripe has for one card order
and the events it has yet to deliver.

`Till.step` is what can happen next: one of the service's operations, with Stripe as it is when the call
is made, a payment by the customer, or the expiry of a session. Only a refund makes refund calls
(`calls_other`), and every till is `Sound`: the row is a card's, every session is for the order's total,
and what has been refunded has been paid (`sound_step`).
-/

import FoodDelivery.Payments.Runs
import FoodDelivery.Payments.Stripe

set_option autoImplicit false

namespace FoodDelivery.Payments

open FoodDelivery.Lib

/-! ### The order and its till -/

/-- A card order. Its total does not change, and comes to something: every price does. -/
structure CardOrder where
  orderId : Nat
  customerId : Nat
  total : Money
  total_pos : 0 < total

/-- The order as a request or a message finds it in the snapshots: with the status they have by then. -/
def CardOrder.snapshot (order : CardOrder) (status : Option OrderStatus) : OrderSnapshot where
  orderId := order.orderId
  customerId := order.customerId
  status := status
  total := order.total
  paymentMethod := .card

@[simp] theorem CardOrder.orderId_snapshot (order : CardOrder) (status : Option OrderStatus) :
    (order.snapshot status).orderId = order.orderId := rfl

/-- The service, the sessions at Stripe and the events that Stripe has yet to deliver. -/
structure Till where
  service : World
  sessions : Sessions
  owed : List StripeEvent

def Till.empty : Till where
  service := .empty
  sessions := .empty
  owed := []

/-! ### What can happen -/

/-- The service's own operations on the order, and what the customer and the time do to a session. -/
inductive Move where
  | create (status : Option OrderStatus) (exchange : Exchange)
  | retry (status : Option OrderStatus) (exchange : Exchange)
  | resume (status : Option OrderStatus) (exchange : Exchange)
  | confirm (status : Option OrderStatus) (exchange : Exchange)
  | refund (status : Option OrderStatus) (exchange : Exchange)
  | deliver (redis : Bool) (event : StripeEvent)
  | pay (key : String)
  | expire (key : String)

/-- The operation of the service, with Stripe as it is. -/
def Move.operation (account : Account) (order : CardOrder) (sessions : Sessions) :
    Move → Option Operation
  | .create status exchange =>
    some (.createPaymentForOrder (account.gateway sessions exchange) (order.snapshot status) none)
  | .retry status exchange =>
    some (.retryPayment (account.gateway sessions exchange) (order.snapshot status) none)
  | .resume status exchange =>
    some (.resumeCardPayment (account.gateway sessions exchange) (order.snapshot status) none)
  | .confirm status exchange =>
    some (.confirmCardPayment (account.gateway sessions exchange) (order.snapshot status) none)
  | .refund status exchange =>
    some (.refundPayment (account.gateway sessions exchange) (order.snapshot status) none)
  | .deliver redis event => some (.handleEvent redis event)
  | .pay _ => none
  | .expire _ => none

/-- What becomes of the call that is made. -/
def Move.exchange : Move → Exchange
  | .create _ exchange => exchange
  | .retry _ exchange => exchange
  | .resume _ exchange => exchange
  | .confirm _ exchange => exchange
  | .refund _ exchange => exchange
  | _ => .answered

/-- A session's money is given back. -/
def Account.giveBack (account : Account) (reference : Option String) (s : Session) : Session :=
  if s.held && account.names reference s then { s with refunded := true } else s

theorem Account.key_giveBack (account : Account) (reference : Option String) (s : Session) :
    (account.giveBack reference s).key = s.key := by
  unfold Account.giveBack
  split
  · rfl
  · rfl

/-- What a call leaves at Stripe. -/
def book (account : Account) (order : CardOrder) (exchange : Exchange) (sessions : Sessions) :
    ProviderCall → Sessions
  | .authorize _ key _ =>
    if exchange = .lost then sessions else sessions.put (sessionFor sessions key order.total)
  | .verify _ _ _ => sessions
  | .refund _ reference _ effective _ =>
    if effective then sessions.modify (account.giveBack reference) (account.key_giveBack reference)
    else sessions

/-- The events of a session that has been paid. -/
def Account.receipts (account : Account) (key : String) : List StripeEvent :=
  [ { id := some ("evt_" ++ account.session key)
      type := .checkoutCompleted
      ref := some (account.session key)
      paymentIntent := some (account.intent key)
      paymentStatus := some .paid },
    { id := some ("evt_" ++ account.intent key)
      type := .intentSucceeded
      ref := some (account.intent key) } ]

/-- The service does its part, and Stripe keeps what was called. -/
def Till.serve (account : Account) (order : CardOrder) (till : Till) (exchange : Exchange)
    (op : Operation) : Till where
  service := till.service.step op
  sessions := ((till.service.step op).calls.drop till.service.calls.length).foldl
    (book account order exchange) till.sessions
  owed :=
    match op with
    | .handleEvent _ event => till.owed.filter fun other => other ≠ event
    | _ => till.owed

/-- The customer pays a session. -/
def Till.pay (account : Account) (till : Till) (key : String) : Till :=
  match till.sessions.find? key with
  | none => till
  | some s =>
    if s.payable then
      { till with
        sessions := till.sessions.put { s with paid := true }
        owed := till.owed ++ account.receipts key }
    else till

/-- A session that has not been paid expires. -/
def Till.expire (till : Till) (key : String) : Till :=
  match till.sessions.find? key with
  | none => till
  | some s =>
    if s.payable then { till with sessions := till.sessions.put { s with expired := true } } else till

def Till.step (account : Account) (order : CardOrder) (till : Till) (move : Move) : Till :=
  match move with
  | .pay key => till.pay account key
  | .expire key => till.expire key
  | move =>
    match move.operation account order till.sessions with
    | none => till
    | some op => till.serve account order move.exchange op

/-! ### What a move leaves of the other part -/

section Parts

variable {account : Account} {order : CardOrder} {till : Till}

/-- The sessions after a part of the service's that makes these calls. -/
theorem sessions_serve {exchange : Exchange} {op : Operation} {calls : List ProviderCall}
    (made : (till.service.step op).calls = till.service.calls ++ calls) :
    (till.serve account order exchange op).sessions =
      calls.foldl (book account order exchange) till.sessions := by
  unfold Till.serve
  rw [made, List.drop_left]

theorem service_pay (key : String) : (till.pay account key).service = till.service := by
  unfold Till.pay
  split
  · rfl
  · split
    · rfl
    · rfl

theorem service_expire (key : String) : (till.expire key).service = till.service := by
  unfold Till.expire
  split
  · rfl
  · split
    · rfl
    · rfl

end Parts

/-! ### The calls of an operation -/

section Calls

variable (gateway : Gateway) (snapshot : OrderSnapshot) (w : World)

theorem calls_answered {record : Except Raised ProviderResult → ProviderCall}
    {outcome : Except Raised ProviderResult} {next : ProviderResult → World → World}
    (keeps : ∀ result called, (next result called).calls = called.calls) :
    (w.answered record outcome next).calls = w.calls ++ [record outcome] := by
  unfold World.answered
  cases outcome with
  | error raised => rfl
  | ok result => exact keeps result _

theorem calls_refund : (w.step (.refundPayment gateway snapshot none)).calls =
    w.calls ++ ((w.payment snapshot.orderId).filter fun payment =>
      payment.status ∈ refundable).toList.map (refundCall gateway snapshot none) := by
  rw [World.step, exec_refundPayment]
  cases w.payment snapshot.orderId with
  | none => simp
  | some payment =>
    by_cases may : payment.status ∈ refundable
    · simp only [may, if_true, Option.filter, decide_true]
      exact calls_answered w fun _ _ => rfl
    · simp [may, Option.filter]

theorem calls_event (redis : Bool) (event : StripeEvent) :
    (w.step (.handleEvent redis event)).calls = w.calls := by
  have marked := (w.marked_eq event redis).2.2
  rw [World.step, exec_handleEvent]
  split
  · rw [exec_applyEvent]
    split
    · split
      · exact marked
      · split
        · exact marked
        · split
          · exact marked
          · exact marked
    · exact marked
  · rfl

/-- A call that is not a refund. -/
def ProviderCall.Other : ProviderCall → Prop
  | .refund _ _ _ _ _ => False
  | _ => True

theorem no_calls {before next : World} (same : next.calls = before.calls) :
    ∃ calls, next.calls = before.calls ++ calls ∧ ∀ call ∈ calls, call.Other :=
  ⟨[], by rw [same, List.append_nil], fun _ member => by cases member⟩

/-- One call that is not a refund. -/
theorem one_call {before next : World} {call : ProviderCall}
    (made : next.calls = before.calls ++ [call]) (other : call.Other) :
    ∃ calls, next.calls = before.calls ++ calls ∧ ∀ call ∈ calls, call.Other := by
  refine ⟨[call], made, fun among member => ?_⟩
  rw [List.mem_singleton.mp member]
  exact other

/-- **Only a refund makes refund calls.** -/
theorem calls_other {op : Operation} (other : ∀ gateway order provider,
    op ≠ .refundPayment gateway order provider) :
    ∃ calls, (w.step op).calls = w.calls ++ calls ∧ ∀ call ∈ calls, call.Other := by
  cases op with
  | createPaymentForOrder gateway order provider =>
    rw [World.step, exec_createPaymentForOrder]
    split
    · exact no_calls rfl
    · exact one_call (calls_answered w fun _ _ => rfl) trivial
  | capturePayment order =>
    rw [World.step, exec_capturePayment]
    split
    · exact no_calls rfl
    · split
      · exact no_calls rfl
      · exact no_calls rfl
  | retryPayment gateway order provider =>
    rw [World.step, exec_retryPayment]
    split
    · exact no_calls rfl
    · split
      · exact one_call (calls_answered w fun _ _ => rfl) trivial
      · exact no_calls rfl
  | resumeCardPayment gateway order provider =>
    rw [World.step, exec_resumeCardPayment]
    split
    · exact no_calls rfl
    · split
      · exact one_call (calls_answered w fun _ _ => rfl) trivial
      · exact no_calls rfl
  | confirmCardPayment gateway order provider =>
    rw [World.step, exec_confirmCardPayment]
    split
    · exact no_calls rfl
    · split
      · refine one_call (calls_answered w fun result _ => ?_) trivial
        split
        · rfl
        · rfl
      · exact no_calls rfl
  | refundPayment gateway order provider => exact absurd rfl (other gateway order provider)
  | handleEvent redis event => exact no_calls (calls_event w redis event)
  | expireSeen keys => exact no_calls rfl

end Calls

/-! ### What every till keeps -/

/-- A session is for the order's total, and has been paid when it has been refunded. -/
def Session.Fair (order : CardOrder) (s : Session) : Prop :=
  s.amount = order.total ∧ (s.refunded = true → s.paid = true)

/-- What is so of every till: the order's payment is by card, and every session is fair. -/
structure Sound (order : CardOrder) (till : Till) : Prop where
  card : ∀ payment, till.service.payment order.orderId = some payment → payment.provider = .card
  fair : ∀ s ∈ till.sessions.rows, s.Fair order

section Keeps

variable {account : Account} {order : CardOrder} {till : Till} {sessions : Sessions}

theorem fair_put (fair : ∀ s ∈ sessions.rows, s.Fair order) {s : Session} (own : s.Fair order) :
    ∀ other ∈ (sessions.put s).rows, other.Fair order := by
  intro other member
  rcases Table.mem_put.mp member with rfl | ⟨old, _⟩
  · exact own
  · exact fair other old

theorem fair_sessionFor (fair : ∀ s ∈ sessions.rows, s.Fair order) (key : String) :
    (sessionFor sessions key order.total).Fair order := by
  unfold sessionFor
  cases found : sessions.find? key with
  | none => exact ⟨rfl, fun refunded => absurd refunded Bool.false_ne_true⟩
  | some s => exact fair s (Table.find?_eq_some.mp found).1

theorem fair_giveBack {s : Session} (own : s.Fair order) (reference : Option String) :
    (account.giveBack reference s).Fair order := by
  unfold Account.giveBack
  split
  · rename_i given
    rw [Bool.and_eq_true, Session.held, Bool.and_eq_true] at given
    exact ⟨own.1, fun _ => given.1.1⟩
  · exact own

theorem fair_book (exchange : Exchange) (call : ProviderCall)
    (fair : ∀ s ∈ sessions.rows, s.Fair order) :
    ∀ s ∈ (book account order exchange sessions call).rows, s.Fair order := by
  cases call with
  | authorize orderId key outcome =>
    rw [book]
    split
    · exact fair
    · exact fair_put fair (fair_sessionFor fair key)
  | verify orderId reference outcome => exact fair
  | refund orderId reference amount effective outcome =>
    rw [book]
    split
    · intro s member
      obtain ⟨old, before, rfl⟩ := List.mem_map.mp member
      exact fair_giveBack (fair old before) reference
    · exact fair

theorem fair_booked (exchange : Exchange) (calls : List ProviderCall)
    (fair : ∀ s ∈ sessions.rows, s.Fair order) :
    ∀ s ∈ (calls.foldl (book account order exchange) sessions).rows, s.Fair order := by
  induction calls generalizing sessions with
  | nil => exact fair
  | cons call calls ih => exact ih (fair_book exchange call fair)

/-- A payment keeps its provider, and a new one gets that of the call. -/
theorem card_of_touched {op : Operation} {orderId : Nat} {w next : World}
    (touched : Touched op orderId w next)
    (card : ∀ payment, w.payment orderId = some payment → payment.provider = .card)
    (creates : ∀ gateway order provider, op = .createPaymentForOrder gateway order provider →
      (providerOr provider gateway order.paymentMethod).name = .card) :
    ∀ payment, next.payment orderId = some payment → payment.provider = .card := by
  have rewritten : ∀ {before after : Payment}, w.payment orderId = some before →
      next.payment orderId = some after → after.provider = before.provider →
      ∀ payment, next.payment orderId = some payment → payment.provider = .card := by
    intro before after found row kept payment now
    rw [row, Option.some_inj] at now
    rw [← now, kept]
    exact card before found
  cases touched with
  | same row _ =>
    intro payment now
    exact card payment (row ▸ now)
  | created gateway snapshot provider result operation _ _ _ row _ =>
    intro payment now
    rw [row, Option.some_inj] at now
    rw [← now]
    exact creates gateway snapshot provider operation
  | captured _ payment _ _ found _ row _ => exact rewritten found row rfl
  | retried _ _ _ payment _ _ _ found _ _ row _ => exact rewritten found row rfl
  | resumed _ _ _ payment _ _ _ found _ _ row _ => exact rewritten found row rfl
  | confirmed _ _ _ payment _ _ _ found _ _ _ row _ => exact rewritten found row rfl
  | refunded _ _ _ payment _ _ _ found _ _ row _ _ => exact rewritten found row rfl
  | failed _ _ payment _ _ found _ row _ => exact rewritten found row rfl
  | awaited _ _ payment _ _ found _ _ row _ => exact rewritten found row rfl
  | settled _ _ payment _ _ found _ _ row _ => exact rewritten found row rfl

theorem sound_serve (sound : Sound order till) (exchange : Exchange) (op : Operation)
    (creates : ∀ gateway order provider, op = .createPaymentForOrder gateway order provider →
      (providerOr provider gateway order.paymentMethod).name = .card) :
    Sound order (till.serve account order exchange op) where
  card := card_of_touched (till.service.touched op order.orderId) sound.card creates
  fair := fair_booked exchange _ sound.fair

theorem sound_pay (sound : Sound order till) (key : String) : Sound order (till.pay account key) := by
  unfold Till.pay
  cases found : till.sessions.find? key with
  | none => exact sound
  | some s =>
    have own := sound.fair s (Table.find?_eq_some.mp found).1
    dsimp only
    split
    · exact ⟨sound.card, fair_put sound.fair ⟨own.1, fun _ => rfl⟩⟩
    · exact sound

theorem sound_expire (sound : Sound order till) (key : String) : Sound order (till.expire key) := by
  unfold Till.expire
  cases found : till.sessions.find? key with
  | none => exact sound
  | some s =>
    dsimp only
    split
    · exact ⟨sound.card, fair_put sound.fair (sound.fair s (Table.find?_eq_some.mp found).1)⟩
    · exact sound

theorem sound_step (sound : Sound order till) (move : Move) :
    Sound order (till.step account order move) := by
  cases move with
  | create status exchange =>
    refine sound_serve sound exchange _ fun gateway snapshot provider same => ?_
    cases same
    show (providerFor (account.gateway till.sessions exchange) .card).name = .card
    rw [account.providerFor_card]
    rfl
  | retry status exchange => exact sound_serve sound exchange _ (by simp)
  | resume status exchange => exact sound_serve sound exchange _ (by simp)
  | confirm status exchange => exact sound_serve sound exchange _ (by simp)
  | refund status exchange => exact sound_serve sound exchange _ (by simp)
  | deliver redis event => exact sound_serve sound .answered _ (by simp)
  | pay key => exact sound_pay sound key
  | expire key => exact sound_expire sound key

theorem sound_empty : Sound order .empty where
  card := fun payment found => by cases found
  fair := fun s member => by cases member

end Keeps

end FoodDelivery.Payments
