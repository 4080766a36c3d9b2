/-
**Money for an order that ended unpaid.**

An order can be cancelled, by its customer or by the expiry sweep, while its customer is paying at
the provider. The payment succeeds, its event finds the order cancelled, and `mark_paid` returns it
untouched: the cancellation saw nothing to refund, and nobody looks at the order again.

`noMoneyKept_of_inTime`: in every run of both services in which no SUCCEEDED payment event reaches an
order that was cancelled while it waited for its payment, such an order has no SUCCEEDED payment once
nothing is in flight.
-/

import FoodDelivery.Orders.UnpaidEndings
import FoodDelivery.Platform.Model

set_option autoImplicit false

namespace FoodDelivery.Platform

open FoodDelivery.Lib

/-- **No money is kept** for a card order that was cancelled while it waited for its payment. -/
def NoMoneyKept (s : State) : Prop :=
  ∀ orderId order, s.orders.orders.find? orderId = some order → order.paymentMethod = .card →
    order.status = .cancelled → order.EndedUnpaid → ¬ s.payments.Succeeded orderId

/-- No SUCCEEDED payment event reaches an order that was cancelled while it waited. -/
def InTime (s : State) : Label → Prop
  | .deliverPaymentEvent orderId _ _ => ∀ event ∈ s.paymentEvent orderId,
    event.paymentStatus = .succeeded → ∀ order ∈ s.orders.orders.find? orderId,
      ¬ order.EndedUnpaid
  | _ => True

instance (s : State) : ∀ label, Decidable (InTime s label)
  | .deliverPaymentEvent orderId _ _ => inferInstanceAs (Decidable (∀ event ∈ s.paymentEvent orderId,
      event.paymentStatus = .succeeded → ∀ order ∈ s.orders.orders.find? orderId,
        ¬ order.EndedUnpaid))
  | .orders _ _ | .request _ _ _ | .deliverOrderEvent _ _ _ | .deliverCommand _ _ _
  | .emit _ | .deliverProviderEvent _ _ _ | .expireSeen _ => .isTrue trivial

/-! ### The invariant -/

/-- **The two services agree.** A payment belongs to an order, and so does every event; a SUCCEEDED
payment was announced or told to settle; and a SUCCEEDED event that was read left its order past the
payment. -/
structure Reconciled (s : State) : Prop where
  orders : Orders.Chronicle s.orders
  owed : ∀ orderId, s.payments.payment orderId ≠ none → s.orders.orders.find? orderId ≠ none
  recorded : ∀ orderId, s.payments.eventsOf orderId ≠ [] → s.payments.payment orderId ≠ none
  earned : ∀ orderId, s.payments.Succeeded orderId → s.payments.Announced orderId ∨
    ∃ command ∈ Orders.commandsOf orderId s.orders.outbox, command.action = .settle
  read : ∀ orderId, s.paymentEventsRead orderId ≤ (s.payments.eventsOf orderId).length
  past : ∀ orderId n event, n < s.paymentEventsRead orderId →
    (s.payments.eventsOf orderId)[n]? = some event → event.paymentStatus = .succeeded →
    ∃ order, s.orders.orders.find? orderId = some order ∧ order.PastPayment

theorem reconciled_empty : Reconciled .empty where
  orders := Orders.chronicle_empty
  owed := fun _ present => absurd rfl present
  recorded := fun _ some_event => absurd rfl some_event
  earned := fun _ succeeded => by cases succeeded
  read := fun _ => Nat.zero_le _
  past := fun _ n _ before => absurd before (Nat.not_lt_zero n)

/-- A step that leaves orders, payments and positions alone. -/
theorem Reconciled.apart {s next : State} (reconciled : Reconciled s)
    (orders : next.orders = s.orders) (payments : next.payments = s.payments)
    (read : next.paymentEventsRead = s.paymentEventsRead) : Reconciled next where
  orders := orders ▸ reconciled.orders
  owed := by
    rw [orders, payments]
    exact reconciled.owed
  recorded := by
    rw [payments]
    exact reconciled.recorded
  earned := by
    rw [orders, payments]
    exact reconciled.earned
  read := by
    rw [read, payments]
    exact reconciled.read
  past := by
    rw [orders, read, payments]
    exact reconciled.past

/-- **A step of the orders service.** -/
theorem Reconciled.ordered {s : State} (reconciled : Reconciled s)
    (label : Orders.Operation × Timestamp) :
    Reconciled { s with orders := s.orders.step label } where
  orders := Orders.chronicle_step reconciled.orders label
  owed := fun orderId present => Orders.present_step (reconciled.owed orderId present)
  recorded := reconciled.recorded
  earned := by
    intro orderId succeeded
    refine (reconciled.earned orderId succeeded).imp_right ?_
    rintro ⟨command, member, settles⟩
    exact ⟨command, (Orders.commandsOf_prefix s.orders label orderId).subset member, settles⟩
  read := reconciled.read
  past := by
    intro orderId n event before found succeeded
    obtain ⟨order, row, past⟩ := reconciled.past orderId n event before found succeeded
    exact Orders.pastPayment_step reconciled.orders row past

/-- **A step of the payments service.** -/
theorem Reconciled.paid {s next : State} (reconciled : Reconciled s)
    (orders : next.orders = s.orders) (read : next.paymentEventsRead = s.paymentEventsRead)
    (books : ∀ orderId, Payments.World.Books orderId
      (Orders.eventsOf orderId s.orders.outbox ≠ [])
      (∃ command ∈ Orders.commandsOf orderId s.orders.outbox, command.action = .settle)
      s.payments next.payments) : Reconciled next where
  orders := orders ▸ reconciled.orders
  owed := by
    intro orderId present
    rw [orders]
    rcases (books orderId).created present with before | announced
    · exact reconciled.owed orderId before
    · exact reconciled.orders.placed orderId announced
  recorded := by
    intro orderId some_event
    refine (books orderId).kept ?_
    rcases (books orderId).recorded some_event with before | present
    · exact reconciled.recorded orderId before
    · exact present
  earned := by
    intro orderId succeeded
    rw [orders]
    rcases (books orderId).earned succeeded with before | settled | announced
    · refine (reconciled.earned orderId before).imp_left ?_
      rintro ⟨event, member, paid⟩
      exact ⟨event, (books orderId).events.subset member, paid⟩
    · exact Or.inr settled
    · exact Or.inl announced
  read := by
    intro orderId
    rw [read]
    exact (reconciled.read orderId).trans (books orderId).events.length_le
  past := by
    intro orderId n event before found succeeded
    rw [read] at before
    rw [orders]
    -- what has been read was there before the step
    have inside : n < (s.payments.eventsOf orderId).length :=
      Nat.lt_of_lt_of_le before (reconciled.read orderId)
    obtain ⟨more, grown⟩ := (books orderId).events
    rw [← grown, List.getElem?_append_left inside] at found
    exact reconciled.past orderId n event before found succeeded

/-- **The delivery of a payment event that is in time.** -/
theorem Reconciled.delivered {s : State} (reconciled : Reconciled s) {orderId : Nat}
    {now : Timestamp} {acknowledged : Bool} {event : Payments.PaymentEvent}
    (found : s.paymentEvent orderId = some event)
    (inTime : InTime s (.deliverPaymentEvent orderId now acknowledged)) (read : Bool) :
    Reconciled { s with
      orders := s.orders.step (.applyPaymentEvent (paymentPayload event), now)
      paymentEventsRead := readOn s.paymentEventsRead orderId read } := by
  have moved := reconciled.ordered (.applyPaymentEvent (paymentPayload event), now)
  obtain ⟨inside, _⟩ := List.getElem?_eq_some_iff.mp found
  have member : event ∈ s.payments.eventsOf orderId := List.mem_of_getElem? found
  have own : event.orderId = orderId := Payments.World.orderId_of_eventsOf member
  refine { moved with read := ?_, past := ?_ }
  · intro other
    have before := reconciled.read other
    show readOn s.paymentEventsRead orderId read other ≤ _
    unfold readOn
    split
    · rename_i here
      rw [here.1]
      exact inside
    · exact before
  · intro other n later before place succeeded
    change n < readOn s.paymentEventsRead orderId read other at before
    by_cases earlier : n < s.paymentEventsRead other
    · exact moved.past other n later earlier place succeeded
    · -- it is this event that has been read
      unfold readOn at before
      split at before
      · rename_i here
        obtain ⟨rfl, _⟩ := here
        have this_one : n = s.paymentEventsRead other := by omega
        subst this_one
        cases found.symm.trans place
        have present := reconciled.owed other (reconciled.recorded other (List.ne_nil_of_mem member))
        obtain ⟨order, row⟩ := Option.ne_none_iff_exists'.mp present
        have payload : paymentPayload event = Orders.paidEvent other := by
          unfold paymentPayload Orders.paidEvent
          rw [own, succeeded]
        show ∃ order, (s.orders.step (.applyPaymentEvent (paymentPayload event), now)).orders.find?
          other = some order ∧ _
        rw [payload]
        exact Orders.pastPayment_of_consumed now row (inTime event found succeeded order row)
      · exact absurd before earlier

/-- **One step.** -/
theorem Reconciled.step {s : State} {label : Label} (reconciled : Reconciled s)
    (inTime : InTime s label) : Reconciled (s.step label) := by
  have steps := s.steps label
  revert steps
  generalize s.step label = next
  intro steps
  cases steps with
  | apart label next orders payments read => exact reconciled.apart orders payments read
  | orders op now => exact reconciled.ordered (op, now)
  | paymentEvent orderId now acknowledged event found => exact reconciled.delivered found inTime _
  | payments label next orders read books => exact reconciled.paid orders read books

/-- Once nothing is in flight, a SUCCEEDED payment is that of an order past its payment. -/
theorem Reconciled.noMoneyKept {s : State} (reconciled : Reconciled s) (quiet : s.Quiet) :
    NoMoneyKept s := by
  intro orderId order found card cancelled ended succeeded
  rcases reconciled.earned orderId succeeded with ⟨event, member, paid⟩ | settled
  · obtain ⟨n, place⟩ := List.getElem?_of_mem member
    obtain ⟨inside, _⟩ := List.getElem?_eq_some_iff.mp place
    have all_read := List.getElem?_eq_none_iff.mp (quiet.paymentEvents orderId)
    obtain ⟨same, row, past⟩ := reconciled.past orderId n event (by omega) place paid
    cases found.symm.trans row
    exact past.kept ended
  · obtain ⟨same, row, delivered⟩ := reconciled.orders.settled orderId settled
    cases found.symm.trans row
    rw [cancelled] at delivered
    rcases delivered with status | status
    · cases status
    · cases status

/-- **When no money is kept.** From empty databases, over every order of requests, sweeps and
deliveries, in which no SUCCEEDED payment event reaches an order that was cancelled while it waited
for its payment: whenever nothing is in flight, no card order that was cancelled so has a SUCCEEDED
payment. -/
theorem noMoneyKept_of_inTime (labels : List Label)
    (inTime : Throughout State.step InTime .empty labels) :
    Always State.step (fun s => s.Quiet → NoMoneyKept s) .empty labels := by
  have reconciled : Always State.step Reconciled .empty labels :=
    always_of_throughout (fun s label reconciled inTime => reconciled.step inTime) reconciled_empty
      inTime
  exact reconciled.mono fun s reconciled quiet => reconciled.noMoneyKept quiet

/-- A card order is placed, and its payment opened at Stripe. -/
def cardCheckout : List Label :=
  (Orders.mealCheckout .card).map (fun label => .orders label.1 label.2) ++
    [.deliverOrderEvent Payments.stripeTest 1 true]

/-- Its session is paid. -/
def sessionPaid : Payments.StripeEvent where
  id := some "evt_1"
  type := .checkoutCompleted
  ref := some "cs_1"
  paymentIntent := some "pi_1"
  paymentStatus := some .paid

def customerCancels (now : Timestamp) : Label :=
  .orders (.cancelByCustomer 1 ⟨7, "customer"⟩ "") now

/-- The customer cancels after the order has heard of the payment. -/
def cancelledAfterPayment : List Label :=
  cardCheckout ++
    [ .emit sessionPaid, .deliverProviderEvent 0 true true, .deliverPaymentEvent 1 30 true,
      customerCancels 40, .deliverCommand Payments.stripeTest 1 true,
      .deliverOrderEvent Payments.stripeTest 1 true, .deliverOrderEvent Payments.stripeTest 1 true ]

theorem noMoneyKept_of_inTime_cancelledAfterPayment :
    Always State.step (fun s => s.Quiet → NoMoneyKept s) .empty cancelledAfterPayment :=
  noMoneyKept_of_inTime cancelledAfterPayment (by decide)

/-- The customer cancels before, and the payment succeeds all the same. -/
def cancelledBeforePayment : List Label :=
  cardCheckout ++
    [ customerCancels 20, .emit sessionPaid, .deliverProviderEvent 0 true true,
      .deliverPaymentEvent 1 30 true, .deliverOrderEvent Payments.stripeTest 1 true ]

/-- **Money that is never given back.** -/
theorem cancelledBeforePayment_keeps_money :
    ¬ ∀ labels, Always State.step (fun s => s.Quiet → NoMoneyKept s) .empty labels := by
  intro always
  have last := (always cancelledBeforePayment).last
  have quiet : (run State.step .empty cancelledBeforePayment).Quiet :=
    quiet_of_one 1 (by decide) (by decide) (by decide) (by decide) (by decide) (by decide) rfl
  have order : ((run State.step .empty cancelledBeforePayment).orders.orders.find? 1).map
      (fun order => (order.paymentMethod, order.status, decide order.EndedUnpaid)) =
      some (.card, .cancelled, true) := by decide
  obtain ⟨row, found, same⟩ := Option.map_eq_some_iff.mp order
  obtain ⟨card, cancelled, ended⟩ : row.paymentMethod = .card ∧ row.status = .cancelled ∧
      row.EndedUnpaid := by simpa using same
  have paid : (run State.step .empty cancelledBeforePayment).payments.Succeeded 1 := by decide
  exact last quiet 1 row found card cancelled ended paid

end FoodDelivery.Platform
