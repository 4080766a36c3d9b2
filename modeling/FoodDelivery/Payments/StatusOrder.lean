/-
**A payment's status never moves backwards**, when the writers that carry no guard stay away.

`Forward` is the order a payment should keep: REFUNDED stays, and SUCCEEDED only becomes REFUNDED.
Seven functions write the status; the capture, the retry and the refund check it first, and a checkout
only inserts.

* `forward_iff_steady`: a step goes forward exactly when it is `Steady`: no failing event finds a
  SUCCEEDED or REFUNDED payment, no settling event and no confirmation finds a REFUNDED one, and no
  resume finds either;
* `forward_onward_iff`: a run goes forward from every state to every later one exactly when all its
  steps are steady.
-/

import FoodDelivery.Payments.Runs

set_option autoImplicit false

namespace FoodDelivery.Payments

open FoodDelivery.Lib

/-- What a status may become. -/
def Final (before after : PaymentTxStatus) : Prop :=
  (before = .refunded → after = .refunded) ∧
    (before = .succeeded → after = .succeeded ∨ after = .refunded)

instance (before after : PaymentTxStatus) : Decidable (Final before after) :=
  inferInstanceAs (Decidable (_ ∧ _))

/-- **No payment moves backwards.** -/
def Forward (w next : World) : Prop :=
  ∀ orderId payment, w.payment orderId = some payment →
    ∃ later, next.payment orderId = some later ∧ Final payment.status later.status

/-- A payment that money has been taken for, whether or not it was given back. -/
def moved : List PaymentTxStatus := [.succeeded, .refunded]

/-- The unguarded writers find no payment that they would move backwards. -/
def Steady (w : World) : Operation → Prop
  | .handleEvent redis event => ∀ payment, event.ActsOn redis w payment →
    (event.type ∈ fails → payment.status ∉ moved) ∧
      (event.type ∈ settles → event.awaiting = false → payment.status ≠ .refunded)
  | .resumeCardPayment gateway order provider => ∀ payment result,
    w.payment order.orderId = some payment → awaitsCard order payment = true →
    authorization gateway order provider .card (resumeKey order.orderId) = .ok result →
    payment.status ∉ moved
  | .confirmCardPayment gateway order provider => ∀ payment result,
    w.payment order.orderId = some payment → awaitsCard order payment = true →
    verification gateway provider payment.providerRef = .ok result → result.ok = true →
    payment.status ≠ .refunded
  | _ => True

theorem final_refl (status : PaymentTxStatus) : Final status status :=
  ⟨id, Or.inl⟩

theorem final_trans {first second third : PaymentTxStatus} (one : Final first second)
    (two : Final second third) : Final first third := by
  refine ⟨fun refunded => two.1 (one.1 refunded), fun succeeded => ?_⟩
  rcases one.2 succeeded with still | refunded
  · exact two.2 still
  · exact Or.inr (two.1 refunded)

theorem forward_refl (w : World) : Forward w w :=
  fun _ payment found => ⟨payment, found, final_refl payment.status⟩

theorem forward_trans (first second third : World) (one : Forward first second)
    (two : Forward second third) : Forward first third := by
  intro orderId payment found
  obtain ⟨middle, there, before⟩ := one orderId payment found
  obtain ⟨later, here, after⟩ := two orderId middle there
  exact ⟨later, here, final_trans before after⟩

/-- From a status that is neither, every status is forward. -/
theorem final_of_not_moved {before : PaymentTxStatus} (after : PaymentTxStatus)
    (fresh : before ∉ moved) : Final before after := by
  refine ⟨fun refunded => ?_, fun succeeded => ?_⟩
  · rw [refunded] at fresh
    exact absurd fresh (by decide)
  · rw [succeeded] at fresh
    exact absurd fresh (by decide)

/-- SUCCEEDED is forward of everything but REFUNDED. -/
theorem final_succeeded {before : PaymentTxStatus} (collected : before ≠ .refunded) :
    Final before .succeeded :=
  ⟨fun refunded => absurd refunded collected, fun _ => Or.inl rfl⟩

/-- **A steady step goes forward.** -/
theorem forward_of_steady {w : World} {op : Operation} (steady : Steady w op) :
    Forward w (w.step op) := by
  intro orderId payment found
  cases w.touched op orderId with
  | same row events => exact ⟨payment, row.trans found, final_refl payment.status⟩
  | created gateway order provider result operation own absent answered row events =>
    rw [absent] at found
    cases found
  | captured order was operation own here may row events =>
    cases here.symm.trans found
    refine ⟨_, row, final_of_not_moved _ ?_⟩
    revert may
    cases payment.status <;> decide
  | retried gateway order provider was result operation own here may answered row events =>
    cases here.symm.trans found
    refine ⟨_, row, final_of_not_moved _ ?_⟩
    rw [may]
    decide
  | resumed gateway order provider was result operation own here may answered row events =>
    cases here.symm.trans found
    subst operation own
    exact ⟨_, row, final_of_not_moved _ (steady payment result found may answered)⟩
  | confirmed gateway order provider was result operation own here may answered paid row events =>
    cases here.symm.trans found
    subst operation own
    exact ⟨_, row, final_succeeded (steady payment result found may answered paid)⟩
  | refunded gateway order provider was result operation own here may answered row events calls =>
    cases here.symm.trans found
    exact ⟨_, row, ⟨fun _ => rfl, fun _ => Or.inr rfl⟩⟩
  | failed redis event was operation acts here kind row events =>
    cases here.symm.trans found
    subst operation
    exact ⟨_, row, final_of_not_moved _ ((steady payment acts).1 kind)⟩
  | awaited redis event was operation acts here kind waits row events =>
    cases here.symm.trans found
    exact ⟨_, row, final_refl payment.status⟩
  | settled redis event was operation acts here kind paid row events =>
    cases here.symm.trans found
    subst operation
    exact ⟨_, row, final_succeeded ((steady payment acts).2 kind paid)⟩

/-- What a step left is forward of what it found. -/
theorem Forward.status {w next : World} (forward : Forward w next) {orderId : Nat}
    {payment later : Payment} (found : w.payment orderId = some payment)
    (left : next.payment orderId = some later) : Final payment.status later.status := by
  obtain ⟨other, here, final⟩ := forward orderId payment found
  cases left.symm.trans here
  exact final

theorem not_moved_of_final {before after : PaymentTxStatus} (final : Final before after)
    (fresh : after ∉ moved) : before ∉ moved := by
  revert final fresh
  cases before <;> cases after <;> decide

theorem not_refunded_of_final {before : PaymentTxStatus} (final : Final before .succeeded) :
    before ≠ .refunded := by
  rintro rfl
  cases final.1 rfl

/-- A new authorisation never leaves a payment that money was taken for. -/
theorem reauthorized_not_moved (payment : Payment) (result : ProviderResult) :
    (payment.reauthorized result).status ∉ moved := by
  show (if result.ok then PaymentTxStatus.authorized else .failed) ∉ moved
  cases result.ok <;> decide

/-- **A step that goes forward is steady.** -/
theorem steady_of_forward {w : World} {op : Operation} (forward : Forward w (w.step op)) :
    Steady w op := by
  cases op with
  | handleEvent redis event =>
    intro payment acts
    have found : w.payment payment.orderId = some payment := (Table.find?_of_first? acts.found).1
    constructor
    · intro kind
      have left := payment_of_event acts (List.mem_append_right _ kind)
      have final := forward.status found left
      rw [Payment.afterEvent, if_pos kind] at final
      have failing : PaymentTxStatus.failed ∉ moved := by decide
      exact not_moved_of_final final failing
    · intro kind paid
      have settling := not_fails_of_settles kind
      have left := payment_of_event acts (List.mem_append_left _ kind)
      have final := forward.status found left
      rw [Payment.afterEvent, if_neg settling, paid] at final
      exact not_refunded_of_final final
  | resumeCardPayment gateway order provider =>
    intro payment result found awaits answered
    have final := forward.status found (payment_of_resume found awaits answered)
    exact not_moved_of_final final (reauthorized_not_moved payment result)
  | confirmCardPayment gateway order provider =>
    intro payment result found awaits answered paid
    have final := forward.status found (payment_of_confirm found awaits answered paid)
    exact not_refunded_of_final final
  | _ => trivial

theorem forward_iff_steady (w : World) (op : Operation) :
    Forward w (w.step op) ↔ Steady w op :=
  ⟨steady_of_forward, forward_of_steady⟩

/-- **When a payment never moves backwards.** From any state, every later state of a run is forward
of every earlier one exactly when all its steps are steady. -/
theorem forward_onward_iff (w : World) (ops : List Operation) :
    Onward World.step Forward w ops ↔ Throughout World.step Steady w ops := by
  rw [onward_iff_throughout forward_refl forward_trans]
  constructor
  · exact Throughout.mono fun w op => (forward_iff_steady w op).mp
  · exact Throughout.mono fun w op => (forward_iff_steady w op).mpr

/-- Stripe's `payment_intent.succeeded` for the order's payment. -/
def paidEvent (id : String) : StripeEvent where
  id := some id
  type := .intentSucceeded
  ref := some "pi_order-1"

/-- A card order is authorised, paid and refunded, and a second event says that it was paid. -/
def lateEvent : List Operation :=
  [ .createPaymentForOrder standIn cardOrder none, .handleEvent true (paidEvent "evt_1"),
    .refundPayment standIn cardOrder none, .handleEvent true (paidEvent "evt_2") ]

/-- **A refund that is forgotten.** -/
theorem lateEvent_not_forward : ¬ ∀ ops, Onward World.step Forward .empty ops := by
  intro onward
  have steps := (onward_iff_throughout forward_refl forward_trans).mp (onward lateEvent)
  have forward := steps.2.2.2.1
  have before : ((run World.step .empty (lateEvent.take 3)).payment 1).map Payment.status =
      some .refunded := by decide
  have after : ((run World.step .empty lateEvent).payment 1).map Payment.status =
      some .succeeded := by decide
  obtain ⟨payment, found, refunded⟩ := Option.map_eq_some_iff.mp before
  obtain ⟨later, left, succeeded⟩ := Option.map_eq_some_iff.mp after
  have final := Forward.status forward found left
  rw [refunded, succeeded] at final
  exact absurd final (by decide)

end FoodDelivery.Payments
