/-
**A payment that says REFUNDED has been refunded.**

`RefundedTruly` asks that some refund call made for the order answered `ok`; `FailureKept` that a
refund call that raised or answered otherwise leaves the payment in its earlier status, where a
redelivered command finds it. The providers turn their failures into answers that are not `ok`, and
`refund_payment` does not look at the answer.

`refundedTruly_iff`: a run from an empty database keeps both exactly when every refund call that
answers, answers `ok`.
-/

import FoodDelivery.Payments.Growth

set_option autoImplicit false

namespace FoodDelivery.Payments

open FoodDelivery.Lib

/-- A refund call for an order that answered `ok`. -/
def ProviderCall.RefundedOk (orderId : Nat) (call : ProviderCall) : Prop :=
  ∃ reference amount effective result,
    call = .refund orderId reference amount effective (.ok result) ∧ result.ok = true

/-- **Every REFUNDED payment has been refunded.** -/
def RefundedTruly (w : World) : Prop :=
  ∀ orderId payment, w.payment orderId = some payment → payment.status = .refunded →
    ∃ call ∈ w.calls, call.RefundedOk orderId

/-- A provider's outcome that is not a success: it raised, or answered that it failed. -/
def Unsuccessful (outcome : Except Raised ProviderResult) : Prop :=
  ∀ result, outcome = .ok result → result.ok = false

/-- **A refund that did not succeed leaves the payment as it was.** -/
def FailureKept (w : World) : Operation → Prop
  | .refundPayment gateway order provider => ∀ payment, w.payment order.orderId = some payment →
    Unsuccessful (refundAnswer gateway order provider payment) →
    ((w.step (.refundPayment gateway order provider)).payment order.orderId).map Payment.status =
      some payment.status
  | _ => True

/-- A refund call that is made and answered, answers `ok`. -/
def AnsweredOk (w : World) : Operation → Prop
  | .refundPayment gateway order provider => ∀ payment result,
    w.payment order.orderId = some payment → payment.status ∈ refundable →
    refundAnswer gateway order provider payment = .ok result → result.ok = true
  | _ => True

/-- A payment that was refunded before the step still has its call in the log. -/
theorem RefundedTruly.kept {w : World} (truly : RefundedTruly w) (op : Operation) {orderId : Nat}
    {payment : Payment} (found : w.payment orderId = some payment)
    (refunded : payment.status = .refunded) :
    ∃ call ∈ (w.step op).calls, call.RefundedOk orderId := by
  obtain ⟨call, member, ok⟩ := truly orderId payment found refunded
  exact ⟨call, (grows_step w op).calls.subset member, ok⟩

/-- **One step.** -/
theorem refundedTruly_step {w : World} {op : Operation} (truly : RefundedTruly w)
    (answers : AnsweredOk w op) : RefundedTruly (w.step op) := by
  intro orderId later left refunded
  -- only the refund writes REFUNDED; every other case shows another status, or the old one
  cases w.touched op orderId with
  | same row events => exact truly.kept op (row ▸ left) refunded
  | created gateway order provider result operation own absent answered row events =>
    cases row.symm.trans left
    unfold newPayment at refunded
    cases ok : result.ok <;> simp [ok] at refunded
  | captured order payment operation own found may row events =>
    cases row.symm.trans left
    cases refunded
  | retried gateway order provider payment result operation own found may answered row events =>
    cases row.symm.trans left
    unfold Payment.reauthorized at refunded
    cases ok : result.ok <;> simp [ok] at refunded
  | resumed gateway order provider payment result operation own found may answered row events =>
    cases row.symm.trans left
    unfold Payment.reauthorized at refunded
    cases ok : result.ok <;> simp [ok] at refunded
  | confirmed gateway order provider payment result operation own found may answered paid row
      events =>
    cases row.symm.trans left
    cases refunded
  | refunded gateway order provider payment result operation own found may answered row events
      calls =>
    subst operation own
    have ok := answers payment result found may answered
    refine ⟨refundCall gateway order provider payment, ?_, ?_⟩
    · rw [calls]
      exact List.mem_append_right _ (List.mem_singleton.mpr rfl)
    · have call : refundCall gateway order provider payment =
          .refund order.orderId payment.providerRef order.total
            ((providerOr provider gateway payment.provider).moves payment.providerRef order.total)
            (.ok result) := by
        unfold refundCall
        rw [answered]
      exact ⟨_, _, _, result, call, ok⟩
  | failed redis event payment operation acts found kind row events =>
    cases row.symm.trans left
    cases refunded
  | awaited redis event payment operation acts found kind waits row events =>
    cases row.symm.trans left
    exact truly.kept op found refunded
  | settled redis event payment operation acts found kind paid row events =>
    cases row.symm.trans left
    cases refunded

/-- A refund that does not answer changes nothing of the payment. -/
theorem failureKept_of_answers {w : World} {op : Operation} (answers : AnsweredOk w op) :
    FailureKept w op := by
  cases op with
  | refundPayment gateway order provider =>
    intro payment found unsuccessful
    rw [World.step, exec_refundPayment, found]
    dsimp only
    by_cases may : payment.status ∈ refundable
    · rw [if_pos may]
      unfold World.answered
      cases outcome : refundAnswer gateway order provider payment with
      | ok result =>
        have failed := unsuccessful result outcome
        rw [answers payment result found may outcome] at failed
        cases failed
      | error raised =>
        rw [World.payment_call, found]
        rfl
    · rw [if_neg may, found]
      rfl
  | _ => trivial

theorem answers_of_failureKept {w : World} {op : Operation} (kept : FailureKept w op) :
    AnsweredOk w op := by
  cases op with
  | refundPayment gateway order provider =>
    intro payment result found may answered
    by_contra failed
    have unsuccessful : Unsuccessful (refundAnswer gateway order provider payment) := by
      intro other same
      cases answered.symm.trans same
      exact Bool.eq_false_iff.mpr failed
    have status := kept payment found unsuccessful
    rw [payment_of_refund found may answered] at status
    exact ne_refunded_of_refundable may (Option.some.inj status).symm
  | _ => trivial

theorem refundedTruly_empty : RefundedTruly .empty := by
  intro orderId payment found
  cases found

/-- **When REFUNDED means refunded.** From an empty database, every REFUNDED payment of a run has
been refunded, and every refund that did not succeed left its payment as it was, exactly when every
refund call that answers, answers `ok`. -/
theorem refundedTruly_iff (ops : List Operation) :
    (Always World.step RefundedTruly .empty ops ∧ Throughout World.step FailureKept .empty ops) ↔
      Throughout World.step AnsweredOk .empty ops := by
  constructor
  · rintro ⟨_, kept⟩
    exact kept.mono fun w op => answers_of_failureKept
  · intro answers
    refine ⟨?_, answers.mono fun w op => failureKept_of_answers⟩
    exact always_of_throughout (fun w op => refundedTruly_step) refundedTruly_empty answers

/-- Stripe opens sessions, and cannot be reached for the refund. -/
def refundsFail : Gateway where
  settings := stripeTest.settings
  sdk :=
    { stripeTest.sdk with
      createRefund := fun _ => .error (.other "APIConnectionError" "")
      moves := fun _ => false }

/-- A card order is paid at Stripe, and its refund fails there. -/
def failedRefund : List Operation :=
  [ .createPaymentForOrder refundsFail cardOrder none,
    .handleEvent true
      { id := some "evt_1"
        type := .checkoutCompleted
        ref := some "cs_1"
        paymentIntent := some "pi_1"
        paymentStatus := some .paid },
    .refundPayment refundsFail cardOrder none ]

/-- **A refund that never happened.** -/
theorem failedRefund_not_truly : ¬ ∀ ops, Always World.step RefundedTruly .empty ops := by
  intro always
  have truly := (always failedRefund).last
  have status : ((run World.step .empty failedRefund).payment 1).map Payment.status =
      some .refunded := by decide
  obtain ⟨payment, found, refunded⟩ := Option.map_eq_some_iff.mp status
  obtain ⟨call, member, reference, amount, effective, result, rfl, ok⟩ :=
    truly 1 payment found refunded
  have calls : (run World.step .empty failedRefund).calls =
      [ .authorize 1 "order-1"
          (.ok { ok := true, reference := some "cs_1", status := "open"
                 checkoutUrl := some "https://pay" }),
        .refund 1 (some "pi_1") 20000 false (.ok { ok := false, status := "error" }) ] := by rfl
  rw [calls] at member
  simp only [List.mem_cons, List.not_mem_nil, or_false, reduceCtorEq, false_or,
    ProviderCall.refund.injEq, Except.ok.injEq] at member
  rw [member.2.2.2.2] at ok
  cases ok

end FoodDelivery.Payments
