/-
**The handler of a payment command, action by action.**

A command is delivered at least once, to handlers that may run at the same time and may die between
any two of their actions. What such a handler does to the world is said here once:

* `RefundStage`: what is left of the handler of a refund after some of its actions;
* `refundStage_advance`: the inversion of its next action. It reads the snapshot, reads the payment
  and looks at its status, calls the provider, commits and refreshes, in this order.
-/

import FoodDelivery.Payments.Consumer
import FoodDelivery.Payments.Runs

set_option autoImplicit false

namespace FoodDelivery.Payments

open FoodDelivery.Lib

/-- `{"order_id": …, "action": "refund"}`. -/
def refundCommand (orderId : Nat) : Command where
  orderId := some orderId
  action := some .refund

/-- `{"order_id": …, "action": "settle"}`. -/
def settleCommand (orderId : Nat) : Command where
  orderId := some orderId
  action := some .settle

section Refund

variable (gateway : Gateway) (order : OrderSnapshot) (payment : Payment)

/-- What is left of the handler once it has the snapshot. -/
def refundOf : Handler Unit := do
  let _ ← refundPayment gateway order
  return ()

/-- What is left once the refund has been committed. -/
def reread : Handler Unit := do
  let _ ← refresh payment
  return ()

/-- What is left once the provider has answered. -/
def markRefunded : Handler Unit := do
  commitPayment payment { payment with status := .refunded }
  reread payment

/-- What is left once the payment has passed the guard. -/
def callRefund : Handler Unit := do
  let _ ← callProvider (fun _ => refundCall gateway order none payment)
    (refundAnswer gateway order none payment)
  markRefunded payment

theorem advance_refundCommand (orderId : Nat) (w : World) :
    (applyPaymentCommand gateway (refundCommand orderId)).advance w =
      (w, match w.snapshots.find? orderId with
        | none => .raise (.other "LookupError" ("no snapshot for order " ++ toString orderId ++ " yet"))
        | some snapshot => refundOf gateway snapshot) := by
  unfold applyPaymentCommand refundCommand
  rw [Program.advance_read_bind]
  cases w.snapshots.find? orderId with
  | none => rfl
  | some snapshot => rfl

theorem advance_refundOf (w : World) :
    (refundOf gateway order).advance w =
      (w, match w.payment order.orderId with
        | none => .ret ()
        | some payment =>
          if payment.status ∈ refundable then callRefund gateway order payment else .ret ()) := by
  unfold refundOf refundPayment getPayment
  rw [Program.bind_assoc, Program.advance_read_bind]
  cases w.payment order.orderId with
  | none => rfl
  | some payment =>
    dsimp only
    by_cases may : payment.status ∈ refundable
    · rw [if_neg (ne_refunded_of_refundable may), if_neg (not_not.mpr may), if_pos may]
      unfold callRefund markRefunded reread
      simp only [Program.bind_assoc]
      rfl
    · rw [if_pos may, if_neg may]
      split
      · rfl
      · rfl

theorem advance_callRefund (w : World) :
    (callRefund gateway order payment).advance w =
      (w.call (refundCall gateway order none payment),
        match refundAnswer gateway order none payment with
        | .ok _ => markRefunded payment
        | .error raised => .raise raised) := by
  unfold callRefund callProvider
  cases refundAnswer gateway order none payment with
  | ok result => rfl
  | error raised => rfl

theorem advance_markRefunded (w : World) :
    (markRefunded payment).advance w =
      (w.update payment { payment with status := .refunded }, reread payment) := rfl

theorem advance_reread (w : World) : (reread payment).advance w = (w, .ret ()) := rfl

end Refund

/-- An update of the status alone, seen from any order. -/
theorem World.payment_update_status {w : World} {before : Payment} {status : PaymentTxStatus}
    (changes : status ≠ before.status) (other : Nat) :
    (w.update before { before with status := status }).payment other =
      if other = before.orderId then
        (w.payment other).map fun row => { row with status := status }
      else w.payment other := by
  unfold World.update
  by_cases own : other = before.orderId
  · rw [if_pos own, own]
    cases found : w.payment before.orderId with
    | none => exact found
    | some row =>
      dsimp only
      rw [World.payment_put, if_pos (World.orderId_of_payment found), if_neg changes, if_pos rfl]
      rfl
  · rw [if_neg own]
    cases found : w.payment before.orderId with
    | none => rfl
    | some row =>
      have key := World.orderId_of_payment found
      dsimp only
      rw [World.payment_put, if_neg (by rw [key]; exact Ne.symm own)]

/-! ### The refund -/

/-- **Where the handler of a refund stands** after a number of actions. -/
inductive RefundStage (gateway : Gateway) (orderId : Nat) : Nat → Handler Unit → Prop
  | begun : RefundStage gateway orderId 0 (applyPaymentCommand gateway (refundCommand orderId))
  | known (order : OrderSnapshot) (own : order.orderId = orderId) :
    RefundStage gateway orderId 1 (refundOf gateway order)
  | passed (order : OrderSnapshot) (payment : Payment) (own : order.orderId = orderId)
      (same : payment.orderId = orderId) (may : payment.status ∈ refundable) :
    RefundStage gateway orderId 2 (callRefund gateway order payment)
  | answered (payment : Payment) (same : payment.orderId = orderId)
      (may : payment.status ∈ refundable) : RefundStage gateway orderId 3 (markRefunded payment)
  | committed (payment : Payment) : RefundStage gateway orderId 4 (reread payment)
  | returned (taken : Nat) : RefundStage gateway orderId taken (.ret ())
  | raised (taken : Nat) (raised : Raised) : RefundStage gateway orderId taken (.raise raised)

/-- **What the next action of such a handler does**, from the number of its actions so far: what is
left of the handler, and the world. -/
inductive RefundMoves (gateway : Gateway) (orderId : Nat) (w : World) :
    Nat → Handler Unit → World → Prop
  | unknown (raised : Raised) (absent : w.snapshots.find? orderId = none) :
    RefundMoves gateway orderId w 0 (.raise raised) w
  | known (order : OrderSnapshot) (found : w.snapshots.find? orderId = some order) :
    RefundMoves gateway orderId w 0 (refundOf gateway order) w
  | missing (absent : w.payment orderId = none) : RefundMoves gateway orderId w 1 (.ret ()) w
  | declined (payment : Payment) (found : w.payment orderId = some payment)
      (kept : payment.status ∉ refundable) : RefundMoves gateway orderId w 1 (.ret ()) w
  | passed (order : OrderSnapshot) (payment : Payment) (own : order.orderId = orderId)
      (found : w.payment orderId = some payment) (may : payment.status ∈ refundable) :
    RefundMoves gateway orderId w 1 (callRefund gateway order payment) w
  | answered (order : OrderSnapshot) (payment : Payment) (own : order.orderId = orderId)
      (same : payment.orderId = orderId) (may : payment.status ∈ refundable) :
    RefundMoves gateway orderId w 2 (markRefunded payment)
      (w.call (refundCall gateway order none payment))
  | lost (order : OrderSnapshot) (payment : Payment) (raised : Raised)
      (own : order.orderId = orderId) :
    RefundMoves gateway orderId w 2 (.raise raised) (w.call (refundCall gateway order none payment))
  | committed (payment : Payment) (same : payment.orderId = orderId)
      (may : payment.status ∈ refundable) :
    RefundMoves gateway orderId w 3 (reread payment)
      (w.update payment { payment with status := .refunded })
  | returned : RefundMoves gateway orderId w 4 (.ret ()) w

section

variable {gateway : Gateway} {orderId taken : Nat} {program : Handler Unit} {w next : World}

/-- **The inversion of an action of the handler of a refund.** -/
theorem refundStage_advance (stage : RefundStage gateway orderId taken program)
    (running : program.Running) (w : World) :
    RefundMoves gateway orderId w taken (program.advance w).2 (program.advance w).1 := by
  cases stage with
  | begun =>
    rw [advance_refundCommand]
    cases found : w.snapshots.find? orderId with
    | none => exact .unknown _ found
    | some order => exact .known order found
  | known order own =>
    rw [advance_refundOf, own]
    cases found : w.payment orderId with
    | none => exact .missing found
    | some payment =>
      dsimp only
      by_cases may : payment.status ∈ refundable
      · rw [if_pos may]
        exact .passed order payment own found may
      · rw [if_neg may]
        exact .declined payment found may
  | passed order payment own same may =>
    rw [advance_callRefund]
    cases refundAnswer gateway order none payment with
    | ok result => exact .answered order payment own same may
    | error raised => exact .lost order payment raised own
  | answered payment same may =>
    rw [advance_markRefunded]
    exact .committed payment same may
  | committed payment =>
    rw [advance_reread]
    exact .returned
  | returned taken => exact running.elim
  | raised taken raised => exact running.elim

/-- It stands at the next stage then. -/
theorem RefundMoves.stage (moves : RefundMoves gateway orderId w taken program next) :
    RefundStage gateway orderId (taken + 1) program := by
  cases moves with
  | unknown raised absent => exact .raised _ _
  | known order found => exact .known order (Table.key_of_find? found)
  | missing absent => exact .returned _
  | declined payment found kept => exact .returned _
  | passed order payment own found may =>
    exact .passed order payment own (World.orderId_of_payment found) may
  | answered order payment own same may => exact .answered payment same may
  | lost order payment raised own => exact .raised _ _
  | committed payment same may => exact .committed payment
  | returned => exact .returned _

/-- **A refund writes REFUNDED to its own payment**, by its fourth action, and nothing else. -/
theorem RefundMoves.payment (moves : RefundMoves gateway orderId w taken program next) (other : Nat) :
    next.payment other =
      if taken = 3 ∧ other = orderId then
        (w.payment other).map fun row => { row with status := .refunded }
      else w.payment other := by
  cases moves with
  | committed payment same may =>
    rw [World.payment_update_status (ne_refunded_of_refundable may).symm, same]
    simp
  | _ => exact (if_neg (by omega)).symm

end

/-! ### What a refund keeps -/

theorem World.Refunded.not_refundable {w : World} {orderId : Nat} {payment : Payment}
    (refunded : w.Refunded orderId) (found : w.payment orderId = some payment) :
    payment.status ∉ refundable := by
  unfold World.Refunded at refunded
  rw [found] at refunded
  rw [Option.some.inj refunded]
  decide

section

variable {gateway : Gateway} {orderId taken : Nat} {program : Handler Unit} {w next : World}

theorem RefundMoves.refunded (moves : RefundMoves gateway orderId w taken program next)
    {other : Nat} (refunded : w.Refunded other) : next.Refunded other := by
  unfold World.Refunded at refunded ⊢
  rw [moves.payment other]
  split
  · obtain ⟨payment, found, _⟩ := Option.map_eq_some_iff.mp refunded
    rw [found]
    rfl
  · exact refunded

theorem RefundMoves.present (moves : RefundMoves gateway orderId w taken program next)
    {other : Nat} (present : w.payment other ≠ none) : next.payment other ≠ none := by
  rw [moves.payment other]
  split
  · exact fun gone => present (Option.map_eq_none_iff.mp gone)
  · exact present

/-- The fourth action leaves a payment REFUNDED. -/
theorem RefundMoves.commits (moves : RefundMoves gateway orderId w 3 program next)
    (present : w.payment orderId ≠ none) : next.Refunded orderId := by
  obtain ⟨payment, found⟩ := Option.ne_none_iff_exists'.mp present
  unfold World.Refunded
  rw [moves.payment orderId, if_pos ⟨rfl, rfl⟩, found]
  rfl

end

/-! ### The settle -/

section Settle

variable (gateway : Gateway) (order : OrderSnapshot) (payment : Payment)

/-- What is left of the handler of a settle once it has the snapshot. -/
def captureOf : Handler Unit := do
  let _ ← capturePayment order
  return ()

/-- What is left once the payment has passed the guard. -/
def markSucceeded : Handler Unit := do
  commitPayment payment { payment with status := .succeeded }
  reread payment

theorem advance_settleCommand (orderId : Nat) (w : World) :
    (applyPaymentCommand gateway (settleCommand orderId)).advance w =
      (w, match w.snapshots.find? orderId with
        | none => .raise (.other "LookupError" ("no snapshot for order " ++ toString orderId ++ " yet"))
        | some snapshot => captureOf snapshot) := by
  unfold applyPaymentCommand settleCommand
  rw [Program.advance_read_bind]
  cases w.snapshots.find? orderId with
  | none => rfl
  | some snapshot => rfl

theorem advance_captureOf (w : World) :
    (captureOf order).advance w =
      (w, match w.payment order.orderId with
        | none => .ret ()
        | some payment => if payment.status ∈ capturable then markSucceeded payment else .ret ()) := by
  unfold captureOf capturePayment getPayment
  rw [Program.bind_assoc, Program.advance_read_bind]
  cases w.payment order.orderId with
  | none => rfl
  | some payment =>
    dsimp only
    by_cases may : payment.status ∈ capturable
    · rw [if_neg (not_not.mpr may), if_pos may]
      unfold markSucceeded reread
      simp only [Program.bind_assoc]
      rfl
    · rw [if_pos may, if_neg may]
      rfl

theorem advance_markSucceeded (w : World) :
    (markSucceeded payment).advance w =
      (w.update payment { payment with status := .succeeded }, reread payment) := rfl

end Settle

/-- **Where the handler of a settle stands** after a number of actions. -/
inductive SettleStage (gateway : Gateway) (orderId : Nat) : Nat → Handler Unit → Prop
  | begun : SettleStage gateway orderId 0 (applyPaymentCommand gateway (settleCommand orderId))
  | known (order : OrderSnapshot) (own : order.orderId = orderId) :
    SettleStage gateway orderId 1 (captureOf order)
  | passed (payment : Payment) (same : payment.orderId = orderId)
      (may : payment.status ∈ capturable) : SettleStage gateway orderId 2 (markSucceeded payment)
  | committed (payment : Payment) : SettleStage gateway orderId 3 (reread payment)
  | returned (taken : Nat) : SettleStage gateway orderId taken (.ret ())
  | raised (taken : Nat) (raised : Raised) : SettleStage gateway orderId taken (.raise raised)

/-- **An action of the handler of a settle.** It moves on to the next stage, and by its third action
writes SUCCEEDED to its own payment, and nothing else. -/
theorem settleStage_advance {gateway : Gateway} {orderId taken : Nat} {program : Handler Unit}
    (stage : SettleStage gateway orderId taken program) (running : program.Running) (w : World) :
    SettleStage gateway orderId (taken + 1) (program.advance w).2 ∧
      ∀ other, (program.advance w).1.payment other =
        if taken = 2 ∧ other = orderId then
          (w.payment other).map fun row => { row with status := .succeeded }
        else w.payment other := by
  cases stage with
  | begun =>
    rw [advance_settleCommand]
    refine ⟨?_, fun other => (if_neg (by omega)).symm⟩
    cases found : w.snapshots.find? orderId with
    | none => exact .raised _ _
    | some order => exact .known order (Table.key_of_find? found)
  | known order own =>
    rw [advance_captureOf, own]
    refine ⟨?_, fun other => (if_neg (by omega)).symm⟩
    cases found : w.payment orderId with
    | none => exact .returned _
    | some payment =>
      dsimp only
      by_cases may : payment.status ∈ capturable
      · rw [if_pos may]
        exact .passed payment (World.orderId_of_payment found) may
      · rw [if_neg may]
        exact .returned _
  | passed payment same may =>
    rw [advance_markSucceeded]
    refine ⟨.committed payment, fun other => ?_⟩
    rw [World.payment_update_status (ne_succeeded_of_capturable may).symm, same]
    simp
  | committed payment =>
    rw [advance_reread]
    exact ⟨.returned _, fun other => (if_neg (by omega)).symm⟩
  | returned taken => exact running.elim
  | raised taken raised => exact running.elim

end FoodDelivery.Payments
