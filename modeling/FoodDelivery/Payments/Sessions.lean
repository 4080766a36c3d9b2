/-
**Which events of a Checkout Session settle its order.**

The row of a payment is looked up by one reference, which is the session's id until one of the
session's own events replaces it by the intent's, and which every retry and resume replaces by the id
of a new session. An event that arrives while the row holds another reference is `unknown`, and its
retry a duplicate.

`settled_iff`: after any history of checkouts, retries, resumes and settling events, the order's
payment is SUCCEEDED and announced exactly when some event found the order's row under the id it
carries (`SettlesOrder`), and no resume has opened a new session since (`Reopens`).
-/

import FoodDelivery.Lib.Histories
import FoodDelivery.Payments.Crashes
import FoodDelivery.Payments.Growth

set_option autoImplicit false

namespace FoodDelivery.Payments

open FoodDelivery.Lib

/-! ### Histories of an order's sessions -/

/-- The operations that open sessions, and the events of sessions that are paid or being paid. -/
def Operation.OfSessions : Operation → Prop
  | .createPaymentForOrder _ _ _ => True
  | .retryPayment _ _ _ => True
  | .resumeCardPayment _ _ _ => True
  | .handleEvent _ event => event.type ∈ settles
  | _ => False

/-- An event that says the session was paid is not a duplicate, and carries the id that the order's
row holds. -/
def SettlesOrder (orderId : Nat) (w : World) (op : Operation) : Prop :=
  ∃ redis event payment, op = .handleEvent redis event ∧ event.ActsOn redis w payment ∧
    payment.orderId = orderId ∧ event.type ∈ settles ∧ event.awaiting = false

/-- A resume that finds the order's snapshot still at PAYMENT_PENDING, and whose provider answers. -/
def Reopens (orderId : Nat) (w : World) (op : Operation) : Prop :=
  ∃ gateway order provider payment result, op = .resumeCardPayment gateway order provider ∧
    order.orderId = orderId ∧ w.payment orderId = some payment ∧
    awaitsCard order payment = true ∧
    authorization gateway order provider .card (resumeKey order.orderId) = .ok result

/-! ### One step -/

variable {w : World} {op : Operation} {orderId : Nat}

/-- An event that settles the order leaves it SUCCEEDED and announced. -/
theorem settled_of_settles (settling : SettlesOrder orderId w op) :
    (w.step op).Succeeded orderId ∧ (w.step op).Announced orderId := by
  obtain ⟨redis, event, payment, rfl, acts, rfl, kind, paid⟩ := settling
  have other := not_fails_of_settles kind
  have waits : ¬ event.awaiting = true := by
    rw [paid]
    exact Bool.false_ne_true
  have known : event.type ∈ settles ++ fails := List.mem_append_left _ kind
  constructor
  · unfold World.Succeeded
    rw [payment_of_event acts known, Payment.afterEvent, if_neg other, if_neg waits]
    rfl
  · rw [World.step, exec_handleEvent, if_pos acts.unseen, exec_applyEvent, if_pos known,
      World.paymentByRef_marked, acts.found]
    dsimp only
    rw [if_neg other, if_neg waits]
    exact announced_record (succeededEvent payment) rfl rfl

/-- A session that is reopened leaves the order waiting. -/
theorem not_succeeded_of_reopens (reopens : Reopens orderId w op) :
    ¬ (w.step op).Succeeded orderId := by
  obtain ⟨gateway, order, provider, payment, result, rfl, rfl, found, awaits, answered⟩ := reopens
  unfold World.Succeeded
  rw [payment_of_resume found awaits answered]
  show ¬ some (if result.ok then PaymentTxStatus.authorized else .failed) = _
  cases result.ok <;> decide

/-- **One step of a history of sessions.** -/
theorem succeeded_step (ofSessions : op.OfSessions) : (w.step op).Succeeded orderId ↔
    SettlesOrder orderId w op ∨ (w.Succeeded orderId ∧ ¬ Reopens orderId w op) := by
  constructor
  · intro succeeded
    have kept : w.Succeeded orderId → SettlesOrder orderId w op ∨
        (w.Succeeded orderId ∧ ¬ Reopens orderId w op) :=
      fun before => Or.inr ⟨before, fun reopens => not_succeeded_of_reopens reopens succeeded⟩
    unfold World.Succeeded at succeeded
    cases w.touched op orderId with
    | same row events =>
      rw [row] at succeeded
      exact kept succeeded
    | created gateway order provider result operation own absent answered row events =>
      rw [row] at succeeded
      unfold newPayment at succeeded
      cases ok : result.ok <;> simp [ok] at succeeded
    | retried gateway order provider payment result operation own found may answered row events =>
      rw [row] at succeeded
      unfold Payment.reauthorized at succeeded
      cases ok : result.ok <;> simp [ok] at succeeded
    | resumed gateway order provider payment result operation own found may answered row events =>
      rw [row] at succeeded
      unfold Payment.reauthorized at succeeded
      cases ok : result.ok <;> simp [ok] at succeeded
    | awaited redis event payment operation acts found kind waits row events =>
      rw [row] at succeeded
      refine kept ?_
      unfold World.Succeeded
      rw [found]
      exact succeeded
    | settled redis event payment operation acts found kind paid row events =>
      exact Or.inl ⟨redis, event, payment, operation, acts, World.orderId_of_payment found, kind, paid⟩
    | failed redis event payment operation acts found kind row events =>
      subst operation
      exact absurd kind (not_fails_of_settles ofSessions)
    | captured order payment operation => subst operation; exact ofSessions.elim
    | confirmed gateway order provider payment result operation =>
      subst operation
      exact ofSessions.elim
    | refunded gateway order provider payment result operation =>
      subst operation
      exact ofSessions.elim
  · rintro (settling | ⟨succeeded, not_reopened⟩)
    · exact (settled_of_settles settling).1
    · unfold World.Succeeded at succeeded ⊢
      obtain ⟨payment, found, status⟩ := Option.map_eq_some_iff.mp succeeded
      cases w.touched op orderId with
      | same row events => rw [row, succeeded]
      | created gateway order provider result operation own absent answered row events =>
        rw [absent] at found
        cases found
      | retried gateway order provider was result operation own here may answered row events =>
        cases here.symm.trans found
        rw [status] at may
        cases may
      | resumed gateway order provider was result operation own here may answered row events =>
        subst own
        exact absurd ⟨gateway, order, provider, was, result, operation, rfl, here, may, answered⟩
          not_reopened
      | awaited redis event was operation acts here kind waits row events =>
        cases here.symm.trans found
        rw [row]
        exact congrArg some status
      | settled redis event was operation acts here kind paid row events =>
        rw [row]
        rfl
      | failed redis event was operation acts here kind row events =>
        subst operation
        exact absurd kind (not_fails_of_settles ofSessions)
      | captured order was operation => subst operation; exact ofSessions.elim
      | confirmed gateway order provider was result operation =>
        subst operation
        exact ofSessions.elim
      | refunded gateway order provider was result operation =>
        subst operation
        exact ofSessions.elim

/-- A step never takes an announcement back. -/
theorem announced_step (announced : w.Announced orderId) (op : Operation) :
    (w.step op).Announced orderId := by
  obtain ⟨recorded, member, succeeded⟩ := announced
  obtain ⟨here, own⟩ := List.mem_filter.mp member
  exact ⟨recorded, List.mem_filter.mpr ⟨(grows_step w op).outbox.subset here, own⟩, succeeded⟩

/-! ### A whole history -/

variable {start : World}

theorem succeeded_run (absent : start.payment orderId = none) (ops : List Operation)
    (ofSessions : ∀ op ∈ ops, op.OfSessions) :
    (run World.step start ops).Succeeded orderId ↔
      Since (fun before op => SettlesOrder orderId (run World.step start before) op)
        (fun before op => Reopens orderId (run World.step start before) op) ops := by
  have unset : ¬ start.Succeeded orderId := by
    unfold World.Succeeded
    rw [absent]
    intro same
    cases same
  exact run_iff_since (fun _ => True) (World.Succeeded · orderId) (fun _ _ _ _ => trivial) trivial
    unset fun _ op member _ => succeeded_step (ofSessions op member)

/-- What settled the order once has announced it. -/
theorem announced_run (ops : List Operation)
    (settled : Somewhere (fun before op => SettlesOrder orderId (run World.step start before) op)
      ops) : (run World.step start ops).Announced orderId := by
  induction ops using List.reverseRecOn with
  | nil => exact absurd settled somewhere_nil
  | append_singleton ops op ih =>
    rw [run_append]
    rcases somewhere_append_singleton.mp settled with before | last
    · exact announced_step (ih before) op
    · exact (settled_of_settles last).2

/-- **When a paid session settles its order.** After a history of checkouts, retries, resumes and
settling events, the payment is SUCCEEDED and announced exactly when some event that reported it paid
found the order's row under the id it carries, and no resume has opened a new session since. -/
theorem settled_iff (start : World) (orderId : Nat) (ops : List Operation)
    (absent : start.payment orderId = none) (ofSessions : ∀ op ∈ ops, op.OfSessions) :
    (run World.step start ops).Settled orderId ↔
      Since (fun before op => SettlesOrder orderId (run World.step start before) op)
        (fun before op => Reopens orderId (run World.step start before) op) ops := by
  rw [← succeeded_run absent ops ofSessions]
  constructor
  · exact fun settled => settled.1
  · intro succeeded
    refine ⟨succeeded, announced_run ops ?_⟩
    exact ((succeeded_run absent ops ofSessions).mp succeeded).somewhere

/-! ### A session that is paid by a delayed method -/

/-- The session is completed, and not paid yet. -/
def unpaidCompletion : StripeEvent where
  id := some "evt_1"
  type := .checkoutCompleted
  ref := some "cs_1"
  paymentIntent := some "pi_1"
  paymentStatus := some .unpaid

/-- The delayed payment has arrived. -/
def delayedPayment : StripeEvent where
  id := some "evt_2"
  type := .checkoutAsyncSucceeded
  ref := some "cs_1"
  paymentIntent := some "pi_1"
  paymentStatus := some .paid

/-- The intent has been paid. -/
def intentPaid : StripeEvent where
  id := some "evt_3"
  type := .intentSucceeded
  ref := some "pi_1"

/-- The session's three events, in the order in which they happened. -/
def inOrder : List Operation :=
  [ .createPaymentForOrder stripeTest cardOrder none, .handleEvent true unpaidCompletion,
    .handleEvent true intentPaid, .handleEvent true delayedPayment ]

/-- The same events, the intent's first. -/
def intentFirst : List Operation :=
  [ .createPaymentForOrder stripeTest cardOrder none, .handleEvent true intentPaid,
    .handleEvent true unpaidCompletion, .handleEvent true delayedPayment ]

theorem settled_iff_inOrder : (run World.step .empty inOrder).Settled 1 ↔
    Since (fun before op => SettlesOrder 1 (run World.step .empty before) op)
      (fun before op => Reopens 1 (run World.step .empty before) op) inOrder := by
  refine settled_iff .empty 1 inOrder rfl fun op member => ?_
  simp only [inOrder, List.mem_cons, List.not_mem_nil, or_false] at member
  rcases member with rfl | rfl | rfl | rfl
  · trivial
  · show EventType.checkoutCompleted ∈ settles
    decide
  · show EventType.intentSucceeded ∈ settles
    decide
  · show EventType.checkoutAsyncSucceeded ∈ settles
    decide

/-- A checkout, a retry or a resume that leaves the order's row with the id of the session it opened. -/
def Opens (orderId : Nat) (session : String) (w : World) (op : Operation) : Prop :=
  (∃ gateway order provider, order.orderId = orderId ∧
    (op = .createPaymentForOrder gateway order provider ∨ op = .retryPayment gateway order provider ∨
      op = .resumeCardPayment gateway order provider)) ∧
    (w.payment orderId).bind Payment.providerRef ≠ some session ∧
    ((w.step op).payment orderId).bind Payment.providerRef = some session

/-- **A paid session that settles nothing.** -/
theorem intentFirst_unsettled : ¬ ∀ (start : World) (orderId : Nat) (before after : List Operation)
    (opening : Operation), start.payment orderId = none →
    (∀ op ∈ before ++ opening :: after, op.OfSessions) →
    Opens orderId "cs_1" (run World.step start before) opening →
    (∀ event ∈ [unpaidCompletion, delayedPayment, intentPaid], .handleEvent true event ∈ after) →
    (run World.step start (before ++ opening :: after)).Settled orderId := by
  intro settled
  have all : ∀ op ∈ intentFirst, op.OfSessions := by
    intro op member
    simp only [intentFirst, List.mem_cons, List.not_mem_nil, or_false] at member
    rcases member with rfl | rfl | rfl | rfl
    · trivial
    · show EventType.intentSucceeded ∈ settles
      decide
    · show EventType.checkoutCompleted ∈ settles
      decide
    · show EventType.checkoutAsyncSucceeded ∈ settles
      decide
  have opens : Opens 1 "cs_1" .empty (.createPaymentForOrder stripeTest cardOrder none) :=
    ⟨⟨_, _, _, rfl, Or.inl rfl⟩, by decide, by decide⟩
  have delivered : ∀ event ∈ [unpaidCompletion, delayedPayment, intentPaid],
      Operation.handleEvent true event ∈ intentFirst.tail := by
    simp [intentFirst]
  have status := (settled .empty 1 [] intentFirst.tail _ rfl all opens delivered).1
  have waits : ((run World.step .empty intentFirst).payment 1).map Payment.status =
      some .authorized := by decide
  cases waits.symm.trans status

end FoodDelivery.Payments
