/-
**Runs of the payments service**: its functions, each run to completion, in any order.

* `exec_…`: what each function leaves, as one equation;
* `World.touched`: the inversion of a step for the payment of one order. Every status and every
  reference a payment can get is one of its cases, with what the step was and what it found; an
  invariant of a payment is proved from them and from nothing else.
-/

import FoodDelivery.Lib.Runs
import FoodDelivery.Payments.Webhook

set_option autoImplicit false

namespace FoodDelivery.Payments

open FoodDelivery.Lib

/-! ### The actions of a handler -/

section Actions

variable {α : Type} (w : World)

@[simp] theorem exec_getPayment_bind (orderId : Nat) (rest : Option Payment → Handler α) :
    (getPayment orderId >>= rest).exec w = (rest (w.payment orderId)).exec w := rfl

@[simp] theorem exec_commitPayment_bind (before after : Payment) (rest : Unit → Handler α) :
    (commitPayment before after >>= rest).exec w = (rest ()).exec (w.update before after) := rfl

@[simp] theorem exec_refresh_bind (payment : Payment) (rest : Payment → Handler α) :
    (refresh payment >>= rest).exec w =
      (rest ((w.payment payment.orderId).getD payment)).exec w := rfl

@[simp] theorem exec_commitEvent_bind (event : PaymentEvent) (rest : Unit → Handler α) :
    (commitEvent event >>= rest).exec w = (rest ()).exec (w.record event) := rfl

@[simp] theorem exec_insertPayment_bind (payment : Payment) (rest : Bool → Handler α) :
    (insertPayment payment >>= rest).exec w =
      (rest (decide (w.payment payment.orderId = none))).exec
        (if w.payment payment.orderId = none then w.put payment else w) := rfl

theorem exec_callProvider_bind (record : Except Raised ProviderResult → ProviderCall)
    (outcome : Except Raised ProviderResult) (rest : ProviderResult → Handler α) :
    (callProvider record outcome >>= rest).exec w =
      match outcome with
      | .ok result => (rest result).exec (w.call (record outcome))
      | .error raised => (w.call (record outcome), .error raised) := by
  cases outcome with
  | ok result => rfl
  | error raised => rfl

/-- Raising or not, nothing changes. -/
theorem exec_raiseIfProviderFailed_bind (result : ProviderResult) (rest : Unit → Handler α)
    (keeps : (rest ()).exec w = (w, ((rest ()).exec w).2)) :
    ((raiseIfProviderFailed result >>= rest).exec w).1 = w := by
  unfold raiseIfProviderFailed
  split
  · rfl
  · show ((rest ()).exec w).1 = w
    rw [keeps]

end Actions

/-! ### Each function, run to completion -/

section Functions

variable (gateway : Gateway) (order : OrderSnapshot) (provider : Option PaymentProvider) (w : World)

/-- The idempotency keys of an order: a checkout's, a retry's and a resume's. -/
def checkoutKey (orderId : Nat) : String := "order-" ++ toString orderId

def retryKey (orderId : Nat) : String := checkoutKey orderId ++ "-retry"

def resumeKey (orderId : Nat) : String := checkoutKey orderId ++ "-resume"

/-- What the provider answers to an authorisation of the order under a key. -/
def authorization (method : PaymentMethod) (key : String) : Except Raised ProviderResult :=
  (providerOr provider gateway method).authorize order.total key order.orderId

/-- What it answers when it is asked whether a reference has been paid. -/
def verification (reference : Option String) : Except Raised ProviderResult :=
  (providerOr provider gateway .card).verify reference

/-- What it answers to a refund of a payment. -/
def refundAnswer (payment : Payment) : Except Raised ProviderResult :=
  (providerOr provider gateway payment.provider).refund payment.providerRef order.total

/-- The record of that refund. -/
def refundCall (payment : Payment) : ProviderCall :=
  .refund order.orderId payment.providerRef order.total
    ((providerOr provider gateway payment.provider).moves payment.providerRef order.total)
    (refundAnswer gateway order provider payment)

/-- The world after a call, and after what an answer to it leads to. -/
def World.answered (record : Except Raised ProviderResult → ProviderCall)
    (outcome : Except Raised ProviderResult) (next : ProviderResult → World → World) : World :=
  match outcome with
  | .ok result => next result (w.call (record outcome))
  | .error _ => w.call (record outcome)

/-- The payment that a new authorisation leaves. -/
def Payment.reauthorized (payment : Payment) (result : ProviderResult) : Payment :=
  { payment with
    status := if result.ok then .authorized else .failed
    providerRef := result.reference }

theorem exec_createPaymentForOrder :
    ((createPaymentForOrder gateway order provider).exec w).1 =
      match w.payment order.orderId with
      | some _ => w
      | none =>
        w.answered (.authorize order.orderId (checkoutKey order.orderId))
          (authorization gateway order provider order.paymentMethod (checkoutKey order.orderId))
          fun result called =>
            called.put (newPayment order (providerOr provider gateway order.paymentMethod) result) := by
  unfold createPaymentForOrder World.answered authorization checkoutKey
  simp only [exec_getPayment_bind]
  cases found : w.payment order.orderId with
  | some existing => rfl
  | none =>
    dsimp only
    cases (providerOr provider gateway order.paymentMethod).authorize order.total
        ("order-" ++ toString order.orderId) order.orderId with
    | error raised => rfl
    | ok result =>
      have absent : (w.call (.authorize order.orderId ("order-" ++ toString order.orderId)
          (.ok result))).payment (newPayment order (providerOr provider gateway order.paymentMethod)
            result).orderId = none := found
      simp only [exec_callProvider_bind, exec_insertPayment_bind, absent, decide_true, if_true]
      rfl

theorem exec_capturePayment :
    ((capturePayment order).exec w).1 =
      match w.payment order.orderId with
      | none => w
      | some payment =>
        if payment.status ∈ capturable then w.put { payment with status := .succeeded } else w := by
  unfold capturePayment
  simp only [exec_getPayment_bind]
  cases found : w.payment order.orderId with
  | none => rfl
  | some payment =>
    have same := World.orderId_of_payment found
    dsimp only
    by_cases may : payment.status ∈ capturable
    · simp only [may, not_true_eq_false, if_false, if_true]
      show w.update payment _ = _
      exact World.update_of_current (same ▸ found)
    · simp only [may, not_false_eq_true, if_true, if_false]
      rfl

/-- What the two functions that open a new authorisation do once they have their answer. -/
theorem exec_reauthorize {α : Type} {payment : Payment}
    {record : Except Raised ProviderResult → ProviderCall} (outcome : Except Raised ProviderResult)
    (rest : ProviderResult → Payment → α)
    (found : w.payment payment.orderId = some payment) :
    (((do
      let result ← callProvider record outcome
      commitPayment payment { payment with
        status := if result.ok then .authorized else .failed
        providerRef := result.reference }
      let payment ← refresh payment
      raiseIfProviderFailed result
      return rest result payment) : Handler α).exec w).1 =
      w.answered record outcome fun result called => called.put (payment.reauthorized result) := by
  unfold World.answered
  rw [exec_callProvider_bind]
  cases outcome with
  | error raised => rfl
  | ok result =>
    simp only [exec_commitPayment_bind, exec_refresh_bind]
    rw [exec_raiseIfProviderFailed_bind _ _ _ rfl]
    exact World.update_of_current (w := w.call (record (.ok result))) found

theorem exec_retryPayment :
    ((retryPayment gateway order provider).exec w).1 =
      match w.payment order.orderId with
      | none => w
      | some payment =>
        if payment.status = .failed then
          w.answered (.authorize order.orderId (retryKey order.orderId))
            (authorization gateway order provider payment.provider (retryKey order.orderId))
            fun result called => called.put (payment.reauthorized result)
        else w := by
  unfold retryPayment
  simp only [exec_getPayment_bind]
  cases found : w.payment order.orderId with
  | none => rfl
  | some payment =>
    have same := World.orderId_of_payment found
    dsimp only
    by_cases failed : payment.status = .failed
    · rw [if_neg (not_not.mpr failed), if_pos failed]
      exact exec_reauthorize w _ (fun _ payment => some payment) (same ▸ found)
    · rw [if_pos failed, if_neg failed]
      rfl

/-- An order whose card payment is still awaited, as its snapshot has it. -/
def awaitsCard (order : OrderSnapshot) (payment : Payment) : Bool :=
  payment.provider = .card ∧ order.status = some .paymentPending

theorem exec_resumeCardPayment :
    ((resumeCardPayment gateway order provider).exec w).1 =
      match w.payment order.orderId with
      | none => w
      | some payment =>
        if awaitsCard order payment then
          w.answered (.authorize order.orderId (resumeKey order.orderId))
            (authorization gateway order provider .card (resumeKey order.orderId))
            fun result called => called.put (payment.reauthorized result)
        else w := by
  unfold resumeCardPayment awaitsCard
  simp only [exec_getPayment_bind]
  cases found : w.payment order.orderId with
  | none => rfl
  | some payment =>
    have same := World.orderId_of_payment found
    dsimp only
    by_cases awaits : payment.provider = .card ∧ order.status = some .paymentPending
    · have not_done : ¬ (payment.provider ≠ .card ∨ order.status ≠ some .paymentPending) := by
        tauto
      rw [if_neg not_done, if_pos (decide_eq_true awaits)]
      exact exec_reauthorize w _ (fun result payment => some (Receipt.mk payment result.checkoutUrl))
        (same ▸ found)
    · have done : payment.provider ≠ .card ∨ order.status ≠ some .paymentPending := by
        tauto
      rw [if_pos done, if_neg (by simpa using awaits)]
      rfl

theorem exec_confirmCardPayment :
    ((confirmCardPayment gateway order provider).exec w).1 =
      match w.payment order.orderId with
      | none => w
      | some payment =>
        if awaitsCard order payment then
          w.answered (.verify order.orderId payment.providerRef)
            (verification gateway provider payment.providerRef)
            fun result called =>
              if result.ok then
                (called.put { payment with
                  status := .succeeded
                  providerRef := orElse result.reference payment.providerRef }).record
                  (succeededEvent payment)
              else called
        else w := by
  unfold confirmCardPayment awaitsCard World.answered verification
  simp only [exec_getPayment_bind]
  cases found : w.payment order.orderId with
  | none => rfl
  | some payment =>
    have same := World.orderId_of_payment found
    dsimp only
    by_cases awaits : payment.provider = .card ∧ order.status = some .paymentPending
    · have not_done : ¬ (payment.provider ≠ .card ∨ order.status ≠ some .paymentPending) := by
        tauto
      rw [if_neg not_done, if_pos (decide_eq_true awaits), exec_callProvider_bind]
      cases (providerOr provider gateway .card).verify payment.providerRef with
      | error raised => rfl
      | ok result =>
        dsimp only
        cases ok : result.ok with
        | false => rfl
        | true =>
          rw [if_neg Bool.noConfusion, if_pos rfl]
          simp only [exec_commitPayment_bind, exec_refresh_bind, exec_commitEvent_bind]
          rw [World.update_of_current (by exact same ▸ found)]
          simp only [World.payment_put, if_true, Option.getD_some]
          rw [← same]
          rfl
    · have done : payment.provider ≠ .card ∨ order.status ≠ some .paymentPending := by
        tauto
      rw [if_pos done, if_neg (by simpa using awaits)]
      rfl

theorem exec_refundPayment :
    ((refundPayment gateway order provider).exec w).1 =
      match w.payment order.orderId with
      | none => w
      | some payment =>
        if payment.status ∈ refundable then
          w.answered (fun _ => refundCall gateway order provider payment)
            (refundAnswer gateway order provider payment)
            fun _ called => called.put { payment with status := .refunded }
        else w := by
  unfold refundPayment World.answered refundCall refundAnswer
  simp only [exec_getPayment_bind]
  cases found : w.payment order.orderId with
  | none => rfl
  | some payment =>
    have same := World.orderId_of_payment found
    dsimp only
    by_cases may : payment.status ∈ refundable
    · rw [if_neg (ne_refunded_of_refundable may), if_neg (not_not.mpr may), if_pos may,
        exec_callProvider_bind]
      cases (providerOr provider gateway payment.provider).refund payment.providerRef
          order.total with
      | error raised => rfl
      | ok result => exact World.update_of_current (by exact same ▸ found)
    · rw [if_pos may, if_neg may]
      split
      · rfl
      · rfl

end Functions

section Events

variable (event : StripeEvent) (redis : Bool) (w : World)

/-- The event is not one that has been seen. -/
def StripeEvent.unseen (event : StripeEvent) (redis : Bool) (w : World) : Bool :=
  match event.dedupeId redis with
  | none => true
  | some eventId => seenKey eventId ∉ w.seen

/-- The world after the dedupe. -/
def World.marked (w : World) (event : StripeEvent) (redis : Bool) : World :=
  match event.dedupeId redis with
  | none => w
  | some eventId =>
    if seenKey eventId ∈ w.seen then w else { w with seen := w.seen ++ [seenKey eventId] }

/-- What an event that is acted on leaves of the payment it found. -/
def Payment.settledBy (payment : Payment) (event : StripeEvent) : Payment :=
  { payment with status := .succeeded, providerRef := event.refAfter payment.providerRef }

theorem exec_applyEvent :
    ((applyEvent event).exec w).1 =
      if event.type ∈ settles ++ fails then
        match w.paymentByRef event.ref with
        | none => w
        | some payment =>
          if event.type ∈ fails then w.put { payment with status := .failed }
          else if event.awaiting then
            w.put { payment with providerRef := event.refAfter payment.providerRef }
          else (w.put (payment.settledBy event)).record (succeededEvent payment)
      else w := by
  unfold applyEvent
  by_cases known : event.type ∈ settles ++ fails
  · rw [if_neg (not_not.mpr known), if_pos known, Program.exec_read_bind]
    cases found : w.paymentByRef event.ref with
    | none => rfl
    | some payment =>
      have current : w.payment payment.orderId = some payment := (Table.find?_of_first? found).1
      dsimp only
      split
      · exact World.update_of_current current
      · split
        · exact World.update_of_current current
        · show (w.update payment (payment.settledBy event)).record (succeededEvent payment) = _
          unfold Payment.settledBy
          rw [World.update_of_current current]
  · rw [if_pos known, if_neg known]
    rfl

theorem exec_handleEvent :
    ((handleEvent redis event).exec w).1 =
      if event.unseen redis w then ((applyEvent event).exec (w.marked event redis)).1 else w := by
  unfold handleEvent StripeEvent.unseen World.marked
  cases event.dedupeId redis with
  | none => rfl
  | some eventId =>
    by_cases present : seenKey eventId ∈ w.seen
    · simp [setSeen, present]
    · simp [setSeen, present]

end Events

/-! ### Operations -/

/-- What the service is asked to do, with the snapshot of the order as the caller read it and the
provider as it answers this time. `expireSeen` is Redis losing dedupe keys: their lifetime ends. -/
inductive Operation where
  | createPaymentForOrder (gateway : Gateway) (order : OrderSnapshot)
    (provider : Option PaymentProvider)
  | capturePayment (order : OrderSnapshot)
  | retryPayment (gateway : Gateway) (order : OrderSnapshot) (provider : Option PaymentProvider)
  | resumeCardPayment (gateway : Gateway) (order : OrderSnapshot)
    (provider : Option PaymentProvider)
  | confirmCardPayment (gateway : Gateway) (order : OrderSnapshot)
    (provider : Option PaymentProvider)
  | refundPayment (gateway : Gateway) (order : OrderSnapshot) (provider : Option PaymentProvider)
  | handleEvent (redis : Bool) (event : StripeEvent)
  | expireSeen (keys : List String)

/-- One operation, run to completion. -/
def World.step (w : World) : Operation → World
  | .createPaymentForOrder gateway order provider =>
    ((Payments.createPaymentForOrder gateway order provider).exec w).1
  | .capturePayment order => ((Payments.capturePayment order).exec w).1
  | .retryPayment gateway order provider => ((Payments.retryPayment gateway order provider).exec w).1
  | .resumeCardPayment gateway order provider =>
    ((Payments.resumeCardPayment gateway order provider).exec w).1
  | .confirmCardPayment gateway order provider =>
    ((Payments.confirmCardPayment gateway order provider).exec w).1
  | .refundPayment gateway order provider =>
    ((Payments.refundPayment gateway order provider).exec w).1
  | .handleEvent redis event => ((Payments.handleEvent redis event).exec w).1
  | .expireSeen keys => { w with seen := w.seen.filter (· ∉ keys) }

/-! ### The inversion of a step -/

/-- An event that is acted on: not seen before, and of a type the handler knows. -/
structure StripeEvent.ActsOn (event : StripeEvent) (redis : Bool) (w : World) (payment : Payment) :
    Prop where
  unseen : event.unseen redis w = true
  found : w.paymentByRef event.ref = some payment

/-- What a step can do to the payment of one order. -/
inductive Touched (op : Operation) (orderId : Nat) (w next : World) : Prop
  | same (row : next.payment orderId = w.payment orderId)
      (events : next.eventsOf orderId = w.eventsOf orderId)
  | created (gateway : Gateway) (order : OrderSnapshot) (provider : Option PaymentProvider)
      (result : ProviderResult) (operation : op = .createPaymentForOrder gateway order provider)
      (own : order.orderId = orderId) (absent : w.payment orderId = none)
      (answered : authorization gateway order provider order.paymentMethod
        (checkoutKey order.orderId) = .ok result)
      (row : next.payment orderId =
        some (newPayment order (providerOr provider gateway order.paymentMethod) result))
      (events : next.eventsOf orderId = w.eventsOf orderId)
  | captured (order : OrderSnapshot) (payment : Payment) (operation : op = .capturePayment order)
      (own : order.orderId = orderId) (found : w.payment orderId = some payment)
      (may : payment.status ∈ capturable)
      (row : next.payment orderId = some { payment with status := .succeeded })
      (events : next.eventsOf orderId = w.eventsOf orderId)
  | retried (gateway : Gateway) (order : OrderSnapshot) (provider : Option PaymentProvider)
      (payment : Payment) (result : ProviderResult)
      (operation : op = .retryPayment gateway order provider) (own : order.orderId = orderId)
      (found : w.payment orderId = some payment) (may : payment.status = .failed)
      (answered : authorization gateway order provider payment.provider (retryKey order.orderId) =
        .ok result)
      (row : next.payment orderId = some (payment.reauthorized result))
      (events : next.eventsOf orderId = w.eventsOf orderId)
  | resumed (gateway : Gateway) (order : OrderSnapshot) (provider : Option PaymentProvider)
      (payment : Payment) (result : ProviderResult)
      (operation : op = .resumeCardPayment gateway order provider) (own : order.orderId = orderId)
      (found : w.payment orderId = some payment) (may : awaitsCard order payment = true)
      (answered : authorization gateway order provider .card (resumeKey order.orderId) = .ok result)
      (row : next.payment orderId = some (payment.reauthorized result))
      (events : next.eventsOf orderId = w.eventsOf orderId)
  | confirmed (gateway : Gateway) (order : OrderSnapshot) (provider : Option PaymentProvider)
      (payment : Payment) (result : ProviderResult)
      (operation : op = .confirmCardPayment gateway order provider) (own : order.orderId = orderId)
      (found : w.payment orderId = some payment) (may : awaitsCard order payment = true)
      (answered : verification gateway provider payment.providerRef = .ok result)
      (paid : result.ok = true)
      (row : next.payment orderId = some { payment with
        status := .succeeded
        providerRef := orElse result.reference payment.providerRef })
      (events : next.eventsOf orderId = w.eventsOf orderId ++ [succeededEvent payment])
  | refunded (gateway : Gateway) (order : OrderSnapshot) (provider : Option PaymentProvider)
      (payment : Payment) (result : ProviderResult)
      (operation : op = .refundPayment gateway order provider) (own : order.orderId = orderId)
      (found : w.payment orderId = some payment) (may : payment.status ∈ refundable)
      (answered : refundAnswer gateway order provider payment = .ok result)
      (row : next.payment orderId = some { payment with status := .refunded })
      (events : next.eventsOf orderId = w.eventsOf orderId)
      (calls : next.calls = w.calls ++ [refundCall gateway order provider payment])
  | failed (redis : Bool) (event : StripeEvent) (payment : Payment)
      (operation : op = .handleEvent redis event) (acts : event.ActsOn redis w payment)
      (found : w.payment orderId = some payment) (kind : event.type ∈ fails)
      (row : next.payment orderId = some { payment with status := .failed })
      (events : next.eventsOf orderId = w.eventsOf orderId)
  | awaited (redis : Bool) (event : StripeEvent) (payment : Payment)
      (operation : op = .handleEvent redis event) (acts : event.ActsOn redis w payment)
      (found : w.payment orderId = some payment) (kind : event.type ∈ settles)
      (waits : event.awaiting = true)
      (row : next.payment orderId =
        some { payment with providerRef := event.refAfter payment.providerRef })
      (events : next.eventsOf orderId = w.eventsOf orderId)
  | settled (redis : Bool) (event : StripeEvent) (payment : Payment)
      (operation : op = .handleEvent redis event) (acts : event.ActsOn redis w payment)
      (found : w.payment orderId = some payment) (kind : event.type ∈ settles)
      (paid : event.awaiting = false)
      (row : next.payment orderId = some (payment.settledBy event))
      (events : next.eventsOf orderId = w.eventsOf orderId ++ [succeededEvent payment])

variable {op : Operation} {orderId : Nat} {w next : World}

theorem Touched.refl (op : Operation) (orderId : Nat) (w : World) : Touched op orderId w w :=
  .same rfl rfl

/-- A row of another order is written, and an event of that order perhaps recorded. -/
theorem touched_elsewhere {payment : Payment} (other : payment.orderId ≠ orderId)
    (row : next.payment orderId = (w.put payment).payment orderId)
    (events : next.eventsOf orderId = w.eventsOf orderId) : Touched op orderId w next := by
  refine .same ?_ events
  rw [row, World.payment_put, if_neg other]

@[simp] theorem World.eventsOf_put (w : World) (payment : Payment) (orderId : Nat) :
    (w.put payment).eventsOf orderId = w.eventsOf orderId := rfl

@[simp] theorem World.eventsOf_record (w : World) (event : PaymentEvent) (orderId : Nat) :
    (w.record event).eventsOf orderId =
      w.eventsOf orderId ++ if event.orderId = orderId then [event] else [] := by
  unfold World.eventsOf
  rw [World.outbox_record, List.filter_append, List.filter_cons]
  simp

/-- **A call whose answer is written to one row**: the row of its order, and nothing when it raises. -/
theorem touched_answered {record : Except Raised ProviderResult → ProviderCall}
    {outcome : Except Raised ProviderResult} {row : ProviderResult → Payment} {target : Nat}
    (same : ∀ result, (row result).orderId = target)
    (touches : ∀ result, outcome = .ok result → target = orderId → ∀ next : World,
      next.payment orderId = some (row result) → next.eventsOf orderId = w.eventsOf orderId →
      next.calls = w.calls ++ [record outcome] → Touched op orderId w next) :
    Touched op orderId w (w.answered record outcome fun result called => called.put (row result)) := by
  unfold World.answered
  cases answered : outcome with
  | error raised => exact .same rfl rfl
  | ok result =>
    by_cases own : target = orderId
    · apply touches result answered own
      · exact (World.payment_put _ _ _).trans (if_pos ((same result).trans own))
      · rfl
      · rw [answered]
        rfl
    · exact touched_elsewhere ((same result).trans_ne own) rfl rfl

variable (gateway : Gateway) (order : OrderSnapshot) (provider : Option PaymentProvider)

theorem touched_create (w : World) (orderId : Nat) :
    Touched (.createPaymentForOrder gateway order provider) orderId w
      (w.step (.createPaymentForOrder gateway order provider)) := by
  rw [World.step, exec_createPaymentForOrder]
  cases absent : w.payment order.orderId with
  | some existing => exact Touched.refl _ orderId w
  | none =>
    refine touched_answered (fun _ => rfl) fun result answered own next row events _ => ?_
    subst own
    exact .created gateway order provider result rfl rfl absent answered row events

theorem touched_capture (w : World) (orderId : Nat) :
    Touched (.capturePayment order) orderId w (w.step (.capturePayment order)) := by
  rw [World.step, exec_capturePayment]
  cases found : w.payment order.orderId with
  | none => exact Touched.refl _ orderId w
  | some payment =>
    obtain same := World.orderId_of_payment found
    dsimp only
    split
    · rename_i may
      by_cases own : order.orderId = orderId
      · subst own
        refine .captured order payment rfl rfl found may ?_ rfl
        exact (World.payment_put _ _ _).trans (if_pos same)
      · exact touched_elsewhere (same.symm ▸ own) rfl rfl
    · exact Touched.refl _ orderId w

theorem touched_retry (w : World) (orderId : Nat) :
    Touched (.retryPayment gateway order provider) orderId w
      (w.step (.retryPayment gateway order provider)) := by
  rw [World.step, exec_retryPayment]
  cases found : w.payment order.orderId with
  | none => exact Touched.refl _ orderId w
  | some payment =>
    have same := World.orderId_of_payment found
    dsimp only
    split
    · rename_i failed
      refine touched_answered (fun _ => same) fun result answered own next row events _ => ?_
      subst own
      exact .retried gateway order provider payment result rfl rfl found failed answered row events
    · exact Touched.refl _ orderId w

theorem touched_resume (w : World) (orderId : Nat) :
    Touched (.resumeCardPayment gateway order provider) orderId w
      (w.step (.resumeCardPayment gateway order provider)) := by
  rw [World.step, exec_resumeCardPayment]
  cases found : w.payment order.orderId with
  | none => exact Touched.refl _ orderId w
  | some payment =>
    have same := World.orderId_of_payment found
    dsimp only
    split
    · rename_i awaits
      refine touched_answered (fun _ => same) fun result answered own next row events _ => ?_
      subst own
      exact .resumed gateway order provider payment result rfl rfl found awaits answered row events
    · exact Touched.refl _ orderId w

theorem touched_confirm (w : World) (orderId : Nat) :
    Touched (.confirmCardPayment gateway order provider) orderId w
      (w.step (.confirmCardPayment gateway order provider)) := by
  rw [World.step, exec_confirmCardPayment]
  cases found : w.payment order.orderId with
  | none => exact Touched.refl _ orderId w
  | some payment =>
    have same := World.orderId_of_payment found
    dsimp only
    split
    · rename_i awaits
      unfold World.answered
      split
      · rename_i result answered
        dsimp only
        split
        · rename_i paid
          have events := World.eventsOf_record
            (((w.call (.verify order.orderId payment.providerRef (.ok result))).put
              { payment with
                status := .succeeded
                providerRef := orElse result.reference payment.providerRef }))
            (succeededEvent payment) orderId
          by_cases own : order.orderId = orderId
          · subst own
            refine .confirmed gateway order provider payment result rfl rfl found awaits answered
              paid ?_ ?_
            · exact (World.payment_put _ _ _).trans (if_pos same)
            · rw [answered, events, if_pos (show (succeededEvent payment).orderId = _ from same)]
              rfl
          · have other : payment.orderId ≠ orderId := same.symm ▸ own
            refine .same (by simp [other]) ?_
            rw [answered, events, if_neg (show (succeededEvent payment).orderId ≠ _ from other),
              List.append_nil]
            rfl
        · exact .same rfl rfl
      · exact .same rfl rfl
    · exact Touched.refl _ orderId w

theorem touched_refund (w : World) (orderId : Nat) :
    Touched (.refundPayment gateway order provider) orderId w
      (w.step (.refundPayment gateway order provider)) := by
  rw [World.step, exec_refundPayment]
  cases found : w.payment order.orderId with
  | none => exact Touched.refl _ orderId w
  | some payment =>
    have same := World.orderId_of_payment found
    dsimp only
    split
    · rename_i may
      refine touched_answered (fun _ => same) fun result answered own next row events calls => ?_
      subst own
      exact .refunded gateway order provider payment result rfl rfl found may answered row events calls
    · exact Touched.refl _ orderId w

/-- The dedupe changes neither payments nor events. -/
theorem World.marked_eq (w : World) (event : StripeEvent) (redis : Bool) :
    (w.marked event redis).payments = w.payments ∧ (w.marked event redis).outbox = w.outbox ∧
      (w.marked event redis).calls = w.calls := by
  unfold World.marked
  split
  · exact ⟨rfl, rfl, rfl⟩
  · split
    · exact ⟨rfl, rfl, rfl⟩
    · exact ⟨rfl, rfl, rfl⟩

theorem touched_event (redis : Bool) (event : StripeEvent) (w : World) (orderId : Nat) :
    Touched (.handleEvent redis event) orderId w (w.step (.handleEvent redis event)) := by
  rw [World.step, exec_handleEvent]
  split
  · rename_i unseen
    obtain ⟨payments, outbox, _⟩ := w.marked_eq event redis
    have row : (w.marked event redis).payment orderId = w.payment orderId := by
      unfold World.payment
      rw [payments]
    have events : (w.marked event redis).eventsOf orderId = w.eventsOf orderId := by
      unfold World.eventsOf
      rw [outbox]
    have byRef : (w.marked event redis).paymentByRef event.ref = w.paymentByRef event.ref := by
      unfold World.paymentByRef
      rw [payments]
    rw [exec_applyEvent]
    split
    · rename_i known
      rw [byRef]
      cases lookup : w.paymentByRef event.ref with
      | none => exact .same row events
      | some payment =>
        have acts : event.ActsOn redis w payment := ⟨unseen, lookup⟩
        have found : w.payment payment.orderId = some payment := (Table.find?_of_first? lookup).1
        dsimp only
        by_cases own : payment.orderId = orderId
        · subst own
          split
          · rename_i kind
            refine .failed redis event payment rfl acts found kind ?_ events
            exact (World.payment_put _ _ _).trans (if_pos rfl)
          · rename_i kind
            have settles : event.type ∈ settles :=
              (List.mem_append.mp known).resolve_right kind
            split
            · rename_i waits
              refine .awaited redis event payment rfl acts found settles waits ?_ events
              exact (World.payment_put _ _ _).trans (if_pos rfl)
            · rename_i waits
              refine .settled redis event payment rfl acts found settles (by simpa using waits) ?_ ?_
              · exact (World.payment_put _ _ _).trans (if_pos rfl)
              · rw [World.eventsOf_record, World.eventsOf_put, events]
                exact congrArg _ (if_pos rfl)
        · split
          · exact .same (by simp [own, row]) events
          · split
            · exact .same (by simp [own, row]) events
            · refine .same (by simp [own, row, Payment.settledBy]) ?_
              rw [World.eventsOf_record, if_neg (show (succeededEvent payment).orderId ≠ _ from own),
                List.append_nil, World.eventsOf_put, events]
    · exact .same row events
  · exact Touched.refl _ orderId w

/-- **What a step does to the payment of one order.** -/
theorem World.touched (w : World) (op : Operation) (orderId : Nat) :
    Touched op orderId w (w.step op) := by
  cases op with
  | createPaymentForOrder gateway order provider => exact touched_create gateway order provider w orderId
  | capturePayment order => exact touched_capture order w orderId
  | retryPayment gateway order provider => exact touched_retry gateway order provider w orderId
  | resumeCardPayment gateway order provider => exact touched_resume gateway order provider w orderId
  | confirmCardPayment gateway order provider => exact touched_confirm gateway order provider w orderId
  | refundPayment gateway order provider => exact touched_refund gateway order provider w orderId
  | handleEvent redis event => exact touched_event redis event w orderId
  | expireSeen keys => exact .same rfl rfl

/-! ### What an operation that acts leaves -/

theorem World.paymentByRef_marked (w : World) (event : StripeEvent) (redis : Bool)
    (ref : Option String) : (w.marked event redis).paymentByRef ref = w.paymentByRef ref := by
  unfold World.paymentByRef
  rw [(w.marked_eq event redis).1]

/-- What an event that acts leaves of its payment. -/
def Payment.afterEvent (payment : Payment) (event : StripeEvent) : Payment :=
  if event.type ∈ fails then { payment with status := .failed }
  else if event.awaiting then { payment with providerRef := event.refAfter payment.providerRef }
  else payment.settledBy event

theorem payment_of_event {redis : Bool} {event : StripeEvent} {payment : Payment}
    (acts : event.ActsOn redis w payment) (known : event.type ∈ settles ++ fails) :
    (w.step (.handleEvent redis event)).payment payment.orderId =
      some (payment.afterEvent event) := by
  rw [World.step, exec_handleEvent, if_pos acts.unseen, exec_applyEvent, if_pos known,
    World.paymentByRef_marked, acts.found]
  unfold Payment.afterEvent
  dsimp only
  split
  · exact (World.payment_put _ _ _).trans (if_pos rfl)
  · split
    · exact (World.payment_put _ _ _).trans (if_pos rfl)
    · exact (World.payment_put _ _ _).trans (if_pos rfl)

variable {payment : Payment} {result : ProviderResult} {gateway order provider}

theorem payment_of_resume (found : w.payment order.orderId = some payment)
    (awaits : awaitsCard order payment = true)
    (answered : authorization gateway order provider .card (resumeKey order.orderId) = .ok result) :
    (w.step (.resumeCardPayment gateway order provider)).payment order.orderId =
      some (payment.reauthorized result) := by
  have same := World.orderId_of_payment found
  rw [World.step, exec_resumeCardPayment, found]
  dsimp only
  rw [if_pos awaits]
  unfold World.answered
  rw [answered]
  exact (World.payment_put _ _ _).trans (if_pos same)

theorem payment_of_confirm (found : w.payment order.orderId = some payment)
    (awaits : awaitsCard order payment = true)
    (answered : verification gateway provider payment.providerRef = .ok result)
    (paid : result.ok = true) :
    (w.step (.confirmCardPayment gateway order provider)).payment order.orderId =
      some { payment with
        status := .succeeded
        providerRef := orElse result.reference payment.providerRef } := by
  have same := World.orderId_of_payment found
  rw [World.step, exec_confirmCardPayment, found]
  dsimp only
  rw [if_pos awaits]
  unfold World.answered
  rw [answered]
  dsimp only
  rw [if_pos paid]
  exact (World.payment_put _ _ _).trans (if_pos same)

theorem payment_of_refund (found : w.payment order.orderId = some payment)
    (may : payment.status ∈ refundable)
    (answered : refundAnswer gateway order provider payment = .ok result) :
    (w.step (.refundPayment gateway order provider)).payment order.orderId =
      some { payment with status := .refunded } := by
  have same := World.orderId_of_payment found
  rw [World.step, exec_refundPayment, found]
  dsimp only
  rw [if_pos may]
  unfold World.answered
  rw [answered]
  exact (World.payment_put _ _ _).trans (if_pos same)

/-! ### A small order -/

/-- A card order that waits for its payment. -/
def cardOrder : OrderSnapshot where
  orderId := 1
  customerId := 7
  status := some .paymentPending
  total := 20000
  paymentMethod := .card

end FoodDelivery.Payments
