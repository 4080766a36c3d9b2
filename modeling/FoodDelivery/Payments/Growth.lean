/-
**What every handler guarantees to the others**: no row disappears, and the outbox and the log of
provider calls only grow (`World.Grows`).

It holds of every single action of every handler (`Program.Within`), so it holds between any two
states of any interleaving, and over a run to completion (`grows_step`).
-/

import FoodDelivery.Payments.Consumer
import FoodDelivery.Payments.Runs

set_option autoImplicit false

namespace FoodDelivery.Payments

open FoodDelivery.Lib
open FoodDelivery.Lib.Program (Within)

/-- Rows stay, and the logs only grow. -/
structure World.Grows (w next : World) : Prop where
  payments : ∀ orderId, w.payment orderId ≠ none → next.payment orderId ≠ none
  snapshots : ∀ orderId, w.snapshots.find? orderId ≠ none → next.snapshots.find? orderId ≠ none
  outbox : w.outbox <+: next.outbox
  calls : w.calls <+: next.calls

theorem World.Grows.refl (w : World) : w.Grows w :=
  ⟨fun _ => id, fun _ => id, List.prefix_refl _, List.prefix_refl _⟩

theorem World.Grows.trans (w middle next : World) (first : w.Grows middle)
    (second : middle.Grows next) : w.Grows next where
  payments := fun orderId present => second.payments orderId (first.payments orderId present)
  snapshots := fun orderId present => second.snapshots orderId (first.snapshots orderId present)
  outbox := first.outbox.trans second.outbox
  calls := first.calls.trans second.calls

/-- A write puts a row there or leaves it there. -/
theorem ne_none_of_put {κ ρ : Type} {key : ρ → κ} [DecidableEq κ] (table : Table κ ρ key) (row : ρ)
    (k : κ) (present : table.find? k ≠ none) : (table.put row).find? k ≠ none := by
  rw [Table.find?_put]
  split
  · exact Option.some_ne_none row
  · exact present

theorem World.grows_put (w : World) (payment : Payment) : w.Grows (w.put payment) where
  payments := fun orderId present => ne_none_of_put w.payments payment orderId present
  snapshots := fun _ => id
  outbox := List.prefix_refl _
  calls := List.prefix_refl _

theorem World.grows_update (w : World) (before after : Payment) :
    w.Grows (w.update before after) := by
  unfold World.update
  split
  · exact World.Grows.refl w
  · exact w.grows_put _

/-! ### The actions -/

section Actions

variable {α : Type}

theorem within_read (view : World → α) : (Program.read view : Handler α).Within World.Grows :=
  Within.read World.Grows.refl

theorem within_pure (value : α) : (pure value : Handler α).Within World.Grows := trivial

theorem within_raise (raised : Raised) :
    (Program.raise raised : Handler α).Within World.Grows := trivial

theorem within_commitPayment (before after : Payment) :
    (commitPayment before after).Within World.Grows :=
  Within.modify fun w => w.grows_update before after

theorem within_commitEvent (event : PaymentEvent) : (commitEvent event).Within World.Grows :=
  Within.modify fun _ =>
    ⟨fun _ => id, fun _ => id, List.prefix_append _ _, List.prefix_refl _⟩

theorem within_insertPayment (payment : Payment) : (insertPayment payment).Within World.Grows := by
  refine Within.modify fun w => ?_
  split
  · exact w.grows_put payment
  · exact World.Grows.refl w

/-- A provider call does what logging it does. -/
theorem callProvider_within {R : World → World → Prop} (calls : ∀ w call, R w (w.call call))
    (record : Except Raised ProviderResult → ProviderCall)
    (outcome : Except Raised ProviderResult) : (callProvider record outcome).Within R := by
  intro w
  refine ⟨calls w (record outcome), ?_⟩
  cases outcome with
  | ok result => trivial
  | error raised => trivial

theorem World.grows_call (w : World) (call : ProviderCall) : w.Grows (w.call call) :=
  ⟨fun _ => id, fun _ => id, List.prefix_refl _, List.prefix_append _ _⟩

theorem within_callProvider (record : Except Raised ProviderResult → ProviderCall)
    (outcome : Except Raised ProviderResult) :
    (callProvider record outcome).Within World.Grows :=
  callProvider_within World.grows_call record outcome

theorem within_raiseIfProviderFailed (result : ProviderResult) :
    (raiseIfProviderFailed result).Within World.Grows := by
  unfold raiseIfProviderFailed
  split
  · trivial
  · trivial

theorem within_setSeen (key : String) : (setSeen key).Within World.Grows := by
  refine Within.modify fun w => ?_
  split
  · exact World.Grows.refl w
  · exact ⟨fun _ => id, fun _ => id, List.prefix_refl _, List.prefix_refl _⟩

theorem within_commitSnapshot (found : Option OrderSnapshot) (after : OrderSnapshot) :
    (commitSnapshot found after).Within World.Grows := by
  have written : ∀ (w : World) (row : OrderSnapshot),
      w.Grows { w with snapshots := w.snapshots.put row } := fun w row =>
    ⟨fun _ => id, fun orderId present => ne_none_of_put w.snapshots row orderId present,
      List.prefix_refl _, List.prefix_refl _⟩
  unfold commitSnapshot
  split
  · refine Within.modify fun w => ?_
    split
    · exact written w _
    · exact World.Grows.refl w
  · refine Within.modify fun w => ?_
    split
    · exact World.Grows.refl w
    · exact written w _

/-- A function that reads the payment of its order does what it does without one, or with the one it
has found. -/
theorem within_ofPayment {orderId : Nat} {rest : Option Payment → Handler α}
    (absent : (rest none).Within World.Grows)
    (present : ∀ payment, (rest (some payment)).Within World.Grows) :
    (getPayment orderId >>= rest).Within World.Grows := by
  refine Within.bind (within_read _) fun found => ?_
  cases found with
  | none => exact absent
  | some payment => exact present payment

end Actions

/-! ### The functions -/

section Functions

variable (gateway : Gateway) (order : OrderSnapshot) (provider : Option PaymentProvider)

/-- **A payment is created** by provider calls and one insert. -/
theorem createPaymentForOrder_within {R : World → World → Prop} (reflexive : ∀ w, R w w)
    (calls : ∀ w call, R w (w.call call)) (inserts : ∀ payment, (insertPayment payment).Within R) :
    (createPaymentForOrder gateway order provider).Within R := by
  refine Within.bind (Within.read reflexive) fun found => ?_
  cases found with
  | some existing => trivial
  | none =>
    refine Within.bind (callProvider_within calls _ _) fun result => ?_
    refine Within.bind (inserts _) fun inserted => ?_
    cases inserted with
    | true => exact Within.bind (Within.read reflexive) fun payment => trivial
    | false =>
      refine Within.bind (Within.read reflexive) fun winner => ?_
      cases winner with
      | none => trivial
      | some payment => trivial

theorem within_createPaymentForOrder :
    (createPaymentForOrder gateway order provider).Within World.Grows :=
  createPaymentForOrder_within gateway order provider .refl World.grows_call within_insertPayment

theorem within_capturePayment : (capturePayment order).Within World.Grows := by
  refine within_ofPayment (within_pure _) fun payment => ?_
  dsimp only
  split
  · exact within_pure _
  · refine Within.bind (within_commitPayment _ _) fun _ => ?_
    exact Within.bind (within_read _) fun payment => within_pure _

theorem within_retryPayment : (retryPayment gateway order provider).Within World.Grows := by
  refine within_ofPayment (within_pure _) fun payment => ?_
  dsimp only
  split
  · exact within_pure _
  · refine Within.bind (within_callProvider _ _) fun result => ?_
    refine Within.bind (within_commitPayment _ _) fun _ => ?_
    refine Within.bind (within_read _) fun payment => ?_
    exact Within.bind (within_raiseIfProviderFailed _) fun _ => within_pure _

theorem within_resumeCardPayment :
    (resumeCardPayment gateway order provider).Within World.Grows := by
  refine within_ofPayment (within_pure _) fun payment => ?_
  dsimp only
  split
  · exact within_pure _
  · refine Within.bind (within_callProvider _ _) fun result => ?_
    refine Within.bind (within_commitPayment _ _) fun _ => ?_
    refine Within.bind (within_read _) fun payment => ?_
    exact Within.bind (within_raiseIfProviderFailed _) fun _ => within_pure _

theorem within_confirmCardPayment :
    (confirmCardPayment gateway order provider).Within World.Grows := by
  refine within_ofPayment (within_pure _) fun payment => ?_
  dsimp only
  split
  · exact within_pure _
  · refine Within.bind (within_callProvider _ _) fun result => ?_
    split
    · exact within_pure _
    · refine Within.bind (within_commitPayment _ _) fun _ => ?_
      refine Within.bind (within_read _) fun payment => ?_
      exact Within.bind (within_commitEvent _) fun _ => within_pure _

theorem within_refundPayment : (refundPayment gateway order provider).Within World.Grows := by
  refine within_ofPayment (within_pure _) fun payment => ?_
  dsimp only
  split
  · exact within_pure _
  · split
    · exact within_pure _
    · refine Within.bind (within_callProvider _ _) fun _ => ?_
      refine Within.bind (within_commitPayment _ _) fun _ => ?_
      exact Within.bind (within_read _) fun payment => within_pure _

theorem within_applyEvent (event : StripeEvent) : (applyEvent event).Within World.Grows := by
  unfold applyEvent
  split
  · exact within_pure _
  · refine Within.bind (within_read _) fun found => ?_
    cases found with
    | none => exact within_pure _
    | some payment =>
      dsimp only
      split
      · exact Within.bind (within_commitPayment _ _) fun _ => within_pure _
      · split
        · exact Within.bind (within_commitPayment _ _) fun _ => within_pure _
        · refine Within.bind (within_commitPayment _ _) fun _ => ?_
          exact Within.bind (within_commitEvent _) fun _ => within_pure _

theorem within_handleEvent (redis : Bool) (event : StripeEvent) :
    (handleEvent redis event).Within World.Grows := by
  unfold handleEvent
  split
  · exact within_applyEvent event
  · refine Within.bind (within_setSeen _) fun fresh => ?_
    cases fresh with
    | true => exact within_applyEvent event
    | false => exact within_pure _

/-- **An order event is applied** by one write of the snapshot and the creation of the payment. -/
theorem applyOrderEvent_within {R : World → World → Prop} (reflexive : ∀ w, R w w)
    (calls : ∀ w call, R w (w.call call)) (inserts : ∀ payment, (insertPayment payment).Within R)
    (snapshots : ∀ found after, (commitSnapshot found after).Within R) (payload : OrderEvent) :
    (applyOrderEvent gateway payload).Within R := by
  unfold applyOrderEvent
  split
  · trivial
  · refine Within.bind (Within.read reflexive) fun found => ?_
    refine Within.bind (snapshots _ _) fun committed => ?_
    cases committed with
    | false => trivial
    | true =>
      rw [if_pos rfl]
      split
      · refine Within.bind ?_ fun _ => trivial
        exact createPaymentForOrder_within gateway _ none reflexive calls inserts
      · trivial

theorem within_applyOrderEvent (payload : OrderEvent) :
    (applyOrderEvent gateway payload).Within World.Grows :=
  applyOrderEvent_within gateway .refl World.grows_call within_insertPayment within_commitSnapshot
    payload

theorem within_applyPaymentCommand (payload : Command) :
    (applyPaymentCommand gateway payload).Within World.Grows := by
  unfold applyPaymentCommand
  split
  · exact within_pure _
  · refine Within.bind (within_read _) fun found => ?_
    cases found with
    | none => exact within_raise _
    | some snapshot =>
      dsimp only
      split
      · exact Within.bind (within_capturePayment snapshot) fun _ => within_pure _
      · exact Within.bind (within_refundPayment gateway snapshot none) fun _ => within_pure _
      · exact within_pure _

end Functions

/-- **Nothing is lost in a step.** -/
theorem grows_step (w : World) (op : Operation) : w.Grows (w.step op) := by
  cases op with
  | createPaymentForOrder gateway order provider =>
    exact (within_createPaymentForOrder gateway order provider).exec .refl .trans w
  | capturePayment order => exact (within_capturePayment order).exec .refl .trans w
  | retryPayment gateway order provider =>
    exact (within_retryPayment gateway order provider).exec .refl .trans w
  | resumeCardPayment gateway order provider =>
    exact (within_resumeCardPayment gateway order provider).exec .refl .trans w
  | confirmCardPayment gateway order provider =>
    exact (within_confirmCardPayment gateway order provider).exec .refl .trans w
  | refundPayment gateway order provider =>
    exact (within_refundPayment gateway order provider).exec .refl .trans w
  | handleEvent redis event => exact (within_handleEvent redis event).exec .refl .trans w
  | expireSeen keys =>
    exact ⟨fun _ => id, fun _ => id, List.prefix_refl _, List.prefix_refl _⟩

end FoodDelivery.Payments
