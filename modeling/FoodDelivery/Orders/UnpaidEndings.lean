/-
**Orders that end unpaid, and orders past their payment.**

An order's audit trail tells whether it was cancelled while it waited for its payment
(`Order.EndedUnpaid`). That is final, and so is having got past the payment otherwise
(`Order.PastPayment`): no later step of any kind turns the one into the other
(`pastPayment_step`). A SUCCEEDED payment event that is consumed leaves its order past the payment,
unless the order had ended unpaid before (`pastPayment_of_consumed`).
-/

import FoodDelivery.Orders.Runs

set_option autoImplicit false

namespace FoodDelivery.Orders

open FoodDelivery.Lib

/-- The order was cancelled while it waited for its payment. -/
def Order.EndedUnpaid (order : Order) : Prop :=
  ∃ event ∈ order.events, event.fromStatus = some .paymentPending ∧ event.toStatus = .cancelled

instance (order : Order) : Decidable order.EndedUnpaid :=
  inferInstanceAs (Decidable (∃ event ∈ order.events, _ ∧ _))

/-- The order no longer waits for its payment, and was not cancelled while it did. -/
structure Order.PastPayment (order : Order) : Prop where
  status : order.status ≠ .paymentPending
  kept : ¬ order.EndedUnpaid

/-- **What is so of the orders in every state of a run.** -/
structure Chronicle (s : State) : Prop where
  placed : ∀ orderId, eventsOf orderId s.outbox ≠ [] → s.orders.find? orderId ≠ none
  begun : ∀ orderId order, s.orders.find? orderId = some order → order.status ≠ .created
  ended : ∀ orderId order, s.orders.find? orderId = some order → order.EndedUnpaid →
    order.status = .cancelled
  settled : ∀ orderId, (∃ command ∈ commandsOf orderId s.outbox, command.action = .settle) →
    ∃ order, s.orders.find? orderId = some order ∧
      (order.status = .delivered ∨ order.status = .completed)

theorem chronicle_empty : Chronicle .empty where
  placed := fun _ some_event => absurd rfl some_event
  begun := fun _ _ found => by cases found
  ended := fun _ _ found => by cases found
  settled := fun _ settled => by
    obtain ⟨command, member, _⟩ := settled
    cases member

section

variable {s : State} {now : Timestamp} {action : Action} {order : Order} {written : Written}

/-- An action cancels a waiting order, or adds nothing to what the trail says of such an ending. -/
theorem Performed.endedUnpaid (performed : Performed s now action order written)
    (ended : written.order.EndedUnpaid) :
    order.EndedUnpaid ∨ (order.status = .paymentPending ∧ action.target = .cancelled) := by
  obtain ⟨event, member, waiting, cancelled⟩ := ended
  obtain ⟨reason, audit⟩ := performed.audit
  rw [audit] at member
  rcases List.mem_append.mp member with old | new
  · exact Or.inl ⟨event, old, waiting, cancelled⟩
  · rw [List.mem_singleton.mp new] at waiting cancelled
    exact Or.inr ⟨Option.some.inj waiting, cancelled⟩

/-- Nobody comes back to waiting for a payment. -/
theorem Performed.not_waiting (performed : Performed s now action order written)
    (begun : order.status ≠ .created) : written.order.status ≠ .paymentPending := by
  have legal := performed.legal
  rw [performed.status]
  revert legal begun
  cases order.status <;> cases action.target <;> decide

/-- An order that is placed has begun and not ended. -/
theorem placed_begun {tables : State} {orderId customerId : Nat} {request : CheckoutRequest}
    {validated : ValidatedOrder}
    (place : placeOrder tables (newOrder orderId customerId request validated now) = .ok written) :
    written.order.status ≠ .created ∧ ¬ written.order.EndedUnpaid := by
  rw [(placeOrder_ok rfl place).1]
  split
  · exact ⟨by simp, by simp [Order.EndedUnpaid, newOrder]⟩
  · exact ⟨by simp, by simp [Order.EndedUnpaid, newOrder]⟩

/-- Only a delivery commands a settle. -/
theorem Action.delivered_of_settle {current : OrderStatus}
    (commanded : action.command current = some .settle) : action.target = .delivered := by
  unfold Action.command at commanded
  split at commanded
  · cases commanded
  · split at commanded
    · rfl
    · rfl
    · cases commanded

end

/-! ### Runs -/

variable {s : State} {label : Operation × Timestamp} {orderId : Nat}

/-- An order stays. -/
theorem present_step (present : s.orders.find? orderId ≠ none) :
    (s.step label).orders.find? orderId ≠ none := by
  cases s.changed label orderId with
  | same untouched =>
    rw [untouched.row]
    exact present
  | placed tables user request acquired cart post validated now written operation absent place row
      commands events =>
    exact absurd absent present
  | acted tables now action order written performs found performed row commands events =>
    rw [row]
    exact Option.some_ne_none _

/-- What is published stays published. -/
theorem commandsOf_prefix (s : State) (label : Operation × Timestamp) (orderId : Nat) :
    commandsOf orderId s.outbox <+: commandsOf orderId (s.step label).outbox := by
  cases s.changed label orderId with
  | same untouched =>
    rw [untouched.commands]
  | placed tables user request acquired cart post validated now written operation absent place row
      commands events =>
    rw [commands]
  | acted tables now action order written performs found performed row commands events =>
    rw [commands]
    exact List.prefix_append _ _

/-- **One step.** -/
theorem chronicle_step (chronicle : Chronicle s) (label : Operation × Timestamp) :
    Chronicle (s.step label) where
  placed := by
    intro orderId some_event
    cases s.changed label orderId with
    | same untouched =>
      rw [untouched.events] at some_event
      rw [untouched.row]
      exact chronicle.placed orderId some_event
    | placed tables user request acquired cart post validated now written operation absent place row
        commands events =>
      rw [row]
      exact Option.some_ne_none _
    | acted tables now action order written performs found performed row commands events =>
      rw [row]
      exact Option.some_ne_none _
  begun := by
    intro orderId order left
    cases s.changed label orderId with
    | same untouched => exact chronicle.begun orderId order (untouched.row.symm.trans left)
    | placed tables user request acquired cart post validated now written operation absent place row
        commands events =>
      cases row.symm.trans left
      exact (placed_begun place).1
    | acted tables now action before written performs found performed row commands events =>
      cases row.symm.trans left
      have legal := performed.legal
      rw [performed.status]
      revert legal
      cases before.status <;> cases action.target <;> decide
  ended := by
    intro orderId order left ended
    cases s.changed label orderId with
    | same untouched => exact chronicle.ended orderId order (untouched.row.symm.trans left) ended
    | placed tables user request acquired cart post validated now written operation absent place row
        commands events =>
      cases row.symm.trans left
      exact absurd ended (placed_begun place).2
    | acted tables now action before written performs found performed row commands events =>
      cases row.symm.trans left
      rcases performed.endedUnpaid ended with already | ⟨_, cancels⟩
      · have legal := performed.legal
        rw [chronicle.ended orderId before found already] at legal
        cases legal
      · rw [performed.status]
        exact cancels
  settled := by
    intro orderId settled
    cases s.changed label orderId with
    | same untouched =>
      rw [untouched.commands] at settled
      rw [untouched.row]
      exact chronicle.settled orderId settled
    | placed tables user request acquired cart post validated now written operation absent place row
        commands events =>
      rw [commands] at settled
      obtain ⟨order, found, _⟩ := chronicle.settled orderId settled
      rw [absent] at found
      cases found
    | acted tables now action before written performs found performed row commands events =>
      refine ⟨written.order, row, ?_⟩
      rw [performed.status]
      obtain ⟨command, member, settles⟩ := settled
      rw [commands] at member
      rcases List.mem_append.mp member with old | new
      · -- a delivered order can only be completed
        obtain ⟨order, same, delivered⟩ := chronicle.settled orderId ⟨command, old, settles⟩
        cases found.symm.trans same
        have legal := performed.legal
        rcases delivered with status | status
        · rw [status] at legal
          exact Or.inr (List.mem_singleton.mp legal)
        · rw [status] at legal
          cases legal
      · obtain ⟨asked, is_asked, rfl⟩ := List.mem_map.mp new
        obtain rfl : asked = .settle := settles
        exact Or.inl (Action.delivered_of_settle (Option.mem_toList.mp is_asked))

/-- **Past the payment is past it for good.** -/
theorem pastPayment_step (chronicle : Chronicle s) {order : Order}
    (found : s.orders.find? orderId = some order) (past : order.PastPayment) :
    ∃ later, (s.step label).orders.find? orderId = some later ∧ later.PastPayment := by
  cases s.changed label orderId with
  | same untouched => exact ⟨order, untouched.row.trans found, past⟩
  | placed tables user request acquired cart post validated now written operation absent place row
      commands events =>
    rw [absent] at found
    cases found
  | acted tables now action before written performs was performed row commands events =>
    cases was.symm.trans found
    refine ⟨written.order, row, performed.not_waiting (chronicle.begun orderId _ was), ?_⟩
    intro ended
    rcases performed.endedUnpaid ended with already | ⟨waiting, _⟩
    · exact past.kept already
    · exact past.status waiting

/-- The payload of a SUCCEEDED payment event. -/
def paidEvent (orderId : Nat) : PaymentEvent where
  orderId := some orderId
  paymentStatus := some .succeeded

/-- `mark_paid` moves an order that waits for its payment, and returns any other as it is. -/
theorem onOrder_markPaid {order : Order} (now : Timestamp)
    (found : s.orders.find? orderId = some order) :
    (order.status ≠ .paymentPending ∧ s.onOrder orderId .markPaid now = .ok s) ∨
      ∃ written, Performed s now .markPaid order written ∧
        s.onOrder orderId .markPaid now = .ok (s.commit written) := by
  unfold State.onOrder
  rw [found]
  show _ ∨ ∃ written, _ ∧ (markPaid s now order >>= _) = _
  by_cases waiting : order.status = .paymentPending
  · have legal : .paymentSuccess ∈ allowed order.status := by
      rw [waiting]
      decide
    have transition : applyTransition order .paymentSuccess .system (some "payment confirmed") =
        .ok { order with
          status := .paymentSuccess
          events := order.events ++
            [⟨some order.status, .paymentSuccess, .system, some "payment confirmed"⟩] } :=
      applyTransition_ok.mpr ⟨legal, rfl⟩
    have body : ∃ written, markPaid s now order = .ok (some written) := by
      unfold markPaid
      rw [if_neg (not_not.mpr waiting), transition]
      exact ⟨_, rfl⟩
    obtain ⟨written, body⟩ := body
    refine Or.inr ⟨written, markPaid_performed body, ?_⟩
    rw [body]
    rfl
  · refine Or.inl ⟨waiting, ?_⟩
    show (markPaid s now order >>= _) = _
    unfold markPaid
    rw [if_pos waiting]
    rfl

/-- **A SUCCEEDED payment event that is consumed in time** leaves its order past the payment. -/
theorem pastPayment_of_consumed {order : Order} (now : Timestamp)
    (found : s.orders.find? orderId = some order) (inTime : ¬ order.EndedUnpaid) :
    ∃ later, (s.step (.applyPaymentEvent (paidEvent orderId), now)).orders.find? orderId =
      some later ∧ later.PastPayment := by
  have outcome : Operation.outcome s now (.applyPaymentEvent (paidEvent orderId)) =
      s.onOrder orderId .markPaid now := rfl
  rcases onOrder_markPaid now found with ⟨moved_on, same⟩ | ⟨written, performed, committed⟩
  · refine ⟨order, ?_, moved_on, inTime⟩
    unfold State.step
    dsimp only
    rw [outcome, same]
    exact found
  · refine ⟨written.order, ?_, fun waits => ?_, fun ended => ?_⟩
    · unfold State.step
      dsimp only
      rw [outcome, committed]
      have id : written.order.id = orderId := performed.id.trans (Table.key_of_find? found)
      show (s.commit written).orders.find? orderId = _
      rw [State.commit_orders, ← id, Table.find?_put_self]
    · rw [performed.status] at waits
      cases waits
    · rcases performed.endedUnpaid ended with already | ⟨_, cancels⟩
      · exact inTime already
      · cases cancels

end FoodDelivery.Orders
