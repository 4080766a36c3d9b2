/-
**The refund ledger of an order.**

Whether the customer of an ended order is owed a refund is decided by the last row of its audit
trail: where the order came from, where it went and who moved it (`refundOwed`). The ledger says that
the refund fields, the payment status and the refund commands all agree with that, and that an order
that has not ended has none of them (`Ledger`).

`ledgersKept_always_iff`: a run from an empty database keeps every ledger if and only if no request of the
status route moves an order from PAYMENT_SUCCESS to REJECTED. That route records a refund for
CANCELLED only; the reject route records one for REJECTED.
-/

import FoodDelivery.Orders.Runs

set_option autoImplicit false

namespace FoodDelivery.Orders

open FoodDelivery.Lib

/-! ### The ledger -/

/-- Whether the order that an audit row ended is to be refunded: it was rejected, or it was paid for
and not yet in preparation, or it was paid for and the customer or the system cancelled it. -/
def refundOwed (current target : OrderStatus) (actor : Actor) : Bool :=
  target = .rejected ∨ current ∈ [.paymentSuccess, .restaurantAccepted] ∨
    (actor ∈ [.customer, .system] ∧ current ∉ unpaidStates)

/-- The refund commands among some outbox rows that are keyed by an order. -/
def refundsOf (orderId : Nat) (outbox : List OutboxEvent) : List PaymentCommand :=
  (commandsOf orderId outbox).filter fun command => command.action = .refund

/-- A refunded order: every trace of the refund is there, and the command once. -/
structure Refunded (order : Order) (refunds : List PaymentCommand) : Prop where
  status : order.refundStatus = .full
  amount : order.refundAmount = order.total
  payment : order.paymentStatus = .refunded
  command : refunds = [⟨order.id, .refund, order.total⟩]

/-- An order that ended without a refund: no trace of one. -/
structure NotRefunded (order : Order) (refunds : List PaymentCommand) : Prop where
  status : order.refundStatus = .none
  amount : order.refundAmount = 0
  payment : order.paymentStatus ≠ .refunded
  command : refunds = []

/-- **The ledger of one order.** -/
structure Ledger (order : Order) (refunds : List PaymentCommand) : Prop where
  closed : ended order.status = true → ∃ current actor reason,
    order.events.getLast? = some ⟨some current, order.status, actor, reason⟩ ∧
      (refundOwed current order.status actor = true → Refunded order refunds) ∧
      (refundOwed current order.status actor = false → NotRefunded order refunds)
  alive : ended order.status = false → refunds = [] ∧ order.paymentStatus ≠ .refunded

/-- Every order's ledger is in order. -/
def LedgersKept (s : State) : Prop :=
  ∀ orderId order, s.orders.find? orderId = some order →
    Ledger order (refundsOf orderId s.outbox)

/-- No caller who manages the restaurant sets an order from PAYMENT_SUCCESS to REJECTED. -/
def Routed (s : State) (label : Operation × Timestamp) : Prop :=
  ∀ orderId user order snapshot, label.1 = .advanceStatus orderId user .rejected →
    s.orders.find? orderId = some order → order.status = .paymentSuccess →
    ownedRestaurant s user order.restaurantId ≠ .ok snapshot

/-! ### What an action asks for is what is owed -/

theorem Action.command_of_full {action : Action} {current : OrderStatus}
    (refunds : action.refund current = some .full) : action.command current = some .refund :=
  if_pos refunds

/-- An action that does not refund in full sends no refund command. -/
theorem Action.no_refund_command {action : Action} {current : OrderStatus}
    (refunds : action.refund current ≠ some .full) :
    action.command current ≠ some .refund := by
  unfold Action.command
  rw [if_neg refunds]
  split <;> simp

/-- **The five ways to end an order record what is owed**, but for the status route's REJECTED. -/
theorem refund_owed {op : Operation} {orderId : Nat} {tables : State} {now : Timestamp}
    {action : Action} {order : Order} {written : Written} (performs : op.Performs orderId action)
    (performed : Performed tables now action order written) (ends : ended action.target = true)
    (routed : ∀ user, action ≠ .advanceStatus user .rejected) :
    action.refund order.status =
      some (if refundOwed order.status action.target action.actor then .full else .none) := by
  cases performs with
  | cancelByCustomer orderId user authHeader =>
    show some (refundOnCancel order.status .customer) = _
    congr 1
    show _ = if refundOwed order.status .cancelled .customer then _ else _
    cases order.status <;> rfl
  | rejectByRestaurant orderId user reason authHeader => rfl
  | advanceStatus orderId user target =>
    cases target with
    | cancelled =>
      show some (refundOnCancel order.status .restaurant) = _
      congr 1
      show _ = if refundOwed order.status .cancelled .restaurant then _ else _
      cases order.status <;> rfl
    | rejected => exact absurd rfl (routed user)
    | _ => cases ends
  | driverAdvance orderId status target drives =>
    unfold deliveryTarget at drives
    split at drives <;> cases drives <;> cases ends
  | expireUnpaidOrders orderId =>
    have stale : isStale .paymentPending paymentWindowSeconds now order = true := performed.demanded
    have pending : order.status = .paymentPending := (of_decide_eq_true stale).1
    rw [pending]
    rfl
  | expirePendingAcceptances orderId =>
    have stale : isStale .paymentSuccess restaurantAcceptTimeoutSeconds now order = true :=
      performed.demanded
    have paid : order.status = .paymentSuccess := (of_decide_eq_true stale).1
    rw [paid]
    rfl
  | acceptByRestaurant => cases ends
  | markPaid => cases ends

/-! ### The invariant -/

/-- Every ledger in order, and no command for an order that does not exist. -/
structure Kept (s : State) : Prop where
  ledgers : LedgersKept s
  absent : ∀ orderId, s.orders.find? orderId = none → refundsOf orderId s.outbox = []

theorem kept_empty : Kept .empty where
  ledgers := by
    intro orderId order found
    cases found
  absent := fun _ _ => rfl

/-- The refund commands after a state change. -/
theorem refunds_after {action : Action} {order : Order} {orderId : Nat} {s next : State}
    (commands : commandsOf orderId next.outbox = commandsOf orderId s.outbox ++
      (action.command order.status).toList.map fun command => ⟨orderId, command, order.total⟩)
    (none_before : refundsOf orderId s.outbox = []) :
    refundsOf orderId next.outbox =
      if action.refund order.status = some .full then [⟨orderId, .refund, order.total⟩] else [] := by
  unfold refundsOf at none_before ⊢
  rw [commands, List.filter_append, none_before, List.nil_append]
  split
  · rename_i refunds
    rw [Action.command_of_full refunds]
    rfl
  · rename_i refunds
    have other := Action.no_refund_command refunds
    cases commanded : action.command order.status with
    | none => rfl
    | some command =>
      rw [commanded] at other
      cases command with
      | settle => rfl
      | refund => exact absurd rfl other

/-- A state change that ends an order leaves its ledger in order. -/
theorem ledger_of_ending {tables : State} {now : Timestamp} {action : Action} {order : Order}
    {written : Written} {refunds : List PaymentCommand}
    (performed : Performed tables now action order written) (ends : ended action.target = true)
    (recorded : action.refund order.status =
      some (if refundOwed order.status action.target action.actor then .full else .none))
    (unrefunded : order.paymentStatus ≠ .refunded)
    (after : refunds = if action.refund order.status = some .full then
      [⟨order.id, .refund, order.total⟩] else []) : Ledger written.order refunds := by
  have unpaying : action ≠ .markPaid := by
    rintro rfl
    cases ends
  have payment := performed.payment
  have status := performed.refundStatus
  have amount := performed.refundAmount
  unfold Action.paymentStatusAfter at payment
  rw [if_neg unpaying] at payment
  obtain ⟨reason, audit⟩ := performed.audit
  constructor
  · intro _
    refine ⟨order.status, action.actor, reason, ?_, ?_, ?_⟩
    · rw [audit, performed.status, List.getLast?_concat]
    · intro owed
      rw [performed.status] at owed
      rw [owed, if_pos rfl] at recorded
      rw [recorded] at payment status amount after
      rw [if_pos rfl] at payment after
      refine ⟨status, ?_, payment, ?_⟩
      · rw [performed.total]
        exact amount
      · rw [performed.id, performed.total]
        exact after
    · intro owed
      rw [performed.status] at owed
      rw [owed] at recorded
      rw [recorded] at payment status amount after
      refine ⟨status, amount, ?_, after⟩
      rw [payment]
      exact unrefunded
  · intro alive
    rw [performed.status, ends] at alive
    cases alive

/-- A state change that leaves an order alive refunds nothing. -/
theorem ledger_of_living {tables : State} {now : Timestamp} {action : Action} {order : Order}
    {written : Written} {refunds : List PaymentCommand}
    (performed : Performed tables now action order written) (alive : ended action.target = false)
    (unrefunded : order.paymentStatus ≠ .refunded)
    (after : refunds = if action.refund order.status = some .full then
      [⟨order.id, .refund, order.total⟩] else []) : Ledger written.order refunds := by
  have no_refund : action.refund order.status ≠ some .full := by
    intro refunds
    rw [Action.ended_of_refund refunds] at alive
    cases alive
  constructor
  · intro ends
    rw [performed.status, alive] at ends
    cases ends
  · intro _
    rw [if_neg no_refund] at after
    refine ⟨after, ?_⟩
    rw [performed.payment]
    unfold Action.paymentStatusAfter
    rw [if_neg no_refund]
    split
    · exact PaymentStatus.noConfusion
    · exact unrefunded

/-- **One step.** -/
theorem kept_step {s : State} {label : Operation × Timestamp} (kept : Kept s)
    (routed : Routed s label) : Kept (s.step label) := by
  obtain ⟨op, now⟩ := label
  unfold State.step
  cases outcome : op.outcome s now with
  | error raised => exact kept
  | ok next =>
    dsimp only
    constructor
    · intro orderId after found
      cases changed_outcome op outcome orderId with
      | same untouched =>
        unfold refundsOf
        rw [untouched.commands]
        exact kept.ledgers orderId after (untouched.row ▸ found)
      | placed tables user request acquired cart post validated clock written operation absent place
          row commands events =>
        rw [row] at found
        cases found
        have placed := (placeOrder_ok rfl place).1
        have alive : ended written.order.status = false ∧
            written.order.paymentStatus ≠ .refunded := by
          rw [placed]
          split
          · exact ⟨rfl, PaymentStatus.noConfusion⟩
          · exact ⟨rfl, PaymentStatus.noConfusion⟩
        unfold refundsOf
        rw [commands]
        refine ⟨fun ends => ?_, fun _ => ⟨kept.absent orderId absent, alive.2⟩⟩
        rw [alive.1] at ends
        cases ends
      | acted tables clock action order written performs was performed row commands events =>
        rw [row] at found
        cases found
        obtain rfl : order.id = orderId := Table.key_of_find? was
        have before := (kept.ledgers order.id order was).alive (not_ended_of_allowed performed.legal)
        have refunds := refunds_after commands before.1
        cases ends : ended action.target with
        | false => exact ledger_of_living performed ends before.2 refunds
        | true =>
          refine ledger_of_ending performed ends ?_ before.2 refunds
          refine refund_owed performs performed ends fun user same => ?_
          subst same
          cases performs
          have paid : order.status = .paymentSuccess := by
            have legal : OrderStatus.rejected ∈ allowed order.status := performed.legal
            revert legal
            cases order.status <;> decide
          obtain ⟨snapshot, owned⟩ := owned_of_advanceStatus outcome was
          exact routed order.id user order snapshot rfl was paid owned
    · intro orderId gone
      cases changed_outcome op outcome orderId with
      | same untouched =>
        unfold refundsOf
        rw [untouched.commands]
        exact kept.absent orderId (untouched.row ▸ gone)
      | placed tables user request acquired cart post validated clock written operation absent place
          row commands events =>
        rw [row] at gone
        cases gone
      | acted tables clock action order written performs was performed row commands events =>
        rw [row] at gone
        cases gone

/-- The status route's REJECTED leaves an order that is owed a refund without the command. -/
theorem unkept_of_unrouted {s : State} {label : Operation × Timestamp} (kept : Kept s)
    (unrouted : ¬ Routed s label) : ¬ LedgersKept (s.step label) := by
  obtain ⟨op, now⟩ := label
  unfold Routed at unrouted
  push Not at unrouted
  obtain ⟨orderId, user, order, snapshot, same, found, paid, owned⟩ := unrouted
  dsimp only at same
  subst same
  have legal : .rejected ∈ allowed order.status := by
    rw [paid]
    decide
  obtain ⟨written, performed, _, outcome⟩ := onOrder_advanceStatus now found owned legal
  have stepped : s.step (.advanceStatus orderId user .rejected, now) = s.commit written := by
    unfold State.step Operation.outcome
    dsimp only
    rw [outcome]
  obtain rfl : order.id = orderId := Table.key_of_find? found
  have before := (kept.ledgers order.id order found).alive (not_ended_of_allowed legal)
  have row : (s.commit written).orders.find? order.id = some written.order := by
    rw [State.commit_orders, ← performed.id, Table.find?_put_self]
  have appended : commandsOf order.id (s.commit written).outbox = commandsOf order.id s.outbox ++
      ((Action.advanceStatus user .rejected).command order.status).toList.map
        fun command => ⟨order.id, command, order.total⟩ := by
    rw [State.commit_outbox, commandsOf_append, performed.commandsOf, if_pos rfl]
  have commands : refundsOf order.id (s.commit written).outbox = [] :=
    refunds_after appended before.1
  intro ledgers
  rw [stepped] at ledgers
  have ledger := ledgers order.id written.order row
  have status : written.order.status = .rejected := performed.status
  obtain ⟨current, actor, reason, _, refunded, _⟩ := ledger.closed (by rw [status]; rfl)
  have command := (refunded (by rw [status]; rfl)).command
  rw [commands] at command
  cases command

/-- **When the refund ledger is kept.** From an empty database, a run keeps every order's ledger
exactly when the status route never moves an order from PAYMENT_SUCCESS to REJECTED. -/
theorem ledgersKept_always_iff (labels : List (Operation × Timestamp)) :
    Always State.step LedgersKept .empty labels ↔ Throughout State.step Routed .empty labels := by
  refine always_iff_throughout (Q := Kept) (fun s label kept routed => ?_)
    (fun s kept => kept.ledgers) (fun s label kept unrouted => ?_) kept_empty
  · exact kept_step kept routed
  · exact unkept_of_unrouted kept unrouted

/-- A customer pays by card, and the restaurant sets the order to REJECTED. -/
def declinedMeal : List (Operation × Timestamp) :=
  mealCheckout .card ++
    [ (.applyPaymentEvent ⟨some 1, some .succeeded⟩, 20),
      (.advanceStatus 1 ⟨9, "restaurant"⟩ .rejected, 30) ]

/-- **A paid customer with no refund.** -/
theorem declinedMeal_not_refunded : ¬ ∀ labels, Always State.step LedgersKept .empty labels := by
  intro always
  have ledgers := (always declinedMeal).last
  have declined : ((run State.step .empty declinedMeal).orders.find? 1).map
      (fun order => (order.status, order.refundStatus)) = some (.rejected, .none) := by decide
  obtain ⟨order, found, same⟩ := Option.map_eq_some_iff.mp declined
  obtain ⟨status, unrefunded⟩ : order.status = .rejected ∧ order.refundStatus = .none := by
    simpa using same
  obtain ⟨current, actor, reason, _, refunded, _⟩ :=
    (ledgers 1 order found).closed (by rw [status]; rfl)
  have full := (refunded (by rw [status]; rfl)).status
  rw [unrefunded] at full
  cases full

end FoodDelivery.Orders
