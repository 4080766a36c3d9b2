/-
**No card order is cooked before it is paid for.**

`Books` is the orders service together with the ids of the orders for which it has consumed a
SUCCEEDED payment event. A card order past PAYMENT_PENDING should be among them and have its payment
status SUCCESS (`PaidFor`).

`paidFor_always_iff`: a run keeps that, from an empty database, if and only if no request of the
status route moves a card order from PAYMENT_PENDING to PAYMENT_SUCCESS. The transition table allows
that step to any actor, and the route passes on whatever target the restaurant names.
-/

import FoodDelivery.Orders.Runs

set_option autoImplicit false

namespace FoodDelivery.Orders

open FoodDelivery.Lib

/-- The statuses of an order that counts as paid. -/
def paidStatuses : List OrderStatus :=
  [.paymentSuccess, .restaurantAccepted, .preparing, .readyForPickup, .outForDelivery, .delivered,
    .completed]

/-- The service, and the orders for which it has consumed a SUCCEEDED payment event. -/
structure Books where
  state : State
  consumed : List Nat

/-- Nothing stored and nothing consumed. -/
def Books.empty : Books := ⟨.empty, []⟩

/-- The order whose SUCCEEDED payment event an operation is the consumption of. -/
def Operation.consumes : Operation → List Nat
  | .applyPaymentEvent ⟨some orderId, some .succeeded⟩ => [orderId]
  | _ => []

/-- One operation; a message whose handler raises is not consumed. -/
def Books.step (b : Books) (label : Operation × Timestamp) : Books :=
  match label.1.outcome b.state label.2 with
  | .ok next => ⟨next, b.consumed ++ label.1.consumes⟩
  | .error _ => b

/-- **Every card order that counts as paid has been paid for.** -/
def PaidFor (b : Books) : Prop :=
  ∀ orderId order, b.state.orders.find? orderId = some order → order.paymentMethod = .card →
    order.status ∈ paidStatuses → orderId ∈ b.consumed ∧ order.paymentStatus = .success

/-- No caller who manages the restaurant sets a card order that waits for its payment to
PAYMENT_SUCCESS. -/
def Unforced (b : Books) (label : Operation × Timestamp) : Prop :=
  ∀ orderId user order snapshot, label.1 = .advanceStatus orderId user .paymentSuccess →
    b.state.orders.find? orderId = some order → order.paymentMethod = .card →
    order.status = .paymentPending →
    ownedRestaurant b.state user order.restaurantId ≠ .ok snapshot

/-! ### The invariant -/

/-- A card order that waits for its payment says so, and one that counts as paid has been. -/
structure CardOrder (b : Books) (orderId : Nat) (order : Order) : Prop where
  waiting : order.status ∈ unpaidStates → order.paymentStatus = .pending
  paid : order.status ∈ paidStatuses → orderId ∈ b.consumed ∧ order.paymentStatus = .success

def Balanced (b : Books) : Prop :=
  ∀ orderId order, b.state.orders.find? orderId = some order → order.paymentMethod = .card →
    CardOrder b orderId order

theorem balanced_empty : Balanced .empty := by
  intro orderId order found
  cases found

/-- A paid status other than PAYMENT_SUCCESS is reached from a paid status. -/
theorem paid_of_allowed {current target : OrderStatus} (legal : target ∈ allowed current)
    (paid : target ∈ paidStatuses) :
    (target = .paymentSuccess ∧ current = .paymentPending) ∨
      (target ≠ .paymentSuccess ∧ current ∈ paidStatuses) := by
  revert legal paid
  cases current <;> cases target <;> decide

/-- An unpaid status is reached from an unpaid status. -/
theorem unpaid_of_allowed {current target : OrderStatus} (legal : target ∈ allowed current)
    (unpaid : target ∈ unpaidStates) : current ∈ unpaidStates := by
  revert legal unpaid
  cases current <;> cases target <;> decide

/-- An action that leaves its order alive leaves the payment status, but for `mark_paid`. -/
theorem Action.paymentStatusAfter_of_alive {action : Action} {order : Order}
    (other : action ≠ .markPaid) (alive : ended action.target = false) :
    action.paymentStatusAfter order = order.paymentStatus := by
  unfold Action.paymentStatusAfter
  rw [if_neg other]
  refine if_neg fun refunds => ?_
  rw [Action.ended_of_refund refunds] at alive
  cases alive

theorem alive_of_paid {status : OrderStatus} (paid : status ∈ paidStatuses) :
    ended status = false := by
  revert paid
  cases status <;> decide

theorem alive_of_unpaid {status : OrderStatus} (unpaid : status ∈ unpaidStates) :
    ended status = false := by
  revert unpaid
  cases status <;> decide

/-- Only these move an order to PAYMENT_SUCCESS. -/
theorem Operation.Performs.pays {op : Operation} {orderId : Nat} {action : Action}
    (performs : op.Performs orderId action) (pays : action.target = .paymentSuccess) :
    (action = .markPaid ∧ op.consumes = [orderId]) ∨
      ∃ user, op = .advanceStatus orderId user .paymentSuccess ∧
        action = .advanceStatus user .paymentSuccess := by
  cases performs with
  | markPaid orderId => exact Or.inl ⟨rfl, rfl⟩
  | advanceStatus orderId user target =>
    obtain rfl : target = .paymentSuccess := pays
    exact Or.inr ⟨user, rfl, rfl⟩
  | driverAdvance orderId status target drives =>
    obtain rfl : target = .paymentSuccess := pays
    unfold deliveryTarget at drives
    split at drives <;> cases drives
  | cancelByCustomer => cases pays
  | acceptByRestaurant => cases pays
  | rejectByRestaurant => cases pays
  | expireUnpaidOrders => cases pays
  | expirePendingAcceptances => cases pays

/-- **One step.** -/
theorem balanced_step {b : Books} {label : Operation × Timestamp} (balanced : Balanced b)
    (unforced : Unforced b label) : Balanced (b.step label) := by
  obtain ⟨op, now⟩ := label
  unfold Books.step
  cases outcome : op.outcome b.state now with
  | error raised => exact balanced
  | ok next =>
    intro orderId after found card
    have kept : ∀ id, id ∈ b.consumed → id ∈ b.consumed ++ op.consumes :=
      fun id member => List.mem_append_left _ member
    dsimp only at found
    cases changed_outcome op outcome orderId with
    | same untouched =>
      rw [untouched.row] at found
      have before := balanced orderId after found card
      exact ⟨before.waiting, fun paid => (before.paid paid).imp_left (kept orderId)⟩
    | placed tables user request acquired cart post validated clock written operation absent place
        row commands events =>
      rw [row] at found
      cases found
      have placed := (placeOrder_ok rfl place).1
      split at placed
      · rename_i cash
        have method : written.order.paymentMethod = .cod := by
          rw [placed]
          exact cash
        rw [method] at card
        cases card
      · have status : written.order.status = .paymentPending := by rw [placed]
        refine ⟨fun _ => by rw [placed]; rfl, fun paid => ?_⟩
        rw [status] at paid
        exact absurd paid (by decide)
    | acted tables clock action order written performs was performed row commands events =>
      rw [row] at found
      cases found
      rw [performed.method] at card
      have before := balanced orderId order was card
      constructor
      · intro unpaid
        rw [performed.status] at unpaid
        have other : action ≠ .markPaid := by
          rintro rfl
          exact absurd unpaid (by decide)
        rw [performed.payment, Action.paymentStatusAfter_of_alive other (alive_of_unpaid unpaid)]
        exact before.waiting (unpaid_of_allowed performed.legal unpaid)
      · intro paid
        rw [performed.status] at paid
        rw [performed.payment]
        rcases paid_of_allowed performed.legal paid with ⟨pays, pending⟩ | ⟨later, already⟩
        · rcases performs.pays pays with ⟨rfl, consumes⟩ | ⟨user, rfl, rfl⟩
          · refine ⟨List.mem_append_right _ ?_, rfl⟩
            rw [consumes]
            exact List.mem_singleton.mpr rfl
          · -- the status route: whoever is let through is whom the guard excludes
            obtain ⟨snapshot, owned⟩ := owned_of_advanceStatus outcome was
            exact absurd owned (unforced orderId user order snapshot rfl was card pending)
        · have other : action ≠ .markPaid := by
            rintro rfl
            exact later rfl
          rw [Action.paymentStatusAfter_of_alive other (alive_of_paid paid)]
          exact (before.paid already).imp_left (kept orderId)

/-- A forced order counts as paid while its payment is still pending. -/
theorem unpaid_of_forced {b : Books} {label : Operation × Timestamp} (balanced : Balanced b)
    (forced : ¬ Unforced b label) : ¬ PaidFor (b.step label) := by
  obtain ⟨op, now⟩ := label
  unfold Unforced at forced
  push Not at forced
  obtain ⟨orderId, user, order, snapshot, same, found, card, pending, owned⟩ := forced
  dsimp only at same
  subst same
  have legal : .paymentSuccess ∈ allowed order.status := by
    rw [pending]
    decide
  obtain ⟨written, performed, _, outcome⟩ := onOrder_advanceStatus now found owned legal
  have stepped : (b.step (.advanceStatus orderId user .paymentSuccess, now)).state =
      b.state.commit written := by
    unfold Books.step Operation.outcome
    dsimp only
    rw [outcome]
  have unpaid : order.paymentStatus = .pending := by
    refine (balanced orderId order found card).waiting ?_
    rw [pending]
    decide
  intro paidFor
  have id : written.order.id = orderId := performed.id.trans (Table.key_of_find? found)
  have row : (b.step (.advanceStatus orderId user .paymentSuccess, now)).state.orders.find? orderId =
      some written.order := by
    rw [stepped, State.commit_orders, ← id, Table.find?_put_self]
  have counts : written.order.status ∈ paidStatuses := by
    rw [performed.status]
    show OrderStatus.paymentSuccess ∈ paidStatuses
    decide
  have claimed := paidFor orderId written.order row (performed.method.trans card) counts
  have still : written.order.paymentStatus = .pending := by
    rw [performed.payment]
    exact unpaid
  rw [still] at claimed
  cases claimed.2

/-- **When no card order is cooked for free.** From an empty database, a run keeps every card order
that counts as paid paid for exactly when the status route never forces one that waits. -/
theorem paidFor_always_iff (labels : List (Operation × Timestamp)) :
    Always Books.step PaidFor .empty labels ↔ Throughout Books.step Unforced .empty labels := by
  refine always_iff_throughout (Q := Balanced) (fun b label balanced unforced => ?_)
    (fun b balanced => ?_) (fun b label balanced forced => ?_) balanced_empty
  · exact balanced_step balanced unforced
  · exact fun orderId order found card => (balanced orderId order found card).paid
  · exact unpaid_of_forced balanced forced

/-- A customer checks out with a card, and the restaurant sets the order to PAYMENT_SUCCESS. -/
def unpaidMeal : List (Operation × Timestamp) :=
  mealCheckout .card ++ [(.advanceStatus 1 ⟨9, "restaurant"⟩ .paymentSuccess, 20)]

/-- **A meal that nobody paid for.** -/
theorem unpaidMeal_not_paidFor : ¬ ∀ labels, Always Books.step PaidFor .empty labels := by
  intro always
  have paidFor := (always unpaidMeal).last
  have cooked : ((run Books.step .empty unpaidMeal).state.orders.find? 1).map
      (fun order => (order.paymentMethod, order.status, order.paymentStatus)) =
      some (.card, .paymentSuccess, .pending) := by decide
  obtain ⟨order, found, same⟩ := Option.map_eq_some_iff.mp cooked
  obtain ⟨card, status, pending⟩ : order.paymentMethod = .card ∧ order.status = .paymentSuccess ∧
      order.paymentStatus = .pending := by simpa using same
  have claimed := (paidFor 1 order found card (by rw [status]; decide)).2
  rw [pending] at claimed
  cases claimed

end FoodDelivery.Orders
