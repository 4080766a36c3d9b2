/-
**The audit trail of an order**, over the three tables that a status change writes: the order's
status, its `OrderStatusEvent` rows and its `order-events` outbox rows.

A `Call` is one of the nine operations that write a status, with any arguments, or one of the events
that fill the read-models they look into; an `Attempt` is a call with its clock and with what fails
under it, before its commit is durable or after. `Moved` is what any call can do to one order, and the
trail is kept because each of its cases extends it by a legal step (`AuditTrail.extend`).

`auditTrail_always`: whatever fails under which call, every order's trail opens with CREATED, is a
chain of legal steps that ends at the order's status, and every commit that changes a status tells
the other services once. A call that fails before its commit leaves nothing; one that fails after it
has committed all the same (`clearedTooLate_commits`).
-/

import Mathlib.Data.List.Chain
import FoodDelivery.Lib.Histories
import FoodDelivery.Orders.Runs

set_option autoImplicit false

namespace FoodDelivery.Orders

open FoodDelivery.Lib

/-! ### Calls and what fails under them -/

/-- The operations that write an order's status, and the events that write the read-models. -/
inductive Call where
  | createOrderFromCheckout (user : Identity) (request : CheckoutRequest) (acquired : Bool)
    (cart : CartView) (post : Nat → ValidateRequest → Except Raised Response)
  | markPaid (orderId : Nat)
  | cancelByCustomer (orderId : Nat) (user : Identity) (authHeader : String)
  | acceptByRestaurant (orderId : Nat) (user : Identity)
  | rejectByRestaurant (orderId : Nat) (user : Identity) (reason : Option String)
    (authHeader : String)
  | advanceStatus (orderId : Nat) (user : Identity) (target : OrderStatus)
  | driverAdvance (orderId : Nat) (target : OrderStatus)
  | expireUnpaidOrders
  | expirePendingAcceptances
  | applyAddressEvent (payload : AddressEvent)
  | applyRestaurantEvent (payload : RestaurantEvent)
  | applyUserEvent (payload : UserEvent)

/-- What a call leaves, or what it raises, when nothing fails under it. -/
def Call.outcome (s : State) (now : Timestamp) : Call → Except Raised State
  | .createOrderFromCheckout user request acquired cart post =>
    Orders.createOrderFromCheckout s user request acquired cart post now
  | .markPaid orderId => s.onOrder orderId .markPaid now
  | .cancelByCustomer orderId user authHeader =>
    s.onOrder orderId (.cancelByCustomer user authHeader) now
  | .acceptByRestaurant orderId user => s.onOrder orderId (.acceptByRestaurant user) now
  | .rejectByRestaurant orderId user reason authHeader =>
    s.onOrder orderId (.rejectByRestaurant user reason authHeader) now
  | .advanceStatus orderId user target => s.onOrder orderId (.advanceStatus user target) now
  | .driverAdvance orderId target => s.onOrder orderId (.driverAdvance target) now
  | .expireUnpaidOrders => s.sweep .expireUnpaidOrders now
  | .expirePendingAcceptances => s.sweep .expirePendingAcceptances now
  | .applyAddressEvent payload => .ok (Orders.applyAddressEvent s payload)
  | .applyRestaurantEvent payload => .ok (Orders.applyRestaurantEvent s payload)
  | .applyUserEvent payload => .ok (Orders.applyUserEvent s payload)

/-- Something outside the code fails under a call: before its commit is durable (a lost connection,
a lock that times out, a flush that is refused), or after (`clear_cart`, the reload of the order). -/
inductive Fault where
  | beforeCommit (raised : Raised)
  | afterCommit (raised : Raised)

structure Attempt where
  call : Call
  now : Timestamp
  fault : Option Fault := none

/-- The database an attempt commits; `none` when the attempt is over before its commit. -/
def Attempt.committed (attempt : Attempt) (s : State) : Option State :=
  match attempt.fault, attempt.call.outcome s attempt.now with
  | some (.beforeCommit _), _ => none
  | _, .ok next => some next
  | _, .error _ => none

/-- What an attempt raises. -/
def Attempt.raises (attempt : Attempt) (s : State) : Option Raised :=
  match attempt.fault, attempt.call.outcome s attempt.now with
  | some (.beforeCommit raised), _ => some raised
  | _, .error raised => some raised
  | some (.afterCommit raised), .ok _ => some raised
  | none, .ok _ => none

/-- One attempt; what it has not committed is rolled back. -/
def State.attempt (s : State) (attempt : Attempt) : State := (attempt.committed s).getD s

theorem outcome_of_committed {attempt : Attempt} {s next : State}
    (committed : attempt.committed s = some next) :
    attempt.call.outcome s attempt.now = .ok next := by
  unfold Attempt.committed at committed
  split at committed
  · cases committed
  · rename_i outcome _
    cases committed
    exact outcome
  · cases committed

/-! ### The trail -/

/-- The statuses an order stays in. -/
def finalStatuses : List OrderStatus := [.completed, .cancelled, .rejected]

/-- The rows of an order's transition log, oldest first, and the status they lead to. -/
structure AuditTrail (events : List OrderStatusEvent) (status : OrderStatus) : Prop where
  opens : ∃ first, events.head? = some first ∧ first.fromStatus = none ∧ first.toStatus = .created
  chained : events.IsChain fun earlier later => later.fromStatus = some earlier.toStatus
  legal : ∀ event ∈ events.tail, ∃ current, event.fromStatus = some current ∧
    event.toStatus ∈ allowed current
  final : ∀ before event after, events = before ++ event :: after →
    event.toStatus ∈ finalStatuses → after = []
  current : ∃ last, events.getLast? = some last ∧ last.toStatus = status

theorem allowed_of_final {status : OrderStatus} (final : status ∈ finalStatuses) :
    allowed status = [] := by
  revert final
  cases status <;> decide

/-- An order that was only just added. -/
theorem auditTrail_created (actor : Actor) (reason : Option String) :
    AuditTrail [⟨none, .created, actor, reason⟩] .created where
  opens := ⟨_, rfl, rfl, rfl⟩
  chained := by simp
  legal := by simp
  final := by
    intro before event after split final
    rcases List.append_eq_singleton_iff.mp split.symm with ⟨_, rest⟩ | ⟨_, rest⟩
    · exact (List.cons.inj rest).2
    · cases rest
  current := ⟨_, rfl, rfl⟩

/-- **One more step**: `apply_transition` keeps the trail. -/
theorem AuditTrail.extend {events : List OrderStatusEvent} {status target : OrderStatus}
    (trail : AuditTrail events status) (legal : target ∈ allowed status) (actor : Actor)
    (reason : Option String) :
    AuditTrail (events ++ [⟨some status, target, actor, reason⟩]) target where
  opens := by
    obtain ⟨first, head, facts⟩ := trail.opens
    refine ⟨first, ?_, facts⟩
    rw [List.head?_append, head]
    rfl
  chained := by
    obtain ⟨last, ends, same⟩ := trail.current
    refine List.IsChain.append trail.chained (by simp) fun earlier member later added => ?_
    rw [ends] at member
    cases member
    cases added
    rw [same]
  legal := by
    obtain ⟨first, head, _⟩ := trail.opens
    obtain ⟨rest, rfl⟩ : ∃ rest, events = first :: rest := List.head?_eq_some_iff.mp head
    intro event member
    rcases List.mem_append.mp member with earlier | added
    · exact trail.legal event earlier
    · obtain rfl := List.mem_singleton.mp added
      exact ⟨status, rfl, legal⟩
  final := by
    intro before event after split final
    obtain ⟨_, _, rest⟩ | ⟨front, events_eq, _⟩ := split_append_singleton split
    · exact rest
    · -- the step that was added would follow a final one
      obtain rfl := trail.final before event front events_eq final
      obtain ⟨last, ends, same⟩ := trail.current
      rw [events_eq, List.getLast?_concat] at ends
      cases ends
      rw [same] at final
      rw [allowed_of_final final] at legal
      cases legal
  current := ⟨_, List.getLast?_concat, rfl⟩

/-- The trail that placing an order leaves. -/
theorem auditTrail_placed {tables : State} {id customerId : Nat} {request : CheckoutRequest}
    {validated : ValidatedOrder} {now : Timestamp} {written : Written}
    (place : placeOrder tables (newOrder id customerId request validated now) = .ok written) :
    AuditTrail written.order.events written.order.status := by
  have pending : AuditTrail ((newOrder id customerId request validated now).events ++
      [⟨some .created, .paymentPending, .system, none⟩]) .paymentPending :=
    (auditTrail_created .system none).extend (by decide) .system none
  rw [(placeOrder_ok rfl place).1]
  split
  · exact pending.extend (by decide) .system _
  · exact pending

/-! ### What a call can do to one order -/

/-- Nothing; or it placed it; or it moved it one legal step. `tables` are the read-models it looked
into. -/
inductive Moved (orderId : Nat) (s next : State) : Prop
  | same (untouched : Untouched orderId s next)
  | placed (tables : State) (order : Order)
      (absent : s.orders.find? orderId = none)
      (trail : AuditTrail order.events order.status)
      (row : next.orders.find? orderId = some order)
      (events : eventsOf orderId next.outbox = eventsOf orderId s.outbox ++
        (emitStatus tables order).orderEvent?.toList)
  | moved (tables : State) (order after : Order) (actor : Actor) (reason : Option String)
      (found : s.orders.find? orderId = some order)
      (legal : after.status ∈ allowed order.status)
      (audit : after.events = order.events ++ [⟨some order.status, after.status, actor, reason⟩])
      (row : next.orders.find? orderId = some after)
      (events : eventsOf orderId next.outbox = eventsOf orderId s.outbox ++
        (emitStatus tables after).orderEvent?.toList)

variable {s next : State} {orderId : Nat} {now : Timestamp}

/-- A state change moves its order one legal step. -/
theorem moved_of_performed {tables : State} {action : Action} {order : Order} {written : Written}
    (performed : Performed tables now action order written)
    (found : s.orders.find? orderId = some order)
    (row : next.orders.find? orderId = some written.order)
    (events : eventsOf orderId next.outbox = eventsOf orderId s.outbox ++
      (emitStatus tables written.order).orderEvent?.toList) : Moved orderId s next := by
  obtain ⟨reason, audit⟩ := performed.audit
  rw [← performed.status] at audit
  have legal := performed.legal
  rw [← performed.status] at legal
  exact .moved tables order written.order action.actor reason found legal audit row events

theorem Changed.moved {op : Operation} (changed : Changed op orderId s next) :
    Moved orderId s next := by
  cases changed with
  | same untouched => exact .same untouched
  | placed tables user request acquired cart post validated now written operation absent place row
      commands events =>
    exact .placed tables written.order absent (auditTrail_placed place) row events
  | acted tables now action order written performs found performed row commands events =>
    exact moved_of_performed performed found row events

theorem moved_onOrder {target : Nat} {action : Action}
    (outcome : s.onOrder target action now = .ok next) (orderId : Nat) : Moved orderId s next := by
  rcases onOrder_cases outcome with rfl | ⟨order, written, found, performed, _, rfl⟩
  · exact .same (.refl orderId _)
  · obtain rfl : order.id = target := Table.key_of_find? found
    by_cases own : order.id = orderId
    · subst own
      refine moved_of_performed performed found ?_ ?_
      · rw [State.commit_orders, ← performed.id, Table.find?_put_self]
      · rw [State.commit_outbox, eventsOf_append, performed.eventsOf, if_pos rfl]
    · exact .same (untouched_commit s performed own)

/-- **What a call does to one order.** -/
theorem moved_outcome (call : Call) (outcome : call.outcome s now = .ok next) (orderId : Nat) :
    Moved orderId s next := by
  cases call with
  | createOrderFromCheckout user request acquired cart post =>
    exact (changed_create outcome orderId).moved
  | expireUnpaidOrders =>
    exact (changed_sweep Operation.Performs.expireUnpaidOrders outcome orderId).moved
  | expirePendingAcceptances =>
    exact (changed_sweep Operation.Performs.expirePendingAcceptances outcome orderId).moved
  | applyAddressEvent payload =>
    have changed : Changed (.applyAddressEvent payload) orderId s next :=
      changed_outcome (.applyAddressEvent payload) (show Operation.outcome s now _ = _ from outcome)
        orderId
    exact changed.moved
  | applyRestaurantEvent payload =>
    have changed : Changed (.applyRestaurantEvent payload) orderId s next :=
      changed_outcome (.applyRestaurantEvent payload) (show Operation.outcome s now _ = _ from outcome)
        orderId
    exact changed.moved
  | applyUserEvent payload =>
    have changed : Changed (.applyUserEvent payload) orderId s next :=
      changed_outcome (.applyUserEvent payload) (show Operation.outcome s now _ = _ from outcome)
        orderId
    exact changed.moved
  | _ => exact moved_onOrder outcome orderId

theorem moved_attempt (s : State) (attempt : Attempt) (orderId : Nat) :
    Moved orderId s (s.attempt attempt) := by
  unfold State.attempt
  cases committed : attempt.committed s with
  | none => exact .same (.refl orderId s)
  | some next => exact moved_outcome attempt.call (outcome_of_committed committed) orderId

/-! ### Trails and announcements over a run -/

/-- Every order's trail is in order. -/
def TrailsKept (s : State) : Prop :=
  ∀ orderId order, s.orders.find? orderId = some order → AuditTrail order.events order.status

/-- The status of the order with an id. -/
def statusOf (s : State) (orderId : Nat) : Option OrderStatus :=
  (s.orders.find? orderId).map Order.status

/-- **What an attempt tells the other services**: of each order that it creates or whose status it
changes, the status it leaves, once; of the others, nothing. What it does not commit is not there. -/
structure Announced (s : State) (attempt : Attempt) : Prop where
  told : ∀ orderId, statusOf (s.attempt attempt) orderId ≠ statusOf s orderId → ∃ event,
    eventsOf orderId (s.attempt attempt).outbox = eventsOf orderId s.outbox ++ [event] ∧
      statusOf (s.attempt attempt) orderId = some event.status
  silent : ∀ orderId, statusOf (s.attempt attempt) orderId = statusOf s orderId →
    eventsOf orderId (s.attempt attempt).outbox = eventsOf orderId s.outbox
  rolledBack : attempt.committed s = none → s.attempt attempt = s

theorem trail_of_moved (kept : TrailsKept s) (moved : Moved orderId s next) {order : Order}
    (found : next.orders.find? orderId = some order) : AuditTrail order.events order.status := by
  cases moved with
  | same untouched => exact kept orderId order (untouched.row ▸ found)
  | placed tables placed absent trail row events =>
    rw [row] at found
    cases found
    exact trail
  | moved tables before after actor reason was legal audit row events =>
    rw [row] at found
    cases found
    rw [audit]
    exact (kept orderId before was).extend legal actor reason

/-- **One attempt keeps every trail.** -/
theorem trailsKept_attempt (attempt : Attempt) (kept : TrailsKept s) :
    TrailsKept (s.attempt attempt) :=
  fun orderId _ found => trail_of_moved kept (moved_attempt s attempt orderId) found

/-- What an order event of a status change says of it. -/
theorem orderEvent_of_emitStatus (tables : State) (order : Order) : ∃ event,
    (emitStatus tables order).orderEvent?.toList = [event] ∧ event.status = order.status :=
  ⟨_, rfl, rfl⟩

theorem told_of_moved (moved : Moved orderId s next)
    (changed : statusOf next orderId ≠ statusOf s orderId) : ∃ event,
      eventsOf orderId next.outbox = eventsOf orderId s.outbox ++ [event] ∧
        statusOf next orderId = some event.status := by
  cases moved with
  | same untouched =>
    refine absurd ?_ changed
    unfold statusOf
    rw [untouched.row]
  | placed tables order absent trail row events =>
    obtain ⟨event, alone, status⟩ := orderEvent_of_emitStatus tables order
    refine ⟨event, by rw [events, alone], ?_⟩
    unfold statusOf
    rw [row, status]
    rfl
  | moved tables before after actor reason found legal audit row events =>
    obtain ⟨event, alone, status⟩ := orderEvent_of_emitStatus tables after
    refine ⟨event, by rw [events, alone], ?_⟩
    unfold statusOf
    rw [row, status]
    rfl

theorem silent_of_moved (moved : Moved orderId s next)
    (still : statusOf next orderId = statusOf s orderId) :
    eventsOf orderId next.outbox = eventsOf orderId s.outbox := by
  unfold statusOf at still
  cases moved with
  | same untouched => exact untouched.events
  | placed tables order absent trail row events =>
    rw [row, absent] at still
    cases still
  | moved tables before after actor reason found legal audit row events =>
    rw [row, found] at still
    exact absurd (Option.some.inj still) (ne_of_allowed legal)

theorem announced (s : State) (attempt : Attempt) : Announced s attempt where
  told := fun orderId => told_of_moved (moved_attempt s attempt orderId)
  silent := fun orderId => silent_of_moved (moved_attempt s attempt orderId)
  rolledBack := by
    intro nothing
    unfold State.attempt
    rw [nothing]
    rfl

/-- **The audit trail.** In every state that a run from an empty database visits, whatever fails
under its calls, every order's log opens with CREATED, is a chain of legal steps, ends in a final
status at the latest and leads to the order's status; and every commit that creates an order or
changes its status records one order event, with that status. -/
theorem auditTrail_always (attempts : List Attempt) :
    Always State.attempt TrailsKept .empty attempts ∧
      Throughout State.attempt Announced .empty attempts := by
  constructor
  · refine always_of_step (fun s attempt kept => trailsKept_attempt attempt kept) ?_
    intro orderId order found
    cases found
  · exact throughout_of_forall fun s attempt => announced s attempt

/-! ### A call that fails too late -/

/-- A customer checks out with cash; the order is committed, and Redis is gone when the cart is to be
cleared. -/
def clearedTooLate : List Attempt :=
  let verdict : Verdict :=
    { ok := some true
      restaurantId := some 3
      subtotal := some 20000
      items := some [⟨1, "Thali", 20000, 1, 20000⟩] }
  [ { call := .applyAddressEvent { addressId := some 5, userId := some 7 }, now := 0 },
    { call := .createOrderFromCheckout ⟨7, "customer"⟩
        { addressId := 5, priceHash := "h", paymentMethod := .cod } true
        { restaurantId := some 3
          items := [⟨1, "Thali", 20000, 1, 20000⟩]
          subtotal := 20000
          priceHash := "h" }
        (fun _ _ => .ok ⟨200, some verdict⟩)
      now := 10
      fault := some (.afterCommit (.other "ConnectionError" "Connection refused")) } ]

/-- **A call that raises may have committed**: the order is there, and it was announced. -/
theorem clearedTooLate_commits : ¬ ∀ attempts, Always State.attempt TrailsKept .empty attempts ∧
    Throughout State.attempt (fun s attempt => Announced s attempt ∧
      (attempt.raises s ≠ none → s.attempt attempt = s)) .empty attempts := by
  intro claimed
  obtain ⟨_, last, _⟩ := (claimed clearedTooLate).2
  have raised := last.2 (by decide)
  have placed : statusOf (run State.attempt .empty clearedTooLate) 1 = some .paymentSuccess := by
    decide
  have absent : statusOf (run State.attempt .empty (clearedTooLate.take 1)) 1 = none := by decide
  have same : run State.attempt .empty clearedTooLate =
    run State.attempt .empty (clearedTooLate.take 1) := raised
  rw [same, absent] at placed
  cases placed

end FoodDelivery.Orders
