/-
**Runs of the orders service**: every request, message and sweep it handles, one at a time.

A step of a run is an `Operation` with the clock it reads; what raises leaves the database as it was.
`State.changed` is the inversion of a step for one order: nothing happened to it, or the step placed
it, or the step performed one of the eight state changes on it. It is the only place where the
operations themselves are looked into; an invariant of an order is proved from its three cases.
-/

import FoodDelivery.Lib.Runs
import FoodDelivery.Orders.Actions
import FoodDelivery.Orders.Consumer

set_option autoImplicit false

namespace FoodDelivery.Orders

open FoodDelivery.Lib

/-! ### Operations -/

/-- What the service is asked to do. `driver_advance` has one caller, the delivery-events handler,
and `mark_paid` has one, the payment-events handler. -/
inductive Operation where
  | createOrderFromCheckout (user : Identity) (request : CheckoutRequest) (acquired : Bool)
    (cart : CartView) (post : Nat → ValidateRequest → Except Raised Response)
  | cancelByCustomer (orderId : Nat) (user : Identity) (authHeader : String)
  | acceptByRestaurant (orderId : Nat) (user : Identity)
  | rejectByRestaurant (orderId : Nat) (user : Identity) (reason : Option String)
    (authHeader : String)
  | advanceStatus (orderId : Nat) (user : Identity) (target : OrderStatus)
  | applyPaymentEvent (payload : PaymentEvent)
  | applyDeliveryEvent (payload : DeliveryEvent)
  | applyAddressEvent (payload : AddressEvent)
  | applyRestaurantEvent (payload : RestaurantEvent)
  | applyUserEvent (payload : UserEvent)
  | expireUnpaidOrders
  | expirePendingAcceptances

/-- What an operation leaves, or what it raises. -/
def Operation.outcome (s : State) (now : Timestamp) : Operation → Except Raised State
  | .createOrderFromCheckout user request acquired cart post =>
    Orders.createOrderFromCheckout s user request acquired cart post now
  | .cancelByCustomer orderId user authHeader =>
    s.onOrder orderId (.cancelByCustomer user authHeader) now
  | .acceptByRestaurant orderId user => s.onOrder orderId (.acceptByRestaurant user) now
  | .rejectByRestaurant orderId user reason authHeader =>
    s.onOrder orderId (.rejectByRestaurant user reason authHeader) now
  | .advanceStatus orderId user target => s.onOrder orderId (.advanceStatus user target) now
  | .applyPaymentEvent payload => Orders.applyPaymentEvent s payload now
  | .applyDeliveryEvent payload => .ok (Orders.applyDeliveryEvent s payload now)
  | .applyAddressEvent payload => .ok (Orders.applyAddressEvent s payload)
  | .applyRestaurantEvent payload => .ok (Orders.applyRestaurantEvent s payload)
  | .applyUserEvent payload => .ok (Orders.applyUserEvent s payload)
  | .expireUnpaidOrders => s.sweep .expireUnpaidOrders now
  | .expirePendingAcceptances => s.sweep .expirePendingAcceptances now

/-- One operation with its clock; a transaction that raises is rolled back. -/
def State.step (s : State) (label : Operation × Timestamp) : State :=
  match label.1.outcome s label.2 with
  | .ok next => next
  | .error _ => s

/-- The state change an operation makes on an order, when it makes one. -/
inductive Operation.Performs : Operation → Nat → Action → Prop
  | cancelByCustomer (orderId : Nat) (user : Identity) (authHeader : String) :
    Performs (.cancelByCustomer orderId user authHeader) orderId (.cancelByCustomer user authHeader)
  | acceptByRestaurant (orderId : Nat) (user : Identity) :
    Performs (.acceptByRestaurant orderId user) orderId (.acceptByRestaurant user)
  | rejectByRestaurant (orderId : Nat) (user : Identity) (reason : Option String)
      (authHeader : String) :
    Performs (.rejectByRestaurant orderId user reason authHeader) orderId
      (.rejectByRestaurant user reason authHeader)
  | advanceStatus (orderId : Nat) (user : Identity) (target : OrderStatus) :
    Performs (.advanceStatus orderId user target) orderId (.advanceStatus user target)
  | markPaid (orderId : Nat) :
    Performs (.applyPaymentEvent ⟨some orderId, some .succeeded⟩) orderId .markPaid
  | driverAdvance (orderId : Nat) (status : Option DeliveryStatus) (target : OrderStatus)
      (drives : deliveryTarget status = some target) :
    Performs (.applyDeliveryEvent ⟨some orderId, status⟩) orderId (.driverAdvance target)
  | expireUnpaidOrders (orderId : Nat) : Performs .expireUnpaidOrders orderId .expireUnpaidOrders
  | expirePendingAcceptances (orderId : Nat) :
    Performs .expirePendingAcceptances orderId .expirePendingAcceptances

/-! ### What a step can do to one order -/

/-- The order events among some outbox rows that are keyed by an order. -/
def eventsOf (orderId : Nat) (outbox : List OutboxEvent) : List OrderEvent :=
  (outbox.filterMap OutboxEvent.orderEvent?).filter fun event => event.orderId = orderId

@[simp] theorem eventsOf_append (orderId : Nat) (first second : List OutboxEvent) :
    eventsOf orderId (first ++ second) = eventsOf orderId first ++ eventsOf orderId second := by
  simp [eventsOf]

theorem mem_eventsOf {orderId : Nat} {outbox : List OutboxEvent} {event : OrderEvent} :
    event ∈ eventsOf orderId outbox ↔
      event ∈ outbox.filterMap OutboxEvent.orderEvent? ∧ event.orderId = orderId := by
  rw [eventsOf, List.mem_filter, decide_eq_true_iff]

theorem orderId_of_eventsOf {orderId : Nat} {outbox : List OutboxEvent} {event : OrderEvent}
    (member : event ∈ eventsOf orderId outbox) : event.orderId = orderId :=
  (mem_eventsOf.mp member).2

/-- A step that has nothing to do with the order with an id. -/
structure Untouched (orderId : Nat) (s next : State) : Prop where
  row : next.orders.find? orderId = s.orders.find? orderId
  commands : commandsOf orderId next.outbox = commandsOf orderId s.outbox
  events : eventsOf orderId next.outbox = eventsOf orderId s.outbox

theorem Untouched.refl (orderId : Nat) (s : State) : Untouched orderId s s := ⟨rfl, rfl, rfl⟩

theorem Untouched.trans {orderId : Nat} {s middle next : State}
    (first : Untouched orderId s middle) (second : Untouched orderId middle next) :
    Untouched orderId s next where
  row := second.row.trans first.row
  commands := second.commands.trans first.commands
  events := second.events.trans first.events

/-- The outcomes of a step for the order with an id; `tables` are the read-models it looked into. -/
inductive Changed (op : Operation) (orderId : Nat) (s next : State) : Prop
  | same (untouched : Untouched orderId s next)
  | placed (tables : State) (user : Identity) (request : CheckoutRequest) (acquired : Bool)
      (cart : CartView) (post : Nat → ValidateRequest → Except Raised Response)
      (validated : ValidatedOrder) (now : Timestamp) (written : Written)
      (operation : op = .createOrderFromCheckout user request acquired cart post)
      (absent : s.orders.find? orderId = none)
      (place : placeOrder tables (newOrder orderId user.userId request validated now) = .ok written)
      (row : next.orders.find? orderId = some written.order)
      (commands : commandsOf orderId next.outbox = commandsOf orderId s.outbox)
      (events : eventsOf orderId next.outbox = eventsOf orderId s.outbox ++
        (emitStatus tables written.order).orderEvent?.toList)
  | acted (tables : State) (now : Timestamp) (action : Action) (order : Order) (written : Written)
      (performs : op.Performs orderId action)
      (found : s.orders.find? orderId = some order)
      (performed : Performed tables now action order written)
      (row : next.orders.find? orderId = some written.order)
      (commands : commandsOf orderId next.outbox = commandsOf orderId s.outbox ++
        (action.command order.status).toList.map fun command => ⟨orderId, command, order.total⟩)
      (events : eventsOf orderId next.outbox = eventsOf orderId s.outbox ++
        (emitStatus tables written.order).orderEvent?.toList)

variable {op : Operation} {orderId : Nat} {s middle next tables : State} {now : Timestamp}
  {action : Action} {order : Order} {written : Written}

theorem Changed.refl (op : Operation) (orderId : Nat) (s : State) : Changed op orderId s s :=
  .same (.refl orderId s)

/-- A change after a part of the step that has nothing to do with the order. -/
theorem Changed.after (first : Untouched orderId s middle)
    (second : Changed op orderId middle next) : Changed op orderId s next := by
  cases second with
  | same untouched => exact .same (first.trans untouched)
  | placed tables user request acquired cart post validated now written operation absent place row
      commands events =>
    exact .placed tables user request acquired cart post validated now written operation
      (first.row ▸ absent) place row (first.commands ▸ commands) (first.events ▸ events)
  | acted tables now action order written performs found performed row commands events =>
    exact .acted tables now action order written performs (first.row ▸ found) performed row
      (first.commands ▸ commands) (first.events ▸ events)

/-- A change before such a part. -/
theorem Changed.before (first : Changed op orderId s middle)
    (second : Untouched orderId middle next) : Changed op orderId s next := by
  cases first with
  | same untouched => exact .same (untouched.trans second)
  | placed tables user request acquired cart post validated now written operation absent place row
      commands events =>
    exact .placed tables user request acquired cart post validated now written operation absent
      place (second.row.trans row) (second.commands.trans commands) (second.events.trans events)
  | acted tables now action order written performs found performed row commands events =>
    exact .acted tables now action order written performs found performed (second.row.trans row)
      (second.commands.trans commands) (second.events.trans events)

/-- What is written about an order stays written. -/
theorem Changed.events_grow (changed : Changed op orderId s next) {event : OrderEvent}
    (member : event ∈ eventsOf orderId s.outbox) : event ∈ eventsOf orderId next.outbox := by
  cases changed with
  | same untouched =>
    rw [untouched.events]
    exact member
  | placed tables user request acquired cart post validated now written operation absent place row
      commands events =>
    rw [events]
    exact List.mem_append_left _ member
  | acted tables now action before written performs found performed row commands events =>
    rw [events]
    exact List.mem_append_left _ member

/-! ### A state change, seen from one order -/

/-- The commands a state change records are its own order's. -/
theorem Performed.commandsOf (performed : Performed tables now action order written)
    (orderId : Nat) : commandsOf orderId written.outbox = if order.id = orderId then
      (action.command order.status).toList.map fun command => ⟨order.id, command, order.total⟩
    else [] := by
  unfold Orders.commandsOf
  rw [performed.commands]
  cases action.command order.status with
  | none => simp
  | some command => simp [List.filter_cons]

/-- So are the order events. -/
theorem Performed.eventsOf (performed : Performed tables now action order written)
    (orderId : Nat) : eventsOf orderId written.outbox = if order.id = orderId then
      (emitStatus tables written.order).orderEvent?.toList
    else [] := by
  unfold Orders.eventsOf
  rw [performed.announced]
  simp only [emitStatus, OutboxEvent.orderEvent?, Option.toList_some, List.filter_cons,
    performed.id, decide_eq_true_eq, List.filter_nil]

theorem untouched_commit (s : State) (performed : Performed tables now action order written)
    (other : order.id ≠ orderId) : Untouched orderId s (s.commit written) where
  row := by
    rw [State.commit_orders, Table.find?_put_other]
    rw [performed.id]
    exact other
  commands := by
    rw [State.commit_outbox, commandsOf_append, performed.commandsOf, if_neg other, List.append_nil]
  events := by
    rw [State.commit_outbox, eventsOf_append, performed.eventsOf, if_neg other, List.append_nil]

/-- **A commit, seen from one order**: its own order acted, every other is as it was. -/
theorem changed_commit (performed : Performed tables now action order written)
    (found : s.orders.find? order.id = some order) (performs : op.Performs order.id action)
    (orderId : Nat) : Changed op orderId s (s.commit written) := by
  by_cases same : order.id = orderId
  · subst same
    refine .acted tables now action order written performs found performed ?_ ?_ ?_
    · rw [State.commit_orders, ← performed.id, Table.find?_put_self]
    · rw [State.commit_outbox, commandsOf_append, performed.commandsOf, if_pos rfl]
    · rw [State.commit_outbox, eventsOf_append, performed.eventsOf, if_pos rfl]
  · exact .same (untouched_commit s performed same)

/-- **The outcomes of a state change**: it leaves everything, or it commits what it wrote. -/
theorem onOrder_cases (outcome : s.onOrder orderId action now = .ok next) :
    next = s ∨ ∃ order written, s.orders.find? orderId = some order ∧
      Performed s now action order written ∧
      written.release = (action.releaseHeader.map fun authHeader => restoreStock order authHeader) ∧
      next = s.commit written := by
  unfold State.onOrder at outcome
  split at outcome
  · cases outcome
  · rename_i order found
    obtain ⟨result, body, rest⟩ := bind_eq_ok.mp outcome
    cases result with
    | none =>
      cases rest
      exact Or.inl rfl
    | some written =>
      cases rest
      exact Or.inr ⟨order, written, found, performed_of_body body, release_of_body body, rfl⟩

theorem changed_onOrder {target : Nat} (outcome : s.onOrder target action now = .ok next)
    (performs : op.Performs target action) (orderId : Nat) : Changed op orderId s next := by
  rcases onOrder_cases outcome with rfl | ⟨order, written, found, performed, _, rfl⟩
  · exact Changed.refl op orderId _
  · have id : order.id = target := Table.key_of_find? found
    subst id
    exact changed_commit performed found performs orderId

/-! ### The status route -/

/-- Whoever is let through manages the restaurant. -/
theorem owned_of_advanceStatus {user : Identity} {target : OrderStatus}
    (outcome : s.onOrder orderId (.advanceStatus user target) now = .ok next)
    (found : s.orders.find? orderId = some order) :
    ∃ snapshot, ownedRestaurant s user order.restaurantId = .ok snapshot := by
  unfold State.onOrder at outcome
  rw [found] at outcome
  obtain ⟨_, body, _⟩ := bind_eq_ok.mp outcome
  obtain ⟨snapshot, owned, _⟩ := bind_eq_ok.mp body
  exact ⟨snapshot, owned⟩

/-- Whoever manages the restaurant makes any transition the table allows. -/
theorem advanceStatus_writes {user : Identity} {target : OrderStatus}
    {snapshot : RestaurantSnapshot} (now : Timestamp)
    (owned : ownedRestaurant s user order.restaurantId = .ok snapshot)
    (legal : target ∈ allowed order.status) :
    ∃ written, advanceStatus s user target now order = .ok (some written) := by
  unfold advanceStatus
  rw [owned]
  have transition : applyTransition order target .restaurant = .ok { order with
      status := target
      events := order.events ++ [⟨some order.status, target, .restaurant, none⟩] } :=
    applyTransition_ok.mpr ⟨legal, rfl⟩
  simp only [bind, Except.bind, pure, Except.pure, transition]
  split
  · exact ⟨_, rfl⟩
  · exact ⟨_, rfl⟩

theorem onOrder_advanceStatus {user : Identity} {target : OrderStatus}
    {snapshot : RestaurantSnapshot} (now : Timestamp) (found : s.orders.find? orderId = some order)
    (owned : ownedRestaurant s user order.restaurantId = .ok snapshot)
    (legal : target ∈ allowed order.status) :
    ∃ written, Performed s now (.advanceStatus user target) order written ∧
      written.release = ((Action.advanceStatus user target).releaseHeader.map fun authHeader =>
        restoreStock order authHeader) ∧
      s.onOrder orderId (.advanceStatus user target) now = .ok (s.commit written) := by
  obtain ⟨written, body⟩ := advanceStatus_writes now owned legal
  refine ⟨written, advanceStatus_performed body, advanceStatus_release body, ?_⟩
  unfold State.onOrder
  rw [found]
  show (advanceStatus s user target now order >>= _) = _
  rw [body]
  rfl

/-! ### The driver's delivery -/

/-- A delivery event moves its order wherever the table allows. -/
theorem find?_driverAdvance {status : Option DeliveryStatus} {target : OrderStatus} (now : Timestamp)
    (found : s.orders.find? orderId = some order) (legal : target ∈ allowed order.status)
    (drives : deliveryTarget status = some target) :
    ∃ moved, (s.step (.applyDeliveryEvent ⟨some orderId, status⟩, now)).orders.find? orderId =
      some moved ∧ moved.status = target := by
  have transition : applyTransition order target .driver = .ok { order with
      status := target
      events := order.events ++ [⟨some order.status, target, .driver, none⟩] } :=
    applyTransition_ok.mpr ⟨legal, rfl⟩
  have body : ∃ written, driverAdvance s target now order = .ok (some written) := by
    unfold driverAdvance
    rw [transition]
    exact ⟨_, rfl⟩
  obtain ⟨written, body⟩ := body
  have performed := driverAdvance_performed body
  have outcome : s.onOrder orderId (.driverAdvance target) now = .ok (s.commit written) := by
    unfold State.onOrder
    rw [found]
    show (driverAdvance s target now order >>= _) = _
    rw [body]
    rfl
  have stepped : s.step (.applyDeliveryEvent ⟨some orderId, status⟩, now) = s.commit written := by
    show Orders.applyDeliveryEvent s ⟨some orderId, status⟩ now = _
    unfold Orders.applyDeliveryEvent
    simp only [drives, outcome]
  have own : written.order.id = orderId := performed.id.trans (Table.key_of_find? found)
  refine ⟨written.order, ?_, performed.status⟩
  rw [stepped, State.commit_orders, ← own, Table.find?_put_self]

/-! ### A sweep, seen from one order -/

/-- **The rows of a sweep.** Each row is still as it was selected when its turn comes, because no
other row has its id; an order that is not among them is left alone. -/
theorem changed_sweepRows (performs : ∀ orderId, op.Performs orderId action) (orderId : Nat)
    {rows : List Order} (distinct : (rows.map Order.id).Nodup)
    (current : ∀ row ∈ rows, s.orders.find? row.id = some row)
    (outcome : s.sweepRows action now rows = .ok next) :
    Changed op orderId s next ∧ (orderId ∉ rows.map Order.id → Untouched orderId s next) := by
  induction rows generalizing s with
  | nil =>
    cases outcome
    exact ⟨Changed.refl op orderId _, fun _ => .refl orderId _⟩
  | cons row rows ih =>
    obtain ⟨first, others⟩ := List.nodup_cons.mp distinct
    have found := current row List.mem_cons_self
    obtain ⟨result, body, rest⟩ := bind_eq_ok.mp outcome
    cases result with
    | none =>
      have later : ∀ row ∈ rows, s.orders.find? row.id = some row :=
        fun row member => current row (List.mem_cons_of_mem _ member)
      obtain ⟨changed, untouched⟩ := ih others later rest
      refine ⟨changed, fun absent => untouched fun member => absent ?_⟩
      exact List.mem_cons_of_mem _ member
    | some written =>
      have performed := performed_of_body body
      have later : ∀ row ∈ rows, (s.commit written).orders.find? row.id = some row := by
        intro other member
        have different : row.id ≠ other.id :=
          fun same => first (same ▸ List.mem_map_of_mem member)
        rw [(untouched_commit s performed different).row]
        exact current other (List.mem_cons_of_mem _ member)
      obtain ⟨changed, untouched⟩ := ih others later rest
      by_cases same : row.id = orderId
      · subst same
        refine ⟨?_, fun absent => absurd List.mem_cons_self absent⟩
        exact (changed_commit performed found (performs row.id) row.id).before (untouched first)
      · have aside := untouched_commit s performed same
        refine ⟨changed.after aside, fun absent => aside.trans (untouched fun member => absent ?_)⟩
        exact List.mem_cons_of_mem _ member

theorem changed_sweep (performs : ∀ orderId, op.Performs orderId action)
    (outcome : s.sweep action now = .ok next) (orderId : Nat) : Changed op orderId s next := by
  refine (changed_sweepRows performs orderId s.orders.unique (fun row member => ?_) outcome).1
  exact Table.find?_eq_some.mpr ⟨member, rfl⟩

/-- What a sweep looks for. -/
def Action.selects (now : Timestamp) : Action → Order → Bool
  | .expireUnpaidOrders => isStale .paymentPending paymentWindowSeconds now
  | .expirePendingAcceptances => isStale .paymentSuccess restaurantAcceptTimeoutSeconds now
  | _ => fun _ => false

/-- The two sweeps. -/
def Action.sweeps (action : Action) : Prop :=
  action = .expireUnpaidOrders ∨ action = .expirePendingAcceptances

theorem expireUnpaidOrder_stale {order : Order} (s : State) (now : Timestamp)
    (stale : isStale .paymentPending paymentWindowSeconds now order = true) :
    ∃ written, expireUnpaidOrder s now order = .ok (some written) := by
  have waiting : order.status = .paymentPending := (of_decide_eq_true stale).1
  have transition : applyTransition order .cancelled .system
      (some "payment was not completed in time") = .ok _ :=
    applyTransition_ok.mpr ⟨by rw [waiting]; decide, rfl⟩
  unfold expireUnpaidOrder
  rw [if_pos stale, transition]
  exact ⟨_, rfl⟩

theorem expirePendingAcceptance_stale {order : Order} (s : State) (now : Timestamp)
    (stale : isStale .paymentSuccess restaurantAcceptTimeoutSeconds now order = true) :
    ∃ written, expirePendingAcceptance s now order = .ok (some written) := by
  have paid : order.status = .paymentSuccess := (of_decide_eq_true stale).1
  have transition : applyTransition order .cancelled .system
      (some "restaurant acceptance timeout") = .ok _ :=
    applyTransition_ok.mpr ⟨by rw [paid]; decide, rfl⟩
  unfold expirePendingAcceptance
  rw [if_pos stale, transition]
  exact ⟨_, rfl⟩

/-- **A sweep's turn**: it passes over the rows it does not look for and writes the others. -/
theorem body_of_sweeps (s : State) (now : Timestamp) (order : Order) (sweeps : action.sweeps) :
    (action.selects now order = false ∧ action.body s now order = .ok none) ∨
      ∃ written, action.selects now order = true ∧
        action.body s now order = .ok (some written) := by
  rcases sweeps with rfl | rfl
  · by_cases stale : isStale .paymentPending paymentWindowSeconds now order = true
    · obtain ⟨written, body⟩ := expireUnpaidOrder_stale s now stale
      exact Or.inr ⟨written, stale, body⟩
    · exact Or.inl ⟨eq_false_of_ne_true stale, if_neg stale⟩
  · by_cases stale : isStale .paymentSuccess restaurantAcceptTimeoutSeconds now order = true
    · obtain ⟨written, body⟩ := expirePendingAcceptance_stale s now stale
      exact Or.inr ⟨written, stale, body⟩
    · exact Or.inl ⟨eq_false_of_ne_true stale, if_neg stale⟩

/-- **A sweep ends the orders it looks for** and leaves the others, and calls release-stock without a
header. -/
theorem sweepRows_of_sweeps (sweeps : action.sweeps) {rows : List Order}
    (distinct : (rows.map Order.id).Nodup) (performs : ∀ orderId, op.Performs orderId action)
    (current : ∀ row ∈ rows, s.orders.find? row.id = some row) :
    ∃ next, ∃ swept : List Order, s.sweepRows action now rows = .ok next ∧
      next.releases = s.releases ++ swept.map (fun order => restoreStock order "") ∧
      ∀ row ∈ rows, ∃ order, next.orders.find? row.id = some order ∧
        (action.selects now row = true → order.status = .cancelled) ∧
        (action.selects now row = false → order = row) := by
  induction rows generalizing s with
  | nil => exact ⟨s, [], rfl, by simp, fun _ member => by cases member⟩
  | cons row rows ih =>
    obtain ⟨first, others⟩ := List.nodup_cons.mp distinct
    rcases body_of_sweeps s now row sweeps with ⟨passed, body⟩ | ⟨written, selected, body⟩
    · have later : ∀ other ∈ rows, s.orders.find? other.id = some other :=
        fun other member => current other (List.mem_cons_of_mem _ member)
      obtain ⟨next, swept, result, releases, ends⟩ := ih others later
      refine ⟨next, swept, ?_, releases, fun other member => ?_⟩
      · rw [State.sweepRows, body]
        exact result
      · rcases List.mem_cons.mp member with rfl | rest
        · have aside := (changed_sweepRows performs other.id others later result).2 first
          refine ⟨other, ?_, fun selected => ?_, fun _ => rfl⟩
          · rw [aside.row]
            exact current other List.mem_cons_self
          · rw [passed] at selected
            exact Bool.noConfusion selected
        · exact ends other rest
    · have performed := performed_of_body body
      have later : ∀ other ∈ rows, (s.commit written).orders.find? other.id = some other := by
        intro other member
        have different : row.id ≠ other.id :=
          fun same => first (same ▸ List.mem_map_of_mem member)
        rw [(untouched_commit s performed different).row]
        exact current other (List.mem_cons_of_mem _ member)
      obtain ⟨next, swept, result, releases, ends⟩ := ih others later
      have released : written.release = some (restoreStock row "") := by
        rw [release_of_body body]
        rcases sweeps with rfl | rfl
        · rfl
        · rfl
      have target : action.target = .cancelled := by
        rcases sweeps with rfl | rfl
        · rfl
        · rfl
      refine ⟨next, row :: swept, ?_, ?_, fun other member => ?_⟩
      · rw [State.sweepRows, body]
        exact result
      · rw [releases, show (s.commit written).releases = s.releases ++ written.release.toList from rfl,
          released]
        simp
      · rcases List.mem_cons.mp member with rfl | rest
        · have aside := (changed_sweepRows performs other.id others later result).2 first
          refine ⟨written.order, ?_, fun _ => performed.status.trans target, fun passed => ?_⟩
          · rw [aside.row, State.commit_orders, ← performed.id, Table.find?_put_self]
          · rw [selected] at passed
            exact Bool.noConfusion passed
        · exact ends other rest

/-! ### A checkout, seen from one order -/

/-- The next id is nobody's. -/
theorem find?_nextOrderId (s : State) : s.orders.find? s.nextOrderId = none := by
  have fresh : s.nextOrderId ∉ s.orders.rows.map Order.id := nextId_not_mem _
  refine Table.find?_eq_none.mpr fun row member same => ?_
  exact fresh (same ▸ List.mem_map_of_mem member)

/-- **What placing an order writes**: a card order that waits for its payment, or a cash order that
counts as paid. -/
theorem placeOrder_ok {placed : Order} (created : placed.status = .created)
    (place : placeOrder s placed = .ok written) :
    written.order =
      (if placed.paymentMethod = .cod then
        { placed with
          status := .paymentSuccess
          paymentStatus := .success
          events := placed.events ++ [⟨some .created, .paymentPending, .system, none⟩] ++
            [⟨some .paymentPending, .paymentSuccess, .system,
              some "COD: to be collected on delivery"⟩] }
      else
        { placed with
          status := .paymentPending
          events := placed.events ++ [⟨some .created, .paymentPending, .system, none⟩] }) ∧
      written.outbox.filterMap OutboxEvent.command? = [] ∧
      written.outbox.filterMap OutboxEvent.orderEvent? =
        (emitStatus s written.order).orderEvent?.toList ∧
      written.release = none := by
  obtain ⟨_, rest⟩ := bind_applyTransition_ok.mp place
  dsimp only at rest
  split at rest
  · rename_i cash
    obtain ⟨_, rest⟩ := bind_applyTransition_ok.mp rest
    cases rest
    rw [if_pos cash]
    exact ⟨by simp [created], commands_paid _ _, announced_paid _ _, rfl⟩
  · rename_i card
    cases rest
    rw [if_neg card]
    exact ⟨by simp [created], rfl, rfl, rfl⟩

theorem changed_create {user : Identity} {request : CheckoutRequest} {acquired : Bool}
    {cart : CartView} {post : Nat → ValidateRequest → Except Raised Response}
    (outcome : createOrderFromCheckout s user request acquired cart post now = .ok next)
    (orderId : Nat) :
    Changed (.createOrderFromCheckout user request acquired cart post) orderId s next := by
  unfold createOrderFromCheckout at outcome
  split at outcome
  · cases outcome
  · obtain ⟨validated, _, rest⟩ := bind_eq_ok.mp outcome
    obtain ⟨written, place, rest⟩ := bind_eq_ok.mp rest
    cases rest
    obtain ⟨order, commands, events, _⟩ := placeOrder_ok rfl place
    have id : written.order.id = s.nextOrderId := by
      rw [order]
      split <;> rfl
    have no_commands : commandsOf orderId written.outbox = [] := by
      unfold commandsOf
      rw [commands, List.filter_nil]
    by_cases same : s.nextOrderId = orderId
    · subst same
      refine .placed s user request acquired cart post validated now written rfl
        (find?_nextOrderId s) place ?_ ?_ ?_
      · rw [State.commit_orders, ← id, Table.find?_put_self]
      · rw [State.commit_outbox, commandsOf_append, no_commands, List.append_nil]
      · rw [State.commit_outbox, eventsOf_append]
        congr 1
        unfold eventsOf
        rw [events]
        simp [emitStatus, OutboxEvent.orderEvent?, id]
    · refine .same ⟨?_, ?_, ?_⟩
      · rw [State.commit_orders, Table.find?_put_other]
        rw [id]
        exact same
      · rw [State.commit_outbox, commandsOf_append, no_commands, List.append_nil]
      · have no_events : eventsOf orderId written.outbox = [] := by
          unfold eventsOf
          rw [events]
          simp [emitStatus, OutboxEvent.orderEvent?, id, same]
        rw [State.commit_outbox, eventsOf_append, no_events, List.append_nil]

/-! ### The inversion of a step -/

theorem changed_outcome (op : Operation) (outcome : op.outcome s now = .ok next) (orderId : Nat) :
    Changed op orderId s next := by
  cases op with
  | createOrderFromCheckout user request acquired cart post =>
    exact changed_create outcome orderId
  | cancelByCustomer target user authHeader =>
    exact changed_onOrder outcome (.cancelByCustomer target user authHeader) orderId
  | acceptByRestaurant target user =>
    exact changed_onOrder outcome (.acceptByRestaurant target user) orderId
  | rejectByRestaurant target user reason authHeader =>
    exact changed_onOrder outcome (.rejectByRestaurant target user reason authHeader) orderId
  | advanceStatus target user status =>
    exact changed_onOrder outcome (.advanceStatus target user status) orderId
  | applyPaymentEvent payload =>
    obtain ⟨target, status⟩ := payload
    change Orders.applyPaymentEvent s ⟨target, status⟩ now = .ok next at outcome
    unfold Orders.applyPaymentEvent at outcome
    cases target with
    | none =>
      cases outcome
      exact Changed.refl _ orderId s
    | some target =>
      dsimp only at outcome
      split at outcome
      · cases outcome
        exact Changed.refl _ orderId s
      · rename_i succeeded
        obtain rfl := not_not.mp succeeded
        exact changed_onOrder outcome (.markPaid target) orderId
  | applyDeliveryEvent payload =>
    obtain ⟨target, status⟩ := payload
    cases outcome
    unfold Orders.applyDeliveryEvent
    split
    · rename_i target status' same drives
      dsimp only at same drives
      subst same
      split
      · rename_i advanced outcome
        exact changed_onOrder outcome (.driverAdvance target status status' drives) orderId
      · exact Changed.refl _ orderId s
    · exact Changed.refl _ orderId s
  | applyAddressEvent payload =>
    cases outcome
    unfold Orders.applyAddressEvent
    split
    · exact Changed.refl _ orderId s
    · exact .same ⟨rfl, rfl, rfl⟩
  | applyRestaurantEvent payload =>
    cases outcome
    unfold Orders.applyRestaurantEvent
    split
    · exact Changed.refl _ orderId s
    · exact .same ⟨rfl, rfl, rfl⟩
  | applyUserEvent payload =>
    cases outcome
    unfold Orders.applyUserEvent
    split
    · exact Changed.refl _ orderId s
    · split
      · exact Changed.refl _ orderId s
      · exact .same ⟨rfl, rfl, rfl⟩
  | expireUnpaidOrders => exact changed_sweep .expireUnpaidOrders outcome orderId
  | expirePendingAcceptances => exact changed_sweep .expirePendingAcceptances outcome orderId

/-- **What a step does to one order**: nothing, or it places it, or it performs a state change. -/
theorem State.changed (s : State) (label : Operation × Timestamp) (orderId : Nat) :
    Changed label.1 orderId s (s.step label) := by
  unfold State.step
  split
  · rename_i next outcome
    exact changed_outcome label.1 outcome orderId
  · exact Changed.refl label.1 orderId s

/-! ### A small run -/

/-- A restaurant, an address and a checkout of one meal. -/
def mealCheckout (method : PaymentMethod) : List (Operation × Timestamp) :=
  let verdict : Verdict :=
    { ok := some true
      restaurantId := some 3
      subtotal := some 20000
      items := some [⟨1, "Thali", 20000, 1, 20000⟩] }
  [ (.applyRestaurantEvent { restaurantId := some 3, ownerId := some 9, name := some "Spice" }, 0),
    (.applyAddressEvent { addressId := some 5, userId := some 7 }, 0),
    (.createOrderFromCheckout ⟨7, "customer"⟩
      { addressId := 5, priceHash := "h", paymentMethod := method } true
      { restaurantId := some 3
        items := [⟨1, "Thali", 20000, 1, 20000⟩]
        subtotal := 20000
        priceHash := "h" }
      (fun _ _ => .ok ⟨200, some verdict⟩), 10) ]

end FoodDelivery.Orders
