/-
**The copies of an order.**

`order-events` has two consumers that copy what it says: the payments service, which creates the payment
of an order that needs one, and the delivery service, which creates the delivery of an order that is
ready. Each handles the log at least once: stretch after stretch, each from a committed offset on.

`replay_converges`: whatever was handled again on the way, in the end every copy says what the last event
of its order said (and for what that left out, what the last event said that did not), which is what one
pass in order would have left; an order has a payment if and only if the log has it in a status that needs
one, and a delivery if and only if the log has it ready; and none has two.
-/

import FoodDelivery.Handover.Model
import FoodDelivery.Lib.Replays
import FoodDelivery.Platform.Model

set_option autoImplicit false

namespace FoodDelivery.ReadModels

open FoodDelivery.Lib

/-! ### The consumers -/

/-- The events about an order. -/
def eventsAbout (orderId : Nat) (log : List Orders.OrderEvent) : List Orders.OrderEvent :=
  log.filter fun event => event.orderId = orderId

/-- The last value that the events say. -/
def lastSaid {α : Type} (value : Orders.OrderEvent → Option α) (events : List Orders.OrderEvent) :
    Option α :=
  (events.filterMap value).getLast?

/-- The payments service handles an event; the provider answers as it does then. -/
def paymentsStep (w : Payments.World) (label : Orders.OrderEvent × Payments.Gateway) : Payments.World :=
  ((Payments.applyOrderEvent label.2 (Platform.orderPayload label.1)).exec w).1

/-- The delivery service handles an event; Redis and the clock are what they are then. -/
def deliveriesStep (s : Deliveries.State)
    (label : Orders.OrderEvent × Option Deliveries.Nearby × Timestamp) : Deliveries.State :=
  (Deliveries.applyOrderEvent s (Handover.orderPayload label.1) label.2.1 label.2.2).1

/-- The delivery service with its rosters, before any order. -/
def deliveriesStart (drivers : Table Nat Deliveries.Driver Deliveries.Driver.id)
    (restaurants : Table Nat Deliveries.RestaurantSnapshot Deliveries.RestaurantSnapshot.restaurantId) :
    Deliveries.State :=
  { Deliveries.State.empty with drivers := drivers, restaurants := restaurants }

/-! ### What has to hold in the end -/

/-- What the payments service copies from an event. -/
def paymentsCopy (event : Orders.OrderEvent) : Payments.OrderSnapshot where
  orderId := event.orderId
  customerId := event.customerId
  status := some event.status
  total := event.total
  paymentMethod := event.paymentMethod

/-- What the delivery service has copied from the events about an order, of which this is the last. -/
def deliveriesCopy (events : List Orders.OrderEvent) (last : Orders.OrderEvent) :
    Deliveries.OrderSnapshot where
  orderId := last.orderId
  customerId := last.customerId
  customerName := some last.customerName
  restaurantId := some last.restaurantId
  restaurantName := lastSaid Orders.OrderEvent.restaurantName events
  status := last.status.value
  destinationLatitude := lastSaid Orders.OrderEvent.destinationLatitude events
  destinationLongitude := lastSaid Orders.OrderEvent.destinationLongitude events

/-- **The payments service is up to date.** -/
structure PaymentsConverged (log : List Orders.OrderEvent) (w : Payments.World) : Prop where
  snapshots : ∀ orderId, w.snapshots.find? orderId =
    (eventsAbout orderId log).getLast?.map paymentsCopy
  once : ∀ first ∈ w.payments.rows, ∀ second ∈ w.payments.rows,
    first.orderId = second.orderId → first = second
  payments : ∀ orderId, (∃ payment, w.payment orderId = some payment) ↔
    ∃ event ∈ log, event.orderId = orderId ∧ event.status ∈ Payments.payableStatuses

/-- **The delivery service is up to date.** -/
structure DeliveriesConverged (log : List Orders.OrderEvent) (s : Deliveries.State) : Prop where
  snapshots : ∀ orderId, s.snapshots.find? orderId =
    (eventsAbout orderId log).getLast?.map (deliveriesCopy (eventsAbout orderId log))
  once : ∀ first ∈ s.deliveries.rows, ∀ second ∈ s.deliveries.rows,
    first.orderId = second.orderId → first = second
  deliveries : ∀ orderId, (∃ delivery, s.deliveries.find? orderId = some delivery) ↔
    ∃ event ∈ log, event.orderId = orderId ∧ event.status = .readyForPickup

/-! ### One value of one order -/

/-- What an event says, when it is about the order. -/
def about {α : Type} (orderId : Nat) (value : Orders.OrderEvent → Option α)
    (event : Orders.OrderEvent) : Option α :=
  if event.orderId = orderId then value event else none

theorem filterMap_about {α : Type} (orderId : Nat) (value : Orders.OrderEvent → Option α)
    (log : List Orders.OrderEvent) :
    log.filterMap (about orderId value) = (eventsAbout orderId log).filterMap value := by
  unfold eventsAbout
  rw [List.filterMap_filter]
  congr 1
  funext event
  simp [about]

/-- A value that every event says: the last one's. -/
theorem getLast?_about {α : Type} (orderId : Nat) (value : Orders.OrderEvent → α)
    (log : List Orders.OrderEvent) :
    (log.filterMap (about orderId fun event => some (value event))).getLast? =
      (eventsAbout orderId log).getLast?.map value := by
  rw [filterMap_about, List.filterMap_eq_map', List.getLast?_map]

/-- A mark that some events make: whether one of them did. -/
theorem getLast?_mark (orderId : Nat) (marks : Orders.OrderEvent → Prop) [DecidablePred marks]
    (log : List Orders.OrderEvent) :
    (log.filterMap (about orderId fun event => if marks event then some True else none)).getLast?.getD
        False ↔ ∃ event ∈ log, event.orderId = orderId ∧ marks event := by
  rw [filterMap_about]
  constructor
  · intro marked
    cases found : ((eventsAbout orderId log).filterMap fun event =>
        if marks event then some True else none).getLast? with
    | none => simp [found] at marked
    | some value =>
      obtain ⟨event, member, said⟩ := List.mem_filterMap.mp (List.mem_of_getLast? found)
      obtain ⟨inside, own⟩ := List.mem_filter.mp member
      refine ⟨event, inside, of_decide_eq_true own, ?_⟩
      by_contra not_marked
      simp [not_marked] at said
  · rintro ⟨event, inside, own, marked⟩
    have member : True ∈ (eventsAbout orderId log).filterMap fun event =>
        if marks event then some True else none :=
      List.mem_filterMap.mpr ⟨event, List.mem_filter.mpr ⟨inside, decide_eq_true own⟩, if_pos marked⟩
    rw [List.getLast?_eq_some_getLast (List.ne_nil_of_mem member)]
    have only : ∀ value ∈ (eventsAbout orderId log).filterMap fun event =>
        if marks event then some True else none, value = True := by
      intro value said
      obtain ⟨other, _, value_of⟩ := List.mem_filterMap.mp said
      split at value_of
      · exact (Option.some.inj value_of).symm
      · cases value_of
    have holds := only _ (List.getLast_mem (List.ne_nil_of_mem member))
    show List.getLast _ _
    rw [holds]
    trivial

/-! ### The payments service -/

section Payments

variable (w : Payments.World) (event : Orders.OrderEvent) (gateway : Payments.Gateway)

theorem snapshotAfter_orderPayload {found : Option Payments.OrderSnapshot}
    (lookup : w.snapshots.find? event.orderId = found) :
    Payments.snapshotAfter event.orderId (Platform.orderPayload event) found = paymentsCopy event := by
  cases found with
  | none => rfl
  | some before =>
    have same : before.orderId = event.orderId := Table.key_of_find? lookup
    unfold Payments.snapshotAfter paymentsCopy Platform.orderPayload
    simp [same]

/-- The commit of what was copied from an event. -/
theorem commitSnapshot_paymentsCopy :
    (Payments.commitSnapshot (w.snapshots.find? event.orderId) (paymentsCopy event)).exec w =
      ({ w with snapshots := w.snapshots.put (paymentsCopy event) }, .ok true) := by
  cases found : w.snapshots.find? event.orderId with
  | none =>
    have absent : w.snapshots.find? (paymentsCopy event).orderId = none := found
    unfold Payments.commitSnapshot
    simp [absent]
  | some before =>
    have same : before.orderId = event.orderId := Table.key_of_find? found
    have present : w.snapshots.find? (paymentsCopy event).orderId = some before := found
    have overwritten : Payments.overwriteSnapshot before (paymentsCopy event) before =
        paymentsCopy event := by
      unfold Payments.overwriteSnapshot paymentsCopy
      simp only [same, Payments.OrderSnapshot.mk.injEq, true_and]
      refine ⟨?_, ?_, ?_, ?_⟩
      · split
        · simp [*]
        · rfl
      · split
        · simp [*]
        · rfl
      · split
        · simp [*]
        · rfl
      · split
        · simp [*]
        · rfl
    unfold Payments.commitSnapshot
    simp [present, overwritten]

/-- **An order event at the payments service**: its copy is written, and a payment created when the order
needs one. -/
theorem paymentsStep_eq : paymentsStep w (event, gateway) =
    if event.status ∈ Payments.payableStatuses then
      ((Payments.createPaymentForOrder gateway (paymentsCopy event) none).exec
        { w with snapshots := w.snapshots.put (paymentsCopy event) }).1
    else { w with snapshots := w.snapshots.put (paymentsCopy event) } := by
  unfold paymentsStep Payments.applyOrderEvent
  show ((Program.read _ >>= _).exec w).1 = _
  rw [Program.exec_read_bind, snapshotAfter_orderPayload w event rfl, Program.exec_bind,
    commitSnapshot_paymentsCopy]
  have payable : (∃ status ∈ Payments.payableStatuses,
      (paymentsCopy event).status = some status) ↔ event.status ∈ Payments.payableStatuses := by
    simp [paymentsCopy]
  by_cases needs : event.status ∈ Payments.payableStatuses
  · simp only [payable, needs, if_true]
    rw [Program.exec_bind]
    cases (Payments.createPaymentForOrder gateway (paymentsCopy event) none).exec
        { w with snapshots := w.snapshots.put (paymentsCopy event) } with
    | mk next result => cases result <;> rfl
  · simp only [payable, needs, if_false, if_true]
    rfl

theorem providerFor_authorizes (method : PaymentMethod) (amount : Money) (key : String)
    (orderId : Nat) : ∃ result,
      (Payments.providerFor gateway method).authorize amount key orderId = .ok result := by
  unfold Payments.providerFor
  cases method with
  | cod => exact ⟨_, rfl⟩
  | card =>
    dsimp only
    split
    · exact (Payments.stripeProvider_answers gateway.settings gateway.sdk).1 amount key orderId
    · exact ⟨_, rfl⟩

/-- Creating the payment of an order: it has one then, and nothing else changes. -/
theorem createPaymentForOrder_payment (order : Payments.OrderSnapshot) (orderId : Nat) :
    (∃ payment, ((Payments.createPaymentForOrder gateway order none).exec w).1.payment orderId =
      some payment) ↔ order.orderId = orderId ∨ ∃ payment, w.payment orderId = some payment := by
  rw [Payments.exec_createPaymentForOrder]
  cases found : w.payment order.orderId with
  | some existing =>
    constructor
    · exact fun there => Or.inr there
    · rintro (rfl | there)
      · exact ⟨existing, found⟩
      · exact there
  | none =>
    obtain ⟨result, answered⟩ := providerFor_authorizes gateway order.paymentMethod order.total
      (Payments.checkoutKey order.orderId) order.orderId
    have authorized : Payments.authorization gateway order none order.paymentMethod
        (Payments.checkoutKey order.orderId) = .ok result := answered
    unfold Payments.World.answered
    rw [authorized]
    dsimp only
    rw [Payments.World.payment_put, Payments.World.payment_call]
    by_cases own : order.orderId = orderId
    · have mine : (Payments.newPayment order
          (Payments.providerOr none gateway order.paymentMethod) result).orderId = orderId := own
      rw [if_pos mine]
      exact ⟨fun _ => Or.inl own, fun _ => ⟨_, rfl⟩⟩
    · have other : (Payments.newPayment order
          (Payments.providerOr none gateway order.paymentMethod) result).orderId ≠ orderId := own
      rw [if_neg other]
      exact ⟨fun there => Or.inr there, fun cases_of => cases_of.resolve_left own⟩

theorem createPaymentForOrder_snapshots (order : Payments.OrderSnapshot) :
    ((Payments.createPaymentForOrder gateway order none).exec w).1.snapshots = w.snapshots := by
  rw [Payments.exec_createPaymentForOrder]
  cases w.payment order.orderId with
  | some existing => rfl
  | none =>
    dsimp only
    unfold Payments.World.answered
    cases Payments.authorization gateway order none order.paymentMethod
        (Payments.checkoutKey order.orderId) with
    | ok result => rfl
    | error raised => rfl

/-- The copy of an order is the last event about it. -/
theorem paymentsStep_snapshot (orderId : Nat) :
    (paymentsStep w (event, gateway)).snapshots.find? orderId =
      keepLast (about orderId fun event => some (some (paymentsCopy event)))
        (w.snapshots.find? orderId) event := by
  have copied : (paymentsStep w (event, gateway)).snapshots =
      w.snapshots.put (paymentsCopy event) := by
    rw [paymentsStep_eq]
    split
    · exact createPaymentForOrder_snapshots _ gateway _
    · rfl
  rw [copied, Table.find?_put]
  unfold keepLast about
  by_cases own : event.orderId = orderId
  · have mine : (paymentsCopy event).orderId = orderId := own
    rw [if_pos mine, if_pos own]
    rfl
  · have other : (paymentsCopy event).orderId ≠ orderId := own
    rw [if_neg other, if_neg own]
    rfl

/-- An order has a payment once an event has said that it needs one. -/
theorem paymentsStep_payment (orderId : Nat) :
    (∃ payment, (paymentsStep w (event, gateway)).payment orderId = some payment) =
      keepLast (about orderId fun event =>
          if event.status ∈ Payments.payableStatuses then some True else none)
        (∃ payment, w.payment orderId = some payment) event := by
  rw [paymentsStep_eq]
  unfold keepLast about
  dsimp only
  by_cases needs : event.status ∈ Payments.payableStatuses
  · rw [if_pos needs, if_pos needs, createPaymentForOrder_payment]
    by_cases own : event.orderId = orderId
    · have mine : (paymentsCopy event).orderId = orderId := own
      simp [own, mine]
    · have other : (paymentsCopy event).orderId ≠ orderId := own
      simp only [own, other, if_false, Option.getD_none, false_or]
      rfl
  · rw [if_neg needs, if_neg needs, ite_self]
    rfl

end Payments

theorem paymentsConverged_of_replay {log : List Orders.OrderEvent}
    {handled : List (Orders.OrderEvent × Payments.Gateway)}
    (replay : Replay log (handled.map Prod.fst)) :
    PaymentsConverged log (run paymentsStep .empty handled) where
  snapshots := by
    intro orderId
    rw [view_replay (Q := fun _ => True) (fun w : Payments.World => w.snapshots.find? orderId) _
      (fun _ _ _ => trivial)
      (fun w label _ => paymentsStep_snapshot w label.1 label.2 orderId) replay trivial]
    rw [getLast?_about]
    cases (eventsAbout orderId log).getLast? with
    | none => rfl
    | some last => rfl
  once := fun first one second other same =>
    List.inj_on_of_nodup_map (run paymentsStep .empty handled).payments.unique one other same
  payments := by
    intro orderId
    rw [view_replay (Q := fun _ => True)
      (fun w : Payments.World => ∃ payment, w.payment orderId = some payment) _
      (fun _ _ _ => trivial)
      (fun w label _ => paymentsStep_payment w label.1 label.2 orderId) replay trivial]
    have none_yet : (∃ payment, Payments.World.empty.payment orderId = some payment) = False := by
      simp [Payments.World.payment, Payments.World.empty, Table.find?, Table.empty]
    rw [none_yet, getLast?_mark]

/-! ### The delivery service -/

section Deliveries

open Deliveries (OrderSnapshot)

variable (s : Deliveries.State) (event : Orders.OrderEvent) (redis : Option Deliveries.Nearby)
  (now : Timestamp)

/-- The row of an order as the service finds it, or a new one. -/
def snapshotBefore : OrderSnapshot :=
  (s.snapshots.find? event.orderId).getD
    { orderId := event.orderId, customerId := event.customerId }

/-- The database with the copy of an event written. -/
def withCopy : Deliveries.State :=
  { s with
    snapshots := s.snapshots.put ((snapshotBefore s event).update (Handover.orderPayload event)) }

/-- No event says where the restaurant is. -/
def Unlocated (s : Deliveries.State) : Prop :=
  ∀ orderId, (s.snapshots.find? orderId).bind OrderSnapshot.restaurantLatitude = none

theorem orText_value (status : OrderStatus) (before : String) :
    Deliveries.orText (some status.value) before = status.value := by
  cases status <;> rfl

theorem snapshotBefore_orderId : (snapshotBefore s event).orderId = event.orderId := by
  unfold snapshotBefore
  cases found : s.snapshots.find? event.orderId with
  | none => rfl
  | some row => exact Table.key_of_find? found

theorem find?_copied (orderId : Nat) : (withCopy s event).snapshots.find? orderId =
    if event.orderId = orderId then
      some ((snapshotBefore s event).update (Handover.orderPayload event))
    else s.snapshots.find? orderId := by
  have key : ((snapshotBefore s event).update (Handover.orderPayload event)).orderId =
      event.orderId := snapshotBefore_orderId s event
  show (s.snapshots.put _).find? orderId = _
  rw [Table.find?_put, key]

theorem unlocated_copied (unlocated : Unlocated s) : Unlocated (withCopy s event) := by
  intro orderId
  rw [find?_copied]
  split
  · rename_i own
    show (none <|> (snapshotBefore s event).restaurantLatitude) = none
    have before := unlocated event.orderId
    unfold snapshotBefore
    cases found : s.snapshots.find? event.orderId with
    | none => rfl
    | some row =>
      rw [found] at before
      exact before
  · exact unlocated orderId

/-- Without a place to start from, the drivers who are free are enough: Redis is not asked. -/
theorem assignForOrder_ok (unlocated : Unlocated s) (orderId : Nat) :
    ∃ next, Deliveries.assignForOrder s orderId redis now = .ok next ∧
      next.snapshots = s.snapshots ∧
      ∀ other, (∃ delivery, next.deliveries.find? other = some delivery) ↔
        orderId = other ∨ ∃ delivery, s.deliveries.find? other = some delivery := by
  unfold Deliveries.assignForOrder
  cases found : s.deliveries.find? orderId with
  | some existing =>
    refine ⟨s, rfl, rfl, fun other => ⟨fun there => Or.inr there, ?_⟩⟩
    rintro (rfl | there)
    · exact ⟨existing, found⟩
    · exact there
  | none =>
    have nearest : Deliveries.pickNearest s (s.snapshots.find? orderId) redis none = .ok none := by
      have nowhere := unlocated orderId
      unfold Deliveries.pickNearest
      cases row : s.snapshots.find? orderId with
      | none => rfl
      | some snapshot =>
        rw [row] at nowhere
        have no_latitude : snapshot.restaurantLatitude = none := nowhere
        simp [no_latitude]
    have picked : Deliveries.pickDriver s (s.snapshots.find? orderId) redis none =
        .ok (Deliveries.pickAny s none) := by
      unfold Deliveries.pickDriver
      rw [nearest]
      rfl
    refine ⟨s.commit (Deliveries.offer (Deliveries.newDelivery orderId (s.snapshots.find? orderId))
      none ((s.snapshots.find? orderId).bind OrderSnapshot.restaurantName) (Deliveries.pickAny s none) now),
      ?_, rfl, fun other => ?_⟩
    · dsimp only
      rw [picked]
      rfl
    rw [Deliveries.find?_commit, Deliveries.offer_orderId]
    show (∃ delivery, (if orderId = other then _ else _) = some delivery) ↔ _
    by_cases own : orderId = other
    · rw [if_pos own]
      exact ⟨fun _ => Or.inl own, fun _ => ⟨_, rfl⟩⟩
    · rw [if_neg own]
      exact ⟨fun there => Or.inr there, fun cases_of => cases_of.resolve_left own⟩

theorem deliveriesStep_eq : deliveriesStep s (event, redis, now) =
    if event.status = .readyForPickup then
      match Deliveries.assignForOrder (withCopy s event) event.orderId redis now with
      | .ok assigned => assigned
      | .error _ => withCopy s event
    else withCopy s event := by
  have status : ((snapshotBefore s event).update (Handover.orderPayload event)).status =
      event.status.value := orText_value event.status _
  have ready : event.status.value = Deliveries.readyForPickup ↔ event.status = .readyForPickup := by
    cases event.status <;> simp [Deliveries.readyForPickup, OrderStatus.value]
  show (if ((snapshotBefore s event).update (Handover.orderPayload event)).status =
      Deliveries.readyForPickup then _ else (withCopy s event, Except.ok ())).1 = _
  rw [status]
  by_cases now_ready : event.status = .readyForPickup
  · rw [if_pos (ready.mpr now_ready), if_pos now_ready]
    show (match Deliveries.assignForOrder (withCopy s event) event.orderId redis now with
      | .ok assigned => (assigned, Except.ok ())
      | .error raised => (withCopy s event, Except.error raised)).1 = _
    cases Deliveries.assignForOrder (withCopy s event) event.orderId redis now with
    | ok assigned => rfl
    | error raised => rfl
  · rw [if_neg fun same => now_ready (ready.mp same), if_neg now_ready]

/-- **An order event at the delivery service**: its copy is written, and a delivery created when the
order is ready. -/
theorem deliveriesStep_spec (unlocated : Unlocated s) :
    (deliveriesStep s (event, redis, now)).snapshots = (withCopy s event).snapshots ∧
      ∀ other, (∃ delivery,
        (deliveriesStep s (event, redis, now)).deliveries.find? other = some delivery) ↔
          (event.status = .readyForPickup ∧ event.orderId = other) ∨
            ∃ delivery, s.deliveries.find? other = some delivery := by
  rw [deliveriesStep_eq]
  by_cases ready : event.status = .readyForPickup
  · obtain ⟨next, assigned, snapshots, deliveries⟩ := assignForOrder_ok (withCopy s event) redis now
      (unlocated_copied s event unlocated) event.orderId
    rw [if_pos ready, assigned]
    refine ⟨snapshots, fun other => ?_⟩
    rw [deliveries other]
    simp only [ready, true_and]
    rfl
  · rw [if_neg ready]
    refine ⟨rfl, fun other => ?_⟩
    simp only [ready, false_and, false_or]
    rfl

theorem unlocated_deliveriesStep
    (label : Orders.OrderEvent × Option Deliveries.Nearby × Timestamp) (unlocated : Unlocated s) :
    Unlocated (deliveriesStep s label) := by
  intro orderId
  rw [(deliveriesStep_spec s label.1 label.2.1 label.2.2 unlocated).1]
  exact unlocated_copied s label.1 unlocated orderId

/-- What every event says is the last event's. -/
theorem deliveriesStep_row {α : Type} (view : OrderSnapshot → α) (value : Orders.OrderEvent → α)
    (shows : ∀ (before : OrderSnapshot) event, before.orderId = event.orderId →
      view (before.update (Handover.orderPayload event)) = value event)
    (unlocated : Unlocated s) (orderId : Nat) :
    ((deliveriesStep s (event, redis, now)).snapshots.find? orderId).map view =
      keepLast (about orderId fun event => some (some (value event)))
        ((s.snapshots.find? orderId).map view) event := by
  rw [(deliveriesStep_spec s event redis now unlocated).1, find?_copied]
  unfold keepLast about
  by_cases own : event.orderId = orderId
  · rw [if_pos own, if_pos own, Option.map_some, shows _ event (snapshotBefore_orderId s event)]
    rfl
  · rw [if_neg own, if_neg own]
    rfl

/-- What some events leave out is the last one's that does not. -/
theorem deliveriesStep_column {α : Type} (column : OrderSnapshot → Option α)
    (value : Orders.OrderEvent → Option α)
    (updates : ∀ (before : OrderSnapshot) event, column (before.update (Handover.orderPayload event)) =
      (value event <|> column before))
    (fresh : ∀ orderId customerId, column { orderId := orderId, customerId := customerId } = none)
    (unlocated : Unlocated s) (orderId : Nat) :
    ((deliveriesStep s (event, redis, now)).snapshots.find? orderId).bind column =
      keepLast (about orderId fun event => (value event).map some)
        ((s.snapshots.find? orderId).bind column) event := by
  rw [(deliveriesStep_spec s event redis now unlocated).1, find?_copied]
  unfold keepLast about
  by_cases own : event.orderId = orderId
  · subst own
    have before : column (snapshotBefore s event) =
        (s.snapshots.find? event.orderId).bind column := by
      unfold snapshotBefore
      cases s.snapshots.find? event.orderId with
      | none => exact fresh _ _
      | some row => rfl
    rw [if_pos rfl, if_pos rfl, Option.bind_some, updates, before]
    dsimp only
    cases value event with
    | none => rfl
    | some value' => rfl
  · rw [if_neg own, if_neg own]
    rfl

/-- An order has a delivery once an event has said that it is ready. -/
theorem deliveriesStep_delivery (unlocated : Unlocated s) (orderId : Nat) :
    (∃ delivery, (deliveriesStep s (event, redis, now)).deliveries.find? orderId = some delivery) =
      keepLast (about orderId fun event =>
          if event.status = .readyForPickup then some True else none)
        (∃ delivery, s.deliveries.find? orderId = some delivery) event := by
  rw [(deliveriesStep_spec s event redis now unlocated).2 orderId]
  unfold keepLast about
  by_cases own : event.orderId = orderId
  · by_cases ready : event.status = .readyForPickup
    · simp [own, ready]
    · simp [own, ready]
  · simp [own]

end Deliveries

section Replayed

open Deliveries (OrderSnapshot)

variable {log : List Orders.OrderEvent}
  {handled : List (Orders.OrderEvent × Option Deliveries.Nearby × Timestamp)}
  (drivers : Table Nat Deliveries.Driver Deliveries.Driver.id)
  (restaurants : Table Nat Deliveries.RestaurantSnapshot Deliveries.RestaurantSnapshot.restaurantId)

theorem unlocated_start : Unlocated (deliveriesStart drivers restaurants) := fun _ => rfl

theorem row_of_replay {α : Type} (view : OrderSnapshot → α) (value : Orders.OrderEvent → α)
    (shows : ∀ (before : OrderSnapshot) event, before.orderId = event.orderId →
      view (before.update (Handover.orderPayload event)) = value event)
    (replay : Replay log (handled.map Prod.fst)) (orderId : Nat) :
    ((run deliveriesStep (deliveriesStart drivers restaurants) handled).snapshots.find?
      orderId).map view = (eventsAbout orderId log).getLast?.map value := by
  rw [view_replay (Q := Unlocated)
    (fun s : Deliveries.State => (s.snapshots.find? orderId).map view) _
    (fun s label unlocated => unlocated_deliveriesStep s label unlocated)
    (fun s label unlocated => deliveriesStep_row s label.1 label.2.1 label.2.2 view value shows
      unlocated orderId) replay (unlocated_start drivers restaurants)]
  rw [getLast?_about]
  cases (eventsAbout orderId log).getLast? with
  | none => rfl
  | some last => rfl

theorem column_of_replay (replay : Replay log (handled.map Prod.fst)) (orderId : Nat) {α : Type}
    (column : OrderSnapshot → Option α) (value : Orders.OrderEvent → Option α)
    (updates : ∀ (before : OrderSnapshot) event, column (before.update (Handover.orderPayload event)) =
      (value event <|> column before))
    (fresh : ∀ orderId customerId, column { orderId := orderId, customerId := customerId } = none) :
    ((run deliveriesStep (deliveriesStart drivers restaurants) handled).snapshots.find?
      orderId).bind column = lastSaid value (eventsAbout orderId log) := by
  rw [view_replay (Q := Unlocated)
    (fun s : Deliveries.State => (s.snapshots.find? orderId).bind column) _
    (fun s label unlocated => unlocated_deliveriesStep s label unlocated)
    (fun s label unlocated => deliveriesStep_column s label.1 label.2.1 label.2.2 column value updates
      fresh unlocated orderId) replay (unlocated_start drivers restaurants)]
  have said : (eventsAbout orderId log).filterMap (fun event => (value event).map some) =
      ((eventsAbout orderId log).filterMap value).map some := by
    rw [List.map_filterMap]
  rw [filterMap_about, said, List.getLast?_map]
  unfold lastSaid
  cases ((eventsAbout orderId log).filterMap value).getLast? with
  | none => rfl
  | some last => rfl

/-- What every event says is what the last one said. -/
theorem shown_of_replay (replay : Replay log (handled.map Prod.fst)) (orderId : Nat) :
    ((run deliveriesStep (deliveriesStart drivers restaurants) handled).snapshots.find?
      orderId).map (fun row =>
        (row.orderId, row.customerId, row.customerName, row.restaurantId, row.status)) =
      (eventsAbout orderId log).getLast?.map fun event =>
        (event.orderId, event.customerId, some event.customerName, some event.restaurantId,
          event.status.value) := by
  refine row_of_replay drivers restaurants _ _ (fun before event same => ?_) replay orderId
  have status := orText_value event.status before.status
  simpa [OrderSnapshot.update, Handover.orderPayload, same] using status

/-- What no event says stays unknown. -/
theorem unsaid_of_replay (replay : Replay log (handled.map Prod.fst)) (orderId : Nat) {α : Type}
    (column : OrderSnapshot → Option α)
    (updates : ∀ (before : OrderSnapshot) event,
      column (before.update (Handover.orderPayload event)) = column before)
    (fresh : ∀ orderId customerId, column { orderId := orderId, customerId := customerId } = none) :
    ((run deliveriesStep (deliveriesStart drivers restaurants) handled).snapshots.find?
      orderId).bind column = none := by
  have unsaid := column_of_replay drivers restaurants replay orderId column (fun _ => none) updates
    fresh
  simpa [lastSaid] using unsaid

/-- The row of an order, from its columns. -/
theorem snapshot_of_replay (replay : Replay log (handled.map Prod.fst)) (orderId : Nat) :
    (run deliveriesStep (deliveriesStart drivers restaurants) handled).snapshots.find? orderId =
      (eventsAbout orderId log).getLast?.map (deliveriesCopy (eventsAbout orderId log)) := by
  have said := shown_of_replay drivers restaurants replay orderId
  have restaurantName := column_of_replay drivers restaurants replay orderId
    OrderSnapshot.restaurantName Orders.OrderEvent.restaurantName (fun _ _ => rfl) fun _ _ => rfl
  have latitude := column_of_replay drivers restaurants replay orderId
    OrderSnapshot.destinationLatitude Orders.OrderEvent.destinationLatitude (fun _ _ => rfl)
    fun _ _ => rfl
  have longitude := column_of_replay drivers restaurants replay orderId
    OrderSnapshot.destinationLongitude Orders.OrderEvent.destinationLongitude (fun _ _ => rfl)
    fun _ _ => rfl
  have unsaid {α : Type} := unsaid_of_replay drivers restaurants replay orderId (α := α)
  have items := unsaid OrderSnapshot.items (fun _ _ => rfl) fun _ _ => rfl
  have total := unsaid OrderSnapshot.orderTotal (fun _ _ => rfl) fun _ _ => rfl
  have address := unsaid OrderSnapshot.deliveryAddress (fun _ _ => rfl) fun _ _ => rfl
  have fromLatitude := unsaid OrderSnapshot.restaurantLatitude (fun _ _ => rfl) fun _ _ => rfl
  have fromLongitude := unsaid OrderSnapshot.restaurantLongitude (fun _ _ => rfl) fun _ _ => rfl
  generalize (run deliveriesStep _ handled).snapshots.find? orderId = found at *
  cases found with
  | none =>
    cases last : (eventsAbout orderId log).getLast? with
    | none => rfl
    | some event => simp [last] at said
  | some row =>
    cases last : (eventsAbout orderId log).getLast? with
    | none => simp [last] at said
    | some event =>
      rw [last] at said
      obtain ⟨⟩ := row
      simp only [Option.map_some, Option.some.injEq, Prod.mk.injEq] at said
      simp only [Option.bind_some] at *
      simp_all [deliveriesCopy]

/-- An order has a delivery once one of its events said READY_FOR_PICKUP. -/
theorem delivery_of_replay (replay : Replay log (handled.map Prod.fst)) (orderId : Nat) :
    (∃ delivery, (run deliveriesStep (deliveriesStart drivers restaurants) handled).deliveries.find?
      orderId = some delivery) ↔
      ∃ event ∈ log, event.orderId = orderId ∧ event.status = .readyForPickup := by
  rw [view_replay (Q := Unlocated)
    (fun s : Deliveries.State => ∃ delivery, s.deliveries.find? orderId = some delivery) _
    (fun s label unlocated => unlocated_deliveriesStep s label unlocated)
    (fun s label unlocated => deliveriesStep_delivery s label.1 label.2.1 label.2.2 unlocated
      orderId) replay (unlocated_start drivers restaurants)]
  have none_yet : (∃ delivery, (deliveriesStart drivers restaurants).deliveries.find? orderId =
      some delivery) = False := by
    simp [deliveriesStart, Deliveries.State.empty, Table.find?, Table.empty]
  rw [none_yet, getLast?_mark]

theorem deliveriesConverged_of_replay (replay : Replay log (handled.map Prod.fst)) :
    DeliveriesConverged log
      (run deliveriesStep (deliveriesStart drivers restaurants) handled) where
  snapshots := snapshot_of_replay drivers restaurants replay
  once := fun _ one _ other same =>
    List.inj_on_of_nodup_map
      (run deliveriesStep (deliveriesStart drivers restaurants) handled).deliveries.unique one other same
  deliveries := delivery_of_replay drivers restaurants replay

end Replayed

/-! ### After any replay -/

/-- **The copies converge.** Whatever stretches of the log either consumer has handled again, from a
committed offset on, and whatever the providers, Redis and the clock said each time: in the end both are
up to date with the log, and their copies are those of any pass in order. -/
theorem replay_converges (log : List Orders.OrderEvent)
    (paid : List (Orders.OrderEvent × Payments.Gateway))
    (carried : List (Orders.OrderEvent × Option Deliveries.Nearby × Timestamp))
    (drivers : Table Nat Deliveries.Driver Deliveries.Driver.id)
    (restaurants : Table Nat Deliveries.RestaurantSnapshot Deliveries.RestaurantSnapshot.restaurantId)
    (toPayments : Replay log (paid.map Prod.fst)) (toDeliveries : Replay log (carried.map Prod.fst)) :
    (PaymentsConverged log (run paymentsStep .empty paid) ∧
      ∀ inOrder : List (Orders.OrderEvent × Payments.Gateway), inOrder.map Prod.fst = log →
        ∀ orderId, (run paymentsStep .empty paid).snapshots.find? orderId =
          (run paymentsStep .empty inOrder).snapshots.find? orderId) ∧
    DeliveriesConverged log (run deliveriesStep (deliveriesStart drivers restaurants) carried) ∧
      ∀ inOrder : List (Orders.OrderEvent × Option Deliveries.Nearby × Timestamp),
        inOrder.map Prod.fst = log → ∀ orderId,
          (run deliveriesStep (deliveriesStart drivers restaurants) carried).snapshots.find? orderId =
            (run deliveriesStep (deliveriesStart drivers restaurants) inOrder).snapshots.find?
              orderId := by
  have payments := paymentsConverged_of_replay toPayments
  have deliveries := deliveriesConverged_of_replay drivers restaurants toDeliveries
  refine ⟨⟨payments, fun inOrder same orderId => ?_⟩, deliveries, fun inOrder same orderId => ?_⟩
  · have once : Replay log (inOrder.map Prod.fst) := same ▸ replay_self log
    rw [payments.snapshots, (paymentsConverged_of_replay once).snapshots]
  · have once : Replay log (inOrder.map Prod.fst) := same ▸ replay_self log
    rw [deliveries.snapshots, (deliveriesConverged_of_replay drivers restaurants once).snapshots]

/-- An order paid in cash is prepared and made ready. -/
def cashOrderLog : List Orders.OrderEvent :=
  [OrderStatus.paymentSuccess, .restaurantAccepted, .preparing, .readyForPickup].map fun status =>
    { orderId := 1
      status := status
      customerId := 7
      customerName := "Alex R."
      restaurantId := 3
      restaurantName := if status = .preparing then none else some "Spice Route"
      total := 45000
      paymentMethod := .cod
      paymentStatus := .pending
      destinationLatitude := none
      destinationLongitude := none }

/-- The consumer restarts twice, once from the start. -/
theorem replay_converges_restarted :
    Replay cashOrderLog (cashOrderLog.take 3 ++ cashOrderLog.take 2 ++ cashOrderLog.drop 1) ∧
    PaymentsConverged cashOrderLog (run paymentsStep .empty
      ((cashOrderLog.take 3 ++ cashOrderLog.take 2 ++ cashOrderLog.drop 1).map
        fun event => (event, Payments.standIn))) ∧
    DeliveriesConverged cashOrderLog (run deliveriesStep (deliveriesStart .empty .empty)
      ((cashOrderLog.take 3 ++ cashOrderLog.take 2 ++ cashOrderLog.drop 1).map
        fun event => (event, none, 0))) := by
  have replay : Replay cashOrderLog
      (cashOrderLog.take 3 ++ cashOrderLog.take 2 ++ cashOrderLog.drop 1) :=
    ⟨[⟨0, 3⟩, ⟨0, 2⟩, ⟨1, 4⟩], by decide, rfl⟩
  have converged := replay_converges cashOrderLog
    ((cashOrderLog.take 3 ++ cashOrderLog.take 2 ++ cashOrderLog.drop 1).map
      fun event => (event, Payments.standIn))
    ((cashOrderLog.take 3 ++ cashOrderLog.take 2 ++ cashOrderLog.drop 1).map
      fun event => (event, none, 0))
    .empty .empty replay replay
  exact ⟨replay, converged.1.1, converged.2.1⟩

end FoodDelivery.ReadModels
