/-
**Where a delivery and its order stand.**

The delivery service acts on one order event only, READY_FOR_PICKUP; the orders service acts on two
delivery events, and drops the ones that its table of transitions does not allow. Neither asks the other.

`agree_or_cancelledLate`: when everything has been handled, an order and its delivery agree, or the order
was cancelled from READY_FOR_PICKUP or OUT_FOR_DELIVERY. What the orders service does about a delivery
event in time is the induction: a delivery event that was handled has moved its order on.
-/

import FoodDelivery.Handover.Model
import FoodDelivery.Lib.Messages
import FoodDelivery.Lib.Slots

set_option autoImplicit false

namespace FoodDelivery.Handover

open FoodDelivery.Lib

/-! ### What has to hold -/

/-- **An order and its delivery agree.** -/
structure Agree (order : Orders.Order) (delivery : Deliveries.Delivery) : Prop where
  delivered : delivery.status = .delivered → order.status ∈ [OrderStatus.delivered, .completed]
  pickedUp : delivery.status = .pickedUp →
    order.status ∈ [OrderStatus.outForDelivery, .delivered, .completed]
  cancelled : order.status = .cancelled → delivery.active = false

/-- The order is cancelled, and its audit trail says that it was ready for pickup or out. -/
def CancelledLate (order : Orders.Order) : Prop :=
  order.status = .cancelled ∧ ∃ event ∈ order.events, event.toStatus = .cancelled ∧
    event.fromStatus ∈ [some OrderStatus.readyForPickup, some .outForDelivery]

/-- A property of every order and its delivery. -/
def EachPair (R : Orders.Order → Deliveries.Delivery → Prop) (s : State) : Prop :=
  ∀ orderId order delivery, s.orders.orders.find? orderId = some order →
    s.deliveries.deliveries.find? orderId = some delivery → R order delivery

/-! ### How far an order has come -/

/-- The statuses of an order that has been ready, has been out, and has been delivered. -/
def beenReady : List OrderStatus := [.readyForPickup, .outForDelivery, .delivered, .completed]

def beenOut : List OrderStatus := [.outForDelivery, .delivered, .completed]

def beenDelivered : List OrderStatus := [.delivered, .completed]

/-- Whatever is allowed leads on, or to a cancellation that is late. -/
def Onward (reached : List OrderStatus) : Prop :=
  ∀ current ∈ reached, ∀ target ∈ Orders.allowed current, target ∈ reached ∨
    (target = .cancelled ∧ some current ∈ [some OrderStatus.readyForPickup, some .outForDelivery])

theorem onward_beenReady : Onward beenReady := by
  unfold Onward
  decide

theorem onward_beenOut : Onward beenOut := by
  unfold Onward
  decide

theorem onward_beenDelivered : Onward beenDelivered := by
  unfold Onward
  decide

/-- The order with an id has come that far, or was cancelled late. -/
def State.Reached (s : State) (orderId : Nat) (reached : List OrderStatus) : Prop :=
  ∃ order, s.orders.orders.find? orderId = some order ∧
    (order.status ∈ reached ∨ CancelledLate order)

/-- The order with an id was announced as ready for pickup. -/
def State.AnnouncedReady (s : State) (orderId : Nat) : Prop :=
  ∃ event ∈ s.orderEvents orderId, event.status = .readyForPickup

variable {s next : State} {orderId : Nat} {reached : List OrderStatus}

theorem reached_congr (orders : next.orders = s.orders) :
    next.Reached orderId reached ↔ s.Reached orderId reached := by
  rw [State.Reached, orders, State.Reached]

theorem announcedReady_congr (orders : next.orders = s.orders) :
    next.AnnouncedReady orderId ↔ s.AnnouncedReady orderId := by
  rw [State.AnnouncedReady, State.orderEvents, orders, State.AnnouncedReady, State.orderEvents]

/-- **An order does not go back.** -/
theorem reached_of_performed {tables : Orders.State} {now : Timestamp} {action : Orders.Action}
    {order : Orders.Order} {written : Orders.Written} (onward : Onward reached)
    (performed : Orders.Performed tables now action order written)
    (far : order.status ∈ reached ∨ CancelledLate order) :
    written.order.status ∈ reached ∨ CancelledLate written.order := by
  rcases far with here | ⟨cancelled, _⟩
  · rcases onward order.status here action.target performed.legal with further | ⟨cancels, late⟩
    · exact Or.inl (performed.status ▸ further)
    · obtain ⟨reason, audit⟩ := performed.audit
      refine Or.inr ⟨performed.status.trans cancels,
        ⟨some order.status, action.target, action.actor, reason⟩, ?_, cancels, late⟩
      rw [audit]
      exact List.mem_append_right _ (List.mem_singleton.mpr rfl)
  · have legal := performed.legal
    rw [cancelled] at legal
    cases legal

theorem reached_step {op : Orders.Operation}
    (changed : Orders.Changed op orderId s.orders next.orders) (onward : Onward reached)
    (far : s.Reached orderId reached) : next.Reached orderId reached := by
  obtain ⟨order, found, far⟩ := far
  cases changed with
  | same untouched => exact ⟨order, untouched.row.trans found, far⟩
  | placed tables user request acquired cart post validated now written operation absent place row
      commands events =>
    rw [absent] at found
    cases found
  | acted tables now action before written performs present performed row commands events =>
    rw [present] at found
    cases found
    exact ⟨written.order, row, reached_of_performed onward performed far⟩

/-! ### The invariant of one order -/

/-- What is known of one order, its delivery and the messages about them. -/
structure Sound (s : State) (orderId : Nat) : Prop where
  /-- An order that was announced as ready has been ready. -/
  ready : s.AnnouncedReady orderId → s.Reached orderId beenReady
  /-- A delivery is there because its order was ready. -/
  made : s.deliveryEvents orderId ≠ [] → s.AnnouncedReady orderId
  /-- Where a delivery stands is the last thing that was announced, once it has been offered. -/
  announced : ∀ delivery, s.deliveries.deliveries.find? orderId = some delivery →
    ∃ event, (s.deliveryEvents orderId).getLast? = some event ∧
      (delivery.status ≠ .unassigned → event.status = some delivery.status)
  /-- It was picked up before it was delivered. -/
  pickedUpFirst : ∀ (i : Nat) (event : Deliveries.DeliveryEvent),
    (s.deliveryEvents orderId)[i]? = some event → event.status = some .delivered →
      ∃ j < i, ∃ earlier : Deliveries.DeliveryEvent,
        (s.deliveryEvents orderId)[j]? = some earlier ∧ earlier.status = some .pickedUp
  bounded : s.deliveryEventsRead orderId ≤ (s.deliveryEvents orderId).length
  /-- A pickup that was handled has moved the order on, and so has a delivery. -/
  out : ∀ i < s.deliveryEventsRead orderId, ∀ event : Deliveries.DeliveryEvent,
    (s.deliveryEvents orderId)[i]? = some event → event.status = some .pickedUp → s.Reached orderId beenOut
  done : ∀ i < s.deliveryEventsRead orderId, ∀ event : Deliveries.DeliveryEvent,
    (s.deliveryEvents orderId)[i]? = some event → event.status = some .delivered →
      s.Reached orderId beenDelivered

theorem sound_empty (orderId : Nat) : Sound .empty orderId where
  ready := fun ⟨_, member, _⟩ => absurd member List.not_mem_nil
  made := fun some_event => absurd rfl some_event
  announced := fun _ found => by cases found
  pickedUpFirst := fun _ _ found => by cases found
  bounded := Nat.le_refl 0
  out := fun _ below => absurd below (Nat.not_lt_zero _)
  done := fun _ below => absurd below (Nat.not_lt_zero _)

/-! ### A step of the orders service -/

/-- Every new order event says where the order stands. -/
theorem ready_step {op : Orders.Operation}
    (changed : Orders.Changed op orderId s.orders next.orders)
    (ready : s.AnnouncedReady orderId →
      s.Reached orderId beenReady) :
    next.AnnouncedReady orderId →
      next.Reached orderId beenReady := by
  rintro ⟨event, member, status⟩
  have old : event ∈ s.orderEvents orderId → next.Reached orderId beenReady := fun before =>
    reached_step changed onward_beenReady (ready ⟨event, before, status⟩)
  unfold State.orderEvents at member old
  cases changed with
  | same untouched =>
    rw [untouched.events] at member
    exact old member
  | placed tables user request acquired cart post validated now written operation absent place row
      commands events =>
    rw [events] at member
    rcases List.mem_append.mp member with before | new
    · exact old before
    · -- a new order is announced as waiting for its payment, or as paid
      obtain ⟨order, _, _, _⟩ := Orders.placeOrder_ok rfl place
      rw [List.mem_singleton.mp new] at status
      have waits : written.order.status ≠ .readyForPickup := by
        rw [order]
        split <;> simp
      exact absurd status waits
  | acted tables now action before written performs found performed row commands events =>
    rw [events] at member
    rcases List.mem_append.mp member with earlier | new
    · exact old earlier
    · rw [List.mem_singleton.mp new] at status
      have stands : written.order.status = .readyForPickup := status
      exact ⟨written.order, row, Or.inl (by rw [stands]; decide)⟩

/-- **Whatever the orders service does keeps what is known.** -/
theorem sound_orders {op : Orders.Operation} (sound : Sound s orderId)
    (changed : Orders.Changed op orderId s.orders next.orders)
    (deliveries : next.deliveries = s.deliveries)
    (read : next.deliveryEventsRead orderId = s.deliveryEventsRead orderId) : Sound next orderId := by
  have events : next.deliveryEvents orderId = s.deliveryEvents orderId := by
    rw [State.deliveryEvents, deliveries, State.deliveryEvents]
  refine
    { ready := ready_step changed sound.ready
      made := ?_
      announced := ?_
      pickedUpFirst := ?_
      bounded := ?_
      out := ?_
      done := ?_ }
  · rw [events]
    intro some_event
    obtain ⟨event, member, status⟩ := sound.made some_event
    exact ⟨event, changed.events_grow member, status⟩
  · rw [events, deliveries]
    exact sound.announced
  · rw [events]
    exact sound.pickedUpFirst
  · rw [events, read]
    exact sound.bounded
  · rw [events, read]
    exact fun i below event found status =>
      reached_step changed onward_beenOut (sound.out i below event found status)
  · rw [events, read]
    exact fun i below event found status =>
      reached_step changed onward_beenDelivered (sound.done i below event found status)

/-! ### A step of the delivery service -/

/-- A delivery event that says DELIVERED comes from a delivery that was picked up. -/
theorem pickedUp_of_moved {before : Option Deliveries.Delivery} {after : Deliveries.Delivery}
    (moved : Deliveries.Moved orderId before after) (status : after.status = .delivered) :
    ∃ delivery, before = some delivery ∧ delivery.status = .pickedUp := by
  cases moved with
  | assigned snapshot name driver now => cases driver <;> cases status
  | accepted delivery now offered => cases status
  | rejected delivery driverId name driver now mine open_ another => cases driver <;> cases status
  | pickedUp delivery now open_ => cases status
  | delivered delivery now picked => exact ⟨delivery, rfl, picked⟩

/-- **A delivery that is written and announced.** -/
theorem sound_written {after : Deliveries.Delivery} {announced : Deliveries.DeliveryEvent}
    (sound : Sound s orderId) (orders : next.orders = s.orders)
    (row : next.deliveries.deliveries.find? orderId = some after)
    (events : next.deliveryEvents orderId = s.deliveryEvents orderId ++ [announced])
    (stands : after.status ≠ .unassigned → announced.status = some after.status)
    (truly : ∀ status, announced.status = some status → after.status = status)
    (read : next.deliveryEventsRead orderId = s.deliveryEventsRead orderId)
    (ready : s.AnnouncedReady orderId)
    (picked : after.status = .delivered → ∃ delivery,
      s.deliveries.deliveries.find? orderId = some delivery ∧ delivery.status = .pickedUp) :
    Sound next orderId := by
  -- an event that is there is an old one, or the new one at the end
  have old_or_new : ∀ (i : Nat) (event : Deliveries.DeliveryEvent),
      (next.deliveryEvents orderId)[i]? = some event →
      (s.deliveryEvents orderId)[i]? = some event ∨
        (i = (s.deliveryEvents orderId).length ∧ event = announced) := by
    intro i event found
    rw [events] at found
    exact of_append_singleton found
  have old_at : ∀ (j : Nat) (event : Deliveries.DeliveryEvent),
      (s.deliveryEvents orderId)[j]? = some event →
      (next.deliveryEvents orderId)[j]? = some event := by
    intro j event found
    rw [events]
    exact found_append found
  refine
    { ready := ?_
      made := ?_
      announced := ?_
      pickedUpFirst := ?_
      bounded := ?_
      out := ?_
      done := ?_ }
  · rw [announcedReady_congr orders, reached_congr orders]
    exact sound.ready
  · exact fun _ => (announcedReady_congr orders).mpr ready
  · intro delivery found
    rw [row] at found
    cases found
    exact ⟨announced, by rw [events, List.getLast?_concat], stands⟩
  · intro i event found status
    rcases old_or_new i event found with old | ⟨last, rfl⟩
    · obtain ⟨j, below, earlier, there, was⟩ := sound.pickedUpFirst i event old status
      exact ⟨j, below, earlier, old_at j earlier there, was⟩
    · obtain ⟨delivery, present, was⟩ := picked (truly _ status)
      obtain ⟨event, last_event, stood⟩ := sound.announced delivery present
      rw [List.getLast?_eq_getElem?] at last_event
      obtain ⟨inside, _⟩ := List.getElem?_eq_some_iff.mp last_event
      exact ⟨_, by omega, event, old_at _ _ last_event, was ▸ stood (by rw [was]; decide)⟩
  · rw [read, events, List.length_append]
    exact Nat.le_add_right_of_le sound.bounded
  · intro i below event found status
    rw [read] at below
    have bound := sound.bounded
    rcases old_or_new i event found with old | ⟨last, _⟩
    · exact (reached_congr orders).mpr (sound.out i below event old status)
    · omega
  · intro i below event found status
    rw [read] at below
    have bound := sound.bounded
    rcases old_or_new i event found with old | ⟨last, _⟩
    · exact (reached_congr orders).mpr (sound.done i below event old status)
    · omega

/-- **Whatever the delivery service does keeps what is known**, when it creates a delivery only for an
order that was announced as ready. -/
theorem sound_deliveries (op : Deliveries.Operation) (now : Timestamp) (sound : Sound s orderId)
    (orders : next.orders = s.orders) (deliveries : next.deliveries = s.deliveries.step (op, now))
    (read : next.deliveryEventsRead orderId = s.deliveryEventsRead orderId)
    (creates : Deliveries.Creates s.deliveries orderId op →
      s.AnnouncedReady orderId) : Sound next orderId := by
  have ready : ∀ after, next.deliveries.deliveries.find? orderId = some after →
      s.AnnouncedReady orderId := by
    intro after there
    cases before : s.deliveries.deliveries.find? orderId with
    | none =>
      rcases Deliveries.created_step op now before with still | created
      · rw [deliveries, still] at there
        cases there
      · exact creates created
    | some delivery =>
      refine sound.made fun nothing => ?_
      obtain ⟨event, last, _⟩ := sound.announced delivery before
      rw [nothing] at last
      cases last
  have changed := s.deliveries.changed (op, now) orderId
  rw [← deliveries] at changed
  cases changed with
  | same row events =>
    have same_events : next.deliveryEvents orderId = s.deliveryEvents orderId := events
    refine
      { ready := ?_
        made := ?_
        announced := ?_
        pickedUpFirst := ?_
        bounded := ?_
        out := ?_
        done := ?_ }
    · rw [announcedReady_congr orders, reached_congr orders]
      exact sound.ready
    · rw [same_events, announcedReady_congr orders]
      exact sound.made
    · rw [same_events, row]
      exact sound.announced
    · rw [same_events]
      exact sound.pickedUpFirst
    · rw [same_events, read]
      exact sound.bounded
    · rw [same_events, read, reached_congr orders]
      exact sound.out
    · rw [same_events, read, reached_congr orders]
      exact sound.done
  | moved after moves row events =>
    obtain ⟨stands, truly⟩ := moves.announced
    exact sound_written sound orders row events stands truly read (ready after row)
      (pickedUp_of_moved moves)
  | overridden before snapshot newDriverId time overrides row events =>
    refine sound_written sound orders row events (fun _ => rfl) (fun _ same => Option.some.inj same)
      read (ready _ row) fun status => ?_
    cases snapshot <;> cases status

/-! ### A delivery event is handled -/

/-- **A delivery event in its turn moves its order on**, unless the order has come as far already. -/
theorem reached_handled {event : Deliveries.DeliveryEvent} {target : OrderStatus}
    {before : List OrderStatus} (now : Timestamp) (own : event.orderId = orderId)
    (drives : Orders.deliveryTarget event.status = some target)
    (leads : ∀ current ∈ before, target ∈ Orders.allowed current ∨ current ∈ reached)
    (further : target ∈ reached) (onward : Onward reached) (far : s.Reached orderId before)
    (orders : next.orders = s.orders.step (.applyDeliveryEvent (deliveryPayload event), now)) :
    next.Reached orderId reached := by
  have changed := s.orders.changed (.applyDeliveryEvent (deliveryPayload event), now) orderId
  rw [← orders] at changed
  obtain ⟨order, found, here | late⟩ := far
  · rcases leads order.status here with legal | there
    · obtain ⟨moved, row, status⟩ := Orders.find?_driverAdvance now found legal drives
      refine ⟨moved, ?_, Or.inl (status ▸ further)⟩
      rw [orders, deliveryPayload, own]
      exact row
    · exact reached_step changed onward ⟨order, found, Or.inl there⟩
  · exact reached_step changed onward ⟨order, found, Or.inr late⟩

theorem readOn_other {read : Nat → Nat} {other i : Nat} {acknowledged : Bool}
    (different : orderId ≠ other) : readOn read other i acknowledged orderId = read orderId :=
  if_neg fun same => different same.1

/-- **A delivery event that is handled**, in its turn or again. -/
theorem sound_handled {i : Nat} {event : Deliveries.DeliveryEvent} (now : Timestamp)
    (acknowledged : Bool) (sound : Sound s orderId)
    (found : (s.deliveryEvents orderId)[i]? = some event) :
    Sound
      { s with
        orders := s.orders.step (.applyDeliveryEvent (deliveryPayload event), now)
        deliveryEventsRead := readOn s.deliveryEventsRead orderId i acknowledged } orderId := by
  have kept : Sound
      { s with orders := s.orders.step (.applyDeliveryEvent (deliveryPayload event), now) }
      orderId :=
    sound_orders sound
      (s.orders.changed (.applyDeliveryEvent (deliveryPayload event), now) orderId) rfl rfl
  by_cases moves : i = s.deliveryEventsRead orderId ∧ acknowledged = true
  · have read : readOn s.deliveryEventsRead orderId i acknowledged orderId = i + 1 := by
      rw [readOn, if_pos ⟨rfl, moves⟩, moves.1]
    obtain ⟨inside, _⟩ := List.getElem?_eq_some_iff.mp found
    have own : event.orderId = orderId :=
      of_decide_eq_true (List.mem_filter.mp (List.mem_of_getElem? found)).2
    have ready := sound.ready (sound.made (List.ne_nil_of_mem (List.mem_of_getElem? found)))
    refine
      { ready := kept.ready
        made := kept.made
        announced := kept.announced
        pickedUpFirst := kept.pickedUpFirst
        bounded := ?_
        out := ?_
        done := ?_ }
    · show readOn s.deliveryEventsRead orderId i acknowledged orderId ≤ _
      rw [read]
      exact inside
    · intro j below other there status
      change j < readOn s.deliveryEventsRead orderId i acknowledged orderId at below
      rw [read] at below
      rcases Nat.lt_succ_iff_lt_or_eq.mp below with earlier | rfl
      · exact kept.out j (moves.1 ▸ earlier) other there status
      · rw [show (s.deliveryEvents orderId)[j]? = some other from there] at found
        cases found
        exact reached_handled now own (by rw [status]; rfl) (by decide) (by decide) onward_beenOut
          ready rfl
    · intro j below other there status
      change j < readOn s.deliveryEventsRead orderId i acknowledged orderId at below
      rw [read] at below
      rcases Nat.lt_succ_iff_lt_or_eq.mp below with earlier | rfl
      · exact kept.done j (moves.1 ▸ earlier) other there status
      · rw [show (s.deliveryEvents orderId)[j]? = some other from there] at found
        cases found
        obtain ⟨k, before, earlier, picked, was⟩ := sound.pickedUpFirst j event there status
        have out := sound.out k (moves.1 ▸ before) earlier picked was
        exact reached_handled now own (by rw [status]; rfl) (by decide) (by decide)
          onward_beenDelivered out rfl
  · have read : readOn s.deliveryEventsRead orderId i acknowledged orderId =
        s.deliveryEventsRead orderId := if_neg fun same => moves same.2
    exact sound_orders sound
      (s.orders.changed (.applyDeliveryEvent (deliveryPayload event), now) orderId) rfl read

/-! ### Runs -/

/-- The delivery service creates a delivery when the order event says READY_FOR_PICKUP. -/
theorem ready_of_creates {event : Orders.OrderEvent} {redis : Option Deliveries.Nearby}
    (creates : Deliveries.Creates s.deliveries orderId (.applyOrderEvent (orderPayload event) redis)) :
    event.orderId = orderId ∧ event.status = .readyForPickup := by
  obtain ⟨own, ready⟩ := creates
  refine ⟨Option.some.inj own, ?_⟩
  revert ready
  unfold orderPayload
  cases event.status <;> simp [Deliveries.orText, Deliveries.readyForPickup, OrderStatus.value]

theorem sound_step (s : State) (label : Label) (sound : ∀ orderId, Sound s orderId)
    (orderId : Nat) : Sound (s.step label) orderId := by
  cases label with
  | orders op now =>
    unfold State.step
    dsimp only
    split_ifs
    · exact sound_orders (sound orderId) (s.orders.changed (op, now) orderId) rfl rfl
    · exact sound orderId
  | deliveries op now =>
    unfold State.step
    dsimp only
    split_ifs with own
    · refine sound_deliveries op now (sound orderId) rfl rfl rfl fun creates => ?_
      cases op with
      | assignForOrder target redis => cases own
      | applyOrderEvent payload redis => cases own
      | _ => exact creates.elim
    · exact sound orderId
  | deliverOrderEvent target i redis now acknowledged =>
    unfold State.step
    dsimp only
    split_ifs
    · split
      · exact sound orderId
      · rename_i event found
        refine sound_deliveries (.applyOrderEvent (orderPayload event) redis) now (sound orderId) rfl rfl
          rfl fun creates => ?_
        obtain ⟨own, ready⟩ := ready_of_creates creates
        have keyed : event.orderId = target :=
          Orders.orderId_of_eventsOf (List.mem_of_getElem? found)
        obtain rfl : target = orderId := keyed.symm.trans own
        exact ⟨event, List.mem_of_getElem? found, ready⟩
    · exact sound orderId
  | deliverDeliveryEvent target i now acknowledged =>
    unfold State.step
    dsimp only
    split_ifs
    · split
      · exact sound orderId
      · rename_i event found
        by_cases same : orderId = target
        · subst same
          exact sound_handled now acknowledged (sound orderId) found
        · exact sound_orders (sound orderId)
            (s.orders.changed (.applyDeliveryEvent (deliveryPayload event), now) orderId) rfl
            (readOn_other same)
    · exact sound orderId

/-- **Once everything is handled, an order and its delivery agree**, or the order was cancelled late. -/
theorem agree_of_quiet (sound : ∀ orderId, Sound s orderId) (quiet : s.Quiet) :
    EachPair (fun order delivery => CancelledLate order ∨ Agree order delivery) s := by
  intro orderId order delivery found present
  obtain ⟨event, last, stands⟩ := (sound orderId).announced delivery present
  rw [List.getLast?_eq_getElem?] at last
  obtain ⟨inside, _⟩ := List.getElem?_eq_some_iff.mp last
  have all_read := List.getElem?_eq_none_iff.mp (quiet.deliveryEvents orderId)
  have handled : (s.deliveryEvents orderId).length - 1 < s.deliveryEventsRead orderId := by omega
  have reached : ∀ {reached : List OrderStatus}, s.Reached orderId reached →
      order.status ∈ reached ∨ CancelledLate order := by
    rintro reached ⟨same, there, far⟩
    rw [found] at there
    cases there
    exact far
  by_cases late : CancelledLate order
  · exact Or.inl late
  · refine Or.inr ⟨fun status => ?_, fun status => ?_, fun cancelled => ?_⟩
    · have said := stands (by rw [status]; decide)
      rw [status] at said
      exact (reached ((sound orderId).done _ handled event last said)).resolve_right late
    · have said := stands (by rw [status]; decide)
      rw [status] at said
      exact (reached ((sound orderId).out _ handled event last said)).resolve_right late
    · have made := (sound orderId).made fun nothing => by
        rw [nothing] at inside
        cases inside
      have ready := (reached ((sound orderId).ready made)).resolve_right late
      rw [cancelled] at ready
      exact absurd ready (by decide)

/-- **In every run**, whenever all messages have been handled, every order agrees with its delivery or
was cancelled from READY_FOR_PICKUP or OUT_FOR_DELIVERY. -/
theorem agree_or_cancelledLate (labels : List Label) :
    Always State.step
      (fun s => s.Quiet → EachPair (fun order delivery => CancelledLate order ∨ Agree order delivery) s)
      .empty labels := by
  have always : Always State.step (fun s => ∀ orderId, Sound s orderId) .empty labels :=
    always_of_step (fun s label sound orderId => sound_step s label sound orderId) sound_empty
  exact always.mono fun s sound quiet => agree_of_quiet sound quiet

/-! ### A driver for an order that is cancelled -/

/-- The restaurant of the order moves it along. -/
def restaurantMoves (target : OrderStatus) (now : Timestamp) : Label :=
  .orders (.advanceStatus 1 ⟨9, "restaurant"⟩ target) now

/-- An order is cooked and offered to a driver, and then its restaurant cancels it. -/
def readyThenCancelled : List Label :=
  .deliveries (.applyUserEvent { userId := some 4, role := some "driver" }) 0 ::
    ((Orders.mealCheckout .cod).map fun label => .orders label.1 label.2) ++
    [ .orders (.acceptByRestaurant 1 ⟨9, "restaurant"⟩) 20, restaurantMoves .preparing 30,
      restaurantMoves .readyForPickup 40, .deliverOrderEvent 1 0 none 41 true,
      .deliverOrderEvent 1 1 none 42 true, .deliverOrderEvent 1 2 none 43 true,
      .deliverOrderEvent 1 3 none 44 true, restaurantMoves .cancelled 50,
      .deliverOrderEvent 1 4 none 51 true, .deliverDeliveryEvent 1 0 52 true ]

/-- **A driver is left with an order that was cancelled.** -/
theorem readyThenCancelled_disagree :
    ¬ ∀ labels, Always State.step (fun s => s.Quiet → EachPair Agree s) .empty labels := by
  intro always
  have quiet : (run State.step .empty readyThenCancelled).Quiet := by
    refine ⟨none_next 1 ?_ ?_, none_next 1 ?_ ?_⟩ <;> decide
  have order : ((run State.step .empty readyThenCancelled).orders.orders.find? 1).map
      (fun order => order.status) = some .cancelled := by decide
  have delivery : ((run State.step .empty readyThenCancelled).deliveries.deliveries.find? 1).map
      (fun delivery => delivery.status) = some .assigned := by decide
  obtain ⟨row, found, cancelled⟩ := Option.map_eq_some_iff.mp order
  obtain ⟨offered, present, assigned⟩ := Option.map_eq_some_iff.mp delivery
  have agree := (always readyThenCancelled).last quiet 1 row offered found present
  have active := agree.cancelled cancelled
  rw [Deliveries.Delivery.active, assigned] at active
  exact absurd active (by decide)

end FoodDelivery.Handover
