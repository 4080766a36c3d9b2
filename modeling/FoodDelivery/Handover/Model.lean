/-
**Orders and deliveries together.**

The orders service and the delivery service, with `order-events` and `delivery-events` between them. The
messages about an order on a topic are the outbox rows with that topic and key, in their order; a
consumer handles the next one, or any earlier one again, and its position moves on when the handler of
the next one returned and its acknowledgement got through. Requests and messages come in any order.
-/

import FoodDelivery.Deliveries.Runs
import FoodDelivery.Orders.Runs

set_option autoImplicit false

namespace FoodDelivery.Handover

open FoodDelivery.Lib

/-! ### What travels -/

/-- A row of `order-events`, as the delivery service reads it. -/
def orderPayload (event : Orders.OrderEvent) : Deliveries.OrderEvent where
  orderId := some event.orderId
  status := some event.status.value
  customerId := some event.customerId
  customerName := some event.customerName
  restaurantId := some event.restaurantId
  restaurantName := event.restaurantName
  destinationLatitude := event.destinationLatitude
  destinationLongitude := event.destinationLongitude

/-- A row of `delivery-events`, as the orders service reads it. -/
def deliveryPayload (event : Deliveries.DeliveryEvent) : Orders.DeliveryEvent where
  orderId := some event.orderId
  status := event.status

/-! ### The state -/

/-- Both services, and how many messages of each topic are acknowledged for each order. -/
structure State where
  orders : Orders.State
  deliveries : Deliveries.State
  orderEventsRead : Nat → Nat
  deliveryEventsRead : Nat → Nat

def State.empty : State where
  orders := .empty
  deliveries := .empty
  orderEventsRead := fun _ => 0
  deliveryEventsRead := fun _ => 0

/-- The messages about an order on `order-events`. -/
def State.orderEvents (s : State) (orderId : Nat) : List Orders.OrderEvent :=
  Orders.eventsOf orderId s.orders.outbox

/-- The messages about an order on `delivery-events`. -/
def State.deliveryEvents (s : State) (orderId : Nat) : List Deliveries.DeliveryEvent :=
  Deliveries.eventsOf orderId s.deliveries.outbox

/-- **All messages have been handled.** -/
structure State.Quiet (s : State) : Prop where
  orderEvents : ∀ orderId, (s.orderEvents orderId)[s.orderEventsRead orderId]? = none
  deliveryEvents : ∀ orderId, (s.deliveryEvents orderId)[s.deliveryEventsRead orderId]? = none

/-! ### The steps -/

/-- What can happen: a request or another message to either service, or message `i` about an order on
one of the two topics. -/
inductive Label where
  | orders (op : Orders.Operation) (now : Timestamp)
  | deliveries (op : Deliveries.Operation) (now : Timestamp)
  | deliverOrderEvent (orderId i : Nat) (redis : Option Deliveries.Nearby) (now : Timestamp)
      (acknowledged : Bool)
  | deliverDeliveryEvent (orderId i : Nat) (now : Timestamp) (acknowledged : Bool)

/-- What the orders service does of its own: `delivery-events` reach it as messages only. -/
def ordersOwn : Orders.Operation → Bool
  | .applyDeliveryEvent _ => false
  | _ => true

/-- What the delivery service does of its own: it assigns when an order event says so. -/
def deliveriesOwn : Deliveries.Operation → Bool
  | .assignForOrder _ _ | .applyOrderEvent _ _ => false
  | _ => true

/-- The positions after message `i` about an order was handled. -/
def readOn (read : Nat → Nat) (orderId i : Nat) (acknowledged : Bool) : Nat → Nat := fun id =>
  if id = orderId ∧ i = read id ∧ acknowledged = true then read id + 1 else read id

def State.step (s : State) : Label → State
  | .orders op now => if ordersOwn op then { s with orders := s.orders.step (op, now) } else s
  | .deliveries op now =>
    if deliveriesOwn op then { s with deliveries := s.deliveries.step (op, now) } else s
  | .deliverOrderEvent orderId i redis now acknowledged =>
    if i ≤ s.orderEventsRead orderId then
      match (s.orderEvents orderId)[i]? with
      | none => s
      | some event =>
        let payload := orderPayload event
        { s with
          deliveries := s.deliveries.step (.applyOrderEvent payload redis, now)
          orderEventsRead := readOn s.orderEventsRead orderId i
            (acknowledged && (Deliveries.applyOrderEvent s.deliveries payload redis now).2.isOk) }
    else s
  | .deliverDeliveryEvent orderId i now acknowledged =>
    if i ≤ s.deliveryEventsRead orderId then
      match (s.deliveryEvents orderId)[i]? with
      | none => s
      | some event =>
        { s with
          orders := s.orders.step (.applyDeliveryEvent (deliveryPayload event), now)
          deliveryEventsRead := readOn s.deliveryEventsRead orderId i acknowledged }
    else s

end FoodDelivery.Handover
