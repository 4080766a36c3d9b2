/-
**The tables of the delivery service** (`services/delivery/app/models.py`), the events it writes to its
outbox and the state its operations run on.

`Delivery` is its own data, one row for each order. `OrderSnapshot`, `Driver` and `RestaurantSnapshot`
are read-models of what the other services publish.
-/

import FoodDelivery.Lib.Table
import FoodDelivery.Shared.Basic
import Mathlib.Data.Rat.Defs

set_option autoImplicit false

namespace FoodDelivery.Deliveries

open FoodDelivery.Lib (Table)

/-- `ACTIVE_STATUSES`. -/
def activeStatuses : List DeliveryStatus := [.assigned, .accepted, .pickedUp]

/-- One delivery per order, one active order per driver. -/
structure Delivery where
  orderId : Nat
  driverId : Option Nat := none
  status : DeliveryStatus := .unassigned
  restaurantName : Option String := none
  items : Option String := none
  orderTotal : Option String := none
  assignedAt : Option Timestamp := none
  acceptedAt : Option Timestamp := none
  pickedUpAt : Option Timestamp := none
  deliveredAt : Option Timestamp := none
deriving DecidableEq, Repr

/-- Its driver has something on. -/
def Delivery.active (delivery : Delivery) : Bool := delivery.status ∈ activeStatuses

/-- A double of a coordinate column, which is a rational; it is only copied here. -/
abbrev Coordinate := Rat

/-- What this service knows about an order, from the orders service's events. -/
structure OrderSnapshot where
  orderId : Nat
  customerId : Nat
  customerName : Option String := none
  restaurantId : Option Nat := none
  restaurantName : Option String := none
  status : String := ""
  items : Option String := none
  orderTotal : Option String := none
  deliveryAddress : Option String := none
  restaurantLatitude : Option Coordinate := none
  restaurantLongitude : Option Coordinate := none
  destinationLatitude : Option Coordinate := none
  destinationLongitude : Option Coordinate := none
deriving DecidableEq

structure Driver where
  id : Nat
  firstName : String := ""
  lastName : String := ""
  isActive : Bool := true
deriving DecidableEq, Repr

structure RestaurantSnapshot where
  restaurantId : Nat
  ownerId : Nat
deriving DecidableEq, Repr

/-! ### The outbox -/

/-- The payload of `delivery-events`. A status that had not been assigned when the payload was written
is null. -/
structure DeliveryEvent where
  orderId : Nat
  status : Option DeliveryStatus
  driverId : Option Nat
deriving DecidableEq, Repr

/-- The payload of a row of `notification-events`. -/
structure Notification where
  userId : Nat
  type : String
  message : String
  orderId : Nat
deriving DecidableEq, Repr

/-- A row of the outbox: its topic is the constructor. The key is the order id in both. -/
inductive OutboxEvent where
  | deliveryEvents (payload : DeliveryEvent)
  | notificationEvents (payload : Notification)
deriving DecidableEq, Repr

/-- The delivery-events payload of a row, when that is its topic. -/
def OutboxEvent.deliveryEvent? : OutboxEvent → Option DeliveryEvent
  | .deliveryEvents payload => some payload
  | _ => none

/-! ### The state -/

abbrev DeliveryTable := Table Nat Delivery Delivery.orderId

structure State where
  deliveries : DeliveryTable
  snapshots : Table Nat OrderSnapshot OrderSnapshot.orderId
  drivers : Table Nat Driver Driver.id
  restaurants : Table Nat RestaurantSnapshot RestaurantSnapshot.restaurantId
  outbox : List OutboxEvent

/-- A database with no rows. -/
def State.empty : State where
  deliveries := .empty
  snapshots := .empty
  drivers := .empty
  restaurants := .empty
  outbox := []

/-- What one transaction writes about one delivery: the row and the outbox rows recorded with it. -/
structure Written where
  delivery : Delivery
  outbox : List OutboxEvent
deriving DecidableEq, Repr

/-- `session.commit()`: the row and its outbox rows, in one transaction. -/
def State.commit (s : State) (written : Written) : State :=
  { s with
    deliveries := s.deliveries.put written.delivery
    outbox := s.outbox ++ written.outbox }

end FoodDelivery.Deliveries
