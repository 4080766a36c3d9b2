/-
**What the delivery service does with the other services' events**
(`services/delivery/app/consumer.py`): it copies what it needs into its read-models, and assigns a
driver when an order is ready for pickup.

A payload is what its JSON object holds; a key that is missing or null is `none`.
-/

import FoodDelivery.Deliveries.Service

set_option autoImplicit false

namespace FoodDelivery.Deliveries

open FoodDelivery.Lib

/-- The payload of `order-events`. -/
structure OrderEvent where
  orderId : Option Nat
  status : Option String := none
  customerId : Option Nat := none
  customerName : Option String := none
  restaurantId : Option Nat := none
  restaurantName : Option String := none
  items : Option String := none
  orderTotal : Option String := none
  deliveryAddress : Option String := none
  restaurantLatitude : Option Coordinate := none
  restaurantLongitude : Option Coordinate := none
  destinationLatitude : Option Coordinate := none
  destinationLongitude : Option Coordinate := none
deriving DecidableEq

/-- The payload of `user-events`. -/
structure UserEvent where
  userId : Option Nat := none
  id : Option Nat := none
  role : Option String := none
  firstName : Option String := none
  lastName : Option String := none
  isActive : Option Bool := none
deriving DecidableEq, Repr

/-- The payload of `restaurant-events`. -/
structure RestaurantEvent where
  restaurantId : Option Nat := none
  ownerId : Option Nat := none
deriving DecidableEq, Repr

/-- `READY_FOR_PICKUP`: the one status that means "a driver is needed now". -/
def readyForPickup : String := "READY_FOR_PICKUP"

/-- `first or second`, for a text that may be missing. -/
def orText (first : Option String) (second : String) : String :=
  match first with
  | none | some "" => second
  | some text => text

/-- `first or second`, for a number that may be missing. -/
def orNumber (first second : Option Nat) : Option Nat :=
  match first with
  | none | some 0 => second
  | some number => some number

/-- The snapshot of an order after an event; only what the event carries is overwritten. -/
def OrderSnapshot.update (snapshot : OrderSnapshot) (payload : OrderEvent) : OrderSnapshot :=
  { snapshot with
    status := orText payload.status snapshot.status
    customerId := payload.customerId.getD snapshot.customerId
    customerName := payload.customerName <|> snapshot.customerName
    restaurantId := payload.restaurantId <|> snapshot.restaurantId
    restaurantName := payload.restaurantName <|> snapshot.restaurantName
    items := payload.items <|> snapshot.items
    orderTotal := payload.orderTotal <|> snapshot.orderTotal
    deliveryAddress := payload.deliveryAddress <|> snapshot.deliveryAddress
    restaurantLatitude := payload.restaurantLatitude <|> snapshot.restaurantLatitude
    restaurantLongitude := payload.restaurantLongitude <|> snapshot.restaurantLongitude
    destinationLatitude := payload.destinationLatitude <|> snapshot.destinationLatitude
    destinationLongitude := payload.destinationLongitude <|> snapshot.destinationLongitude }

/-- Update the order snapshot, and assign a driver if it just became ready. The snapshot is committed
first, so it stays when the assignment raises. -/
def applyOrderEvent (s : State) (payload : OrderEvent) (redis : Option Nearby) (now : Timestamp) :
    State × Except Raised Unit :=
  match payload.orderId with
  | none => (s, .ok ())
  | some orderId =>
    let before := (s.snapshots.find? orderId).getD
      { orderId := orderId, customerId := payload.customerId.getD 0 }
    let snapshot := before.update payload
    let s := { s with snapshots := s.snapshots.put snapshot }
    if snapshot.status = readyForPickup then
      match assignForOrder s orderId redis now with
      | .ok assigned => (assigned, .ok ())
      | .error raised => (s, .error raised)
    else (s, .ok ())

/-- Keep the driver roster current. -/
def applyUserEvent (s : State) (payload : UserEvent) : State :=
  match orNumber payload.userId payload.id with
  | none => s
  | some userId =>
    if payload.role ≠ some "driver" then s
    else
      let driver := (s.drivers.find? userId).getD { id := userId }
      { s with
        drivers := s.drivers.put
          { driver with
            firstName := payload.firstName.getD driver.firstName
            lastName := payload.lastName.getD driver.lastName
            isActive := payload.isActive.getD driver.isActive } }

/-- Keep the owner roster current. -/
def applyRestaurantEvent (s : State) (payload : RestaurantEvent) : State :=
  match payload.restaurantId, payload.ownerId with
  | some restaurantId, some ownerId =>
    { s with restaurants := s.restaurants.put { restaurantId := restaurantId, ownerId := ownerId } }
  | _, _ => s

end FoodDelivery.Deliveries
