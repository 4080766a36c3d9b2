/-
**What the orders service does with the other services' events**
(`services/orders/app/consumer.py`).

A payload is what its JSON object holds; a key that is missing or null is `none`.
-/

import FoodDelivery.Orders.Service

set_option autoImplicit false

namespace FoodDelivery.Orders

/-- The payload of `payment-events`. -/
structure PaymentEvent where
  orderId : Option Nat
  paymentStatus : Option PaymentTxStatus
deriving DecidableEq, Repr

/-- The payload of `delivery-events`. -/
structure DeliveryEvent where
  orderId : Option Nat
  status : Option DeliveryStatus
deriving DecidableEq, Repr

/-- The payload of `address-events`. -/
structure AddressEvent where
  addressId : Option Nat
  userId : Option Nat := none
  city : Option String := none
  latitude : Option Coordinate := none
  longitude : Option Coordinate := none
deriving DecidableEq

/-- The payload of `restaurant-events`. -/
structure RestaurantEvent where
  restaurantId : Option Nat
  ownerId : Option Nat := none
  name : Option String := none
deriving DecidableEq, Repr

/-- The payload of `user-events`. -/
structure UserEvent where
  userId : Option Nat
  role : Option String := none
  firstName : Option String := none
  lastName : Option String := none
deriving DecidableEq, Repr

/-- Money moved. Advance the order. -/
def applyPaymentEvent (s : State) (payload : PaymentEvent) (now : Timestamp) : Except Raised State :=
  match payload.orderId with
  | none => .ok s
  | some orderId =>
    if payload.paymentStatus ≠ some .succeeded then .ok s
    else s.onOrder orderId .markPaid now

/-- The order status a delivery status stands for; the others change nothing about the order. -/
def deliveryTarget : Option DeliveryStatus → Option OrderStatus
  | some .pickedUp => some .outForDelivery
  | some .delivered => some .delivered
  | _ => none

/-- A driver picked up or delivered. Advance the order to match; whatever `driver_advance` raises
is logged and rolled back. -/
def applyDeliveryEvent (s : State) (payload : DeliveryEvent) (now : Timestamp) : State :=
  match payload.orderId, deliveryTarget payload.status with
  | some orderId, some target =>
    match s.onOrder orderId (.driverAdvance target) now with
    | .ok advanced => advanced
    | .error _ => s
  | _, _ => s

def applyAddressEvent (s : State) (payload : AddressEvent) : State :=
  match payload.addressId with
  | none => s
  | some addressId =>
    let snapshot := (s.addresses.find? addressId).getD
      { addressId := addressId, userId := payload.userId.getD 0 }
    { s with
      addresses := s.addresses.put
        { snapshot with
          userId := payload.userId.getD snapshot.userId
          city := payload.city.getD ""
          latitude := payload.latitude
          longitude := payload.longitude } }

def applyRestaurantEvent (s : State) (payload : RestaurantEvent) : State :=
  match payload.restaurantId with
  | none => s
  | some restaurantId =>
    let snapshot := (s.restaurants.find? restaurantId).getD
      { restaurantId := restaurantId, ownerId := payload.ownerId.getD 0 }
    { s with
      restaurants := s.restaurants.put
        { snapshot with
          ownerId := payload.ownerId.getD snapshot.ownerId
          name := payload.name.getD snapshot.name } }

/-- `str.strip()` on the characters that occur in names. -/
def strip (text : String) : String :=
  String.ofList ((text.toList.dropWhile Char.isWhitespace).reverse.dropWhile
    Char.isWhitespace).reverse

/-- "Alex R.", built once here. -/
def displayName (first last : Option String) : String :=
  let first := strip (first.getD "")
  let last := strip (last.getD "")
  if first = "" then ""
  else
    match last.toList with
    | [] => first
    | initial :: _ => first ++ " " ++ String.ofList [initial] ++ "."

def applyUserEvent (s : State) (payload : UserEvent) : State :=
  match payload.userId with
  | none => s
  | some userId =>
    if payload.role ≠ some "customer" then s
    else
      let snapshot := (s.customers.find? userId).getD { userId := userId }
      { s with
        customers := s.customers.put
          { snapshot with displayName := displayName payload.firstName payload.lastName } }

/-! ### What the events ask for -/

/-- A payment event asks for nothing or for its order to be marked paid. -/
theorem applyPaymentEvent_cases (s : State) (payload : PaymentEvent) (now : Timestamp) :
    applyPaymentEvent s payload now = .ok s ∨
      ∃ orderId, applyPaymentEvent s payload now = s.onOrder orderId .markPaid now := by
  unfold applyPaymentEvent
  split
  · exact Or.inl rfl
  · rename_i orderId _
    split_ifs
    · exact Or.inl rfl
    · exact Or.inr ⟨orderId, rfl⟩

/-- A delivery event asks for nothing or for its order to move along; it ends none. -/
theorem applyDeliveryEvent_cases (s : State) (payload : DeliveryEvent) (now : Timestamp) :
    applyDeliveryEvent s payload now = s ∨
      ∃ orderId target, ended target = false ∧ applyDeliveryEvent s payload now =
        match s.onOrder orderId (.driverAdvance target) now with
        | .ok advanced => advanced
        | .error _ => s := by
  unfold applyDeliveryEvent
  split
  · rename_i orderId target _ drives
    refine Or.inr ⟨orderId, target, ?_, rfl⟩
    unfold deliveryTarget at drives
    split at drives <;> cases drives <;> rfl
  · exact Or.inl rfl

/-! ### The read-models are apart from the orders -/

theorem applyAddressEvent_frame (s : State) (payload : AddressEvent) :
    (applyAddressEvent s payload).orders = s.orders ∧
      (applyAddressEvent s payload).releases = s.releases := by
  unfold applyAddressEvent
  split
  · exact ⟨rfl, rfl⟩
  · exact ⟨rfl, rfl⟩

theorem applyRestaurantEvent_frame (s : State) (payload : RestaurantEvent) :
    (applyRestaurantEvent s payload).orders = s.orders ∧
      (applyRestaurantEvent s payload).releases = s.releases := by
  unfold applyRestaurantEvent
  split
  · exact ⟨rfl, rfl⟩
  · exact ⟨rfl, rfl⟩

theorem applyUserEvent_frame (s : State) (payload : UserEvent) :
    (applyUserEvent s payload).orders = s.orders ∧
      (applyUserEvent s payload).releases = s.releases := by
  unfold applyUserEvent
  split
  · exact ⟨rfl, rfl⟩
  · split_ifs
    · exact ⟨rfl, rfl⟩
    · exact ⟨rfl, rfl⟩

end FoodDelivery.Orders
