/-
**Restaurant profiles** (`services/restaurants/app/service.py`): registering a venue, deciding on it,
and its owner's own edits.

An update of the source is the fields its payload sets; a field that is set to null is an error at the
commit when its column is not nullable.
-/

import FoodDelivery.Restaurants.Model

set_option autoImplicit false

namespace FoodDelivery.Restaurants

open FoodDelivery.Lib

/-! ### Reading -/

/-- Every restaurant this owner has, whatever its approval status. -/
def ownedBy (s : State) (ownerId : Nat) : List Restaurant :=
  s.restaurants.rows.filter fun restaurant => restaurant.ownerId = ownerId

def getRestaurant (s : State) (restaurantId : Nat) : Except Raised Restaurant :=
  match s.restaurants.find? restaurantId with
  | none => .error (.app (notFoundException "Restaurant" (toString restaurantId)))
  | some restaurant => .ok restaurant

/-- The restaurant if the user may manage it. 404 before 403. -/
def ownedRestaurant (s : State) (user : Identity) (restaurantId : Nat) :
    Except Raised Restaurant := do
  let restaurant ← getRestaurant s restaurantId
  if restaurant.ownerId ≠ user.userId ∧ user.role ≠ "admin" then
    .error (.app (forbiddenException "You do not manage this restaurant"))
  else return restaurant

/-! ### Events -/

/-- Announce a restaurant to the services that keep a copy of it. -/
def publishRestaurant (restaurant : Restaurant) : OutboxEvent :=
  .restaurantEvents
    { restaurantId := restaurant.id
      ownerId := restaurant.ownerId
      name := restaurant.name
      isOpen := restaurant.isOpen
      approvalStatus := restaurant.approvalStatus }

/-- Tell the operator there is something waiting; `adminAlertEmail` is the setting. -/
def alertAdminOfSubmission (adminAlertEmail : String) (restaurant : Restaurant) :
    List OutboxEvent :=
  if adminAlertEmail = "" then []
  else
    [.notificationEvents (toString restaurant.id)
      { channel := "EMAIL"
        recipient := adminAlertEmail
        type := "restaurant_pending"
        subject := "New restaurant awaiting approval: " ++ restaurant.name
        message := restaurant.name ++ " registered in " ++ restaurant.city ++ " and is waiting " ++
          "for approval. The owner cannot sign in until it is reviewed. Open the admin console " ++
          "to approve or reject it." }]

/-- The row and its outbox rows, in one transaction. -/
def State.save (s : State) (restaurant : Restaurant) (outbox : List OutboxEvent) : State :=
  { s with
    restaurants := s.restaurants.put restaurant
    outbox := s.outbox ++ outbox }

/-! ### Registering -/

/-- The payload of `restaurant-registrations`; a key that is missing or null is `none`. -/
structure Registration where
  ownerId : Option Nat
  name : Option String
  city : Option String := none
  addressLine : Option String := none
  phone : Option String := none
  cuisine : Option String := none
  description : Option String := none
  foodType : Option FoodType := none
deriving DecidableEq, Repr

/-- Create the pending venue for someone who has just signed up as an owner; nothing, when the owner
already has one. -/
def registerFromSignup (adminAlertEmail : String) (s : State) (payload : Registration) : State :=
  match payload.ownerId, payload.name with
  | some ownerId, some name =>
    if name = "" then s
    else if ownedBy s ownerId ≠ [] then s
    else
      let restaurant : Restaurant :=
        { id := s.nextRestaurantId
          ownerId := ownerId
          name := name
          city := payload.city.getD ""
          addressLine := payload.addressLine.getD ""
          phone := payload.phone.getD ""
          cuisine := payload.cuisine
          description := payload.description
          foodType := payload.foodType.getD .both
          approvalStatus := .pending }
      s.save restaurant
        (publishRestaurant restaurant :: alertAdminOfSubmission adminAlertEmail restaurant)
  | _, _ => s

structure RestaurantCreate where
  name : String
  description : Option String := none
  cuisine : Option String := none
  city : String
  addressLine : String
  phone : String
  minOrderAmount : Money := 0
  latitude : Option Rat := none
  longitude : Option Rat := none
  deliveryRadiusKm : Option Rat := none
  foodType : FoodType := .both
deriving DecidableEq, Repr

def conflictException (message : String) : AppException where
  message := message
  statusCode := 409

/-- Register a venue for this owner. One each. -/
def createRestaurant (s : State) (owner : Identity) (data : RestaurantCreate) :
    Except Raised State :=
  if ownedBy s owner.userId ≠ [] then
    .error (.app (conflictException
      "You already manage a restaurant. One account manages one restaurant."))
  else
    let restaurant : Restaurant :=
      { id := s.nextRestaurantId
        ownerId := owner.userId
        approvalStatus := .pending
        name := data.name
        description := data.description
        cuisine := data.cuisine
        city := data.city
        addressLine := data.addressLine
        phone := data.phone
        minOrderAmount := data.minOrderAmount
        latitude := data.latitude
        longitude := data.longitude
        deliveryRadiusKm := data.deliveryRadiusKm
        foodType := data.foodType }
    .ok (s.save restaurant [publishRestaurant restaurant])

/-- Approve or reject a restaurant. -/
def setApproval (s : State) (restaurantId : Nat) (status : ApprovalStatus)
    (reason : Option String) : Except Raised State := do
  let restaurant ← getRestaurant s restaurantId
  let restaurant := { restaurant with
    approvalStatus := status
    rejectionReason := if status = .rejected then reason else none
    -- a rejected venue must not keep taking orders; approving does not open it
    isOpen := if status ≠ .approved then false else restaurant.isOpen }
  return s.save restaurant [publishRestaurant restaurant]

/-! ### The owner's edits -/

/-- One weekday of the schedule an owner sends. -/
structure OpeningHourDay where
  dayOfWeek : Weekday
  opensAt : Option Minute := none
  closesAt : Option Minute := none
  isClosed : Bool := false
deriving DecidableEq, Repr

/-- A week as its validators leave it: each day once, a closed day without times and any other day
with both. -/
structure WeekSchedule where
  days : List OpeningHourDay
  distinct : (days.map OpeningHourDay.dayOfWeek).Nodup
  windows : ∀ day ∈ days,
    if day.isClosed then day.opensAt = none ∧ day.closesAt = none
    else day.opensAt.isSome ∧ day.closesAt.isSome

/-- The row of a day. -/
def OpeningHourDay.row (restaurantId : Nat) (day : OpeningHourDay) : OpeningHour where
  restaurantId := restaurantId
  dayOfWeek := day.dayOfWeek
  opensAt := day.opensAt.map Minute.time
  closesAt := day.closesAt.map Minute.time
  isClosed := day.isClosed

/-- Replace the whole weekly schedule for one restaurant. -/
def replaceOpeningHours (s : State) (restaurantId : Nat) (schedule : WeekSchedule) : State :=
  let kept := s.openingHours.filter fun row => row.restaurantId ≠ restaurantId
  { s with
    openingHours := schedule.days.foldl (fun hours day => hours.put (day.row restaurantId)) kept }

/-- A field of a PATCH payload: left out, or set to a value or to null. -/
abbrev Patch (α : Type) := Option (Option α)

/-- An owner's edit. `approval_status` is not a field of it. -/
structure RestaurantUpdate where
  name : Patch String := none
  description : Patch String := none
  cuisine : Patch String := none
  city : Patch String := none
  addressLine : Patch String := none
  phone : Patch String := none
  isOpen : Patch Bool := none
  minOrderAmount : Patch Money := none
  latitude : Patch Rat := none
  longitude : Patch Rat := none
  deliveryRadiusKm : Patch Rat := none
  foodType : Patch FoodType := none
  openingHours : Option WeekSchedule := none

/-- `setattr` on a column that is not nullable: null fails at the flush. -/
def setRequired {α : Type} (column : String) (current : α) : Patch α → Except Raised α
  | none => .ok current
  | some (some value) => .ok value
  | some none => .error (.other "IntegrityError" ("null value in column \"" ++ column ++ "\""))

/-- `for field, value in payload.items(): setattr(restaurant, field, value)`, flushed. -/
def RestaurantUpdate.apply (data : RestaurantUpdate) (restaurant : Restaurant) :
    Except Raised Restaurant := do
  let name ← setRequired "name" restaurant.name data.name
  let city ← setRequired "city" restaurant.city data.city
  let addressLine ← setRequired "address_line" restaurant.addressLine data.addressLine
  let phone ← setRequired "phone" restaurant.phone data.phone
  let isOpen ← setRequired "is_open" restaurant.isOpen data.isOpen
  let minOrderAmount ← setRequired "min_order_amount" restaurant.minOrderAmount data.minOrderAmount
  let foodType ← setRequired "food_type" restaurant.foodType data.foodType
  return { restaurant with
    name := name
    description := data.description.getD restaurant.description
    cuisine := data.cuisine.getD restaurant.cuisine
    city := city
    addressLine := addressLine
    phone := phone
    isOpen := isOpen
    minOrderAmount := minOrderAmount
    latitude := data.latitude.getD restaurant.latitude
    longitude := data.longitude.getD restaurant.longitude
    deliveryRadiusKm := data.deliveryRadiusKm.getD restaurant.deliveryRadiusKm
    foodType := foodType }

def updateRestaurant (s : State) (restaurantId : Nat) (user : Identity) (data : RestaurantUpdate) :
    Except Raised State := do
  let restaurant ← ownedRestaurant s user restaurantId
  let restaurant ← data.apply restaurant
  let s := match data.openingHours with
    | none => s
    | some schedule => replaceOpeningHours s restaurant.id schedule
  return s.save restaurant [publishRestaurant restaurant]

end FoodDelivery.Restaurants
