/-
**The tables of the restaurants service** (`services/restaurants/app/models.py`): venues, their weekly
schedules and their menus, and the events it writes to its outbox.

A weekday is Monday = 0 … Sunday = 6 and a time of day its microsecond. A point on the map and a radius
are doubles, which are rationals.
-/

import FoodDelivery.Lib.Table
import FoodDelivery.Shared.Basic
import Mathlib.Data.Rat.Defs

set_option autoImplicit false

namespace FoodDelivery.Restaurants

open FoodDelivery.Lib (Table nextId)

/-! ### Rows -/

/-- The approval states a restaurant moves through. -/
inductive ApprovalStatus where
  | pending
  | approved
  | rejected
deriving DecidableEq, Repr

/-- What a kitchen serves, as its owner declares it. -/
inductive FoodType where
  | veg
  | nonVeg
  | both
deriving DecidableEq, Repr

structure Restaurant where
  id : Nat
  ownerId : Nat
  name : String
  description : Option String := none
  cuisine : Option String := none
  city : String := ""
  addressLine : String := ""
  phone : String := ""
  isOpen : Bool := false
  approvalStatus : ApprovalStatus := .pending
  rejectionReason : Option String := none
  foodType : FoodType := .both
  minOrderAmount : Money := 0
  latitude : Option Rat := none
  longitude : Option Rat := none
  deliveryRadiusKm : Option Rat := none
deriving DecidableEq, Repr

/-- Monday = 0 … Sunday = 6. -/
abbrev Weekday := Fin 7

/-- A `time`: the microsecond of the day. -/
abbrev TimeOfDay := Fin 86400000000

/-- The minute of the day, which is what `HH:MM` says. -/
abbrev Minute := Fin 1440

/-- The time at which a minute begins. -/
def Minute.time (minute : Minute) : TimeOfDay := ⟨minute * 60000000, by omega⟩

/-- One weekday of a restaurant's weekly schedule. The times are null when the day is closed. -/
structure OpeningHour where
  restaurantId : Nat
  dayOfWeek : Weekday
  opensAt : Option TimeOfDay
  closesAt : Option TimeOfDay
  isClosed : Bool := false
deriving DecidableEq, Repr

/-- `uq_opening_hours_day`. -/
def OpeningHour.key (hour : OpeningHour) : Nat × Weekday := (hour.restaurantId, hour.dayOfWeek)

structure MenuCategory where
  id : Nat
  restaurantId : Nat
  name : String
  sortOrder : Int := 0
deriving DecidableEq, Repr

/-- The price of a dish, in hundredths. What a payload brings is above zero (`gt=0`), and the column rounds
it to hundredths, so it is never below. -/
abbrev Price := Nat

/-- A dish. `stockQuantity` is `none` when its stock is not tracked. -/
structure MenuItem where
  id : Nat
  restaurantId : Nat
  categoryId : Nat
  name : String
  description : Option String := none
  price : Price
  isAvailable : Bool := true
  stockQuantity : Option Nat := none
  isVegetarian : Bool := false
deriving DecidableEq, Repr

/-! ### The outbox -/

/-- The payload of `restaurant-events`. -/
structure RestaurantEvent where
  restaurantId : Nat
  ownerId : Nat
  name : String
  isOpen : Bool
  approvalStatus : ApprovalStatus
deriving DecidableEq, Repr

/-- The payload of the operator's "a restaurant is waiting" mail. -/
structure PendingAlert where
  channel : String
  recipient : String
  type : String
  subject : String
  message : String
deriving DecidableEq, Repr

/-- A row of the outbox: its topic is the constructor. The key is the restaurant's id. -/
inductive OutboxEvent where
  | restaurantEvents (payload : RestaurantEvent)
  | notificationEvents (key : String) (payload : PendingAlert)
deriving DecidableEq, Repr

/-- The restaurant-events payload of a row, when that is its topic. -/
def OutboxEvent.restaurantEvent? : OutboxEvent → Option RestaurantEvent
  | .restaurantEvents payload => some payload
  | _ => none

/-! ### The state -/

structure State where
  restaurants : Table Nat Restaurant Restaurant.id
  openingHours : Table (Nat × Weekday) OpeningHour OpeningHour.key
  categories : Table Nat MenuCategory MenuCategory.id
  items : Table Nat MenuItem MenuItem.id
  outbox : List OutboxEvent

/-- A database with no rows. -/
def State.empty : State where
  restaurants := .empty
  openingHours := .empty
  categories := .empty
  items := .empty
  outbox := []

def State.nextRestaurantId (s : State) : Nat := nextId (s.restaurants.rows.map Restaurant.id)

def State.nextCategoryId (s : State) : Nat := nextId (s.categories.rows.map MenuCategory.id)

def State.nextItemId (s : State) : Nat := nextId (s.items.rows.map MenuItem.id)

/-- One restaurant's schedule in weekday order. -/
def openingHoursFor (s : State) (restaurantId : Nat) : List OpeningHour :=
  (List.finRange 7).filterMap fun day => s.openingHours.find? (restaurantId, day)

end FoodDelivery.Restaurants
