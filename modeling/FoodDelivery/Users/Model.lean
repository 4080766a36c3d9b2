/-
**The tables of the users service** (`services/users/app/models.py`) that its accounts and addresses
live in, the events it writes to its outbox, and the state its operations run on.

The ids come from sequences: one that was handed out is never handed out again, also when its row was
rolled back or deleted. The timestamps and the favourites are left out.
-/

import FoodDelivery.Lib.Table
import FoodDelivery.Shared.Basic
import Mathlib.Data.Rat.Defs

set_option autoImplicit false

namespace FoodDelivery.Users

open FoodDelivery.Lib (Table)

inductive Role where
  | customer
  | restaurant
  | driver
  | admin
deriving DecidableEq, Repr

def Role.value : Role → String
  | .customer => "customer"
  | .restaurant => "restaurant"
  | .driver => "driver"
  | .admin => "admin"

/-- `approvalStatus` is the restaurants service's word for where an applicant stands. -/
structure User where
  id : Nat
  email : String
  phone : String
  firstName : String
  lastName : String
  hashedPassword : String
  role : Role := .customer
  isActive : Bool := true
  passwordResetRequired : Bool := false
  approvalStatus : Option String := none
  sessionGeneration : Nat := 0
deriving DecidableEq, Repr

/-- A point on the map, as a geocoder finds it. -/
structure Coordinate where
  latitude : Rat
  longitude : Rat
deriving DecidableEq

structure Address where
  id : Nat
  userId : Nat
  label : String := "home"
  line1 : String
  line2 : Option String := none
  city : String
  postalCode : String
  isDefault : Bool := false
  latitude : Option Rat := none
  longitude : Option Rat := none
deriving DecidableEq

/-! ### The outbox -/

/-- The payload of a row of `address-events`. -/
structure AddressEvent where
  addressId : Nat
  userId : Nat
  city : String
  latitude : Option Rat
  longitude : Option Rat
deriving DecidableEq

/-- The payload of a row of `user-events`. -/
structure UserEvent where
  userId : Nat
  role : Role
  firstName : String
  lastName : String
  isActive : Bool
deriving DecidableEq, Repr

/-- The payload of a row of `user-contact-events`. -/
structure ContactEvent where
  userId : Nat
  email : String
  phone : String
deriving DecidableEq, Repr

/-- The payload of a row of `restaurant-registrations`. -/
structure RestaurantRegistration where
  ownerId : Nat
  name : String
  city : String
  addressLine : String
  phone : String
  cuisine : Option String
  description : Option String
  foodType : String
deriving DecidableEq, Repr

/-- A row of the outbox: its topic is the constructor. -/
inductive OutboxEvent where
  | addressEvents (payload : AddressEvent)
  | userEvents (payload : UserEvent)
  | userContactEvents (payload : ContactEvent)
  | restaurantRegistrations (payload : RestaurantRegistration)
deriving DecidableEq

/-- The user-events payload of a row, when that is its topic. -/
def OutboxEvent.userEvent? : OutboxEvent → Option UserEvent
  | .userEvents payload => some payload
  | _ => none

/-- The user-contact-events payload of a row, when that is its topic. -/
def OutboxEvent.contactEvent? : OutboxEvent → Option ContactEvent
  | .userContactEvents payload => some payload
  | _ => none

/-! ### The state -/

/-- The database; `lastUserId` and `lastAddressId` are the last ids the sequences have handed out. -/
structure State where
  users : Table Nat User User.id
  addresses : Table Nat Address Address.id
  outbox : List OutboxEvent
  lastUserId : Nat
  lastAddressId : Nat

/-- A database with no rows. -/
def State.empty : State where
  users := .empty
  addresses := .empty
  outbox := []
  lastUserId := 0
  lastAddressId := 0

end FoodDelivery.Users
