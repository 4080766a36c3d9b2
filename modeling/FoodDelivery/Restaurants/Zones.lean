/-
**Delivery zones** (`services/restaurants/app/zones.py`): can this restaurant deliver to this address?

The great-circle distance is trigonometry on doubles, and the case folding of a city name and the
printing of a double are Python's: they are the parameter `Runtime`.
-/

import FoodDelivery.Restaurants.Model

set_option autoImplicit false

namespace FoodDelivery.Restaurants

structure Coordinate where
  latitude : Rat
  longitude : Rat
deriving DecidableEq, Repr

/-- What of Python and its floats the zone check uses: `round(haversine_km(a, b), 2)`,
`text.strip().casefold()` and `str` of a double. -/
structure Runtime where
  distanceKm : Coordinate → Coordinate → Rat
  foldCity : String → String
  showKm : Rat → String

/-- Just enough of an address to decide serviceability. -/
structure AddressPoint where
  city : String
  latitude : Option Rat := none
  longitude : Option Rat := none
deriving DecidableEq, Repr

/-- Which rule decided a verdict. -/
inductive Basis where
  | radius
  | city
deriving DecidableEq, Repr

structure ZoneVerdict where
  serviceable : Bool
  basis : Basis
  distanceKm : Option Rat := none
  radiusKm : Option Rat := none
deriving DecidableEq, Repr

/-- `settings.delivery_default_radius_km`. -/
def deliveryDefaultRadiusKm : Rat := 10

/-- The radius to enforce for a restaurant. -/
def effectiveRadiusKm (restaurant : Restaurant) : Rat :=
  match restaurant.deliveryRadiusKm with
  | none => deliveryDefaultRadiusKm
  | some configured => if configured ≤ 0 then deliveryDefaultRadiusKm else configured

/-- `_coord`: a coordinate, when both halves are there. -/
def coord (latitude longitude : Option Rat) : Option Coordinate :=
  match latitude, longitude with
  | some latitude, some longitude => some ⟨latitude, longitude⟩
  | _, _ => none

def sameCity (runtime : Runtime) (restaurant : Restaurant) (address : AddressPoint) : Bool :=
  runtime.foldCity address.city = runtime.foldCity restaurant.city

/-- Whether `restaurant` delivers to `address`, and on what grounds. -/
def checkZone (runtime : Runtime) (restaurant : Restaurant) (address : AddressPoint) :
    ZoneVerdict :=
  match coord restaurant.latitude restaurant.longitude, coord address.latitude address.longitude with
  | some origin, some destination =>
    let radius := effectiveRadiusKm restaurant
    let distance := runtime.distanceKm origin destination
    { serviceable := distance ≤ radius
      basis := .radius
      distanceKm := some distance
      radiusKm := some radius }
  | _, _ => { serviceable := sameCity runtime restaurant address, basis := .city }

/-- `str` of a double that may be None. -/
def Runtime.showOptionKm (runtime : Runtime) : Option Rat → String
  | some km => runtime.showKm km
  | none => "None"

/-- Customer-facing reason an address is out of zone. -/
def rejectionMessage (runtime : Runtime) (restaurant : Restaurant) (verdict : ZoneVerdict) : String :=
  if verdict.basis = .radius then
    "That address is " ++ runtime.showOptionKm verdict.distanceKm ++ " km away — " ++
      restaurant.name ++ " delivers within " ++ runtime.showOptionKm verdict.radiusKm ++ " km."
  else "We only deliver within " ++ restaurant.city ++ " for this restaurant."

end FoodDelivery.Restaurants
