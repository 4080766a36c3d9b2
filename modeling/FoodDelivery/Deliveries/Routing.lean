/-
**Routes and estimates** (`services/delivery/app/providers.py`, `eta.py` and the view of
`tracking_for_order`): the journey still ahead of a driver, and what the two routing providers make of it.

The distances are floats, which is why `Odometer` is a parameter; what is kept of a journey is its
waypoints.
-/

import FoodDelivery.Deliveries.Presence

set_option autoImplicit false

namespace FoodDelivery.Deliveries

open FoodDelivery.Lib

/-! ### Providers -/

structure RouteEstimate where
  distanceKm : Rat
  durationMinutes : Int
  source : String
deriving DecidableEq

/-- Float arithmetic: the kilometres, to two places, and the minutes, rounded up, of a journey along its
waypoints; and the kilometres of a number of metres. -/
structure Odometer where
  journey : List Point → Rat × Int
  kilometres : Rat → Rat

/-- The journeys that end where they begin. -/
def Odometer.still : Odometer where
  journey _ := (0, 0)
  kilometres metres := metres / 1000

/-- `HaversineRouting.route`. -/
def haversineRoute (odometer : Odometer) (waypoints : List Point) : RouteEstimate where
  distanceKm := (odometer.journey waypoints).1
  durationMinutes := max 1 (odometer.journey waypoints).2
  source := "estimate"

/-- What a request to the Routes API comes to: a 403, any other failure, or a route. -/
inductive RoutesReply where
  | forbidden
  | failed
  | route (distanceMeters : Rat) (seconds : Int)

/-- What `_request` makes of a route. -/
def googleRoute (odometer : Odometer) (distanceMeters : Rat) (seconds : Int) : RouteEstimate where
  distanceKm := odometer.kilometres distanceMeters
  durationMinutes := max 1 (-(-seconds / 60))
  source := "google"

/-- `MAPS_DISABLED_TTL_SECONDS`. -/
def mapsDisabledTtlSeconds : Timestamp := 600

/-! ### The journey of a delivery -/

/-- `_CARRYING`: from pick-up onward the food is aboard. -/
def carrying : List DeliveryStatus := [.pickedUp, .delivered]

/-- `waypoints_for`: the journey still ahead of the driver, or nothing when fewer than two points are
known. -/
def waypointsFor (status : DeliveryStatus) (driver restaurant destination : Option Point) :
    List Point :=
  let candidates :=
    if status ∈ carrying then [driver, destination] else [driver, restaurant, destination]
  let points := candidates.reduceOption
  if 2 ≤ points.length then points else []

/-- A latitude and a longitude of a snapshot. A latitude alone raises where the numbers are used. -/
def coordinateOf (latitude longitude : Option Coordinate) : Except Raised (Option Point) :=
  match latitude, longitude with
  | none, _ => .ok none
  | some latitude, some longitude => .ok (some { latitude := latitude, longitude := longitude })
  | some _, none => .error (.other "TypeError" "must be real number, not NoneType")

def restaurantCoord (snapshot : Option OrderSnapshot) : Except Raised (Option Point) :=
  coordinateOf (snapshot.bind OrderSnapshot.restaurantLatitude)
    (snapshot.bind OrderSnapshot.restaurantLongitude)

def destinationCoord (snapshot : Option OrderSnapshot) : Except Raised (Option Point) :=
  coordinateOf (snapshot.bind OrderSnapshot.destinationLatitude)
    (snapshot.bind OrderSnapshot.destinationLongitude)

/-! ### The tracking view -/

/-- Your own order, or a role the platform already trusts with any order. -/
def trackingAllowed (caller : Identity) (delivery : Option Delivery)
    (snapshot : Option OrderSnapshot) : Except Raised Unit :=
  if delivery = none ∧ snapshot = none then .error (notFound "Delivery not found")
  else if caller.role ∈ ["admin", "restaurant"] then .ok ()
  else if snapshot.map OrderSnapshot.customerId = some caller.userId then .ok ()
  else .error (forbidden "Not your order")

/-- What `tracking_for_order` has in hand before it asks for an estimate. -/
structure Journey where
  delivery : Option Delivery
  customerId : Option Nat
  driver : Option Point
  restaurant : Option Point
  destination : Option Point
deriving DecidableEq

def Journey.status (journey : Journey) : DeliveryStatus :=
  journey.delivery.elim .unassigned Delivery.status

def Journey.waypoints (journey : Journey) : List Point :=
  waypointsFor journey.status journey.driver journey.restaurant journey.destination

/-- The position of the delivery's driver, and the two ends of the order. -/
def journeyOf (redis : Option Presence) (delivery : Option Delivery)
    (snapshot : Option OrderSnapshot) : Except Raised Journey := do
  let restaurant ← restaurantCoord snapshot
  let destination ← destinationCoord snapshot
  return {
    delivery := delivery
    customerId := snapshot.map OrderSnapshot.customerId
    driver := redis.bind fun presence =>
      (delivery.bind Delivery.driverId).bind presence.getLocation
    restaurant := restaurant
    destination := destination }

/-- Everything the tracking view needs, in one poll. -/
structure TrackingRead where
  orderId : Nat
  status : DeliveryStatus
  driverId : Option Nat
  driver : Option Point := none
  restaurant : Option Point := none
  destination : Option Point := none
  etaMinutes : Option Int := none
  distanceKm : Option Rat := none
  etaSource : Option String := none
deriving DecidableEq

def Journey.read (journey : Journey) (orderId : Nat) (estimate : Option RouteEstimate) :
    TrackingRead where
  orderId := orderId
  status := journey.status
  driverId := journey.delivery.bind Delivery.driverId
  driver := journey.driver
  restaurant := journey.restaurant
  destination := journey.destination
  etaMinutes := estimate.map RouteEstimate.durationMinutes
  distanceKm := estimate.map RouteEstimate.distanceKm
  etaSource := estimate.map RouteEstimate.source

/-- The part of a delivery that decides which way an estimate goes: whether the food is aboard, and
whose position it starts from. -/
structure Leg where
  aboard : Bool
  driverId : Option Nat
deriving DecidableEq, Repr

def legOf (delivery : Option Delivery) : Leg where
  aboard := decide (delivery.elim .unassigned Delivery.status ∈ carrying)
  driverId := delivery.bind Delivery.driverId

end FoodDelivery.Deliveries
