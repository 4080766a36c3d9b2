/-
**Whom an order is offered to** (`services/delivery/app/service.py`, `_nearest_available` and
`_pick_driver`, with `services/delivery/app/location.py`).

Redis keeps the known positions and answers with the ids near the restaurant, closest first and at most
ten of them. The service passes over the ones it cannot use and takes the first of the rest; when the
ten run out it takes the first free driver in its own table, wherever that driver is.

* `nearestAvailable_eq`, `pickAny_eq`: both halves look for a driver who is `Eligible`;
* `selectsNearest_iff`: an offer goes to a nearest eligible driver within reach exactly when one of the
  ten is eligible, or nobody within reach is, or the first in the table happens to be a nearest.
-/

import FoodDelivery.Deliveries.Service
import FoodDelivery.Lib.Nearest

set_option autoImplicit false

namespace FoodDelivery.Deliveries

open FoodDelivery.Lib

/-! ### Positions -/

/-- `GEOSEARCH` on the known positions: a longitude, a latitude, a radius in kilometres and a count. -/
abbrev Geosearch := Option Coordinate → Coordinate → Nat → Nat → Except Raised (List Nat)

/-- Online driver ids near a point, closest first. -/
def nearbyDriverIds (geosearch : Geosearch) (radiusKm : Nat := 10) (count : Nat := 10) : Nearby :=
  fun latitude longitude => geosearch longitude latitude radiusKm count

/-- `drivers:geo`: the drivers whose position is known, and how far each is from a point. -/
structure GeoIndex (D : Type) where
  members : List Nat
  distance : Coordinate → Coordinate → Nat → D

section Index

variable {D : Type} [LinearOrder D] [NatCast D]

/-- The driver's position is known and within a radius of the point. -/
def GeoIndex.Within (index : GeoIndex D) (longitude latitude : Coordinate) (radiusKm : Nat)
    (driverId : Nat) : Prop :=
  driverId ∈ index.members ∧ index.distance longitude latitude driverId ≤ radiusKm

/-- **What Redis documents**: the closest members within the radius, in ascending distance, at most
`count` of them. -/
def GeoIndex.Documents (index : GeoIndex D) (geosearch : Geosearch) : Prop :=
  ∀ longitude latitude radiusKm count, ∃ ids,
    geosearch (some longitude) latitude radiusKm count = .ok ids ∧
      Closest (index.Within longitude latitude radiusKm) (index.distance longitude latitude) count ids

end Index

/-! ### Who can be offered an order -/

/-- The driver is active, has no delivery in an active status, and is not to be passed over. -/
structure Eligible (s : State) (exclude : Option Nat) (driverId : Nat) : Prop where
  active : ∃ driver, s.drivers.find? driverId = some driver ∧ driver.isActive = true
  idle : ∀ delivery ∈ s.deliveries.rows, delivery.active = true → delivery.driverId ≠ some driverId
  another : some driverId ≠ exclude

section Eligible

variable {s : State} {exclude : Option Nat} {driverId : Nat} {driver : Driver}

theorem not_mem_busyDriverIds :
    driverId ∉ busyDriverIds s ↔
      ∀ delivery ∈ s.deliveries.rows, delivery.active = true → delivery.driverId ≠ some driverId := by
  rw [mem_busyDriverIds]
  push Not
  exact Iff.rfl

theorem eligible_iff :
    Eligible s exclude driverId ↔
      (∃ driver, s.drivers.find? driverId = some driver ∧ driver.isActive = true) ∧
        driverId ∉ busyDriverIds s ∧ some driverId ≠ exclude := by
  rw [not_mem_busyDriverIds]
  exact ⟨fun eligible => ⟨eligible.active, eligible.idle, eligible.another⟩,
    fun parts => ⟨parts.1, parts.2.1, parts.2.2⟩⟩

instance : Decidable (Eligible s exclude driverId) :=
  decidable_of_iff
    ((s.drivers.find? driverId).any Driver.isActive = true ∧ driverId ∉ busyDriverIds s ∧
      some driverId ≠ exclude) (by
    rw [eligible_iff, Option.any_eq_true])

/-- A row of the table is found by its own id. -/
theorem eligible_of_mem (listed : driver ∈ s.drivers.rows) :
    Eligible s exclude driver.id ↔
      driver.isActive = true ∧ driver.id ∉ busyDriverIds s ∧ some driver.id ≠ exclude := by
  have found : s.drivers.find? driver.id = some driver := Table.find?_eq_some.mpr ⟨listed, rfl⟩
  rw [eligible_iff, found]
  simp

end Eligible

/-! ### What is picked -/

section Picked

variable {s : State} {exclude : Option Nat}

/-- An id is passed over unless its driver is eligible. -/
theorem step_eq (id : Nat) :
    (if id ∈ busyDriverIds s ∨ some id = exclude then none
        else (s.drivers.find? id).filter Driver.isActive) =
      if Eligible s exclude id then s.drivers.find? id else none := by
  by_cases passed : id ∈ busyDriverIds s ∨ some id = exclude
  · have ineligible : ¬ Eligible s exclude id := fun eligible =>
      passed.elim (eligible_iff.mp eligible).2.1 eligible.another
    rw [if_pos passed, if_neg ineligible]
  · rw [if_neg passed]
    rw [not_or] at passed
    by_cases active : ∃ driver, s.drivers.find? id = some driver ∧ driver.isActive = true
    · obtain ⟨driver, found, working⟩ := active
      rw [if_pos (eligible_iff.mpr ⟨⟨driver, found, working⟩, passed⟩), found]
      exact Option.filter_eq_some_iff.mpr ⟨rfl, working⟩
    · rw [if_neg fun eligible => active eligible.active, Option.filter_eq_none_iff]
      exact fun driver found working => active ⟨driver, found, working⟩

/-- Scanning the ids stops at the first eligible driver. -/
theorem findSome?_eligible (ids : List Nat) :
    (ids.findSome? fun id => if Eligible s exclude id then s.drivers.find? id else none) =
      (ids.find? fun id => Eligible s exclude id).bind s.drivers.find? := by
  induction ids with
  | nil => rfl
  | cons id ids hyp =>
    rw [List.findSome?_cons, List.find?_cons, hyp]
    by_cases eligible : Eligible s exclude id
    · obtain ⟨driver, found, -⟩ := eligible.active
      simp [eligible, found]
    · simp [eligible]

/-- The first half: the first of the answered ids that is eligible. -/
theorem nearestAvailable_eq {geosearch : Geosearch} {latitude : Coordinate}
    {longitude : Option Coordinate} {ids : List Nat}
    (answered : geosearch longitude latitude 10 10 = .ok ids) :
    nearestAvailable s (some (nearbyDriverIds geosearch)) latitude longitude exclude =
      .ok ((ids.find? fun id => Eligible s exclude id).bind s.drivers.find?) := by
  rw [nearestAvailable, nearbyDriverIds, answered, ← findSome?_eligible]
  simp only [← step_eq]
  rfl

/-- The second half: the first eligible driver of the table. -/
theorem pickAny_eq :
    pickAny s exclude = s.drivers.rows.find? fun driver => Eligible s exclude driver.id := by
  rw [pickAny, listAvailableDrivers, ← List.head?_filter, List.filter_filter, List.filter_filter,
    ← List.head?_filter]
  congr 1
  refine List.filter_congr fun driver listed => ?_
  rw [Bool.eq_iff_iff]
  simp only [Bool.and_eq_true, decide_eq_true_iff, eligible_of_mem listed]
  constructor
  · rintro ⟨⟨another, idle⟩, active⟩
    exact ⟨active, idle, another⟩
  · rintro ⟨active, idle, another⟩
    exact ⟨⟨another, idle⟩, active⟩

/-- Both halves, for an order whose restaurant is on the map. -/
theorem pickDriver_eq {geosearch : Geosearch} {snapshot : OrderSnapshot} {latitude : Coordinate}
    {ids : List Nat} (north : snapshot.restaurantLatitude = some latitude)
    (answered : geosearch snapshot.restaurantLongitude latitude 10 10 = .ok ids) :
    pickDriver s (some snapshot) (some (nearbyDriverIds geosearch)) exclude =
      .ok (((ids.find? fun id => Eligible s exclude id).bind s.drivers.find?).or
        (s.drivers.rows.find? fun driver => Eligible s exclude driver.id)) := by
  have nearest : pickNearest s (some snapshot) (some (nearbyDriverIds geosearch)) exclude =
      .ok ((ids.find? fun id => Eligible s exclude id).bind s.drivers.find?) := by
    simp only [pickNearest, north]
    exact nearestAvailable_eq answered
  rw [pickDriver, nearest, ← pickAny_eq]
  cases (ids.find? fun id => Eligible s exclude id).bind s.drivers.find? with
  | none => rfl
  | some driver => rfl

end Picked

/-! ### The offer -/

section Offer

variable {D : Type} [LinearOrder D] [NatCast D]

/-- A nearest of the eligible drivers within reach. -/
structure Nearest (s : State) (index : GeoIndex D) (longitude latitude : Coordinate)
    (exclude : Option Nat) (driverId : Nat) : Prop where
  eligible : Eligible s exclude driverId
  within : index.Within longitude latitude 10 driverId
  nearest : ∀ other, Eligible s exclude other → index.Within longitude latitude 10 other →
    index.distance longitude latitude driverId ≤ index.distance longitude latitude other

/-- **What a selection should do.** The driver it is offered to is eligible, and a nearest one if any
eligible driver is within reach; and it stays unassigned only for want of an eligible driver. -/
structure SelectsNearest (s : State) (index : GeoIndex D) (longitude latitude : Coordinate)
    (exclude : Option Nat) (delivery : Delivery) : Prop where
  eligible : ∀ driverId, delivery.driverId = some driverId → Eligible s exclude driverId
  nearest : (∃ other, Eligible s exclude other ∧ index.Within longitude latitude 10 other) →
    ∃ driverId, delivery.driverId = some driverId ∧
      Nearest s index longitude latitude exclude driverId
  offered : (∃ other, Eligible s exclude other) → ∃ driverId, delivery.driverId = some driverId
  unassigned : delivery.status = .unassigned ↔ ¬ ∃ other, Eligible s exclude other

/-- An order is offered: when it is ready for pickup, or again by the driver who turned it down and is
passed over. -/
def offerOrder (s : State) (orderId : Nat) (redis : Option Nearby) (now : Timestamp) :
    Option Nat → Except Raised State
  | none => assignForOrder s orderId redis now
  | some driverId => rejectAssignment s driverId orderId redis now

section Outcome

variable {s next : State} {orderId : Nat} {redis : Option Nearby} {now : Timestamp}
  {exclude : Option Nat}

/-- A delivery without a driver, offered to the one that was picked. -/
theorem offer_delivery (s : State) (now : Timestamp) (delivery : Delivery) (status : Option DeliveryStatus)
    (restaurantName : Option String) (driver : Option Driver)
    (unheld : delivery.driverId = none ∧ delivery.status = .unassigned) :
    ∃ offered, (s.commit (offer delivery status restaurantName driver now)).deliveries.find?
        delivery.orderId = some offered ∧ offered.driverId = driver.map Driver.id ∧
      (offered.status = .unassigned ↔ driver = none) := by
  cases driver with
  | none => exact ⟨delivery, Table.find?_put_self _ _, unheld.1, iff_of_true unheld.2 rfl⟩
  | some driver =>
    refine ⟨_, Table.find?_put_self _ _, rfl, iff_of_false ?_ (Option.some_ne_none driver)⟩
    exact DeliveryStatus.noConfusion

/-- The delivery of the order, after it was offered to the driver that was picked. -/
theorem offerOrder_ok (fresh : exclude = none → s.deliveries.find? orderId = none)
    (outcome : offerOrder s orderId redis now exclude = .ok next) :
    ∃ driver delivery, pickDriver s (s.snapshots.find? orderId) redis exclude = .ok driver ∧
      next.deliveries.find? orderId = some delivery ∧ delivery.driverId = driver.map Driver.id ∧
      (delivery.status = .unassigned ↔ driver = none) := by
  cases exclude with
  | none =>
    rw [offerOrder, assignForOrder, fresh rfl] at outcome
    obtain ⟨driver, picked, rest⟩ := bind_eq_ok.mp outcome
    obtain ⟨delivery, stored, held, free⟩ := offer_delivery s now
      (newDelivery orderId (s.snapshots.find? orderId)) none
      ((s.snapshots.find? orderId).bind OrderSnapshot.restaurantName) driver ⟨rfl, rfl⟩
    cases rest
    exact ⟨driver, delivery, picked, stored, held, free⟩
  | some driverId =>
    obtain ⟨old, driver, found, -, -, picked, rfl⟩ := rejectAssignment_ok outcome
    obtain ⟨delivery, stored, held, free⟩ := offer_delivery s now
      { old with driverId := none, status := .unassigned, acceptedAt := none } (some .unassigned)
      ((s.snapshots.find? orderId).bind OrderSnapshot.restaurantName) driver ⟨rfl, rfl⟩
    obtain rfl : old.orderId = orderId := Table.key_of_find? found
    exact ⟨driver, delivery, picked, stored, held, free⟩

end Outcome

/-! ### When the nearest is picked -/

section Condition

variable {s : State} {index : GeoIndex D} {longitude latitude : Coordinate} {exclude : Option Nat}
  {ids : List Nat} {delivery : Delivery} {driver : Option Driver}

/-- An eligible driver among the answered ids: the first of them is a nearest. -/
theorem selectsNearest_of_listed
    (closest : Closest (index.Within longitude latitude 10) (index.distance longitude latitude) 10 ids)
    {driverId : Nat} (found : ids.find? (fun id => Eligible s exclude id) = some driverId)
    (held : delivery.driverId = some driverId) (assigned : delivery.status ≠ .unassigned) :
    SelectsNearest s index longitude latitude exclude delivery := by
  have eligible : Eligible s exclude driverId := by simpa using List.find?_some found
  refine ⟨fun other same => ?_, fun _ => ⟨driverId, held, eligible, ?_, ?_⟩, fun _ => ⟨_, held⟩,
    iff_of_false assigned (not_not.mpr ⟨driverId, eligible⟩)⟩
  · rw [held, Option.some_inj] at same
    exact same ▸ eligible
  · exact closest.sound driverId (List.mem_of_find?_eq_some found)
  · exact fun other able near => closest.find?_nearest found other near (decide_eq_true able)

/-- **Without one** the first eligible driver of the table is taken, which is right when nobody
eligible is within reach or that driver is a nearest. -/
theorem selectsNearest_of_table
    (picked : s.drivers.rows.find? (fun driver => Eligible s exclude driver.id) = driver)
    (held : delivery.driverId = driver.map Driver.id)
    (free : delivery.status = .unassigned ↔ driver = none) :
    SelectsNearest s index longitude latitude exclude delivery ↔
      (∀ driverId, Eligible s exclude driverId → ¬ index.Within longitude latitude 10 driverId) ∨
        ∃ first, s.drivers.rows.find? (fun driver => Eligible s exclude driver.id) = some first ∧
          Nearest s index longitude latitude exclude first.id := by
  cases driver with
  | none =>
    have nobody : ∀ driverId, ¬ Eligible s exclude driverId := by
      intro driverId eligible
      obtain ⟨driver, found, -⟩ := eligible.active
      obtain ⟨listed, rfl⟩ := Table.find?_eq_some.mp found
      exact List.find?_eq_none.mp picked driver listed (decide_eq_true eligible)
    refine iff_of_true ⟨fun driverId same => ?_, ?_, ?_, ?_⟩ (Or.inl fun driverId able =>
      absurd able (nobody driverId))
    · exact absurd (held.symm.trans same).symm (Option.some_ne_none _)
    · rintro ⟨other, able, -⟩
      exact absurd able (nobody other)
    · rintro ⟨other, able⟩
      exact absurd able (nobody other)
    · exact iff_of_true (free.mpr rfl) (not_exists.mpr nobody)
  | some first =>
    have eligible : Eligible s exclude first.id := by simpa using List.find?_some picked
    have own : ∀ {driverId}, delivery.driverId = some driverId ↔ driverId = first.id := by
      intro driverId
      rw [held, Option.map_some, Option.some_inj, eq_comm]
    have assigned : delivery.status ≠ .unassigned := fun unheld =>
      Option.some_ne_none _ (free.mp unheld)
    constructor
    · intro selected
      refine or_iff_not_imp_left.mpr fun reached => ?_
      push Not at reached
      obtain ⟨driverId, same, nearest⟩ := selected.nearest reached
      exact ⟨first, picked, own.mp same ▸ nearest⟩
    · intro condition
      refine ⟨fun driverId same => own.mp same ▸ eligible, ?_, fun _ => ⟨_, own.mpr rfl⟩,
        iff_of_false assigned (not_not.mpr ⟨_, eligible⟩)⟩
      rintro ⟨other, able, near⟩
      obtain nobody | ⟨_, same, nearest⟩ := condition
      · exact absurd near (nobody other able)
      · obtain rfl := Option.some_inj.mp (picked.symm.trans same)
        exact ⟨first.id, own.mpr rfl, nearest⟩

end Condition

/-- **When an order is offered to a nearest driver.** Whatever the drivers, the deliveries and the known
positions, an order whose restaurant is on the map is offered as it should be exactly when an eligible
driver is among the ids that Redis answers, or no eligible driver is within reach, or the first eligible
driver of the table is a nearest. -/
theorem selectsNearest_iff (s next : State) (index : GeoIndex D) (geosearch : Geosearch)
    (orderId : Nat) (now : Timestamp) (exclude : Option Nat) (longitude latitude : Coordinate)
    (ids : List Nat) (documented : index.Documents geosearch)
    (located : ∃ snapshot, s.snapshots.find? orderId = some snapshot ∧
      snapshot.restaurantLatitude = some latitude ∧ snapshot.restaurantLongitude = some longitude)
    (fresh : exclude = none → s.deliveries.find? orderId = none)
    (answered : geosearch (some longitude) latitude 10 10 = .ok ids)
    (outcome : offerOrder s orderId (some (nearbyDriverIds geosearch)) now exclude = .ok next) :
    (∃ delivery, next.deliveries.find? orderId = some delivery ∧
        SelectsNearest s index longitude latitude exclude delivery) ↔
      (∃ driverId ∈ ids, Eligible s exclude driverId) ∨
        (∀ driverId, Eligible s exclude driverId → ¬ index.Within longitude latitude 10 driverId) ∨
        ∃ first, s.drivers.rows.find? (fun driver => Eligible s exclude driver.id) = some first ∧
          Nearest s index longitude latitude exclude first.id := by
  obtain ⟨driver, delivery, picked, stored, held, free⟩ := offerOrder_ok fresh outcome
  obtain ⟨snapshot, known, north, east⟩ := located
  obtain ⟨same, answered', closest⟩ := documented longitude latitude 10 10
  obtain rfl : ids = same := Except.ok.inj (answered.symm.trans answered')
  have only : (∃ delivery, next.deliveries.find? orderId = some delivery ∧
      SelectsNearest s index longitude latitude exclude delivery) ↔
      SelectsNearest s index longitude latitude exclude delivery := by
    simp [stored]
  rw [only]
  rw [known, pickDriver_eq north (east ▸ answered), Except.ok.injEq] at picked
  cases found : ids.find? fun id => Eligible s exclude id with
  | some driverId =>
    have eligible : Eligible s exclude driverId := by simpa using List.find?_some found
    obtain ⟨first, working, -⟩ := eligible.active
    rw [found, Option.bind_some, working, Option.some_or] at picked
    subst picked
    rw [Option.map_some, Table.key_of_find? working] at held
    refine iff_of_true (selectsNearest_of_listed closest found held fun unheld => ?_) ?_
    · exact Option.some_ne_none _ (free.mp unheld)
    · exact Or.inl ⟨driverId, List.mem_of_find?_eq_some found, eligible⟩
  | none =>
    rw [found, Option.bind_none, Option.none_or] at picked
    have unlisted : ¬ ∃ driverId ∈ ids, Eligible s exclude driverId := by
      rintro ⟨driverId, listed, eligible⟩
      exact List.find?_eq_none.mp found driverId listed (decide_eq_true eligible)
    rw [or_iff_right unlisted]
    exact selectsNearest_of_table picked held free

/-! ### A search by sorting -/

/-- A search that sorts the members within the radius and keeps the first of them. -/
def GeoIndex.search (index : GeoIndex D) : Geosearch
  | none, _, _, _ =>
    .error (.other "DataError" "GEOSEARCH must have member or longitude and latitude")
  | some longitude, latitude, radiusKm, count =>
    .ok (nearestOf (index.distance longitude latitude) count
      (index.members.filter fun driverId => index.distance longitude latitude driverId ≤ radiusKm))

theorem GeoIndex.documents_search (index : GeoIndex D) (distinct : index.members.Nodup) :
    index.Documents index.search := by
  intro longitude latitude radiusKm count
  refine ⟨_, rfl, ?_⟩
  have within : (· ∈ index.members.filter fun driverId =>
      index.distance longitude latitude driverId ≤ radiusKm) =
        index.Within longitude latitude radiusKm := by
    ext driverId
    simp [GeoIndex.Within]
  rw [← within]
  exact closest_nearestOf _ _ (distinct.filter _)

end Offer

/-! ### Ten drivers who are busy -/

/-- Twelve drivers, and an order whose restaurant is on the map. -/
def evening : State :=
  { State.empty with
    drivers := ⟨(List.range 12).map fun n => { id := n + 1 }, by decide⟩
    snapshots := ⟨[{ orderId := 7, customerId := 1, restaurantLatitude := some 0,
                     restaurantLongitude := some 0 }], by decide⟩ }

/-- The second to the eleventh are out with an order. -/
def rush : State :=
  { evening with
    deliveries := ⟨(List.range 10).map fun n =>
      { orderId := n + 100, driverId := some (n + 2), status := .accepted }, by decide⟩ }

/-- All but the first wait along a road, a kilometre apart. -/
def road : GeoIndex Nat where
  members := (List.range 11).map (· + 2)
  distance _ _ driverId := driverId - 2

/-- With nobody out, the order goes to the driver at the restaurant's door. -/
theorem selectsNearest_iff_evening :
    ∃ delivery, (evening.commit (offer (newDelivery 7 (evening.snapshots.find? 7)) none none
        (some { id := 2 }) 0)).deliveries.find? 7 = some delivery ∧
      SelectsNearest evening road 0 0 none delivery :=
  (selectsNearest_iff evening _ road road.search 7 0 none 0 0 _
    (road.documents_search (by decide)) ⟨_, rfl, rfl, rfl⟩ (fun _ => rfl) rfl rfl).mpr
    (Or.inl ⟨2, by decide, by decide⟩)

/-- With ten out, the order goes to the driver whose position is not known, although the twelfth is free
and within reach. -/
theorem not_selectsNearest_rush :
    ¬ ∀ (s next : State) (index : GeoIndex Nat) (geosearch : Geosearch) (orderId : Nat)
      (now : Timestamp) (exclude : Option Nat) (longitude latitude : Coordinate),
      index.Documents geosearch →
      (∃ snapshot, s.snapshots.find? orderId = some snapshot ∧
        snapshot.restaurantLatitude = some latitude ∧
        snapshot.restaurantLongitude = some longitude) →
      (exclude = none → s.deliveries.find? orderId = none) →
      offerOrder s orderId (some (nearbyDriverIds geosearch)) now exclude = .ok next →
      ∃ delivery, next.deliveries.find? orderId = some delivery ∧
        SelectsNearest s index longitude latitude exclude delivery := by
  intro always
  obtain ⟨delivery, stored, selected⟩ := always rush
    (rush.commit (offer (newDelivery 7 (rush.snapshots.find? 7)) none none (some { id := 1 }) 0))
    road road.search 7 0 none 0 0 (road.documents_search (by decide)) ⟨_, rfl, rfl, rfl⟩
    (fun _ => rfl) rfl
  obtain ⟨driverId, held, nearest⟩ := selected.nearest ⟨12, by decide, by decide, by decide⟩
  have first : delivery.driverId = some 1 := by
    have offered : (Table.find? (rush.commit (offer (newDelivery 7 (rush.snapshots.find? 7)) none none
      (some { id := 1 }) 0)).deliveries 7).map Delivery.driverId = some (some 1) := by decide
    rw [stored] at offered
    exact Option.some_inj.mp offered
  obtain rfl : driverId = 1 := Option.some_inj.mp (held.symm.trans first)
  have unknown : 1 ∉ road.members := by decide
  exact unknown nearest.within.1

end FoodDelivery.Deliveries
