/-
**Delivery assignment and driver actions** (`services/delivery/app/service.py`).

Each operation reads a delivery, decides on what it read, writes and commits. What it writes is a
function of the row it read (`Written`), so that an operation can be run in one go or with others in
between its reads and its commit. What Redis answers about drivers nearby is a parameter.
-/

import FoodDelivery.Deliveries.Model
import FoodDelivery.Lib.Outcomes

set_option autoImplicit false

namespace FoodDelivery.Deliveries

open FoodDelivery.Lib

def conflict (detail : String) : Raised := .app { message := detail, statusCode := 409 }

def notFound (detail : String) : Raised := .app { message := detail, statusCode := 404 }

def forbidden (detail : String) : Raised := .app { message := detail, statusCode := 403 }

/-! ### Events out -/

/-- Tell whoever cares that a delivery moved. `status` is what the attribute reads when the payload is
written: a column default is applied at the flush, and before it an attribute that was never assigned
reads None. -/
def announceStatus (delivery : Delivery) (status : Option DeliveryStatus := some delivery.status) :
    OutboxEvent :=
  .deliveryEvents
    { orderId := delivery.orderId
      status := status
      driverId := delivery.driverId }

/-- The driver's "you have a new offer" message. -/
def offerNotification (driverId orderId : Nat) (restaurantName : Option String) : OutboxEvent :=
  .notificationEvents
    { userId := driverId
      type := "delivery.assigned"
      message :=
        match restaurantName with
        | none | some "" =>
          "New delivery offer — order #" ++ toString orderId ++ ". Accept to take it."
        | some name =>
          "New delivery offer from " ++ name ++ " — order #" ++ toString orderId ++
            ". Accept to take it."
      orderId := orderId }

/-! ### Driver selection -/

/-- Drivers already on an active delivery. -/
def busyDriverIds (s : State) : List Nat :=
  (s.deliveries.rows.filter Delivery.active).filterMap Delivery.driverId

theorem mem_busyDriverIds {s : State} {driverId : Nat} :
    driverId ∈ busyDriverIds s ↔
      ∃ delivery ∈ s.deliveries.rows, delivery.active ∧ delivery.driverId = some driverId := by
  simp only [busyDriverIds, List.mem_filterMap, List.mem_filter, and_assoc]

/-- Active drivers with no active delivery. -/
def listAvailableDrivers (s : State) : List Driver :=
  (s.drivers.rows.filter Driver.isActive).filter fun driver => driver.id ∉ busyDriverIds s

/-- `location.nearby_driver_ids`: the drivers near a point, nearest first. -/
abbrev Nearby := Coordinate → Option Coordinate → Except Raised (List Nat)

/-- The closest online driver with nothing on, or none; without Redis there is none. -/
def nearestAvailable (s : State) (redis : Option Nearby) (latitude : Coordinate)
    (longitude : Option Coordinate) (exclude : Option Nat) : Except Raised (Option Driver) :=
  match redis with
  | none => .ok none
  | some nearbyDriverIds => do
    let ids ← nearbyDriverIds latitude longitude
    return ids.findSome? fun id =>
      if id ∈ busyDriverIds s ∨ some id = exclude then none
      else (s.drivers.find? id).filter Driver.isActive

/-- `_pick_driver`, its first half: the nearest online driver to the restaurant, if we can tell. -/
def pickNearest (s : State) (snapshot : Option OrderSnapshot) (redis : Option Nearby)
    (exclude : Option Nat) : Except Raised (Option Driver) :=
  match snapshot with
  | none => .ok none
  | some snapshot =>
    match snapshot.restaurantLatitude with
    | none => .ok none
    | some latitude => nearestAvailable s redis latitude snapshot.restaurantLongitude exclude

/-- Its second half: any free one. -/
def pickAny (s : State) (exclude : Option Nat) : Option Driver :=
  (listAvailableDrivers s).find? fun driver => some driver.id ≠ exclude

/-- Nearest online driver to the restaurant if we can tell, else any free one. -/
def pickDriver (s : State) (snapshot : Option OrderSnapshot) (redis : Option Nearby)
    (exclude : Option Nat) : Except Raised (Option Driver) := do
  match ← pickNearest s snapshot redis exclude with
  | some driver => return some driver
  | none => return pickAny s exclude

/-! ### What is written -/

/-- A delivery is offered to the driver that was picked, or announced without one. `status` is what its
status attribute reads until then. -/
def offer (delivery : Delivery) (status : Option DeliveryStatus) (restaurantName : Option String)
    (driver : Option Driver) (now : Timestamp) : Written :=
  match driver with
  | none => { delivery := delivery, outbox := [announceStatus delivery status] }
  | some driver =>
    let offered := { delivery with
      driverId := some driver.id
      status := .assigned
      assignedAt := some now }
    { delivery := offered
      outbox := [offerNotification driver.id delivery.orderId restaurantName,
        announceStatus offered] }

/-- The delivery as `assign_for_order` first builds it, with the default that its status gets at the
flush. -/
def newDelivery (orderId : Nat) (snapshot : Option OrderSnapshot) : Delivery where
  orderId := orderId
  restaurantName := snapshot.bind OrderSnapshot.restaurantName
  items := snapshot.bind OrderSnapshot.items
  orderTotal := snapshot.bind OrderSnapshot.orderTotal

/-- The driver confirms: ASSIGNED to ACCEPTED. -/
def accepted (now : Timestamp) (delivery : Delivery) : Except Raised Written :=
  if delivery.status ≠ .assigned then
    .error (conflict "Only a freshly assigned delivery can be accepted")
  else
    let delivery := { delivery with status := .accepted, acceptedAt := some now }
    .ok { delivery := delivery, outbox := [announceStatus delivery] }

/-- The driver declines: the offer is released. -/
def released (delivery : Delivery) : Except Raised Delivery :=
  if delivery.status ∉ [DeliveryStatus.assigned, .accepted] then
    .error (conflict "This delivery can no longer be rejected")
  else .ok { delivery with driverId := none, status := .unassigned, acceptedAt := none }

def pickedUp (now : Timestamp) (delivery : Delivery) : Except Raised Written :=
  if delivery.status ∉ [DeliveryStatus.assigned, .accepted] then
    .error (conflict "Delivery is not in a pickup-ready state")
  else
    let delivery := { delivery with status := .pickedUp, pickedUpAt := some now }
    .ok { delivery := delivery, outbox := [announceStatus delivery] }

def delivered (now : Timestamp) (delivery : Delivery) : Except Raised Written :=
  if delivery.status ≠ .pickedUp then
    .error (conflict "Delivery must be picked up before it can be delivered")
  else
    let delivery := { delivery with status := .delivered, deliveredAt := some now }
    .ok { delivery := delivery, outbox := [announceStatus delivery] }

/-- The restaurant's override: whatever the delivery stands at, it is offered to the driver named. -/
def reassigned (snapshot : Option OrderSnapshot) (newDriverId : Nat) (now : Timestamp)
    (delivery : Delivery) : Written :=
  let delivery :=
    match snapshot with
    | none => delivery
    | some snapshot =>
      { delivery with
        restaurantName := snapshot.restaurantName
        items := snapshot.items
        orderTotal := snapshot.orderTotal }
  let delivery := { delivery with
    driverId := some newDriverId
    status := .assigned
    assignedAt := some now }
  { delivery := delivery
    outbox := [offerNotification newDriverId delivery.orderId
        (snapshot.bind OrderSnapshot.restaurantName),
      announceStatus delivery] }

/-! ### The operations -/

/-- Create and assign a delivery for an order that is ready for pickup. Idempotent. -/
def assignForOrder (s : State) (orderId : Nat) (redis : Option Nearby) (now : Timestamp) :
    Except Raised State :=
  match s.deliveries.find? orderId with
  | some _ => .ok s
  | none => do
    let snapshot := s.snapshots.find? orderId
    let driver ← pickDriver s snapshot redis none
    return s.commit (offer (newDelivery orderId snapshot) none
      (snapshot.bind OrderSnapshot.restaurantName) driver now)

/-- The delivery of an order, if it is this driver's. -/
def ownedActive (s : State) (driverId orderId : Nat) : Except Raised Delivery :=
  match s.deliveries.find? orderId with
  | none => .error (notFound "Delivery not found")
  | some delivery =>
    if delivery.driverId ≠ some driverId then
      .error (forbidden "This delivery is not assigned to you")
    else .ok delivery

def acceptAssignment (s : State) (driverId orderId : Nat) (now : Timestamp) : Except Raised State := do
  let delivery ← ownedActive s driverId orderId
  let written ← accepted now delivery
  return s.commit written

/-- Driver declines; release the offer and try the next-nearest driver. -/
def rejectAssignment (s : State) (driverId orderId : Nat) (redis : Option Nearby) (now : Timestamp) :
    Except Raised State := do
  let delivery ← ownedActive s driverId orderId
  let free ← released delivery
  let snapshot := s.snapshots.find? orderId
  let driver ← pickDriver s snapshot redis (some driverId)
  return s.commit (offer free (some free.status) (snapshot.bind OrderSnapshot.restaurantName) driver now)

def pickup (s : State) (driverId orderId : Nat) (now : Timestamp) : Except Raised State := do
  let delivery ← ownedActive s driverId orderId
  let written ← pickedUp now delivery
  return s.commit written

def deliver (s : State) (driverId orderId : Nat) (now : Timestamp) : Except Raised State := do
  let delivery ← ownedActive s driverId orderId
  let written ← delivered now delivery
  return s.commit written

/-- Raise unless this caller manages the restaurant behind the order. -/
def ownedOrder (s : State) (caller : Identity) (orderId : Nat) : Except Raised Unit :=
  if caller.role = "admin" then .ok ()
  else
    match (s.snapshots.find? orderId).bind OrderSnapshot.restaurantId with
    | none => .error (notFound "Order not found")
    | some restaurantId =>
      match s.restaurants.find? restaurantId with
      | none => .error (forbidden "You do not manage this restaurant")
      | some restaurant =>
        if restaurant.ownerId ≠ caller.userId then
          .error (forbidden "You do not manage this restaurant")
        else .ok ()

/-- A driver who can be given work. -/
def activeDriver (s : State) (driverId : Nat) : Except Raised Unit :=
  match (s.drivers.find? driverId).filter Driver.isActive with
  | none => .error (notFound "Driver not found")
  | some _ => .ok ()

/-- Reassign to a different driver. Restaurant override. -/
def reassignDeliveryForOrder (s : State) (caller : Identity) (orderId newDriverId : Nat)
    (now : Timestamp) : Except Raised State :=
  match s.deliveries.find? orderId with
  | none => .error (notFound "Delivery not found")
  | some delivery => do
    ownedOrder s caller orderId
    activeDriver s newDriverId
    return s.commit (reassigned (s.snapshots.find? orderId) newDriverId now delivery)

/-! ### What they meet -/

/-- A driver who can be picked: nothing on, and not the one to pass over. -/
structure Free (s : State) (exclude : Option Nat) (driver : Driver) : Prop where
  idle : driver.id ∉ busyDriverIds s
  another : some driver.id ≠ exclude

theorem pickNearest_ok {s : State} {snapshot : Option OrderSnapshot} {redis : Option Nearby}
    {exclude : Option Nat} {driver : Driver}
    (picked : pickNearest s snapshot redis exclude = .ok (some driver)) : Free s exclude driver := by
  unfold pickNearest at picked
  split at picked
  · cases picked
  · split at picked
    · cases picked
    · unfold nearestAvailable at picked
      split at picked
      · cases picked
      · obtain ⟨ids, _, rest⟩ := bind_eq_ok.mp picked
        obtain ⟨id, _, chosen⟩ := List.exists_of_findSome?_eq_some (Except.ok.inj rest)
        split_ifs at chosen with passed
        rw [not_or] at passed
        have own : driver.id = id :=
          Table.key_of_find? (Option.filter_eq_some_iff.mp chosen).1
        rw [← own] at passed
        exact ⟨passed.1, passed.2⟩

theorem pickAny_free {s : State} {exclude : Option Nat} {driver : Driver}
    (picked : pickAny s exclude = some driver) : Free s exclude driver := by
  have among := List.mem_of_find?_eq_some picked
  have another := List.find?_some picked
  exact ⟨of_decide_eq_true (List.mem_filter.mp among).2, of_decide_eq_true another⟩

/-- **Whoever is picked is free.** -/
theorem pickDriver_ok {s : State} {snapshot : Option OrderSnapshot} {redis : Option Nearby}
    {exclude : Option Nat} {driver : Driver}
    (picked : pickDriver s snapshot redis exclude = .ok (some driver)) : Free s exclude driver := by
  obtain ⟨nearest, first, rest⟩ := bind_eq_ok.mp picked
  cases nearest with
  | none => exact pickAny_free (Except.ok.inj rest)
  | some found =>
    cases rest
    exact pickNearest_ok first

theorem ownedActive_ok {s : State} {driverId orderId : Nat} {delivery : Delivery} :
    ownedActive s driverId orderId = .ok delivery ↔
      s.deliveries.find? orderId = some delivery ∧ delivery.driverId = some driverId := by
  unfold ownedActive
  cases s.deliveries.find? orderId with
  | none => simp
  | some row =>
    by_cases mine : row.driverId = some driverId
    · simp only [mine, ne_eq, not_true_eq_false, if_false, Except.ok.injEq, Option.some.injEq]
      constructor
      · rintro rfl
        exact ⟨rfl, mine⟩
      · rintro ⟨rfl, _⟩
        rfl
    · simp only [mine, ne_eq, not_false_eq_true, if_true, Option.some.injEq, reduceCtorEq, false_iff]
      rintro ⟨rfl, same⟩
      exact mine same

theorem accepted_ok {now : Timestamp} {delivery : Delivery} {written : Written} :
    accepted now delivery = .ok written ↔ delivery.status = .assigned ∧
      written =
        { delivery := { delivery with status := .accepted, acceptedAt := some now }
          outbox := [announceStatus { delivery with status := .accepted, acceptedAt := some now }] } := by
  by_cases offered : delivery.status = .assigned
  · simp [accepted, offered, eq_comm]
  · simp [accepted, offered]

theorem released_ok {delivery free : Delivery} :
    released delivery = .ok free ↔ delivery.status ∈ [DeliveryStatus.assigned, .accepted] ∧
      free = { delivery with driverId := none, status := .unassigned, acceptedAt := none } := by
  by_cases open_ : delivery.status ∈ [DeliveryStatus.assigned, .accepted]
  · rw [released, if_neg (not_not.mpr open_), Except.ok.injEq]
    exact ⟨fun same => ⟨open_, same.symm⟩, fun same => same.2.symm⟩
  · rw [released, if_pos open_]
    exact ⟨fun same => (by cases same), fun same => absurd same.1 open_⟩

theorem pickedUp_ok {now : Timestamp} {delivery : Delivery} {written : Written} :
    pickedUp now delivery = .ok written ↔
      delivery.status ∈ [DeliveryStatus.assigned, .accepted] ∧ written =
        { delivery := { delivery with status := .pickedUp, pickedUpAt := some now }
          outbox := [announceStatus { delivery with status := .pickedUp, pickedUpAt := some now }] } := by
  by_cases open_ : delivery.status ∈ [DeliveryStatus.assigned, .accepted]
  · rw [pickedUp, if_neg (not_not.mpr open_), Except.ok.injEq]
    exact ⟨fun same => ⟨open_, same.symm⟩, fun same => same.2.symm⟩
  · rw [pickedUp, if_pos open_]
    exact ⟨fun same => (by cases same), fun same => absurd same.1 open_⟩

theorem delivered_ok {now : Timestamp} {delivery : Delivery} {written : Written} :
    delivered now delivery = .ok written ↔ delivery.status = .pickedUp ∧
      written =
        { delivery := { delivery with status := .delivered, deliveredAt := some now }
          outbox :=
            [announceStatus { delivery with status := .delivered, deliveredAt := some now }] } := by
  by_cases out : delivery.status = .pickedUp
  · simp [delivered, out, eq_comm]
  · simp [delivered, out]

/-! ### What the operations do -/

section Operations

variable {s next : State} {orderId : Nat} {redis : Option Nearby} {now : Timestamp}

/-- An assignment leaves an order that has a delivery alone, and offers any other to whoever is
picked. -/
theorem assignForOrder_ok (outcome : assignForOrder s orderId redis now = .ok next) :
    next = s ∨ s.deliveries.find? orderId = none ∧ ∃ driver,
      pickDriver s (s.snapshots.find? orderId) redis none = .ok driver ∧
        next = s.commit (offer (newDelivery orderId (s.snapshots.find? orderId)) none
          ((s.snapshots.find? orderId).bind OrderSnapshot.restaurantName) driver now) := by
  unfold assignForOrder at outcome
  split at outcome
  · cases outcome
    exact Or.inl rfl
  · rename_i absent
    obtain ⟨driver, picked, rest⟩ := bind_eq_ok.mp outcome
    cases rest
    exact Or.inr ⟨absent, driver, picked, rfl⟩

/-- A driver's own action, whichever it is: on the delivery of the order, which is theirs. -/
theorem ownAction_ok {driverId : Nat} {body : Delivery → Except Raised Written}
    (outcome : (do
      let delivery ← ownedActive s driverId orderId
      let written ← body delivery
      return s.commit written) = .ok next) :
    ∃ delivery written, s.deliveries.find? orderId = some delivery ∧
      delivery.driverId = some driverId ∧ body delivery = .ok written ∧ next = s.commit written := by
  obtain ⟨delivery, owned, rest⟩ := bind_eq_ok.mp outcome
  obtain ⟨written, decided, rest⟩ := bind_eq_ok.mp rest
  obtain ⟨found, mine⟩ := ownedActive_ok.mp owned
  cases rest
  exact ⟨delivery, written, found, mine, decided, rfl⟩

/-- A rejected offer is released and made to another driver, if one is picked. -/
theorem rejectAssignment_ok {driverId : Nat}
    (outcome : rejectAssignment s driverId orderId redis now = .ok next) :
    ∃ delivery driver, s.deliveries.find? orderId = some delivery ∧
      delivery.driverId = some driverId ∧
      delivery.status ∈ [DeliveryStatus.assigned, .accepted] ∧
      pickDriver s (s.snapshots.find? orderId) redis (some driverId) = .ok driver ∧
      next = s.commit (offer
        { delivery with driverId := none, status := .unassigned, acceptedAt := none }
        (some .unassigned) ((s.snapshots.find? orderId).bind OrderSnapshot.restaurantName) driver now) := by
  obtain ⟨delivery, owned, rest⟩ := bind_eq_ok.mp outcome
  obtain ⟨free, body, rest⟩ := bind_eq_ok.mp rest
  obtain ⟨driver, picked, rest⟩ := bind_eq_ok.mp rest
  obtain ⟨found, mine⟩ := ownedActive_ok.mp owned
  obtain ⟨open_, rfl⟩ := released_ok.mp body
  cases rest
  exact ⟨delivery, driver, found, mine, open_, picked, rfl⟩

/-- An override is the restaurant's, and gives the delivery to a driver who works. -/
theorem reassignDeliveryForOrder_ok {caller : Identity} {newDriverId : Nat}
    (outcome : reassignDeliveryForOrder s caller orderId newDriverId now = .ok next) :
    ∃ delivery, s.deliveries.find? orderId = some delivery ∧ ownedOrder s caller orderId = .ok () ∧
      activeDriver s newDriverId = .ok () ∧
      next = s.commit (reassigned (s.snapshots.find? orderId) newDriverId now delivery) := by
  unfold reassignDeliveryForOrder at outcome
  split at outcome
  · cases outcome
  · rename_i delivery found
    obtain ⟨_, owned, rest⟩ := bind_eq_ok.mp outcome
    obtain ⟨_, active, rest⟩ := bind_eq_ok.mp rest
    cases rest
    exact ⟨delivery, found, owned, active, rfl⟩

end Operations

end FoodDelivery.Deliveries
