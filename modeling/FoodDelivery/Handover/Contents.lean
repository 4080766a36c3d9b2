/-
**What the delivery service gets to know of an order.**

`_emit_status` and the delivery service's `_apply_order_event` are tied by the names of JSON keys only.
The producer writes `total`; the consumer reads `order_total`. The consumer also reads `items` and the
restaurant's coordinates, which the producer does not write, and its own `restaurant-events` handler
keeps the owner only.

`never_informed`: in no state of any run does the delivery service hold what it should of any order.
`nearest_never`: so no pick of a driver starts from where the restaurant is.
-/

import FoodDelivery.Handover.Model
import FoodDelivery.Lib.Messages

set_option autoImplicit false

namespace FoodDelivery.Handover

open FoodDelivery.Lib
open FoodDelivery.Deliveries (Coordinate Delivery OrderSnapshot offer newDelivery reassigned)

/-! ### What has to hold -/

section Contents

/- How the lines of an order are written down in `items`, and where the restaurants are. -/
variable (itemsText : List Orders.OrderItem → String)
  (located : Nat → Option (Coordinate × Coordinate))

/-- The snapshot of an order has what the orders service knows of it. -/
structure SnapshotAgrees (s : Orders.State) (order : Orders.Order) (snapshot : OrderSnapshot) :
    Prop where
  orderTotal : snapshot.orderTotal = some order.total.text
  items : snapshot.items = some (itemsText order.items)
  restaurantName :
    snapshot.restaurantName = (s.restaurants.find? order.restaurantId).map (·.name)
  destinationLatitude :
    snapshot.destinationLatitude = (s.addresses.find? order.addressId).bind (·.latitude)
  destinationLongitude :
    snapshot.destinationLongitude = (s.addresses.find? order.addressId).bind (·.longitude)
  restaurant : ∀ point, located order.restaurantId = some point →
    snapshot.restaurantLatitude = some point.1 ∧ snapshot.restaurantLongitude = some point.2

/-- And so does the delivery that was created from it. -/
structure DeliveryAgrees (s : Orders.State) (order : Orders.Order) (delivery : Delivery) : Prop where
  orderTotal : delivery.orderTotal = some order.total.text
  items : delivery.items = some (itemsText order.items)
  restaurantName :
    delivery.restaurantName = (s.restaurants.find? order.restaurantId).map (·.name)

/-- **The delivery service knows an order as the orders service announced it.** -/
structure Informed (s : State) (order : Orders.Order) : Prop where
  snapshot : ∃ snapshot, s.deliveries.snapshots.find? order.id = some snapshot ∧
    SnapshotAgrees itemsText located s.orders order snapshot
  delivery : ∀ delivery, s.deliveries.deliveries.find? order.id = some delivery →
    DeliveryAgrees itemsText s.orders order delivery

end Contents

/-! ### What never arrives -/

/-- A snapshot without what no event carries. -/
structure Bare (snapshot : OrderSnapshot) : Prop where
  orderTotal : snapshot.orderTotal = none
  items : snapshot.items = none
  restaurantLatitude : snapshot.restaurantLatitude = none
  restaurantLongitude : snapshot.restaurantLongitude = none

/-- The same of a delivery. -/
structure BareDelivery (delivery : Delivery) : Prop where
  orderTotal : delivery.orderTotal = none
  items : delivery.items = none

/-- The delivery service's database, as far as these go. -/
structure AllBare (s : Deliveries.State) : Prop where
  snapshots : ∀ orderId snapshot, s.snapshots.find? orderId = some snapshot → Bare snapshot
  deliveries : ∀ orderId delivery, s.deliveries.find? orderId = some delivery → BareDelivery delivery

variable {s next : Deliveries.State} {orderId : Nat} {now : Timestamp}

/-- **An event of the orders service leaves a snapshot bare.** -/
theorem bare_update {snapshot : OrderSnapshot} (bare : Bare snapshot) (event : Orders.OrderEvent) :
    Bare (snapshot.update (orderPayload event)) where
  orderTotal := by simp [OrderSnapshot.update, orderPayload, bare.orderTotal]
  items := by simp [OrderSnapshot.update, orderPayload, bare.items]
  restaurantLatitude := by simp [OrderSnapshot.update, orderPayload, bare.restaurantLatitude]
  restaurantLongitude := by simp [OrderSnapshot.update, orderPayload, bare.restaurantLongitude]

theorem bareDelivery_new {snapshot : Option OrderSnapshot} (bare : ∀ row ∈ snapshot, Bare row) :
    BareDelivery (newDelivery orderId snapshot) := by
  cases snapshot with
  | none => exact ⟨rfl, rfl⟩
  | some row => exact ⟨(bare row rfl).orderTotal, (bare row rfl).items⟩

theorem bareDelivery_offer {delivery : Delivery} (bare : BareDelivery delivery)
    (status : Option DeliveryStatus) (name : Option String) (driver : Option Deliveries.Driver)
    (now : Timestamp) : BareDelivery (offer delivery status name driver now).delivery := by
  cases driver with
  | none => exact bare
  | some driver => exact ⟨bare.orderTotal, bare.items⟩

theorem bareDelivery_reassigned {snapshot : Option OrderSnapshot} {delivery : Delivery}
    (known : ∀ row ∈ snapshot, Bare row) (bare : BareDelivery delivery) (driverId : Nat)
    (now : Timestamp) : BareDelivery (reassigned snapshot driverId now delivery).delivery := by
  cases snapshot with
  | none => exact ⟨bare.orderTotal, bare.items⟩
  | some row => exact ⟨(known row rfl).orderTotal, (known row rfl).items⟩

/-- A commit of a bare delivery. -/
theorem allBare_commit {written : Deliveries.Written} (bare : AllBare s)
    (row : BareDelivery written.delivery) : AllBare (s.commit written) := by
  refine ⟨bare.snapshots, fun id delivery found => ?_⟩
  rw [Deliveries.find?_commit] at found
  split_ifs at found
  · cases found
    exact row
  · exact bare.deliveries id delivery found

theorem allBare_assign {redis : Option Deliveries.Nearby} (bare : AllBare s)
    (outcome : Deliveries.assignForOrder s orderId redis now = .ok next) : AllBare next := by
  rcases Deliveries.assignForOrder_ok outcome with rfl | ⟨_, driver, _, rfl⟩
  · exact bare
  · exact allBare_commit bare
      (bareDelivery_offer (bareDelivery_new fun row known => bare.snapshots orderId row known) _ _ _ _)

/-- A driver's action on a delivery keeps it as bare as it was. -/
theorem allBare_ownAction {driverId : Nat}
    {body : Delivery → Except Raised Deliveries.Written}
    (keeps : ∀ delivery written, body delivery = .ok written →
      BareDelivery delivery → BareDelivery written.delivery)
    (bare : AllBare s)
    (outcome : (do
      let delivery ← Deliveries.ownedActive s driverId orderId
      let written ← body delivery
      return s.commit written) = .ok next) : AllBare next := by
  obtain ⟨delivery, written, found, _, decided, rfl⟩ := Deliveries.ownAction_ok outcome
  exact allBare_commit bare (keeps delivery written decided (bare.deliveries orderId delivery found))

theorem allBare_orElse {outcome : Except Raised Deliveries.State} (bare : AllBare s)
    (keeps : ∀ next, outcome = .ok next → AllBare next) : AllBare (Deliveries.orElse s outcome) := by
  cases outcome with
  | ok next => exact keeps next rfl
  | error raised => exact bare

/-- **What the delivery service does of its own** keeps its rows bare. -/
theorem allBare_own (op : Deliveries.Operation) (own : deliveriesOwn op = true) (bare : AllBare s) :
    AllBare (s.step (op, now)) := by
  cases op with
  | assignForOrder target redis => cases own
  | applyOrderEvent payload redis => cases own
  | acceptAssignment driverId target =>
    refine allBare_orElse bare fun _ outcome => allBare_ownAction (fun _ _ decided old => ?_) bare outcome
    rw [(Deliveries.accepted_ok.mp decided).2]
    exact ⟨old.orderTotal, old.items⟩
  | pickup driverId target =>
    refine allBare_orElse bare fun _ outcome => allBare_ownAction (fun _ _ decided old => ?_) bare outcome
    rw [(Deliveries.pickedUp_ok.mp decided).2]
    exact ⟨old.orderTotal, old.items⟩
  | deliver driverId target =>
    refine allBare_orElse bare fun _ outcome => allBare_ownAction (fun _ _ decided old => ?_) bare outcome
    rw [(Deliveries.delivered_ok.mp decided).2]
    exact ⟨old.orderTotal, old.items⟩
  | rejectAssignment driverId target redis =>
    refine allBare_orElse bare fun _ outcome => ?_
    obtain ⟨delivery, driver, found, _, _, _, rfl⟩ := Deliveries.rejectAssignment_ok outcome
    have old := bare.deliveries target delivery found
    have free : BareDelivery
        { delivery with driverId := none, status := .unassigned, acceptedAt := none } :=
      ⟨old.orderTotal, old.items⟩
    exact allBare_commit bare (bareDelivery_offer free _ _ _ _)
  | reassignDeliveryForOrder caller target newDriverId =>
    refine allBare_orElse bare fun _ outcome => ?_
    obtain ⟨delivery, found, _, _, rfl⟩ := Deliveries.reassignDeliveryForOrder_ok outcome
    exact allBare_commit bare (bareDelivery_reassigned
      (fun row known => bare.snapshots target row known) (bare.deliveries target delivery found) _ _)
  | applyUserEvent payload =>
    show AllBare (Deliveries.applyUserEvent s payload)
    unfold Deliveries.applyUserEvent
    split
    · exact bare
    · split_ifs
      · exact bare
      · exact ⟨bare.snapshots, bare.deliveries⟩
  | applyRestaurantEvent payload =>
    show AllBare (Deliveries.applyRestaurantEvent s payload)
    unfold Deliveries.applyRestaurantEvent
    split
    · exact ⟨bare.snapshots, bare.deliveries⟩
    · exact bare

/-- **An order event that is handled** leaves every row bare, with the delivery it may create. -/
theorem allBare_orderEvent (bare : AllBare s) (event : Orders.OrderEvent)
    (redis : Option Deliveries.Nearby) :
    AllBare (s.step (.applyOrderEvent (orderPayload event) redis, now)) := by
  show AllBare (Deliveries.applyOrderEvent s (orderPayload event) redis now).1
  have before : Bare ((s.snapshots.find? event.orderId).getD
      { orderId := event.orderId, customerId := (orderPayload event).customerId.getD 0 }) := by
    cases found : s.snapshots.find? event.orderId with
    | none => exact ⟨rfl, rfl, rfl, rfl⟩
    | some snapshot => exact bare.snapshots event.orderId snapshot found
  have updated := bare_update before event
  unfold Deliveries.applyOrderEvent
  dsimp only [orderPayload] at updated ⊢
  generalize OrderSnapshot.update _ _ = snapshot at updated ⊢
  have copied : AllBare { s with snapshots := s.snapshots.put snapshot } := by
    refine ⟨fun id row found => ?_, bare.deliveries⟩
    rw [Table.find?_put] at found
    split_ifs at found
    · cases found
      exact updated
    · exact bare.snapshots id row found
  split_ifs
  · cases outcome : Deliveries.assignForOrder { s with snapshots := s.snapshots.put snapshot }
        event.orderId redis now with
    | ok assigned => exact allBare_assign copied outcome
    | error raised => exact copied
  · exact copied

/-! ### Runs -/

theorem allBare_step (w : State) (label : Label) (bare : AllBare w.deliveries) :
    AllBare (w.step label).deliveries := by
  cases label with
  | orders op now =>
    unfold State.step
    dsimp only
    split_ifs
    · exact bare
    · exact bare
  | deliveries op now =>
    unfold State.step
    dsimp only
    split_ifs with own
    · exact allBare_own op own bare
    · exact bare
  | deliverOrderEvent target i redis now acknowledged =>
    unfold State.step
    dsimp only
    split_ifs
    · split
      · exact bare
      · exact allBare_orderEvent bare _ redis
    · exact bare
  | deliverDeliveryEvent target i now acknowledged =>
    unfold State.step
    dsimp only
    split_ifs
    · split
      · exact bare
      · exact bare
    · exact bare

/-- **In every state of every run**, the delivery service's rows are bare. -/
theorem allBare_always (labels : List Label) :
    Always State.step (fun w => AllBare w.deliveries) .empty labels :=
  always_of_step allBare_step
    ⟨fun _ _ found => (by cases found), fun _ _ found => (by cases found)⟩

/-- **Nobody is ever picked for being near**: the nearest-driver branch has no place to start from. -/
theorem nearest_never (labels : List Label) :
    Always State.step
      (fun w => ∀ orderId redis exclude,
        Deliveries.pickNearest w.deliveries (w.deliveries.snapshots.find? orderId) redis exclude =
          .ok none)
      .empty labels := by
  refine (allBare_always labels).mono fun w bare orderId redis exclude => ?_
  unfold Deliveries.pickNearest
  cases found : w.deliveries.snapshots.find? orderId with
  | none => rfl
  | some snapshot => simp [(bare.snapshots orderId snapshot found).restaurantLatitude]

/-- **The producer and the consumer never agree**: in no state of any run does the delivery service know
any order as the orders service announced it, however its lines are written down and wherever the
restaurants are. -/
theorem never_informed (itemsText : List Orders.OrderItem → String)
    (located : Nat → Option (Coordinate × Coordinate)) (labels : List Label) :
    Always State.step (fun w => ∀ order, ¬ Informed itemsText located w order) .empty labels := by
  refine (allBare_always labels).mono fun w bare order informed => ?_
  obtain ⟨snapshot, found, agrees⟩ := informed.snapshot
  have missing := (bare.snapshots order.id snapshot found).orderTotal
  rw [agrees.orderTotal] at missing
  cases missing

/-- A meal that is ordered and announced, and the announcement handled. -/
def announcedMeal : List Label :=
  ((Orders.mealCheckout .cod).map fun label => .orders label.1 label.2) ++
    [.deliverOrderEvent 1 0 none 11 true]

/-- **The total is announced as `total` and read as `order_total`.** Everything is handled, and the
delivery service does not know what the order costs. -/
theorem announcedMeal_not_informed :
    ¬ ∃ itemsText, ∀ located labels, Always State.step
      (fun w => w.Quiet → ∀ orderId order, w.orders.orders.find? orderId = some order →
        Informed itemsText located w order) .empty labels := by
  rintro ⟨itemsText, always⟩
  have quiet : (run State.step .empty announcedMeal).Quiet := by
    refine ⟨none_next 1 ?_ ?_, none_next 1 ?_ ?_⟩ <;> decide
  obtain ⟨order, found⟩ : ∃ order,
      (run State.step .empty announcedMeal).orders.orders.find? 1 = some order :=
    Option.isSome_iff_exists.mp (by decide)
  have informed := (always (fun _ => none) announcedMeal).last quiet 1 order found
  obtain ⟨snapshot, held, agrees⟩ := informed.snapshot
  have own : order.id = 1 := Table.key_of_find? found
  rw [own] at held
  have missing : ((run State.step .empty announcedMeal).deliveries.snapshots.find? 1).bind
      OrderSnapshot.orderTotal = none := by decide
  rw [held, Option.bind_some, agrees.orderTotal] at missing
  cases missing

end FoodDelivery.Handover
