/-
**Runs of the delivery service**: every request and message it handles, one at a time.

A step of a run is an `Operation` with the clock it reads; what raises leaves the database as it was,
but for the snapshot that an order event has committed before. `State.changed` is the inversion of a
step for the delivery of one order: nothing happened to it, or it moved (`Moved`) and the move was
announced once.
-/

import FoodDelivery.Deliveries.Consumer
import FoodDelivery.Lib.Runs

set_option autoImplicit false

namespace FoodDelivery.Deliveries

open FoodDelivery.Lib

/-! ### Operations -/

/-- What the service is asked to do. -/
inductive Operation where
  | assignForOrder (orderId : Nat) (redis : Option Nearby)
  | acceptAssignment (driverId orderId : Nat)
  | rejectAssignment (driverId orderId : Nat) (redis : Option Nearby)
  | pickup (driverId orderId : Nat)
  | deliver (driverId orderId : Nat)
  | reassignDeliveryForOrder (caller : Identity) (orderId newDriverId : Nat)
  | applyOrderEvent (payload : OrderEvent) (redis : Option Nearby)
  | applyUserEvent (payload : UserEvent)
  | applyRestaurantEvent (payload : RestaurantEvent)

/-- A transaction that raises is rolled back. -/
def orElse (s : State) : Except Raised State → State
  | .ok next => next
  | .error _ => s

/-- One operation with its clock. -/
def State.step (s : State) (label : Operation × Timestamp) : State :=
  match label.1 with
  | .assignForOrder orderId redis => orElse s (assignForOrder s orderId redis label.2)
  | .acceptAssignment driverId orderId => orElse s (acceptAssignment s driverId orderId label.2)
  | .rejectAssignment driverId orderId redis =>
    orElse s (rejectAssignment s driverId orderId redis label.2)
  | .pickup driverId orderId => orElse s (pickup s driverId orderId label.2)
  | .deliver driverId orderId => orElse s (deliver s driverId orderId label.2)
  | .reassignDeliveryForOrder caller orderId newDriverId =>
    orElse s (reassignDeliveryForOrder s caller orderId newDriverId label.2)
  | .applyOrderEvent payload redis => (applyOrderEvent s payload redis label.2).1
  | .applyUserEvent payload => applyUserEvent s payload
  | .applyRestaurantEvent payload => applyRestaurantEvent s payload

/-! ### What a step can do to one delivery -/

/-- The event that announces where a delivery stands. -/
def Delivery.event (delivery : Delivery) : DeliveryEvent :=
  ⟨delivery.orderId, some delivery.status, delivery.driverId⟩

/-- What is announced when a delivery has been written over the row before it: where it stands; without
its status, when it is new and no driver was picked. -/
def announcement (before : Option Delivery) (after : Delivery) : DeliveryEvent :=
  if before = none ∧ after.driverId = none then { after.event with status := none } else after.event

theorem announcement_old (delivery after : Delivery) :
    announcement (some delivery) after = after.event := by
  simp [announcement]

/-- The delivery events among some outbox rows that are keyed by an order. -/
def eventsOf (orderId : Nat) (outbox : List OutboxEvent) : List DeliveryEvent :=
  (outbox.filterMap OutboxEvent.deliveryEvent?).filter fun event => event.orderId = orderId

@[simp] theorem eventsOf_append (orderId : Nat) (first second : List OutboxEvent) :
    eventsOf orderId (first ++ second) = eventsOf orderId first ++ eventsOf orderId second := by
  simp [eventsOf]

/-- The moves of a delivery, from the row there was to the row there is. -/
inductive Moved (orderId : Nat) : Option Delivery → Delivery → Prop
  | assigned (snapshot : Option OrderSnapshot) (name : Option String) (driver : Option Driver)
      (now : Timestamp) :
    Moved orderId none (offer (newDelivery orderId snapshot) none name driver now).delivery
  | accepted (before : Delivery) (now : Timestamp) (offered : before.status = .assigned) :
    Moved orderId (some before) { before with status := .accepted, acceptedAt := some now }
  | rejected (before : Delivery) (driverId : Nat) (name : Option String) (driver : Option Driver)
      (now : Timestamp) (mine : before.driverId = some driverId)
      (open_ : before.status ∈ [DeliveryStatus.assigned, .accepted])
      (another : ∀ next ∈ driver, next.id ≠ driverId) :
    Moved orderId (some before)
      (offer { before with driverId := none, status := .unassigned, acceptedAt := none }
        (some .unassigned) name driver now).delivery
  | pickedUp (before : Delivery) (now : Timestamp)
      (open_ : before.status ∈ [DeliveryStatus.assigned, .accepted]) :
    Moved orderId (some before) { before with status := .pickedUp, pickedUpAt := some now }
  | delivered (before : Delivery) (now : Timestamp) (out : before.status = .pickedUp) :
    Moved orderId (some before) { before with status := .delivered, deliveredAt := some now }

/-- **What is announced of a move** is where the delivery stands, if anything, and something is once it
has been offered. -/
theorem Moved.announced {orderId : Nat} {before : Option Delivery} {after : Delivery}
    (moved : Moved orderId before after) :
    (after.status ≠ .unassigned → (announcement before after).status = some after.status) ∧
      ∀ status, (announcement before after).status = some status → after.status = status := by
  have old : ∀ delivery : Delivery, before = some delivery →
      (announcement before after).status = some after.status := by
    rintro delivery rfl
    rw [announcement_old]
    rfl
  cases moved with
  | assigned snapshot name driver now =>
    cases driver with
    | none => exact ⟨fun offered => absurd rfl offered, fun _ same => by cases same⟩
    | some driver => exact ⟨fun _ => rfl, fun _ same => Option.some.inj same⟩
  | accepted delivery now offered => exact ⟨fun _ => rfl, fun _ same => Option.some.inj same⟩
  | rejected delivery driverId name driver now mine open_ another =>
    exact ⟨fun _ => old _ rfl, fun _ same => Option.some.inj ((old _ rfl).symm.trans same)⟩
  | pickedUp delivery now open_ => exact ⟨fun _ => rfl, fun _ same => Option.some.inj same⟩
  | delivered delivery now out => exact ⟨fun _ => rfl, fun _ same => Option.some.inj same⟩

/-- A restaurant's override that takes effect: there is a delivery, the caller manages it and the
driver can be given work. -/
def Overrides (s : State) (orderId : Nat) (delivery : Delivery) : Operation → Prop
  | .reassignDeliveryForOrder caller target newDriverId =>
    target = orderId ∧ s.deliveries.find? orderId = some delivery ∧
      ownedOrder s caller orderId = .ok () ∧ activeDriver s newDriverId = .ok ()
  | _ => False

/-- The outcomes of a step for the delivery of one order. -/
inductive Changed (op : Operation) (orderId : Nat) (s next : State) : Prop
  | same (row : next.deliveries.find? orderId = s.deliveries.find? orderId)
      (events : eventsOf orderId next.outbox = eventsOf orderId s.outbox)
  | moved (delivery : Delivery) (moves : Moved orderId (s.deliveries.find? orderId) delivery)
      (row : next.deliveries.find? orderId = some delivery)
      (events : eventsOf orderId next.outbox = eventsOf orderId s.outbox ++
        [announcement (s.deliveries.find? orderId) delivery])
  | overridden (before : Delivery) (snapshot : Option OrderSnapshot) (newDriverId : Nat)
      (now : Timestamp) (overrides : Overrides s orderId before op)
      (row : next.deliveries.find? orderId =
        some (reassigned snapshot newDriverId now before).delivery)
      (events : eventsOf orderId next.outbox = eventsOf orderId s.outbox ++
        [(reassigned snapshot newDriverId now before).delivery.event])

variable {op : Operation} {orderId : Nat} {s next : State} {now : Timestamp} {written : Written}

/-- A row is announced once. -/
def Written.Announces (written : Written) (event : DeliveryEvent) : Prop :=
  written.outbox.filterMap OutboxEvent.deliveryEvent? = [event]

theorem offer_announces_new {base : Delivery} (nobody : base.driverId = none) (name : Option String)
    (driver : Option Driver) (now : Timestamp) :
    (offer base none name driver now).Announces
      (announcement none (offer base none name driver now).delivery) := by
  cases driver with
  | none => simp [Written.Announces, announcement, offer, nobody, announceStatus, Delivery.event,
      OutboxEvent.deliveryEvent?]
  | some driver => rfl

theorem offer_announces (delivery : Delivery) (name : Option String) (driver : Option Driver)
    (now : Timestamp) :
    (offer delivery (some delivery.status) name driver now).Announces
      (offer delivery (some delivery.status) name driver now).delivery.event := by
  cases driver <;> rfl

theorem reassigned_announces (snapshot : Option OrderSnapshot) (newDriverId : Nat) (now : Timestamp)
    (delivery : Delivery) : (reassigned snapshot newDriverId now delivery).Announces
      (reassigned snapshot newDriverId now delivery).delivery.event := by
  cases snapshot <;> rfl

@[simp] theorem offer_orderId (delivery : Delivery) (status : Option DeliveryStatus)
    (name : Option String) (driver : Option Driver) (now : Timestamp) :
    (offer delivery status name driver now).delivery.orderId = delivery.orderId := by
  cases driver <;> rfl

@[simp] theorem reassigned_orderId (snapshot : Option OrderSnapshot) (newDriverId : Nat)
    (now : Timestamp) (delivery : Delivery) :
    (reassigned snapshot newDriverId now delivery).delivery.orderId = delivery.orderId := by
  cases snapshot <;> rfl

theorem find?_commit (s : State) (written : Written) (orderId : Nat) :
    (s.commit written).deliveries.find? orderId =
      if written.delivery.orderId = orderId then some written.delivery
      else s.deliveries.find? orderId :=
  s.deliveries.find?_put written.delivery orderId

theorem eventsOf_commit (s : State) {event : DeliveryEvent} (announces : written.Announces event)
    (keyed : event.orderId = written.delivery.orderId) (orderId : Nat) :
    eventsOf orderId (s.commit written).outbox = eventsOf orderId s.outbox ++
      if written.delivery.orderId = orderId then [event] else [] := by
  rw [State.commit, eventsOf_append]
  congr 1
  rw [eventsOf, announces]
  by_cases own : written.delivery.orderId = orderId
  · simp [keyed, own]
  · simp [keyed, own]

theorem announcement_orderId (before : Option Delivery) (after : Delivery) :
    (announcement before after).orderId = after.orderId := by
  unfold announcement
  split <;> rfl

/-- **A commit, seen from one order.** -/
theorem changed_commit {target : Nat} (own : written.delivery.orderId = target)
    (announces : written.Announces (announcement (s.deliveries.find? target) written.delivery))
    (moves : Moved target (s.deliveries.find? target) written.delivery) (orderId : Nat) :
    Changed op orderId s (s.commit written) := by
  by_cases same : target = orderId
  · subst same
    refine .moved written.delivery moves ?_ ?_
    · rw [find?_commit, if_pos own]
    · rw [eventsOf_commit s announces (announcement_orderId _ _), if_pos own]
  · refine .same ?_ ?_
    · rw [find?_commit, if_neg (by rw [own]; exact same)]
    · rw [eventsOf_commit s announces (announcement_orderId _ _), if_neg (by rw [own]; exact same),
        List.append_nil]

/-- A commit over a row that is there, which announces where the delivery stands. -/
theorem changed_commit_old {target : Nat} {delivery : Delivery}
    (found : s.deliveries.find? target = some delivery) (own : written.delivery.orderId = target)
    (announces : written.Announces written.delivery.event)
    (moves : Moved target (some delivery) written.delivery) (orderId : Nat) :
    Changed op orderId s (s.commit written) := by
  refine changed_commit own ?_ (by rw [found]; exact moves) orderId
  rw [found, announcement_old]
  exact announces

theorem changed_assign {target : Nat} {redis : Option Nearby}
    (outcome : assignForOrder s target redis now = .ok next) (orderId : Nat) :
    Changed op orderId s next := by
  rcases assignForOrder_ok outcome with rfl | ⟨absent, driver, _, rfl⟩
  · exact .same rfl rfl
  · have own : (offer (newDelivery target (s.snapshots.find? target)) none
        ((s.snapshots.find? target).bind OrderSnapshot.restaurantName) driver now).delivery.orderId =
        target := offer_orderId _ _ _ _ _
    refine changed_commit own ?_ ?_ orderId
    · rw [absent]
      exact offer_announces_new rfl _ _ _
    · rw [absent]
      exact .assigned _ _ driver now

theorem changed_accept {driverId target : Nat}
    (outcome : acceptAssignment s driverId target now = .ok next) (orderId : Nat) :
    Changed op orderId s next := by
  obtain ⟨delivery, written, found, _, body, rfl⟩ := ownAction_ok outcome
  obtain ⟨offered, rfl⟩ := accepted_ok.mp body
  have own : delivery.orderId = target := Table.key_of_find? found
  exact changed_commit_old found own (by rfl) (.accepted delivery now offered) orderId

theorem changed_reject {driverId target : Nat} {redis : Option Nearby}
    (outcome : rejectAssignment s driverId target redis now = .ok next) (orderId : Nat) :
    Changed op orderId s next := by
  obtain ⟨delivery, driver, found, mine, open_, picked, rfl⟩ := rejectAssignment_ok outcome
  have own : delivery.orderId = target := Table.key_of_find? found
  refine changed_commit_old found (by rw [offer_orderId, own]) (offer_announces _ _ _ _) ?_ orderId
  refine .rejected delivery driverId _ driver now mine open_ fun next member => ?_
  rw [Option.mem_def.mp member] at picked
  exact fun same => (pickDriver_ok picked).another (congrArg some same)

theorem changed_pickup {driverId target : Nat}
    (outcome : pickup s driverId target now = .ok next) (orderId : Nat) :
    Changed op orderId s next := by
  obtain ⟨delivery, written, found, _, body, rfl⟩ := ownAction_ok outcome
  obtain ⟨open_, rfl⟩ := pickedUp_ok.mp body
  have own : delivery.orderId = target := Table.key_of_find? found
  exact changed_commit_old found own (by rfl) (.pickedUp delivery now open_) orderId

theorem changed_deliver {driverId target : Nat}
    (outcome : deliver s driverId target now = .ok next) (orderId : Nat) :
    Changed op orderId s next := by
  obtain ⟨delivery, written, found, _, body, rfl⟩ := ownAction_ok outcome
  obtain ⟨out, rfl⟩ := delivered_ok.mp body
  have own : delivery.orderId = target := Table.key_of_find? found
  exact changed_commit_old found own (by rfl) (.delivered delivery now out) orderId

theorem changed_reassign {caller : Identity} {target newDriverId : Nat}
    (outcome : reassignDeliveryForOrder s caller target newDriverId now = .ok next)
    (orderId : Nat) :
    Changed (.reassignDeliveryForOrder caller target newDriverId) orderId s next := by
  obtain ⟨delivery, found, owned, active, rfl⟩ := reassignDeliveryForOrder_ok outcome
  have own : (reassigned (s.snapshots.find? target) newDriverId now delivery).delivery.orderId =
      target := (reassigned_orderId _ _ _ _).trans (Table.key_of_find? found)
  have announces := reassigned_announces (s.snapshots.find? target) newDriverId now delivery
  by_cases same : target = orderId
  · subst same
    refine .overridden delivery (s.snapshots.find? target) newDriverId now
      ⟨rfl, found, owned, active⟩ ?_ ?_
    · rw [find?_commit, if_pos own]
    · rw [eventsOf_commit s announces rfl, if_pos own]
  · refine .same ?_ ?_
    · rw [find?_commit, if_neg (by rw [own]; exact same)]
    · rw [eventsOf_commit s announces rfl, if_neg (by rw [own]; exact same), List.append_nil]

theorem changed_orElse {outcome : Except Raised State} (orderId : Nat)
    (changed : ∀ next, outcome = .ok next → Changed op orderId s next) :
    Changed op orderId s (orElse s outcome) := by
  cases outcome with
  | ok next => exact changed next rfl
  | error raised => exact .same rfl rfl

/-- What an order event does first changes no delivery. -/
theorem Changed.of_snapshots {snapshots : Table Nat OrderSnapshot OrderSnapshot.orderId}
    (overrides : ∀ before, ¬ Overrides { s with snapshots := snapshots } orderId before op)
    (changed : Changed op orderId { s with snapshots := snapshots } next) :
    Changed op orderId s next := by
  cases changed with
  | same row events => exact .same row events
  | moved delivery moves row events => exact .moved delivery moves row events
  | overridden before snapshot newDriverId now impossible row events =>
    exact absurd impossible (overrides before)

theorem changed_orderEvent {payload : OrderEvent} {redis : Option Nearby} (orderId : Nat) :
    Changed (.applyOrderEvent payload redis) orderId s (applyOrderEvent s payload redis now).1 := by
  unfold applyOrderEvent
  split
  · exact .same rfl rfl
  · dsimp only
    split_ifs
    · split
      · rename_i next outcome
        exact (changed_assign outcome orderId).of_snapshots fun _ overrides => overrides
      · exact .same rfl rfl
    · exact .same rfl rfl

/-- **What a step does to the delivery of one order.** -/
theorem State.changed (s : State) (label : Operation × Timestamp) (orderId : Nat) :
    Changed label.1 orderId s (s.step label) := by
  obtain ⟨op, now⟩ := label
  cases op with
  | assignForOrder target redis =>
    exact changed_orElse orderId fun next outcome => changed_assign outcome orderId
  | acceptAssignment driverId target =>
    exact changed_orElse orderId fun next outcome => changed_accept outcome orderId
  | rejectAssignment driverId target redis =>
    exact changed_orElse orderId fun next outcome => changed_reject outcome orderId
  | pickup driverId target =>
    exact changed_orElse orderId fun next outcome => changed_pickup outcome orderId
  | deliver driverId target =>
    exact changed_orElse orderId fun next outcome => changed_deliver outcome orderId
  | reassignDeliveryForOrder caller target newDriverId =>
    exact changed_orElse orderId fun next outcome => changed_reassign outcome orderId
  | applyOrderEvent payload redis => exact changed_orderEvent orderId
  | applyUserEvent payload =>
    show Changed _ orderId s (applyUserEvent s payload)
    unfold applyUserEvent
    split
    · exact .same rfl rfl
    · split_ifs
      · exact .same rfl rfl
      · exact .same rfl rfl
  | applyRestaurantEvent payload =>
    show Changed _ orderId s (applyRestaurantEvent s payload)
    unfold applyRestaurantEvent
    split
    · exact .same rfl rfl
    · exact .same rfl rfl

/-! ### The override -/

theorem found_of_overrides {delivery : Delivery} (overrides : Overrides s orderId delivery op) :
    s.deliveries.find? orderId = some delivery := by
  cases op with
  | reassignDeliveryForOrder caller target newDriverId => exact overrides.2.1
  | _ => exact overrides.elim

/-- An override that is let through is written, whatever the delivery stands at. -/
theorem step_of_overrides {delivery : Delivery} (now : Timestamp)
    (overrides : Overrides s orderId delivery op) :
    ∃ snapshot newDriverId, (s.step (op, now)).deliveries.find? orderId =
      some (reassigned snapshot newDriverId now delivery).delivery := by
  cases op with
  | reassignDeliveryForOrder caller target newDriverId =>
    obtain ⟨rfl, found, owned, active⟩ := overrides
    refine ⟨s.snapshots.find? target, newDriverId, ?_⟩
    have outcome : reassignDeliveryForOrder s caller target newDriverId now =
        .ok (s.commit (reassigned (s.snapshots.find? target) newDriverId now delivery)) := by
      unfold reassignDeliveryForOrder
      simp only [found, owned, active]
      rfl
    have own := (reassigned_orderId (s.snapshots.find? target) newDriverId now delivery).trans
      (Table.key_of_find? found)
    show (orElse s (reassignDeliveryForOrder s caller target newDriverId now)).deliveries.find? _ = _
    rw [outcome]
    exact (find?_commit _ _ _).trans (if_pos own)
  | _ => exact overrides.elim

/-! ### What creates a delivery -/

/-- An assignment, or an order event that leaves its order ready for pickup. -/
def Creates (s : State) (orderId : Nat) : Operation → Prop
  | .assignForOrder target _ => target = orderId
  | .applyOrderEvent payload _ => payload.orderId = some orderId ∧
      orText payload.status
        (((s.snapshots.find? orderId).map OrderSnapshot.status).getD "") = readyForPickup
  | _ => False

theorem absent_orElse {outcome : Except Raised State} (absent : s.deliveries.find? orderId = none)
    (keeps : ∀ next, outcome = .ok next → next.deliveries.find? orderId = none) :
    (orElse s outcome).deliveries.find? orderId = none := by
  cases outcome with
  | ok next => exact keeps next rfl
  | error raised => exact absent

/-- Writing over a row creates none. -/
theorem absent_commit {delivery : Delivery} {target : Nat} (own : written.delivery.orderId = target)
    (found : s.deliveries.find? target = some delivery) (absent : s.deliveries.find? orderId = none) :
    (s.commit written).deliveries.find? orderId = none := by
  rw [find?_commit, if_neg]
  · exact absent
  · rintro rfl
    rw [own, found] at absent
    cases absent

theorem absent_assign {target : Nat} {redis : Option Nearby} (other : target ≠ orderId)
    (absent : s.deliveries.find? orderId = none)
    (outcome : assignForOrder s target redis now = .ok next) :
    next.deliveries.find? orderId = none := by
  rcases assignForOrder_ok outcome with rfl | ⟨_, driver, _, rfl⟩
  · exact absent
  · rw [find?_commit, offer_orderId, if_neg]
    · exact absent
    · exact other

/-- A driver's own action, whichever it is. -/
theorem absent_body {driverId target : Nat} {body : Delivery → Except Raised Written}
    (keeps : ∀ delivery written, body delivery = .ok written →
      written.delivery.orderId = delivery.orderId)
    (absent : s.deliveries.find? orderId = none)
    (outcome : (do
      let delivery ← ownedActive s driverId target
      let written ← body delivery
      return s.commit written) = .ok next) : next.deliveries.find? orderId = none := by
  obtain ⟨delivery, written, found, _, decided, rfl⟩ := ownAction_ok outcome
  exact absent_commit ((keeps delivery written decided).trans (Table.key_of_find? found)) found absent

/-- An order event creates a delivery for the order it leaves ready for pickup, and for no other. -/
theorem created_applyOrderEvent {payload : OrderEvent} {redis : Option Nearby}
    (absent : s.deliveries.find? orderId = none) :
    (applyOrderEvent s payload redis now).1.deliveries.find? orderId = none ∨
      Creates s orderId (.applyOrderEvent payload redis) := by
  unfold applyOrderEvent
  split
  · exact Or.inl absent
  · rename_i target is_target
    dsimp only
    by_cases own : target = orderId
    · subst own
      split_ifs with ready
      · refine Or.inr ⟨is_target, ?_⟩
        rw [← ready]
        cases s.snapshots.find? target <;> rfl
      · exact Or.inl absent
    · left
      generalize s.snapshots.put _ = snapshots
      split_ifs
      · split
        · rename_i next outcome
          exact absent_assign (s := { s with snapshots := snapshots }) own absent outcome
        · exact absent
      · exact absent

/-- **Only an assignment creates a delivery.** -/
theorem created_step (op : Operation) (now : Timestamp)
    (absent : s.deliveries.find? orderId = none) :
    (s.step (op, now)).deliveries.find? orderId = none ∨ Creates s orderId op := by
  cases op with
  | assignForOrder target redis =>
    by_cases own : target = orderId
    · exact Or.inr own
    · exact Or.inl (absent_orElse absent fun _ outcome => absent_assign own absent outcome)
  | acceptAssignment driverId target =>
    refine Or.inl (absent_orElse absent fun _ outcome => absent_body ?_ absent outcome)
    intro delivery written decided
    rw [(accepted_ok.mp decided).2]
  | rejectAssignment driverId target redis =>
    refine Or.inl (absent_orElse absent fun next outcome => ?_)
    obtain ⟨delivery, driver, found, _, _, _, rfl⟩ := rejectAssignment_ok outcome
    have key : delivery.orderId = target := Table.key_of_find? found
    exact absent_commit ((offer_orderId _ _ _ _ _).trans key) found absent
  | pickup driverId target =>
    refine Or.inl (absent_orElse absent fun _ outcome => absent_body ?_ absent outcome)
    intro delivery written decided
    rw [(pickedUp_ok.mp decided).2]
  | deliver driverId target =>
    refine Or.inl (absent_orElse absent fun _ outcome => absent_body ?_ absent outcome)
    intro delivery written decided
    rw [(delivered_ok.mp decided).2]
  | reassignDeliveryForOrder caller target newDriverId =>
    refine Or.inl (absent_orElse absent fun next outcome => ?_)
    obtain ⟨delivery, found, _, _, rfl⟩ := reassignDeliveryForOrder_ok outcome
    exact absent_commit ((reassigned_orderId _ _ _ _).trans (Table.key_of_find? found)) found absent
  | applyOrderEvent payload redis => exact created_applyOrderEvent absent
  | applyUserEvent payload =>
    left
    show (applyUserEvent s payload).deliveries.find? orderId = none
    unfold applyUserEvent
    split
    · exact absent
    · split_ifs
      · exact absent
      · exact absent
  | applyRestaurantEvent payload =>
    left
    show (applyRestaurantEvent s payload).deliveries.find? orderId = none
    unfold applyRestaurantEvent
    split
    · exact absent
    · exact absent

end FoodDelivery.Deliveries
