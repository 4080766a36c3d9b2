/-
**When a delivery event is acknowledged** (`_apply_delivery_event`, `services/orders/app/consumer.py`).

`_handle` acknowledges a message whose handler returns and has one whose handler raises delivered again.
The handler advances the order through `driver_advance`, under which something outside the code may
fail (`Disturbance`), and swallows every `Exception`: it logs it and rolls back.

`ackedRightly_iff`: the handler tells what can be done no more from what has failed for now exactly when
no disturbance that strikes is swallowed. A swallowed one leaves the order where it was, the payment
unsettled and the event acknowledged (`lostDelivery_acknowledged`).
-/

import FoodDelivery.Orders.Runs

set_option autoImplicit false

namespace FoodDelivery.Orders

open FoodDelivery.Lib

/-! ### What can fail -/

/-- Where in `driver_advance` something fails: in the `SELECT … FOR UPDATE`, after the transition but
before its commit is durable, or after that. -/
inductive FailurePoint where
  | lock
  | commit
  | reload
deriving DecidableEq, Repr

/-- What is thrown, and whether it is an `Exception`; the cancellation of a task is not. -/
structure Thrown where
  raised : Raised
  exception : Bool := true
deriving DecidableEq, Repr

/-- A failure outside the code: a lock timeout, a lost connection, a commit that fails. -/
structure Disturbance where
  point : FailurePoint
  thrown : Thrown
deriving DecidableEq, Repr

/-- What fails while an event is handled: under `driver_advance`, and in the rollback after it. -/
structure Trouble where
  disturbance : Option Disturbance := none
  rollback : Option Thrown := none
deriving DecidableEq, Repr

/-! ### The handler -/

/-- `driver_advance`: what it leaves, and what it throws. -/
def driverAdvanceUnder (s : State) (orderId : Nat) (target : OrderStatus) (now : Timestamp)
    (disturbance : Option Disturbance) : State × Option Thrown :=
  match disturbance with
  | some ⟨.lock, thrown⟩ => (s, some thrown)
  | _ =>
    match s.onOrder orderId (.driverAdvance target) now with
    | .error raised => (s, some { raised := raised })
    | .ok next =>
      match disturbance with
      | some ⟨.commit, thrown⟩ => (s, some thrown)
      | some ⟨.reload, thrown⟩ => (next, some thrown)
      | _ => (next, none)

/-- `_apply_delivery_event`: what it leaves, and what it throws. -/
def applyDeliveryEventUnder (s : State) (payload : DeliveryEvent) (now : Timestamp)
    (trouble : Trouble) : State × Option Thrown :=
  match payload.orderId, deliveryTarget payload.status with
  | some orderId, some target =>
    match driverAdvanceUnder s orderId target now trouble.disturbance with
    | (next, none) => (next, none)
    | (next, some thrown) =>
      if thrown.exception then (next, trouble.rollback) else (next, some thrown)
  | _, _ => (s, none)

/-- With nothing failing it is the handler of the other results. -/
theorem applyDeliveryEventUnder_calm (s : State) (payload : DeliveryEvent) (now : Timestamp) :
    applyDeliveryEventUnder s payload now {} = (applyDeliveryEvent s payload now, none) := by
  obtain ⟨orderId, status⟩ := payload
  unfold applyDeliveryEventUnder applyDeliveryEvent driverAdvanceUnder
  cases orderId with
  | none => rfl
  | some orderId =>
    cases drives : deliveryTarget status with
    | none => simp
    | some target =>
      cases outcome : s.onOrder orderId (.driverAdvance target) now with
      | error raised => simp [outcome]
      | ok next => simp [outcome]

/-! ### What has to hold -/

/-- The order has the target's status, and a delivered one is on its way to be settled. -/
def Advanced (next : State) (orderId : Nat) (target : OrderStatus) : Prop :=
  ∃ order, next.orders.find? orderId = some order ∧ order.status = target ∧
    (target = .delivered → ⟨orderId, .settle, order.total⟩ ∈ commandsOf orderId next.outbox)

/-- There is no order whose status allows the transition. -/
def Refused (s : State) (orderId : Nat) (target : OrderStatus) : Prop :=
  ∀ order, s.orders.find? orderId = some order → target ∉ allowed order.status

/-- A disturbance strikes when `driver_advance` gets to its point: every call locks, and a transition
that is not refused commits and reloads. -/
def Disturbance.Strikes (disturbance : Disturbance) (s : State) (orderId : Nat)
    (target : OrderStatus) : Prop :=
  disturbance.point = .lock ∨ ¬ Refused s orderId target

/-- **An event is acknowledged only when it can do no more**: whoever returns has advanced the order or
been refused, and whatever failed for now was raised. -/
structure AckedRightly (s : State) (orderId : Nat) (target : OrderStatus) (trouble : Trouble)
    (ended : State × Option Thrown) : Prop where
  settled : ended.2 = none → Advanced ended.1 orderId target ∨ Refused s orderId target
  retried : ∀ disturbance, trouble.disturbance = some disturbance →
    disturbance.Strikes s orderId target → ended.2 ≠ none

/-- What strikes is not an `Exception`, or the rollback throws as well. -/
def Unswallowed (s : State) (orderId : Nat) (target : OrderStatus) (trouble : Trouble) : Prop :=
  ∀ disturbance, trouble.disturbance = some disturbance → disturbance.Strikes s orderId target →
    disturbance.thrown.exception = true → trouble.rollback ≠ none

/-! ### What `driver_advance` does -/

variable {s : State} {orderId : Nat} {target : OrderStatus} {now : Timestamp}

/-- A transition that is not refused advances the order. -/
theorem onOrder_of_not_refused (now : Timestamp) (possible : ¬ Refused s orderId target) :
    ∃ next, s.onOrder orderId (.driverAdvance target) now = .ok next ∧
      Advanced next orderId target := by
  unfold Refused at possible
  push Not at possible
  obtain ⟨order, found, legal⟩ := possible
  obtain rfl : order.id = orderId := Table.key_of_find? found
  have body : ∃ written, driverAdvance s target now order = .ok (some written) := by
    unfold driverAdvance
    rw [applyTransition_ok.mpr ⟨legal, rfl⟩]
    exact ⟨_, rfl⟩
  obtain ⟨written, body⟩ := body
  have performed := driverAdvance_performed body
  refine ⟨s.commit written, ?_, written.order, ?_, performed.status, fun delivers => ?_⟩
  · unfold State.onOrder
    rw [found]
    show (driverAdvance s target now order >>= _) = _
    rw [body]
    rfl
  · rw [State.commit_orders, ← performed.id, Table.find?_put_self]
  · subst delivers
    rw [State.commit_outbox, commandsOf_append, performed.commandsOf, if_pos rfl, performed.total]
    apply List.mem_append_right
    exact List.mem_singleton.mpr rfl

/-- **What is thrown under a disturbance**: what strikes, unless the state machine refused. -/
theorem driverAdvanceUnder_of_strikes (now : Timestamp) {disturbance : Disturbance}
    (strikes : disturbance.Strikes s orderId target) : ∃ next,
    driverAdvanceUnder s orderId target now (some disturbance) = (next, some disturbance.thrown) := by
  obtain ⟨point, thrown⟩ := disturbance
  unfold driverAdvanceUnder
  cases point with
  | lock => exact ⟨s, rfl⟩
  | commit =>
    have possible : ¬ Refused s orderId target := strikes.resolve_left (by simp)
    obtain ⟨next, outcome, _⟩ := onOrder_of_not_refused now possible
    exact ⟨s, by simp [outcome]⟩
  | reload =>
    have possible : ¬ Refused s orderId target := strikes.resolve_left (by simp)
    obtain ⟨next, outcome, _⟩ := onOrder_of_not_refused now possible
    exact ⟨next, by simp [outcome]⟩

/-- Where nothing strikes, it advances the order or is refused. -/
theorem driverAdvanceUnder_of_calm (now : Timestamp) {disturbance : Option Disturbance}
    (calm : ∀ one, disturbance = some one → ¬ one.Strikes s orderId target) :
    (∃ next, driverAdvanceUnder s orderId target now disturbance = (next, none) ∧
      Advanced next orderId target) ∨ Refused s orderId target := by
  by_cases refused : Refused s orderId target
  · exact Or.inr refused
  · refine Or.inl ?_
    cases disturbance with
    | some one => exact absurd (Or.inr refused) (calm one rfl)
    | none =>
      obtain ⟨next, outcome, advanced⟩ := onOrder_of_not_refused now refused
      exact ⟨next, by simp [driverAdvanceUnder, outcome], advanced⟩

/-! ### The handler's two ways out -/

/-- **What the handler throws**: what is swallowed gives way to what the rollback throws. -/
theorem applyDeliveryEventUnder_thrown {status : DeliveryStatus} {trouble : Trouble} {next : State}
    {thrown : Option Thrown} (drives : deliveryTarget (some status) = some target)
    (advance : driverAdvanceUnder s orderId target now trouble.disturbance = (next, thrown)) :
    applyDeliveryEventUnder s ⟨some orderId, some status⟩ now trouble = (next,
      match thrown with
      | none => none
      | some one => if one.exception then trouble.rollback else some one) := by
  unfold applyDeliveryEventUnder
  simp only [drives, advance]
  cases thrown with
  | none => rfl
  | some one => cases swallowed : one.exception <;> simp [swallowed]

/-- **When a delivery event is acknowledged rightly.** For every state of the orders, every PICKED_UP or
DELIVERED event and everything that can fail under its handler: what is acknowledged has been applied or
refused, and what failed for now is delivered again, exactly when no disturbance that strikes is an
`Exception` whose rollback goes through. -/
theorem ackedRightly_iff (s : State) (orderId : Nat) (status : DeliveryStatus) (target : OrderStatus)
    (now : Timestamp) (trouble : Trouble) (drives : deliveryTarget (some status) = some target) :
    AckedRightly s orderId target trouble
        (applyDeliveryEventUnder s ⟨some orderId, some status⟩ now trouble) ↔
      Unswallowed s orderId target trouble := by
  constructor
  · intro acked disturbance happens strikes exception calm
    obtain ⟨next, advance⟩ := driverAdvanceUnder_of_strikes now strikes
    rw [← happens] at advance
    apply acked.retried disturbance happens strikes
    rw [applyDeliveryEventUnder_thrown drives advance]
    simp [exception, calm]
  · intro unswallowed
    by_cases struck : ∃ disturbance, trouble.disturbance = some disturbance ∧
        disturbance.Strikes s orderId target
    · obtain ⟨disturbance, happens, strikes⟩ := struck
      obtain ⟨next, advance⟩ := driverAdvanceUnder_of_strikes now strikes
      rw [← happens] at advance
      rw [applyDeliveryEventUnder_thrown drives advance]
      have thrown : (if disturbance.thrown.exception then trouble.rollback
          else some disturbance.thrown) ≠ none := by
        by_cases exception : disturbance.thrown.exception = true
        · simpa [exception] using unswallowed disturbance happens strikes exception
        · simp [exception]
      exact ⟨fun returned => absurd returned thrown, fun _ _ _ => thrown⟩
    · have calm : ∀ one, trouble.disturbance = some one → ¬ one.Strikes s orderId target :=
        fun one happens strikes => struck ⟨one, happens, strikes⟩
      refine ⟨fun returned => ?_, fun one happens strikes => absurd strikes (calm one happens)⟩
      rcases driverAdvanceUnder_of_calm now calm with ⟨next, advance, advanced⟩ | refused
      · rw [applyDeliveryEventUnder_thrown drives advance]
        exact Or.inl advanced
      · exact Or.inr refused

/-! ### A delivery that is lost -/

/-- A cash order that its driver has picked up. -/
def orderOnItsWay : Order where
  id := 1
  customerId := 7
  restaurantId := 3
  addressId := 5
  status := .outForDelivery
  paymentMethod := .cod
  paymentStatus := .success
  subtotal := 20000
  total := 20000
  createdAt := 0
  updatedAt := 0
  items := []
  events := []

/-- A database with that order. -/
def onItsWay : State := { State.empty with orders := State.empty.orders.put orderOnItsWay }

/-- The lock is not to be had in time. -/
def lockTimeout : Trouble where
  disturbance := some ⟨.lock, { raised := .other "OperationalError" "lock timeout" }⟩

theorem ackedRightly_iff_lockTimeout :
    AckedRightly onItsWay 1 .delivered lockTimeout
        (applyDeliveryEventUnder onItsWay ⟨some 1, some .delivered⟩ 10 lockTimeout) ↔
      Unswallowed onItsWay 1 .delivered lockTimeout :=
  ackedRightly_iff onItsWay 1 .delivered .delivered 10 lockTimeout rfl

/-- **A delivery that is lost.** The driver has delivered, the lock times out, and the event is
acknowledged: the order stays out for delivery. -/
theorem lostDelivery_acknowledged :
    ¬ ∀ (s : State) (orderId : Nat) (status : DeliveryStatus) (target : OrderStatus)
      (now : Timestamp) (trouble : Trouble), deliveryTarget (some status) = some target →
      AckedRightly s orderId target trouble
        (applyDeliveryEventUnder s ⟨some orderId, some status⟩ now trouble) := by
  intro always
  have acked := always onItsWay 1 .delivered .delivered 10 lockTimeout rfl
  exact acked.retried _ rfl (Or.inl rfl) (by decide)

end FoodDelivery.Orders
