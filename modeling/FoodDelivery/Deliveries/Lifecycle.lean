/-
**The life of a delivery.**

The driver's actions move a delivery forward, and a rejection takes it back before it is picked up. The
restaurant's override is not held to that: it writes ASSIGNED over whatever the delivery stands at, and
leaves the times of what has happened in place.

`lifecycle_iff`: in every run, every delivery keeps to its life exactly when every override that takes
effect finds its delivery UNASSIGNED or ASSIGNED.
-/

import FoodDelivery.Deliveries.Runs

set_option autoImplicit false

namespace FoodDelivery.Deliveries

open FoodDelivery.Lib

/-! ### What has to hold -/

/-- A delivery's driver and times agree with where it stands. -/
structure Delivery.Coherent (delivery : Delivery) : Prop where
  driver : delivery.driverId = none ↔ delivery.status = .unassigned
  accepted : delivery.status ∈ [DeliveryStatus.unassigned, .assigned] → delivery.acceptedAt = none
  pickedUp : delivery.pickedUpAt.isSome ↔ delivery.status ∈ [DeliveryStatus.pickedUp, .delivered]
  delivered : delivery.deliveredAt.isSome ↔ delivery.status = .delivered

/-- The moves of a delivery's status; a status that is written over by itself has not moved. -/
inductive MayMove (before after : Delivery) : Prop
  | stay (same : after.status = before.status)
  | assign (free : before.status = .unassigned) (offered : after.status = .assigned)
  | accept (offered : before.status = .assigned) (taken : after.status = .accepted)
  | pickUp (open_ : before.status ∈ [DeliveryStatus.assigned, .accepted])
      (out : after.status = .pickedUp)
  | deliver (out : before.status = .pickedUp) (done : after.status = .delivered)
  | release (open_ : before.status ∈ [DeliveryStatus.assigned, .accepted])
      (free : after.status = .unassigned)
  | passOn (open_ : before.status ∈ [DeliveryStatus.assigned, .accepted])
      (offered : after.status = .assigned) (another : after.driverId ≠ before.driverId)

/-- What was picked up or delivered has not become less. -/
def NotBack (before after : Delivery) : Prop :=
  (before.status = .delivered → after.status = .delivered) ∧
    (before.status = .pickedUp → after.status ∈ [DeliveryStatus.pickedUp, .delivered])

/-- Every delivery is coherent. -/
def AllCoherent (s : State) : Prop :=
  ∀ orderId delivery, s.deliveries.find? orderId = some delivery → delivery.Coherent

/-- A relation between what there was and what there is of every delivery; none is lost. -/
def EachDelivery (R : Delivery → Delivery → Prop) (s next : State) : Prop :=
  ∀ orderId before, s.deliveries.find? orderId = some before →
    ∃ after, next.deliveries.find? orderId = some after ∧ R before after

/-- **The life of every delivery**: it is coherent in every state, moves only as it may, and is never
taken back once it is out or done. -/
structure Lifecycle (s : State) (labels : List (Operation × Timestamp)) : Prop where
  coherent : Always State.step AllCoherent s labels
  moves : Throughout State.step (fun s label => EachDelivery MayMove s (s.step label)) s labels
  onward : Onward State.step (EachDelivery NotBack) s labels

/-- An override that takes effect finds its delivery UNASSIGNED or ASSIGNED. -/
def Restrained (s : State) (label : Operation × Timestamp) : Prop :=
  ∀ orderId delivery, Overrides s orderId delivery label.1 →
    delivery.status ∈ [DeliveryStatus.unassigned, .assigned]

/-! ### One step -/

/-- The invariant: coherence, and that an acceptance has its time. -/
structure Delivery.Sound (delivery : Delivery) : Prop where
  coherent : delivery.Coherent
  taken : delivery.status = .accepted → delivery.acceptedAt.isSome

def AllSound (s : State) : Prop :=
  ∀ orderId delivery, s.deliveries.find? orderId = some delivery → delivery.Sound

/-- A delivery that is offered, or announced without a driver. -/
theorem offer_sound {delivery : Delivery} (status : Option DeliveryStatus) (name : Option String)
    (driver : Option Driver) (now : Timestamp) (free : delivery.status = .unassigned) (nobody : delivery.driverId = none)
    (accepted : delivery.acceptedAt = none) (pickedUp : delivery.pickedUpAt = none)
    (delivered : delivery.deliveredAt = none) : (offer delivery status name driver now).delivery.Sound := by
  cases driver with
  | none =>
    exact ⟨⟨by simp [offer, free, nobody], by simp [offer, accepted], by simp [offer, free, pickedUp],
      by simp [offer, free, delivered]⟩, by simp [offer, free]⟩
  | some driver =>
    exact ⟨⟨by simp [offer], by simp [offer, accepted], by simp [offer, pickedUp],
      by simp [offer, delivered]⟩, by simp [offer]⟩

/-- **A driver's action keeps a delivery sound.** -/
theorem Moved.sound {orderId : Nat} {before : Option Delivery} {after : Delivery}
    (moved : Moved orderId before after) (sound : ∀ delivery ∈ before, delivery.Sound) :
    after.Sound := by
  cases moved with
  | assigned snapshot name driver now => exact offer_sound none name driver now rfl rfl rfl rfl rfl
  | accepted delivery now offered =>
    obtain ⟨⟨driver, _, out, done⟩, _⟩ := sound delivery rfl
    simp only [offered] at driver out done
    exact ⟨⟨by simpa using driver, by simp, by simpa using out, by simpa using done⟩, by simp⟩
  | rejected delivery driverId name driver now mine open_ another =>
    obtain ⟨⟨_, _, out, done⟩, _⟩ := sound delivery rfl
    have not_out : delivery.pickedUpAt = none := by
      rcases List.mem_pair.mp open_ with status | status <;> simpa [status] using out
    have not_done : delivery.deliveredAt = none := by
      rcases List.mem_pair.mp open_ with status | status <;> simpa [status] using done
    exact offer_sound _ name driver now rfl rfl rfl not_out not_done
  | pickedUp delivery now open_ =>
    obtain ⟨⟨driver, _, _, done⟩, _⟩ := sound delivery rfl
    have somebody : delivery.driverId ≠ none := by
      rcases List.mem_pair.mp open_ with status | status <;> simpa [status] using driver
    have not_done : delivery.deliveredAt = none := by
      rcases List.mem_pair.mp open_ with status | status <;> simpa [status] using done
    exact ⟨⟨by simpa using somebody, by simp, by simp, by simp [not_done]⟩, by simp⟩
  | delivered delivery now out =>
    obtain ⟨⟨driver, _, picked, _⟩, _⟩ := sound delivery rfl
    simp only [out] at driver picked
    exact ⟨⟨by simpa using driver, by simp, by simpa using picked, by simp⟩, by simp⟩

/-- An override of a delivery that nobody has accepted keeps it sound. -/
theorem reassigned_sound {delivery : Delivery} (snapshot : Option OrderSnapshot) (newDriverId : Nat)
    (now : Timestamp) (sound : delivery.Sound)
    (open_ : delivery.status ∈ [DeliveryStatus.unassigned, .assigned]) :
    (reassigned snapshot newDriverId now delivery).delivery.Sound := by
  obtain ⟨⟨_, taken, out, done⟩, _⟩ := sound
  have not_taken := taken open_
  have not_out : delivery.pickedUpAt = none := by
    rcases List.mem_pair.mp open_ with status | status <;> simpa [status] using out
  have not_done : delivery.deliveredAt = none := by
    rcases List.mem_pair.mp open_ with status | status <;> simpa [status] using done
  cases snapshot with
  | none =>
    exact ⟨⟨by simp [reassigned], by simp [reassigned, not_taken], by simp [reassigned, not_out],
      by simp [reassigned, not_done]⟩, by simp [reassigned]⟩
  | some snapshot =>
    exact ⟨⟨by simp [reassigned], by simp [reassigned, not_taken], by simp [reassigned, not_out],
      by simp [reassigned, not_done]⟩, by simp [reassigned]⟩

/-- And of any other delivery takes its coherence. -/
theorem reassigned_not_coherent {delivery : Delivery} (snapshot : Option OrderSnapshot)
    (newDriverId : Nat) (now : Timestamp) (sound : delivery.Sound)
    (moved : delivery.status ∉ [DeliveryStatus.unassigned, .assigned]) :
    ¬ (reassigned snapshot newDriverId now delivery).delivery.Coherent := by
  intro coherent
  have accepted : delivery.acceptedAt = none := by
    cases snapshot <;> simpa [reassigned] using coherent.accepted
  have pickedUp : delivery.pickedUpAt = none := by
    cases snapshot <;> simpa [reassigned] using coherent.pickedUp
  have taken := sound.taken
  have out := sound.coherent.pickedUp
  rw [accepted] at taken
  rw [pickedUp] at out
  revert moved taken out
  cases delivery.status <;> simp

theorem allSound_step (s : State) (label : Operation × Timestamp) (sound : AllSound s)
    (restrained : Restrained s label) : AllSound (s.step label) := by
  intro orderId delivery found
  cases s.changed label orderId with
  | same row events =>
    rw [row] at found
    exact sound orderId delivery found
  | moved after moves row events =>
    rw [row] at found
    cases found
    exact moves.sound fun before present => sound orderId before present
  | overridden before snapshot newDriverId now overrides row events =>
    rw [row] at found
    cases found
    have present := found_of_overrides overrides
    exact reassigned_sound snapshot newDriverId now (sound orderId before present)
      (restrained orderId before overrides)

/-- **A driver's action moves a delivery as it may.** -/
theorem Moved.mayMove {orderId : Nat} {before after : Delivery}
    (moved : Moved orderId (some before) after) : MayMove before after := by
  cases moved with
  | accepted _ now offered => exact .accept offered rfl
  | rejected _ driverId name driver now mine open_ another =>
    cases driver with
    | none => exact .release open_ rfl
    | some driver =>
      refine .passOn open_ rfl fun same => another driver rfl ?_
      exact Option.some.inj (same.trans mine)
  | pickedUp _ now open_ => exact .pickUp open_ rfl
  | delivered _ now out => exact .deliver out rfl

theorem reassigned_mayMove {delivery : Delivery} (snapshot : Option OrderSnapshot)
    (newDriverId : Nat) (now : Timestamp)
    (open_ : delivery.status ∈ [DeliveryStatus.unassigned, .assigned]) :
    MayMove delivery (reassigned snapshot newDriverId now delivery).delivery := by
  have offered : (reassigned snapshot newDriverId now delivery).delivery.status = .assigned := by
    cases snapshot <;> rfl
  rcases List.mem_pair.mp open_ with status | status
  · exact .assign status offered
  · exact .stay (offered.trans status.symm)

theorem MayMove.notBack {before after : Delivery} (moves : MayMove before after) :
    NotBack before after := by
  unfold NotBack
  cases moves with
  | stay same => simp +contextual [same]
  | assign free offered => simp [free]
  | accept offered taken => simp [offered]
  | pickUp open_ out => rcases List.mem_pair.mp open_ with status | status <;> simp [status]
  | deliver out done => simp [out, done]
  | release open_ free => rcases List.mem_pair.mp open_ with status | status <;> simp [status]
  | passOn open_ offered another =>
    rcases List.mem_pair.mp open_ with status | status <;> simp [status]

theorem mayMove_step (s : State) (label : Operation × Timestamp) (restrained : Restrained s label) :
    EachDelivery MayMove s (s.step label) := by
  intro orderId before found
  cases s.changed label orderId with
  | same row events => exact ⟨before, row.trans found, .stay rfl⟩
  | moved after moves row events =>
    rw [found] at moves
    exact ⟨after, row, moves.mayMove⟩
  | overridden delivery snapshot newDriverId now overrides row events =>
    have present := found_of_overrides overrides
    rw [found] at present
    cases present
    exact ⟨_, row, reassigned_mayMove snapshot newDriverId now (restrained orderId before overrides)⟩

/-! ### Runs -/

theorem EachDelivery.mono {R Q : Delivery → Delivery → Prop} {s next : State}
    (weaker : ∀ before after, R before after → Q before after) (each : EachDelivery R s next) :
    EachDelivery Q s next := by
  intro orderId before found
  obtain ⟨after, row, related⟩ := each orderId before found
  exact ⟨after, row, weaker before after related⟩

theorem eachDelivery_notBack_refl (s : State) : EachDelivery NotBack s s :=
  fun _ before found => ⟨before, found, id, fun out => by simp [out]⟩

theorem eachDelivery_notBack_trans (s middle next : State) (first : EachDelivery NotBack s middle)
    (second : EachDelivery NotBack middle next) : EachDelivery NotBack s next := by
  intro orderId before found
  obtain ⟨between, row, done, out⟩ := first orderId before found
  obtain ⟨after, row', done', out'⟩ := second orderId between row
  refine ⟨after, row', fun status => done' (done status), fun status => ?_⟩
  rcases List.mem_pair.mp (out status) with still | became
  · exact out' still
  · exact List.mem_pair.mpr (Or.inr (done' became))

/-- **When every delivery keeps to its life**: exactly when every override that takes effect finds its
delivery UNASSIGNED or ASSIGNED. -/
theorem lifecycle_iff (labels : List (Operation × Timestamp)) :
    Lifecycle .empty labels ↔ Throughout State.step Restrained .empty labels := by
  have start : AllSound State.empty := fun _ _ found => by cases found
  have coherent_iff : Always State.step AllCoherent .empty labels ↔
      Throughout State.step Restrained .empty labels := by
    refine always_iff_throughout allSound_step
      (fun s sound orderId delivery found => (sound orderId delivery found).coherent) ?_ start
    intro s label sound unrestrained coherent
    simp only [Restrained, not_forall] at unrestrained
    obtain ⟨orderId, delivery, overrides, moved⟩ := unrestrained
    obtain ⟨snapshot, newDriverId, row⟩ := step_of_overrides label.2 overrides
    exact reassigned_not_coherent snapshot newDriverId label.2
      (sound orderId delivery (found_of_overrides overrides)) moved (coherent orderId _ row)
  constructor
  · exact fun life => coherent_iff.mp life.coherent
  · intro restrained
    have moves := restrained.mono mayMove_step
    refine ⟨coherent_iff.mpr restrained, moves, ?_⟩
    refine (onward_iff_throughout eachDelivery_notBack_refl eachDelivery_notBack_trans).mpr ?_
    exact moves.mono fun s label each => each.mono fun _ _ move => move.notBack

/-! ### An order handed to somebody else -/

/-- A driver, and an order that is ready for pickup. -/
def offeredToOne : List (Operation × Timestamp) :=
  [ (.applyUserEvent { userId := some 4, role := some "driver" }, 0),
    (.applyUserEvent { userId := some 5, role := some "driver" }, 0),
    (.assignForOrder 1 none, 10) ]

/-- **A delivery that is out goes back to being offered.** The driver has picked the order up; an
override offers it to another, and its pickup time stays. -/
theorem pickedUp_offeredAgain : ¬ ∀ labels, Lifecycle .empty labels := by
  intro always
  have last := (always (offeredToOne ++ [(.acceptAssignment 4 1, 20), (.pickup 4 1, 30),
    (.reassignDeliveryForOrder ⟨1, "admin"⟩ 1 5, 40)])).coherent.last
  have coherent := last 1 _ rfl
  have out := coherent.pickedUp.mp (by decide)
  exact absurd out (by decide)

end FoodDelivery.Deliveries
