/-
**The orders service's copy of the address book.**

The users service records an `address-events` row for an address that is added or edited, and the orders
service keeps a snapshot of the last one. `copied` is the orders service once all rows recorded so far
have been applied in their order.

`addressesAgree_always_iff`: through a run of the address book, a checkout accepts exactly the addresses
that are there and its customer's own, with their current city and point, if and only if no address is
ever deleted. A deletion announces nothing, so the snapshot stays (`deletedAddress_accepted`); every
other step keeps the snapshots a mirror of the address book (`Mirrors`).
-/

import FoodDelivery.Lib.Mirrors
import FoodDelivery.Lib.Runs
import FoodDelivery.Orders.Consumer
import FoodDelivery.Users.Profile

set_option autoImplicit false

namespace FoodDelivery.ReadModels

open FoodDelivery.Lib

/-! ### The address book -/

/-- What its users do to the address book. -/
inductive AddressOperation where
  | addAddress (user : Nat) (data : Users.AddressCreate) (geocode : Users.Geocoder) (gap : Nat)
  | updateAddress (user addressId : Nat) (data : Users.AddressUpdate) (geocode : Users.Geocoder)
  | deleteAddress (user addressId : Nat)

def AddressOperation.outcome (u : Users.State) : AddressOperation → Except Raised Users.State
  | .addAddress user data geocode gap => Users.addAddress u user data geocode gap
  | .updateAddress user addressId data geocode => Users.updateAddress u user addressId data geocode
  | .deleteAddress user addressId => Users.deleteAddress u user addressId

/-- One operation; what raises is rolled back. -/
def addressStep (u : Users.State) (op : AddressOperation) : Users.State :=
  match op.outcome u with
  | .ok next => next
  | .error _ => u

/-! ### The copy -/

/-- A row of `address-events`, as the orders service reads it. -/
def addressPayload (event : Users.AddressEvent) : Orders.AddressEvent where
  addressId := some event.addressId
  userId := some event.userId
  city := some event.city
  latitude := event.latitude
  longitude := event.longitude

/-- The address-events payload of an outbox row, when that is its topic. -/
def addressEvent? : Users.OutboxEvent → Option Orders.AddressEvent
  | .addressEvents payload => some (addressPayload payload)
  | _ => none

/-- The orders service, with no snapshot to begin with, after all rows recorded so far. -/
def copied (o : Orders.State) (u : Users.State) : Orders.State :=
  (u.outbox.filterMap addressEvent?).foldl Orders.applyAddressEvent { o with addresses := .empty }

/-- **The copy is as good as the address book**: whatever cart passes its own checks, a checkout gets
past the address exactly when it is there and the customer's own, and it asks the restaurants service
about the city and the point that the address has now. -/
structure AddressesAgree (u : Users.State) (o : Orders.State) : Prop where
  accepts : ∀ (customerId : Nat) (cart : Orders.CartView) (request : Orders.CheckoutRequest)
    (restaurantId : Nat), Orders.checkoutCart cart request = .ok restaurantId →
    ((∃ body, Orders.checkoutCall o cart customerId request = .ok (restaurantId, body)) ↔
      ∃ address, u.addresses.find? request.addressId = some address ∧ address.userId = customerId)
  sends : ∀ (customerId : Nat) (cart : Orders.CartView) (request : Orders.CheckoutRequest)
    (restaurantId : Nat) (body : Orders.ValidateRequest) (address : Users.Address),
    Orders.checkoutCall o cart customerId request = .ok (restaurantId, body) →
    u.addresses.find? request.addressId = some address →
    body.city = address.city ∧ body.latitude = address.latitude ∧ body.longitude = address.longitude

/-- Nobody deletes an address of their own. -/
def NotDeleted (u : Users.State) : AddressOperation → Prop
  | .deleteAddress user addressId =>
    ∀ address, u.addresses.find? addressId = some address → address.userId ≠ user
  | _ => True

/-! ### The mirror -/

/-- The snapshot of an address. -/
def snapshotOf (address : Users.Address) : Option Orders.AddressSnapshot :=
  some
    { addressId := address.id
      userId := address.userId
      city := address.city
      latitude := address.latitude
      longitude := address.longitude }

/-- Every address has its snapshot, and nothing else has one. -/
def AddressesMirrored (o : Orders.State) (u : Users.State) : Prop :=
  Mirrors snapshotOf u.addresses (copied o u).addresses

variable {o : Orders.State} {u next : Users.State}

/-- **An announcement overwrites the whole snapshot.** -/
theorem applyAddressEvent_publish (o : Orders.State) (address : Users.Address) :
    ∀ event, addressEvent? (Users.publishAddress address) = some event → ∃ snapshot,
      snapshotOf address = some snapshot ∧ snapshot.addressId = address.id ∧
        (Orders.applyAddressEvent o event).addresses = o.addresses.put snapshot := by
  rintro event sent
  cases sent
  refine ⟨_, rfl, rfl, ?_⟩
  show Table.put _ _ = _
  congr 1
  cases found : o.addresses.find? address.id with
  | none => simp [addressPayload]
  | some old => simpa [addressPayload, found] using Table.key_of_find? found

theorem copied_publish {address : Users.Address}
    (outbox : next.outbox = u.outbox ++ [Users.publishAddress address]) : ∃ snapshot,
    snapshotOf address = some snapshot ∧ snapshot.addressId = address.id ∧
      (copied o next).addresses = (copied o u).addresses.put snapshot := by
  obtain ⟨snapshot, seen, own, addresses⟩ :=
    applyAddressEvent_publish (copied o u) address _ rfl
  refine ⟨snapshot, seen, own, ?_⟩
  rw [← addresses]
  unfold copied
  rw [outbox, List.filterMap_append, List.foldl_append]
  rfl

/-- Which address is the default makes no difference to the snapshots. -/
theorem mirrors_clearDefault {addresses : Table Nat Users.Address Users.Address.id}
    {copy : Table Nat Orders.AddressSnapshot Orders.AddressSnapshot.addressId}
    (mirrors : Mirrors snapshotOf addresses copy) (user : Nat) :
    Mirrors snapshotOf (Users.clearDefault addresses user) copy := by
  apply mirrors.modify
  intro address
  unfold snapshotOf
  split <;> rfl

theorem addressesMirrored_empty (o : Orders.State) : AddressesMirrored o .empty :=
  mirrors_empty snapshotOf

/-- **Adding and editing keep the mirror.** -/
theorem addressesMirrored_put {user : Nat} {address : Users.Address}
    {addresses : Table Nat Users.Address Users.Address.id} (mirrored : AddressesMirrored o u)
    (before : addresses = u.addresses ∨ addresses = Users.clearDefault u.addresses user)
    (written : next.addresses = addresses.put address)
    (outbox : next.outbox = u.outbox ++ [Users.publishAddress address]) :
    AddressesMirrored o next := by
  obtain ⟨snapshot, seen, own, copy⟩ := copied_publish (o := o) outbox
  have still : Mirrors snapshotOf addresses (copied o u).addresses := by
    rcases before with rfl | rfl
    · exact mirrored
    · exact mirrors_clearDefault mirrored user
  unfold AddressesMirrored
  rw [written, copy]
  exact still.put seen own

theorem addressesMirrored_step {op : AddressOperation} (mirrored : AddressesMirrored o u)
    (kept : NotDeleted u op) : AddressesMirrored o (addressStep u op) := by
  unfold addressStep
  cases outcome : op.outcome u with
  | error raised => exact mirrored
  | ok next =>
    cases op with
    | addAddress user data geocode gap =>
      obtain ⟨address, addresses, before, written, outbox⟩ := Users.addAddress_ok outcome
      exact addressesMirrored_put mirrored before written outbox
    | updateAddress user addressId data geocode =>
      obtain ⟨address, addresses, before, written, outbox⟩ := Users.updateAddress_ok outcome
      exact addressesMirrored_put mirrored before written outbox
    | deleteAddress user addressId =>
      change Users.deleteAddress u user addressId = .ok next at outcome
      rcases Users.deleteAddress_cases u user addressId with ⟨raised, refused, _⟩ | ⟨address, found, own, _⟩
      · rw [refused] at outcome
        cases outcome
      · exact absurd own (kept address found)

/-! ### The mirror is what a checkout needs -/

theorem checkoutCall_ok {cart : Orders.CartView} {customerId restaurantId : Nat}
    {request : Orders.CheckoutRequest} {body : Orders.ValidateRequest}
    (passes : Orders.checkoutCart cart request = .ok restaurantId) :
    Orders.checkoutCall o cart customerId request = .ok (restaurantId, body) ↔
      ∃ snapshot, o.addresses.find? request.addressId = some snapshot ∧
        snapshot.userId = customerId ∧
        body =
          { items := cart.items.map fun i => ⟨i.menuItemId, i.quantity, i.unitPrice⟩
            city := snapshot.city
            latitude := snapshot.latitude
            longitude := snapshot.longitude
            reserve := true } := by
  rw [Orders.checkoutCall_ok, and_iff_right passes, Orders.checkoutAddress_ok]

/-- **A mirror agrees.** -/
theorem addressesAgree_of_mirrored (mirrored : AddressesMirrored o u) :
    AddressesAgree u (copied o u) := by
  have looks : ∀ addressId, (copied o u).addresses.find? addressId =
      (u.addresses.find? addressId).bind snapshotOf := mirrored
  constructor
  · intro customerId cart request restaurantId passes
    simp only [checkoutCall_ok passes]
    rw [looks]
    cases u.addresses.find? request.addressId with
    | none => simp
    | some address => simp [snapshotOf]
  · intro customerId cart request restaurantId body address sent found
    have passes : Orders.checkoutCart cart request = .ok restaurantId :=
      (Orders.checkoutCall_ok.mp sent).1
    obtain ⟨snapshot, copy, _, rfl⟩ := (checkoutCall_ok passes).mp sent
    rw [looks, found] at copy
    cases copy
    exact ⟨rfl, rfl, rfl⟩

/-- A cart of one dish, whose customer has seen its price. -/
def oneDish : Orders.CartView := { restaurantId := some 3, items := [⟨1, "Thali", 20000, 1, 20000⟩] }

/-- **A deletion leaves a snapshot of nothing.** -/
theorem not_agree_of_deleted {op : AddressOperation} (mirrored : AddressesMirrored o u)
    (deletes : ¬ NotDeleted u op) :
    ¬ AddressesAgree (addressStep u op) (copied o (addressStep u op)) := by
  cases op with
  | addAddress user data geocode gap => exact absurd trivial deletes
  | updateAddress user addressId data geocode => exact absurd trivial deletes
  | deleteAddress user addressId =>
    rcases Users.deleteAddress_cases u user addressId with ⟨_, _, others⟩ | ⟨address, found, own, result⟩
    · exact absurd others deletes
    · have stepped : addressStep u (.deleteAddress user addressId) =
          { u with addresses := u.addresses.filter fun other => other.id ≠ addressId } := by
        unfold addressStep
        rw [show (AddressOperation.deleteAddress user addressId).outcome u = _ from result]
      rw [stepped]
      intro agree
      have before := (addressesAgree_of_mirrored mirrored).accepts user oneDish
        { addressId := addressId, priceHash := "" } 3 rfl
      have after := agree.accepts user oneDish { addressId := addressId, priceHash := "" } 3 rfl
      have accepted := after.mp (before.mpr ⟨address, found, own⟩)
      obtain ⟨ghost, there, _⟩ := accepted
      obtain ⟨member, same⟩ := Table.find?_eq_some.mp there
      have other : ghost.id ≠ addressId := of_decide_eq_true (List.mem_filter.mp member).2
      exact other same

/-- **When the copied address book is as good as the real one.** A run from an empty address book, with
all its events applied, keeps checkouts in agreement with it exactly when no address is ever deleted by
its owner. -/
theorem addressesAgree_always_iff (o : Orders.State) (ops : List AddressOperation) :
    Always addressStep (fun u => AddressesAgree u (copied o u)) .empty ops ↔
      Throughout addressStep NotDeleted .empty ops := by
  refine always_iff_throughout (Q := AddressesMirrored o) (fun u op mirrored kept => ?_)
    (fun u mirrored => ?_) (fun u op mirrored deletes => ?_) (addressesMirrored_empty o)
  · exact addressesMirrored_step mirrored kept
  · exact addressesAgree_of_mirrored mirrored
  · exact not_agree_of_deleted mirrored deletes

/-- A customer adds an address; nothing is found for it on the map. -/
def addedAddress : AddressOperation :=
  .addAddress 7 { line1 := "12 MG Road", city := "Pune", postalCode := "411001" }
    (fun _ _ _ => .ok none) 0

/-- **A checkout for an address that is not there.** It is added and deleted again. -/
theorem deletedAddress_accepted : ¬ ∀ (o : Orders.State) (ops : List AddressOperation),
    Always addressStep (fun u => AddressesAgree u (copied o u)) .empty ops := by
  intro always
  have agree := (always .empty [addedAddress, .deleteAddress 7 1]).last
  have added : AddressesMirrored .empty (addressStep .empty addedAddress) :=
    addressesMirrored_step (addressesMirrored_empty .empty) trivial
  have deletes : ¬ NotDeleted (addressStep .empty addedAddress) (.deleteAddress 7 1) := by
    intro kept
    exact kept
      { id := 1, userId := 7, line1 := "12 MG Road", city := "Pune", postalCode := "411001" }
      (by decide) rfl
  exact not_agree_of_deleted added deletes agree

end FoodDelivery.ReadModels
