/-
**Profiles and addresses** (`services/users/app/profile.py`).

A request's field that was not sent and one that was sent as null mean the same, "leave this alone",
and are `none`; `line2` is the one that a null clears. The geocoder is a parameter: what it answers for a
street line, a city and a postal code, or what it raises.
-/

import FoodDelivery.Lib.Outcomes
import FoodDelivery.Users.Model

set_option autoImplicit false

namespace FoodDelivery.Users

open FoodDelivery.Lib

def conflictException (message : String) : AppException where
  message := message
  statusCode := 409

/-! ### The profile -/

structure UserUpdate where
  firstName : Option String := none
  lastName : Option String := none
  phone : Option String := none
deriving DecidableEq, Repr

/-- The phone is another one and somebody has it. -/
def phoneTaken (s : State) (user : User) (data : UserUpdate) : Bool :=
  match data.phone with
  | none => false
  | some phone => phone ≠ user.phone && (s.users.first? fun other => other.phone = phone).isSome

/-- `setattr` for every field that was sent. -/
def UserUpdate.apply (data : UserUpdate) (user : User) : User :=
  { user with
    firstName := data.firstName.getD user.firstName
    lastName := data.lastName.getD user.lastName
    phone := data.phone.getD user.phone }

/-- Apply profile edits. `user` is the caller's row as it was read; `lostRace` says that another
transaction took the phone between the check and the commit. -/
def updateProfile (s : State) (user : User) (data : UserUpdate) (lostRace : Bool) :
    Except Raised State :=
  if phoneTaken s user data then .error (.app (conflictException "Phone already registered"))
  else if lostRace then .error (.app (conflictException "Phone already registered"))
  else .ok { s with users := s.users.put (data.apply user) }

/-! ### Addresses -/

structure AddressCreate where
  label : String := "home"
  line1 : String
  line2 : Option String := none
  city : String
  postalCode : String
  isDefault : Bool := false
deriving DecidableEq, Repr

/-- `line2` is `none` when it was not sent, and `some none` when it is to be cleared. -/
structure AddressUpdate where
  label : Option String := none
  line1 : Option String := none
  line2 : Option (Option String) := none
  city : Option String := none
  postalCode : Option String := none
  isDefault : Option Bool := none
deriving DecidableEq, Repr

/-- The geocoder, for `line1`, `city` and `postal_code`. -/
abbrev Geocoder := String → String → String → Except Raised (Option Coordinate)

/-- `_clear_default`: none of the caller's addresses is the default. -/
def clearDefault (addresses : Table Nat Address Address.id) (user : Nat) :
    Table Nat Address Address.id :=
  addresses.modify
    (fun address =>
      if address.userId = user ∧ address.isDefault then { address with isDefault := false }
      else address)
    (fun address => by split <;> rfl)

/-- `publish_address`. -/
def publishAddress (address : Address) : OutboxEvent :=
  .addressEvents
    { addressId := address.id
      userId := address.userId
      city := address.city
      latitude := address.latitude
      longitude := address.longitude }

/-- Create an address for the user. Setting it default unsets any other. `gap` is the number of ids that
were handed out since and rolled back. -/
def addAddress (s : State) (user : Nat) (data : AddressCreate) (geocode : Geocoder) (gap : Nat) :
    Except Raised State := do
  let addresses := if data.isDefault then clearDefault s.addresses user else s.addresses
  let point ← geocode data.line1 data.city data.postalCode
  let address : Address :=
    { id := s.lastAddressId + gap + 1
      userId := user
      label := data.label
      line1 := data.line1
      line2 := data.line2
      city := data.city
      postalCode := data.postalCode
      isDefault := data.isDefault
      latitude := point.map Coordinate.latitude
      longitude := point.map Coordinate.longitude }
  return { s with
    addresses := addresses.put address
    outbox := s.outbox ++ [publishAddress address]
    lastAddressId := address.id }

/-- `_owned_address`: 404 for one that is not there or not the caller's. -/
def ownedAddress (s : State) (user addressId : Nat) : Except Raised Address :=
  match s.addresses.find? addressId with
  | none => .error (.app (notFoundException "Address" (toString addressId)))
  | some address =>
    if address.userId ≠ user then
      .error (.app (notFoundException "Address" (toString addressId)))
    else .ok address

/-- A location field was sent and is another one. -/
def AddressUpdate.moves (data : AddressUpdate) (address : Address) : Bool :=
  data.line1.getD address.line1 ≠ address.line1 || data.city.getD address.city ≠ address.city ||
    data.postalCode.getD address.postalCode ≠ address.postalCode

/-- `setattr` for every field that was sent. -/
def AddressUpdate.apply (data : AddressUpdate) (address : Address) : Address :=
  { address with
    label := data.label.getD address.label
    line1 := data.line1.getD address.line1
    line2 := data.line2.getD address.line2
    city := data.city.getD address.city
    postalCode := data.postalCode.getD address.postalCode
    isDefault := data.isDefault.getD address.isDefault }

/-- The address at the point that the geocoder finds for it, when it moved. -/
def AddressUpdate.relocate (data : AddressUpdate) (geocode : Geocoder) (before edited : Address) :
    Except Raised Address :=
  if data.moves before then do
    let point ← geocode edited.line1 edited.city edited.postalCode
    return { edited with
      latitude := point.map Coordinate.latitude
      longitude := point.map Coordinate.longitude }
  else .ok edited

/-- Apply partial edits to an address the user owns. It is geocoded again only when it moved, and a
geocode that fails clears the old point. -/
def updateAddress (s : State) (user addressId : Nat) (data : AddressUpdate) (geocode : Geocoder) :
    Except Raised State := do
  let address ← ownedAddress s user addressId
  let addresses := if data.isDefault = some true then clearDefault s.addresses user else s.addresses
  let placed ← data.relocate geocode address (data.apply address)
  return { s with
    addresses := addresses.put placed
    outbox := s.outbox ++ [publishAddress placed] }

/-- Delete an address the user owns. -/
def deleteAddress (s : State) (user addressId : Nat) : Except Raised State := do
  let address ← ownedAddress s user addressId
  return { s with addresses := s.addresses.filter fun other => other.id ≠ address.id }

/-! ### What they do -/

variable {s next : State} {user addressId : Nat}

theorem ownedAddress_ok {address : Address} :
    ownedAddress s user addressId = .ok address ↔
      s.addresses.find? addressId = some address ∧ address.userId = user := by
  unfold ownedAddress
  cases s.addresses.find? addressId with
  | none => simp
  | some found =>
    by_cases own : found.userId = user
    · simp only [own, ne_eq, not_true_eq_false, if_false, Except.ok.injEq, Option.some.injEq]
      constructor
      · rintro rfl
        exact ⟨rfl, own⟩
      · exact fun both => both.1
    · simp only [own, ne_eq, not_false_eq_true, if_true, reduceCtorEq, Option.some.injEq, false_iff,
        not_and]
      rintro rfl
      exact own

/-- **What adding an address writes**: the address, one event of it, and nothing but defaults of the
others. -/
theorem addAddress_ok {data : AddressCreate} {geocode : Geocoder} {gap : Nat}
    (outcome : addAddress s user data geocode gap = .ok next) : ∃ address addresses,
    (addresses = s.addresses ∨ addresses = clearDefault s.addresses user) ∧
      next.addresses = addresses.put address ∧ next.outbox = s.outbox ++ [publishAddress address] := by
  obtain ⟨point, _, rest⟩ := bind_eq_ok.mp outcome
  cases rest
  refine ⟨_, _, ?_, rfl, rfl⟩
  split
  · exact Or.inr rfl
  · exact Or.inl rfl

/-- **So does editing one.** -/
theorem updateAddress_ok {data : AddressUpdate} {geocode : Geocoder}
    (outcome : updateAddress s user addressId data geocode = .ok next) : ∃ address addresses,
    (addresses = s.addresses ∨ addresses = clearDefault s.addresses user) ∧
      next.addresses = addresses.put address ∧ next.outbox = s.outbox ++ [publishAddress address] := by
  obtain ⟨address, _, rest⟩ := bind_eq_ok.mp outcome
  obtain ⟨placed, _, rest⟩ := bind_eq_ok.mp rest
  cases rest
  refine ⟨_, _, ?_, rfl, rfl⟩
  split
  · exact Or.inr rfl
  · exact Or.inl rfl

/-- **Deleting one** is refused to everybody but its owner, and announces nothing. -/
theorem deleteAddress_cases (s : State) (user addressId : Nat) :
    (∃ raised, deleteAddress s user addressId = .error raised ∧
      ∀ address, s.addresses.find? addressId = some address → address.userId ≠ user) ∨
    ∃ address, s.addresses.find? addressId = some address ∧ address.userId = user ∧
      deleteAddress s user addressId =
        .ok { s with addresses := s.addresses.filter fun other => other.id ≠ addressId } := by
  cases owned : ownedAddress s user addressId with
  | error raised =>
    refine Or.inl ⟨raised, by simp [deleteAddress, owned, bind, Except.bind], fun address found own => ?_⟩
    rw [ownedAddress_ok.mpr ⟨found, own⟩] at owned
    cases owned
  | ok address =>
    obtain ⟨found, own⟩ := ownedAddress_ok.mp owned
    refine Or.inr ⟨address, found, own, ?_⟩
    simp [deleteAddress, owned, bind, Except.bind, pure, Except.pure, Table.key_of_find? found]

/-- **A profile edit** is refused, or writes the edited row and announces nothing. -/
theorem updateProfile_cases (s : State) (user : User) (data : UserUpdate) (lostRace : Bool) :
    (∃ raised, updateProfile s user data lostRace = .error raised ∧
      (phoneTaken s user data = true ∨ lostRace = true)) ∨
    (phoneTaken s user data = false ∧ lostRace = false ∧
      updateProfile s user data lostRace = .ok { s with users := s.users.put (data.apply user) }) := by
  unfold updateProfile
  by_cases taken : phoneTaken s user data = true
  · exact Or.inl ⟨_, if_pos taken, Or.inl taken⟩
  · by_cases lost : lostRace = true
    · exact Or.inl ⟨_, by rw [if_neg taken, if_pos lost], Or.inr lost⟩
    · refine Or.inr ⟨eq_false_of_ne_true taken, eq_false_of_ne_true lost, ?_⟩
      rw [if_neg taken, if_neg lost]

end FoodDelivery.Users
