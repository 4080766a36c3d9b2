/-
**Accounts** (`services/users/app/service.py`): registration, and the operator's decision on a
restaurant applicant.

Passwords are hashed by a library; what it answers for the new password is a parameter.
-/

import FoodDelivery.Users.Profile

set_option autoImplicit false

namespace FoodDelivery.Users

open FoodDelivery.Lib

/-! ### Requests -/

/-- The business a restaurant applicant is registering. -/
structure RestaurantSignup where
  name : String
  city : String
  addressLine : String
  phone : String
  cuisine : Option String := none
  description : Option String := none
  foodType : String := "both"
deriving DecidableEq, Repr

/-- A registration that its validators let through: an account for oneself, with the details of a
restaurant exactly when it is a restaurant's. -/
structure UserRegister where
  email : String
  phone : String
  firstName : String
  lastName : String
  role : Role := .customer
  restaurant : Option RestaurantSignup := none
  selfService : role ≠ .admin
  matches_role : restaurant.isSome ↔ role = .restaurant

/-! ### Announcements -/

/-- `publish_user`: who a user is to those who need it, and how to reach them to those who do. -/
def publishUser (user : User) : List OutboxEvent :=
  [ .userEvents
      { userId := user.id
        role := user.role
        firstName := user.firstName
        lastName := user.lastName
        isActive := user.isActive },
    .userContactEvents { userId := user.id, email := user.email, phone := user.phone } ]

/-- `publish_restaurant_registration`. -/
def publishRestaurantRegistration (user : User) (details : RestaurantSignup) : OutboxEvent :=
  .restaurantRegistrations
    { ownerId := user.id
      name := details.name
      city := details.city
      addressLine := details.addressLine
      phone := details.phone
      cuisine := details.cuisine
      description := details.description
      foodType := details.foodType }

/-! ### Operations -/

/-- Create a user with a hashed password. A restaurant applicant is created inactive. `gap` is the
number of ids that were handed out since and rolled back; `lostRace` says that another transaction took
the email or the phone between the check and the commit. -/
def registerUser (s : State) (data : UserRegister) (hashedPassword : String) (gap : Nat)
    (lostRace : Bool) : Except Raised State :=
  match s.users.first? fun other => other.email = data.email || other.phone = data.phone with
  | some existing =>
    if existing.email = data.email then
      .error (.app (conflictException "Email already registered"))
    else .error (.app (conflictException "Phone already registered"))
  | none =>
    if lostRace then .error (.app (conflictException "Email or phone already registered"))
    else
      let awaitingApproval := decide (data.role = .restaurant)
      let user : User :=
        { id := s.lastUserId + gap + 1
          email := data.email
          phone := data.phone
          firstName := data.firstName
          lastName := data.lastName
          hashedPassword := hashedPassword
          role := data.role
          isActive := !awaitingApproval
          approvalStatus := if awaitingApproval then some "pending" else none }
      .ok { s with
        users := s.users.put user
        outbox := s.outbox ++ publishUser user ++
          (data.restaurant.map (publishRestaurantRegistration user)).toList
        lastUserId := user.id }

/-- The account after an operator's decision: approval lets its owner in, and nothing shuts them
out. -/
def decided (user : User) (status : String) : User :=
  { user with
    approvalStatus := some status
    isActive := user.isActive || decide (status = "approved") }

/-- Mirror an operator's approval decision onto the owner's account. A decision that changes nothing is
not announced. -/
def applyRestaurantDecision (s : State) (ownerId : Nat) (status : String) : State :=
  match s.users.find? ownerId with
  | none => s
  | some user =>
    if user.role ≠ .restaurant then s
    else if (decided user status).isActive = user.isActive ∧
        (decided user status).approvalStatus = user.approvalStatus then s
    else
      { s with
        users := s.users.put (decided user status)
        outbox := s.outbox ++ publishUser (decided user status) }

/-! ### What they do -/

variable {s next : State}

/-- **What a registration writes**: the user, and the announcement of the user. -/
theorem registerUser_ok {data : UserRegister} {hashedPassword : String} {gap : Nat} {lostRace : Bool}
    (outcome : registerUser s data hashedPassword gap lostRace = .ok next) : ∃ user registration,
    user.id = s.lastUserId + gap + 1 ∧ next.users = s.users.put user ∧
      next.outbox = s.outbox ++ publishUser user ++ registration ∧
      next.lastUserId = user.id ∧ next.addresses = s.addresses ∧
      ∀ event ∈ registration, ∃ payload, event = .restaurantRegistrations payload := by
  unfold registerUser at outcome
  split at outcome
  · split at outcome
    · cases outcome
    · cases outcome
  · split at outcome
    · cases outcome
    · cases outcome
      refine ⟨_, _, rfl, rfl, rfl, rfl, rfl, fun event member => ?_⟩
      obtain ⟨details, _, rfl⟩ := Option.map_eq_some_iff.mp (Option.mem_toList.mp member)
      exact ⟨_, rfl⟩

/-- **A decision** leaves everything, or writes and announces a restaurant's account. -/
theorem applyRestaurantDecision_cases (s : State) (ownerId : Nat) (status : String) :
    applyRestaurantDecision s ownerId status = s ∨
    ∃ user, s.users.find? ownerId = some user ∧ user.role = .restaurant ∧
      applyRestaurantDecision s ownerId status =
        { s with
          users := s.users.put (decided user status)
          outbox := s.outbox ++ publishUser (decided user status) } := by
  unfold applyRestaurantDecision
  split
  · exact Or.inl rfl
  · rename_i user found
    split
    · exact Or.inl rfl
    · rename_i restaurant
      split
      · exact Or.inl rfl
      · exact Or.inr ⟨user, found, not_not.mp restaurant, rfl⟩

end FoodDelivery.Users
