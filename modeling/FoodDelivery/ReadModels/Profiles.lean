/-
**The copies of a user's profile.**

The users service announces a user on two topics: `user-events`, from which the orders service keeps a
customer's display name, and `user-contact-events`, from which the notifications service keeps the
email address and the phone number. `Copies` are both once all rows recorded so far have been applied in
their order.

`profilesAgree_always_iff`: through a run of registrations, profile edits and operators' decisions, every
user can be reached and every customer is shown as their row says if and only if no profile edit that
takes effect changes a phone number or a customer's display name. `update_profile` announces nothing,
where the other two announce every change they make (`renamed_not_shown`).
-/

import FoodDelivery.Lib.Mirrors
import FoodDelivery.Lib.Runs
import FoodDelivery.Notifications.Contacts
import FoodDelivery.Orders.Consumer
import FoodDelivery.Users.Service

set_option autoImplicit false

namespace FoodDelivery.ReadModels

open FoodDelivery.Lib

/-! ### The accounts -/

/-- What happens to the accounts. A profile edit is made by a signed-in user, whose row is read. -/
inductive ProfileOperation where
  | registerUser (data : Users.UserRegister) (hashedPassword : String) (gap : Nat) (lostRace : Bool)
  | updateProfile (userId : Nat) (data : Users.UserUpdate) (lostRace : Bool)
  | applyRestaurantDecision (ownerId : Nat) (status : String)

def profileStep (u : Users.State) : ProfileOperation → Users.State
  | .registerUser data hashedPassword gap lostRace =>
    match Users.registerUser u data hashedPassword gap lostRace with
    | .ok next => next
    | .error _ => u
  | .updateProfile userId data lostRace =>
    match u.users.find? userId with
    | none => u
    | some user =>
      match Users.updateProfile u user data lostRace with
      | .ok next => next
      | .error _ => u
  | .applyRestaurantDecision ownerId status => Users.applyRestaurantDecision u ownerId status

/-! ### The copies -/

/-- The orders service's customers and the notifications service's contacts. -/
structure Copies where
  orders : Orders.State
  contacts : Table Nat Notifications.Contact Notifications.Contact.userId

/-- A row of `user-events`, as the orders service reads it. -/
def userPayload (event : Users.UserEvent) : Orders.UserEvent where
  userId := some event.userId
  role := some event.role.value
  firstName := some event.firstName
  lastName := some event.lastName

/-- A row of `user-contact-events`, as the notifications service reads it. -/
def contactPayload (event : Users.ContactEvent) : Notifications.ContactEvent where
  userId := some event.userId
  email := some event.email
  phone := some event.phone

/-- An outbox row, applied by whoever listens to its topic. -/
def Copies.apply (c : Copies) : Users.OutboxEvent → Copies
  | .userEvents payload => { c with orders := Orders.applyUserEvent c.orders (userPayload payload) }
  | .userContactEvents payload =>
    { c with contacts := Notifications.handleContact c.contacts (contactPayload payload) }
  | .addressEvents _ => c
  | .restaurantRegistrations _ => c

/-- Both services, with nobody in them to begin with, after all rows recorded so far. -/
def copies (o : Orders.State) (u : Users.State) : Copies :=
  u.outbox.foldl Copies.apply { orders := { o with customers := .empty }, contacts := .empty }

/-- **The copies are as good as the rows**: every user has a contact with exactly their email and phone,
and every customer the display name that their names make. -/
structure ProfilesAgree (u : Users.State) (c : Copies) : Prop where
  contacts : ∀ userId user, u.users.find? userId = some user → c.contacts.find? userId =
    some { userId := userId, email := some user.email, phone := some user.phone }
  names : ∀ userId user, u.users.find? userId = some user → user.role = .customer →
    ∃ snapshot, c.orders.customers.find? userId = some snapshot ∧
      snapshot.displayName = Orders.displayName (some user.firstName) (some user.lastName)

/-- An edit that takes effect leaves the phone number, and a customer's display name. -/
def Unseen (u : Users.State) : ProfileOperation → Prop
  | .updateProfile userId data lostRace =>
    ∀ user, u.users.find? userId = some user → Users.phoneTaken u user data = false →
      lostRace = false →
      data.phone.getD user.phone = user.phone ∧
        (user.role = .customer →
          Orders.displayName (some (data.firstName.getD user.firstName))
              (some (data.lastName.getD user.lastName)) =
            Orders.displayName (some user.firstName) (some user.lastName))
  | _ => True

/-! ### The mirrors -/

def contactOf (user : Users.User) : Option Notifications.Contact :=
  some { userId := user.id, email := some user.email, phone := some user.phone }

/-- Only customers are copied. -/
def customerOf (user : Users.User) : Option Orders.CustomerSnapshot :=
  if user.role = .customer then
    some
      { userId := user.id
        displayName := Orders.displayName (some user.firstName) (some user.lastName) }
  else none

/-- Every user has their contact and every customer their snapshot, and nobody else has one; and the
sequence has passed every user. -/
structure ProfilesMirrored (o : Orders.State) (u : Users.State) : Prop where
  contacts : Mirrors contactOf u.users (copies o u).contacts
  customers : Mirrors customerOf u.users (copies o u).orders.customers
  passed : ∀ userId user, u.users.find? userId = some user → userId ≤ u.lastUserId

theorem profilesMirrored_empty (o : Orders.State) : ProfilesMirrored o .empty where
  contacts := mirrors_empty contactOf
  customers := mirrors_empty customerOf
  passed := by
    intro userId user found
    cases found

variable {o : Orders.State} {u next : Users.State}

/-- The orders service's half of an announcement. -/
theorem applyUserEvent_user (o : Orders.State) (user : Users.User) (isActive : Bool) :
    (Orders.applyUserEvent o (userPayload
        { userId := user.id, role := user.role, firstName := user.firstName
          lastName := user.lastName, isActive := isActive })).customers =
      match customerOf user with
      | some snapshot => o.customers.put snapshot
      | none => o.customers := by
  unfold Orders.applyUserEvent customerOf userPayload
  dsimp only
  by_cases customer : user.role = .customer
  · rw [if_pos customer, if_neg (by rw [customer]; decide)]
    dsimp only
    congr 1
    cases found : o.customers.find? user.id with
    | none => rfl
    | some old => simp [Table.key_of_find? found]
  · have other : some user.role.value ≠ some "customer" := by
      revert customer
      cases user.role <;> decide
    rw [if_neg customer, if_pos other]

/-- **An announcement copies the user as they are.** -/
theorem apply_publishUser (c : Copies) (user : Users.User) :
    ((Users.publishUser user).foldl Copies.apply c).contacts =
        c.contacts.put { userId := user.id, email := some user.email, phone := some user.phone } ∧
      ((Users.publishUser user).foldl Copies.apply c).orders.customers =
        match customerOf user with
        | some snapshot => c.orders.customers.put snapshot
        | none => c.orders.customers :=
  ⟨Notifications.handleContact_full c.contacts user.id user.email user.phone,
    applyUserEvent_user c.orders user user.isActive⟩

theorem customerOf_userId {user : Users.User} {snapshot : Orders.CustomerSnapshot}
    (seen : customerOf user = some snapshot) : snapshot.userId = user.id := by
  unfold customerOf at seen
  split at seen
  · cases seen
    rfl
  · cases seen

/-- The registration of a restaurant says nothing to either copy. -/
theorem apply_registrations {events : List Users.OutboxEvent} (c : Copies)
    (registers : ∀ event ∈ events, ∃ payload, event = .restaurantRegistrations payload) :
    events.foldl Copies.apply c = c := by
  induction events with
  | nil => rfl
  | cons event events ih =>
    obtain ⟨payload, rfl⟩ := registers event List.mem_cons_self
    exact ih fun other member => registers other (List.mem_cons_of_mem _ member)

/-- **A user who is written and announced stays mirrored.** A customer's row is never that of another
role, and the other way round. -/
theorem profilesMirrored_put {user : Users.User} {registration : List Users.OutboxEvent}
    (mirrored : ProfilesMirrored o u) (users : next.users = u.users.put user)
    (outbox : next.outbox = u.outbox ++ Users.publishUser user ++ registration)
    (registers : ∀ event ∈ registration, ∃ payload, event = .restaurantRegistrations payload)
    (stays : customerOf user = none →
      ∀ old, u.users.find? user.id = some old → customerOf old = none)
    (passed : u.lastUserId ≤ next.lastUserId ∧ user.id ≤ next.lastUserId) :
    ProfilesMirrored o next := by
  have copy : copies o next = (Users.publishUser user).foldl Copies.apply (copies o u) := by
    unfold copies
    rw [outbox, List.foldl_append, List.foldl_append, apply_registrations _ registers]
  obtain ⟨contacts, customers⟩ := apply_publishUser (copies o u) user
  refine ⟨?_, ?_, fun userId found there => ?_⟩
  · rw [users, copy, contacts]
    exact mirrored.contacts.put rfl rfl
  · rw [users, copy, customers]
    cases seen : customerOf user with
    | some snapshot => exact mirrored.customers.put seen (customerOf_userId seen)
    | none =>
      refine mirrored.customers.put_none seen ?_
      rw [mirrored.customers user.id]
      cases before : u.users.find? user.id with
      | none => rfl
      | some old => exact stays seen old before
  · rw [users, Table.find?_put] at there
    split at there
    · rename_i own
      exact own ▸ passed.2
    · exact (mirrored.passed userId found there).trans passed.1

/-! ### One operation -/

/-- What an edit that takes effect leaves: the row is written, and nothing is announced. -/
theorem profileStep_updateProfile {userId : Nat} {user : Users.User} {data : Users.UserUpdate}
    (found : u.users.find? userId = some user) (free : Users.phoneTaken u user data = false) :
    profileStep u (.updateProfile userId data false) =
      { u with users := u.users.put (data.apply user) } := by
  unfold profileStep Users.updateProfile
  simp [found, free]

theorem profilesMirrored_updateProfile {userId : Nat} {user : Users.User}
    {data : Users.UserUpdate} (mirrored : ProfilesMirrored o u)
    (found : u.users.find? userId = some user) (phone : data.phone.getD user.phone = user.phone)
    (name : user.role = .customer →
      Orders.displayName (some (data.firstName.getD user.firstName))
          (some (data.lastName.getD user.lastName)) =
        Orders.displayName (some user.firstName) (some user.lastName)) :
    ProfilesMirrored o { u with users := u.users.put (data.apply user) } := by
  have own : user.id = userId := Table.key_of_find? found
  have row : u.users.find? (data.apply user).id = some user := by
    show u.users.find? user.id = some user
    rw [own, found]
  refine ⟨mirrored.contacts.put_of_view row ?_, mirrored.customers.put_of_view row ?_, ?_⟩
  · simp [contactOf, Users.UserUpdate.apply, phone]
  · unfold customerOf Users.UserUpdate.apply
    dsimp only
    by_cases customer : user.role = .customer
    · rw [if_pos customer, if_pos customer, name customer]
    · rw [if_neg customer, if_neg customer]
  · intro other edited there
    change (u.users.put _).find? other = _ at there
    rw [Table.find?_put] at there
    split at there
    · rename_i same
      exact mirrored.passed other user (same ▸ row)
    · exact mirrored.passed other edited there

/-- **One operation.** -/
theorem profilesMirrored_step {op : ProfileOperation} (mirrored : ProfilesMirrored o u)
    (unseen : Unseen u op) : ProfilesMirrored o (profileStep u op) := by
  cases op with
  | registerUser data hashedPassword gap lostRace =>
    unfold profileStep
    dsimp only
    cases outcome : Users.registerUser u data hashedPassword gap lostRace with
    | error raised => exact mirrored
    | ok next =>
      obtain ⟨user, registration, id, users, outbox, last, _, registers⟩ :=
        Users.registerUser_ok outcome
      show ProfilesMirrored o next
      refine profilesMirrored_put mirrored users outbox registers (fun _ old there => ?_) ?_
      · -- the sequence has not handed out this id before
        have small := mirrored.passed user.id old there
        omega
      · omega
  | updateProfile userId data lostRace =>
    cases found : u.users.find? userId with
    | none =>
      have idle : profileStep u (.updateProfile userId data lostRace) = u := by
        simp [profileStep, found]
      rw [idle]
      exact mirrored
    | some user =>
      rcases Users.updateProfile_cases u user data lostRace with
        ⟨raised, refused, _⟩ | ⟨free, rfl, _⟩
      · have idle : profileStep u (.updateProfile userId data lostRace) = u := by
          simp [profileStep, found, refused]
        rw [idle]
        exact mirrored
      · obtain ⟨phone, name⟩ := unseen user found free rfl
        rw [profileStep_updateProfile found free]
        exact profilesMirrored_updateProfile mirrored found phone name
  | applyRestaurantDecision ownerId status =>
    show ProfilesMirrored o (Users.applyRestaurantDecision u ownerId status)
    rcases Users.applyRestaurantDecision_cases u ownerId status with
      idle | ⟨user, found, restaurant, decides⟩
    · rw [idle]
      exact mirrored
    · rw [decides]
      have own : user.id = ownerId := Table.key_of_find? found
      have announced : u.outbox ++ Users.publishUser (Users.decided user status) =
          u.outbox ++ Users.publishUser (Users.decided user status) ++ [] := by simp
      refine profilesMirrored_put mirrored rfl announced (by simp) (fun _ old there => ?_)
        ⟨le_refl _, ?_⟩
      · have same : u.users.find? user.id = some old := there
        rw [own, found] at same
        cases same
        simp [customerOf, restaurant]
      · exact mirrored.passed user.id user (own ▸ found)

/-! ### Mirrors agree, and an edit that is seen breaks them -/

theorem profilesAgree_of_mirrored (mirrored : ProfilesMirrored o u) :
    ProfilesAgree u (copies o u) where
  contacts := by
    intro userId user found
    rw [mirrored.contacts userId, found]
    simp [contactOf, Table.key_of_find? found]
  names := by
    intro userId user found customer
    have copy : (copies o u).orders.customers.find? userId = customerOf user := by
      rw [mirrored.customers userId, found, Option.bind_some]
    simp [copy, customerOf, customer]

/-- **An edit that is seen is not announced.** -/
theorem not_agree_of_seen {op : ProfileOperation} (mirrored : ProfilesMirrored o u)
    (seen : ¬ Unseen u op) : ¬ ProfilesAgree (profileStep u op) (copies o (profileStep u op)) := by
  cases op with
  | registerUser data hashedPassword gap lostRace => exact absurd trivial seen
  | applyRestaurantDecision ownerId status => exact absurd trivial seen
  | updateProfile userId data lostRace =>
    unfold Unseen at seen
    push Not at seen
    obtain ⟨user, found, free, rfl, changed⟩ := seen
    have before := profilesAgree_of_mirrored mirrored
    have own : user.id = userId := Table.key_of_find? found
    rw [profileStep_updateProfile found free]
    intro after
    have edited : (u.users.put (data.apply user)).find? userId = some (data.apply user) := by
      rw [Table.find?_put]
      exact if_pos own
    have contact := after.contacts userId _ edited
    have was : (copies o u).contacts.find? userId = _ := before.contacts userId user found
    change (copies o u).contacts.find? userId = _ at contact
    rw [was] at contact
    have phone : data.phone.getD user.phone = user.phone := by
      simpa [Users.UserUpdate.apply] using congrArg (Option.map Notifications.Contact.phone) contact.symm
    obtain ⟨customer, name⟩ := changed phone
    obtain ⟨snapshot, copy, shown⟩ := before.names userId user found customer
    obtain ⟨snapshot', copy', shown'⟩ := after.names userId _ edited customer
    change (copies o u).orders.customers.find? userId = _ at copy'
    rw [copy] at copy'
    cases copy'
    exact name (shown'.symm.trans shown)

/-- **When the copied profiles are as good as the real ones.** A run from an empty database, with all its
events applied, keeps the contacts and the customers' names what the rows say exactly when no profile
edit that takes effect changes a phone number or a customer's display name. -/
theorem profilesAgree_always_iff (o : Orders.State) (ops : List ProfileOperation) :
    Always profileStep (fun u => ProfilesAgree u (copies o u)) .empty ops ↔
      Throughout profileStep Unseen .empty ops := by
  refine always_iff_throughout (Q := ProfilesMirrored o) (fun u op mirrored unseen => ?_)
    (fun u mirrored => ?_) (fun u op mirrored seen => ?_) (profilesMirrored_empty o)
  · exact profilesMirrored_step mirrored unseen
  · exact profilesAgree_of_mirrored mirrored
  · exact not_agree_of_seen mirrored seen

/-- A customer registers. -/
def registered : ProfileOperation :=
  .registerUser
    { email := "alex@example.com"
      phone := "+15551234567"
      firstName := "Alex"
      lastName := "Rao"
      selfService := by decide
      matches_role := by decide } "hash" 0 false

/-- **A phone number that nobody learns of.** A customer registers and changes their number. -/
theorem renamed_not_shown : ¬ ∀ (o : Orders.State) (ops : List ProfileOperation),
    Always profileStep (fun u => ProfilesAgree u (copies o u)) .empty ops := by
  intro always
  have agree := (always .empty
    [registered, .updateProfile 1 { phone := some "+15557654321" } false]).last
  have contact := agree.contacts 1
    { id := 1, email := "alex@example.com", phone := "+15557654321", firstName := "Alex"
      lastName := "Rao", hashedPassword := "hash" } (by decide)
  revert contact
  decide

end FoodDelivery.ReadModels
