/-
**The operator's console** (`services/admin/app`): the copies it keeps of the platform's users,
restaurants and orders, the messages it fills them from, and the numbers on its stats page.

Each handler gets the row with the publisher's id, or adds it, and sets what the message says; what it
leaves out stays. Two topics fill the users, one with the name, the role and whether the account is
active, the other with the email and the phone.

* `tables_after`: each table after any messages is what its own upsert makes of them;
* `orders_follow_…`, `users_follow_…`, `restaurants_follow_…`: which column follows which key of which
  message.
-/

import FoodDelivery.Lib.Sql
import FoodDelivery.Lib.Upserts
import FoodDelivery.Shared.Basic
import Mathlib.Algebra.BigOperators.Group.List.Basic
import Mathlib.Algebra.Ring.Int.Defs
import Mathlib.Data.List.Dedup

set_option autoImplicit false

namespace FoodDelivery.Admin

open FoodDelivery.Lib

/-! ### The copies -/

/-- A user, as the console lists them. -/
structure UserRow where
  id : Nat
  email : String := ""
  phone : String := ""
  firstName : String := ""
  lastName : String := ""
  role : String := "customer"
  isActive : Bool := true
  createdAt : Timestamp
deriving DecidableEq, Repr

/-- A restaurant, for the count and for naming one in a listing. -/
structure RestaurantRow where
  id : Nat
  name : String := ""
  ownerId : Nat := 0
  createdAt : Timestamp
deriving DecidableEq, Repr

/-- An order, for the listing and for every number on the stats page. -/
structure OrderRow where
  id : Nat
  customerId : Nat
  restaurantId : Nat
  status : String := ""
  paymentStatus : String := ""
  total : Money := 0
  createdAt : Timestamp
deriving DecidableEq, Repr

/-- The service's database. -/
structure Console where
  users : Table Nat UserRow UserRow.id
  restaurants : Table Nat RestaurantRow RestaurantRow.id
  orders : Table Nat OrderRow OrderRow.id

/-- Before the first message. -/
def Console.empty : Console where
  users := .empty
  restaurants := .empty
  orders := .empty

/-! ### The messages -/

/-- What the console reads of an order event; a key that is missing or null is `none`. -/
structure OrderPayload where
  orderId : Option Nat
  customerId : Option Nat := none
  restaurantId : Option Nat := none
  status : Option String := none
  paymentStatus : Option String := none
  total : Option Money := none
deriving DecidableEq, Repr

/-- What it reads of a user event, from the open topic. -/
structure UserPayload where
  userId : Option Nat
  firstName : Option String := none
  lastName : Option String := none
  role : Option String := none
  isActive : Option Bool := none
deriving DecidableEq, Repr

/-- What it reads of a contact event, from the restricted topic. -/
structure ContactPayload where
  userId : Option Nat
  email : Option String := none
  phone : Option String := none
deriving DecidableEq, Repr

/-- What it reads of a restaurant event. -/
structure RestaurantPayload where
  restaurantId : Option Nat
  name : Option String := none
  ownerId : Option Nat := none
deriving DecidableEq, Repr

/-- `_HANDLERS`: a message's topic is the constructor. -/
inductive Message where
  | orderEvents (payload : OrderPayload)
  | userEvents (payload : UserPayload)
  | userContactEvents (payload : ContactPayload)
  | restaurantEvents (payload : RestaurantPayload)
deriving DecidableEq, Repr

/-- The payload of a message of `order-events`. -/
def Message.orderEvent? : Message → Option OrderPayload
  | .orderEvents payload => some payload
  | _ => none

/-- The payload of a message of `user-events`. -/
def Message.userEvent? : Message → Option UserPayload
  | .userEvents payload => some payload
  | _ => none

/-- The payload of a message of `user-contact-events`. -/
def Message.contactEvent? : Message → Option ContactPayload
  | .userContactEvents payload => some payload
  | _ => none

/-- The payload of a message of `restaurant-events`. -/
def Message.restaurantEvent? : Message → Option RestaurantPayload
  | .restaurantEvents payload => some payload
  | _ => none

/-! ### The handlers -/

/-- An order's row before its first event. -/
def newOrderRow (orderId : Nat) (payload : OrderPayload) (now : Timestamp) : OrderRow where
  id := orderId
  customerId := payload.customerId.getD 0
  restaurantId := payload.restaurantId.getD 0
  createdAt := now

/-- What an order event sets. An empty status is none at all. -/
def OrderPayload.update (payload : OrderPayload) (row : OrderRow) : OrderRow :=
  { row with
    status := (payload.status.filter fun status => status ≠ "").getD row.status
    customerId := payload.customerId.getD row.customerId
    restaurantId := payload.restaurantId.getD row.restaurantId
    paymentStatus := payload.paymentStatus.getD row.paymentStatus
    total := payload.total.getD row.total }

/-- `_apply_order_event`: the status is overwritten, not appended. -/
def applyOrderEvent (c : Console) (payload : OrderPayload) (now : Timestamp) : Console :=
  match payload.orderId with
  | none => c
  | some orderId =>
    let row := (c.orders.find? orderId).getD (newOrderRow orderId payload now)
    { c with orders := c.orders.put (payload.update row) }

/-- A user's row before the first event about them, of either topic. -/
def newUserRow (userId : Nat) (now : Timestamp) : UserRow where
  id := userId
  createdAt := now

/-- What a user event sets. -/
def UserPayload.update (payload : UserPayload) (row : UserRow) : UserRow :=
  { row with
    firstName := payload.firstName.getD row.firstName
    lastName := payload.lastName.getD row.lastName
    role := payload.role.getD row.role
    isActive := payload.isActive.getD row.isActive }

/-- `_apply_user_event`: name, role and status. -/
def applyUserEvent (c : Console) (payload : UserPayload) (now : Timestamp) : Console :=
  match payload.userId with
  | none => c
  | some userId =>
    let row := (c.users.find? userId).getD (newUserRow userId now)
    { c with users := c.users.put (payload.update row) }

/-- What a contact event sets. -/
def ContactPayload.update (payload : ContactPayload) (row : UserRow) : UserRow :=
  { row with
    email := payload.email.getD row.email
    phone := payload.phone.getD row.phone }

/-- `_apply_contact_event`: email and phone. -/
def applyContactEvent (c : Console) (payload : ContactPayload) (now : Timestamp) : Console :=
  match payload.userId with
  | none => c
  | some userId =>
    let row := (c.users.find? userId).getD (newUserRow userId now)
    { c with users := c.users.put (payload.update row) }

/-- A restaurant's row before its first event. -/
def newRestaurantRow (restaurantId : Nat) (now : Timestamp) : RestaurantRow where
  id := restaurantId
  createdAt := now

/-- What a restaurant event sets. -/
def RestaurantPayload.update (payload : RestaurantPayload) (row : RestaurantRow) : RestaurantRow :=
  { row with
    name := payload.name.getD row.name
    ownerId := payload.ownerId.getD row.ownerId }

/-- `_apply_restaurant_event`. -/
def applyRestaurantEvent (c : Console) (payload : RestaurantPayload) (now : Timestamp) : Console :=
  match payload.restaurantId with
  | none => c
  | some restaurantId =>
    let row := (c.restaurants.find? restaurantId).getD (newRestaurantRow restaurantId now)
    { c with restaurants := c.restaurants.put (payload.update row) }

/-- A message is handled, at the time the console's clock shows. -/
def Console.step (c : Console) (label : Message × Timestamp) : Console :=
  match label.1 with
  | .orderEvents payload => applyOrderEvent c payload label.2
  | .userEvents payload => applyUserEvent c payload label.2
  | .userContactEvents payload => applyContactEvent c payload label.2
  | .restaurantEvents payload => applyRestaurantEvent c payload label.2

/-! ### The stats page -/

/-- A cancelled or rejected order is not trade. -/
def excludedFromGmv : List String := ["CANCELLED", "REJECTED"]

/-- The numbers on the stats page. -/
structure Stats where
  users : Nat
  restaurants : Nat
  ordersTotal : Nat
  ordersByStatus : List (String × Nat)
  grossMerchandiseValue : Money
deriving DecidableEq, Repr

/-- `get_stats`: three counts, the orders by status, and what the orders that are trade come to. -/
def getStats (c : Console) : Stats where
  users := c.users.rows.length
  restaurants := c.restaurants.rows.length
  ordersTotal := c.orders.rows.length
  ordersByStatus := (groupBy OrderRow.status c.orders.rows).map fun group => (group.1, group.2.length)
  grossMerchandiseValue :=
    ((c.orders.rows.filter fun row => row.status ∉ excludedFromGmv).map OrderRow.total).sum

/-! ### Each table by its own upsert -/

/-- Handled messages that are about an order. -/
def orderUpsert : Upsert Nat OrderRow (Message × Timestamp) OrderRow.id where
  target label := label.1.orderEvent?.bind OrderPayload.orderId
  blank orderId label :=
    newOrderRow orderId (label.1.orderEvent?.getD { orderId := none }) label.2
  write label row := label.1.orderEvent?.elim row fun payload => payload.update row
  key_blank _ _ := rfl
  key_write label row := by cases label.1.orderEvent? <;> rfl

/-- Handled messages that are about a user, from either topic. -/
def userUpsert : Upsert Nat UserRow (Message × Timestamp) UserRow.id where
  target label :=
    (label.1.userEvent?.bind UserPayload.userId) <|> (label.1.contactEvent?.bind ContactPayload.userId)
  blank userId label := newUserRow userId label.2
  write label row :=
    label.1.contactEvent?.elim (label.1.userEvent?.elim row fun payload => payload.update row)
      fun payload => payload.update row
  key_blank _ _ := rfl
  key_write label row := by
    cases label.1.contactEvent? with
    | none => cases label.1.userEvent? <;> rfl
    | some payload => rfl

theorem userUpsert_userEvent (label : Message × Timestamp) (event : UserPayload)
    (picked : label.1.userEvent? = some event) : userUpsert.target label = event.userId := by
  obtain ⟨message, now⟩ := label
  cases message with
  | userEvents payload =>
    cases picked
    show (event.userId <|> none) = event.userId
    cases event.userId <;> rfl
  | orderEvents payload => cases picked
  | userContactEvents payload => cases picked
  | restaurantEvents payload => cases picked

theorem userUpsert_contactEvent (label : Message × Timestamp) (event : ContactPayload)
    (picked : label.1.contactEvent? = some event) : userUpsert.target label = event.userId := by
  obtain ⟨message, now⟩ := label
  cases message with
  | userContactEvents payload =>
    cases picked
    rfl
  | orderEvents payload => cases picked
  | userEvents payload => cases picked
  | restaurantEvents payload => cases picked

/-- Handled messages that are about a restaurant. -/
def restaurantUpsert : Upsert Nat RestaurantRow (Message × Timestamp) RestaurantRow.id where
  target label := label.1.restaurantEvent?.bind RestaurantPayload.restaurantId
  blank restaurantId label := newRestaurantRow restaurantId label.2
  write label row := label.1.restaurantEvent?.elim row fun payload => payload.update row
  key_blank _ _ := rfl
  key_write label row := by cases label.1.restaurantEvent? <;> rfl

/-- **A message goes to one table**, by that table's upsert, and the others pass over it. -/
theorem step_tables (c : Console) (label : Message × Timestamp) :
    (c.step label).orders = orderUpsert.step c.orders label ∧
      (c.step label).users = userUpsert.step c.users label ∧
      (c.step label).restaurants = restaurantUpsert.step c.restaurants label := by
  obtain ⟨message, now⟩ := label
  cases message with
  | orderEvents payload =>
    obtain ⟨orderId, _⟩ := payload
    cases orderId <;> exact ⟨rfl, rfl, rfl⟩
  | userEvents payload =>
    obtain ⟨userId, _⟩ := payload
    cases userId <;> exact ⟨rfl, rfl, rfl⟩
  | userContactEvents payload =>
    obtain ⟨userId, _⟩ := payload
    cases userId <;> exact ⟨rfl, rfl, rfl⟩
  | restaurantEvents payload =>
    obtain ⟨restaurantId, _⟩ := payload
    cases restaurantId <;> exact ⟨rfl, rfl, rfl⟩

theorem run_tables (c : Console) (handled : List (Message × Timestamp)) :
    (run Console.step c handled).orders = run orderUpsert.step c.orders handled ∧
      (run Console.step c handled).users = run userUpsert.step c.users handled ∧
      (run Console.step c handled).restaurants = run restaurantUpsert.step c.restaurants handled := by
  induction handled generalizing c with
  | nil => exact ⟨rfl, rfl, rfl⟩
  | cons label handled ih =>
    obtain ⟨orders, users, restaurants⟩ := step_tables c label
    obtain ⟨laterOrders, laterUsers, laterRestaurants⟩ := ih (c.step label)
    rw [orders] at laterOrders
    rw [users] at laterUsers
    rw [restaurants] at laterRestaurants
    exact ⟨laterOrders, laterUsers, laterRestaurants⟩

/-- The console, from nothing. -/
def consoleAfter (handled : List (Message × Timestamp)) : Console := run Console.step .empty handled

theorem tables_after (handled : List (Message × Timestamp)) :
    (consoleAfter handled).orders = run orderUpsert.step .empty handled ∧
      (consoleAfter handled).users = run userUpsert.step .empty handled ∧
      (consoleAfter handled).restaurants = run restaurantUpsert.step .empty handled :=
  run_tables .empty handled

/-! ### Which column follows what -/

section Columns

variable {α : Type}

/-- A column of the orders that an order event sets. -/
theorem orderUpsert_follows {column : OrderRow → α} {default : α} {value : OrderPayload → Option α}
    (updates : ∀ payload row, column (payload.update row) = (value payload).getD (column row))
    (fresh : ∀ orderId payload now,
      (value payload).getD (column (newOrderRow orderId payload now)) = (value payload).getD default)
    (unsaid : ∀ orderId now, column (newOrderRow orderId { orderId := none } now) = default) :
    orderUpsert.Follows column default fun label => label.1.orderEvent?.bind value := by
  refine ⟨?_, ?_⟩
  · rintro ⟨message, now⟩ row
    cases message with
    | orderEvents payload => exact updates payload row
    | userEvents payload => rfl
    | userContactEvents payload => rfl
    | restaurantEvents payload => rfl
  · rintro orderId ⟨message, now⟩
    cases message with
    | orderEvents payload => exact (updates payload _).trans (fresh orderId payload now)
    | userEvents payload => exact unsaid orderId now
    | userContactEvents payload => exact unsaid orderId now
    | restaurantEvents payload => exact unsaid orderId now

/-- A column of the users that a message of the open topic sets. -/
theorem userUpsert_follows {column : UserRow → α} {default : α} {value : UserPayload → Option α}
    (updates : ∀ payload row, column (payload.update row) = (value payload).getD (column row))
    (others : ∀ (payload : ContactPayload) row, column (payload.update row) = column row)
    (fresh : ∀ userId now, column (newUserRow userId now) = default) :
    userUpsert.Follows column default fun label => label.1.userEvent?.bind value := by
  have writes : ∀ label row, column (userUpsert.write label row) =
      (label.1.userEvent?.bind value).getD (column row) := by
    rintro ⟨message, now⟩ row
    cases message with
    | userEvents payload => exact updates payload row
    | userContactEvents payload => exact others payload row
    | orderEvents payload => rfl
    | restaurantEvents payload => rfl
  refine ⟨writes, fun userId label => ?_⟩
  rw [writes, show userUpsert.blank userId label = newUserRow userId label.2 from rfl, fresh]

/-- A column of the users that a message of the restricted topic sets. -/
theorem userUpsert_follows_contact {column : UserRow → α} {default : α}
    {value : ContactPayload → Option α}
    (updates : ∀ payload row, column (payload.update row) = (value payload).getD (column row))
    (others : ∀ (payload : UserPayload) row, column (payload.update row) = column row)
    (fresh : ∀ userId now, column (newUserRow userId now) = default) :
    userUpsert.Follows column default fun label => label.1.contactEvent?.bind value := by
  have writes : ∀ label row, column (userUpsert.write label row) =
      (label.1.contactEvent?.bind value).getD (column row) := by
    rintro ⟨message, now⟩ row
    cases message with
    | userEvents payload => exact others payload row
    | userContactEvents payload => exact updates payload row
    | orderEvents payload => rfl
    | restaurantEvents payload => rfl
  refine ⟨writes, fun userId label => ?_⟩
  rw [writes, show userUpsert.blank userId label = newUserRow userId label.2 from rfl, fresh]

/-- A column of the restaurants. -/
theorem restaurantUpsert_follows {column : RestaurantRow → α} {default : α}
    {value : RestaurantPayload → Option α}
    (updates : ∀ payload row, column (payload.update row) = (value payload).getD (column row))
    (fresh : ∀ restaurantId now, column (newRestaurantRow restaurantId now) = default) :
    restaurantUpsert.Follows column default fun label => label.1.restaurantEvent?.bind value := by
  have writes : ∀ label row, column (restaurantUpsert.write label row) =
      (label.1.restaurantEvent?.bind value).getD (column row) := by
    rintro ⟨message, now⟩ row
    cases message with
    | restaurantEvents payload => exact updates payload row
    | orderEvents payload => rfl
    | userEvents payload => rfl
    | userContactEvents payload => rfl
  refine ⟨writes, fun restaurantId label => ?_⟩
  rw [writes, show restaurantUpsert.blank restaurantId label = newRestaurantRow restaurantId label.2
    from rfl, fresh]

theorem orders_follow_customerId : orderUpsert.Follows OrderRow.customerId 0
    fun label => label.1.orderEvent?.bind OrderPayload.customerId := by
  refine orderUpsert_follows (fun _ _ => rfl) (fun _ payload _ => ?_) fun _ _ => rfl
  obtain ⟨_, customerId, _⟩ := payload
  cases customerId <;> rfl

theorem orders_follow_restaurantId : orderUpsert.Follows OrderRow.restaurantId 0
    fun label => label.1.orderEvent?.bind OrderPayload.restaurantId := by
  refine orderUpsert_follows (fun _ _ => rfl) (fun _ payload _ => ?_) fun _ _ => rfl
  obtain ⟨_, _, restaurantId, _⟩ := payload
  cases restaurantId <;> rfl

theorem orders_follow_status : orderUpsert.Follows OrderRow.status ""
    fun label => label.1.orderEvent?.bind fun payload => payload.status.filter fun status => status ≠ "" :=
  orderUpsert_follows (fun _ _ => rfl) (fun _ _ _ => rfl) fun _ _ => rfl

theorem orders_follow_paymentStatus : orderUpsert.Follows OrderRow.paymentStatus ""
    fun label => label.1.orderEvent?.bind OrderPayload.paymentStatus :=
  orderUpsert_follows (fun _ _ => rfl) (fun _ _ _ => rfl) fun _ _ => rfl

theorem orders_follow_total : orderUpsert.Follows OrderRow.total 0
    fun label => label.1.orderEvent?.bind OrderPayload.total :=
  orderUpsert_follows (fun _ _ => rfl) (fun _ _ _ => rfl) fun _ _ => rfl

theorem users_follow_role : userUpsert.Follows UserRow.role "customer"
    fun label => label.1.userEvent?.bind UserPayload.role :=
  userUpsert_follows (fun _ _ => rfl) (fun _ _ => rfl) fun _ _ => rfl

theorem users_follow_isActive : userUpsert.Follows UserRow.isActive true
    fun label => label.1.userEvent?.bind UserPayload.isActive :=
  userUpsert_follows (fun _ _ => rfl) (fun _ _ => rfl) fun _ _ => rfl

theorem users_follow_firstName : userUpsert.Follows UserRow.firstName ""
    fun label => label.1.userEvent?.bind UserPayload.firstName :=
  userUpsert_follows (fun _ _ => rfl) (fun _ _ => rfl) fun _ _ => rfl

theorem users_follow_lastName : userUpsert.Follows UserRow.lastName ""
    fun label => label.1.userEvent?.bind UserPayload.lastName :=
  userUpsert_follows (fun _ _ => rfl) (fun _ _ => rfl) fun _ _ => rfl

theorem users_follow_email : userUpsert.Follows UserRow.email ""
    fun label => label.1.contactEvent?.bind ContactPayload.email :=
  userUpsert_follows_contact (fun _ _ => rfl) (fun _ _ => rfl) fun _ _ => rfl

theorem users_follow_phone : userUpsert.Follows UserRow.phone ""
    fun label => label.1.contactEvent?.bind ContactPayload.phone :=
  userUpsert_follows_contact (fun _ _ => rfl) (fun _ _ => rfl) fun _ _ => rfl

theorem restaurants_follow_name : restaurantUpsert.Follows RestaurantRow.name ""
    fun label => label.1.restaurantEvent?.bind RestaurantPayload.name :=
  restaurantUpsert_follows (fun _ _ => rfl) fun _ _ => rfl

theorem restaurants_follow_ownerId : restaurantUpsert.Follows RestaurantRow.ownerId 0
    fun label => label.1.restaurantEvent?.bind RestaurantPayload.ownerId :=
  restaurantUpsert_follows (fun _ _ => rfl) fun _ _ => rfl

/-! ### When a row was first heard of -/

/-- The time at which the first message about a row was handled. -/
def firstHeard {κ ρ : Type} {key : ρ → κ} [DecidableEq κ] (upsert : Upsert κ ρ (Message × Timestamp) key)
    (handled : List (Message × Timestamp)) (k : κ) : Option Timestamp :=
  (handled.find? fun label => upsert.target label = some k).map Prod.snd

/-- `created_at` is the console's clock at a row's first message. -/
theorem createdAt_run {ρ : Type} {key : ρ → Nat} {upsert : Upsert Nat ρ (Message × Timestamp) key}
    {createdAt : ρ → Timestamp}
    (fixed : ∀ label row, createdAt (upsert.write label row) = createdAt row)
    (blank : ∀ k label, createdAt (upsert.blank k label) = label.2)
    (handled : List (Message × Timestamp)) (k : Nat) :
    ((run upsert.step .empty handled).find? k).map createdAt = firstHeard upsert handled k := by
  rw [Upsert.fixed_run fixed]
  unfold firstHeard
  simp only [blank]
  rfl

theorem orders_createdAt (handled : List (Message × Timestamp)) (orderId : Nat) :
    ((consoleAfter handled).orders.find? orderId).map OrderRow.createdAt =
      firstHeard orderUpsert handled orderId := by
  rw [(tables_after handled).1]
  refine createdAt_run (fun label row => ?_) (fun _ _ => rfl) handled orderId
  simp only [orderUpsert]
  cases label.1.orderEvent? <;> rfl

theorem users_createdAt (handled : List (Message × Timestamp)) (userId : Nat) :
    ((consoleAfter handled).users.find? userId).map UserRow.createdAt =
      firstHeard userUpsert handled userId := by
  rw [(tables_after handled).2.1]
  refine createdAt_run (fun label row => ?_) (fun _ _ => rfl) handled userId
  simp only [userUpsert]
  cases label.1.contactEvent? with
  | none => cases label.1.userEvent? <;> rfl
  | some payload => rfl

theorem restaurants_createdAt (handled : List (Message × Timestamp)) (restaurantId : Nat) :
    ((consoleAfter handled).restaurants.find? restaurantId).map RestaurantRow.createdAt =
      firstHeard restaurantUpsert handled restaurantId := by
  rw [(tables_after handled).2.2]
  refine createdAt_run (fun label row => ?_) (fun _ _ => rfl) handled restaurantId
  simp only [restaurantUpsert]
  cases label.1.restaurantEvent? <;> rfl

end Columns

end FoodDelivery.Admin
