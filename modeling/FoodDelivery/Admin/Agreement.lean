/-
**The console against the services it reports on.**

The users, the restaurants and the orders service record what they do in their outboxes. The rows with one
key of one topic reach the console in the order in which they were recorded, each at least once, on either
side of the broker; rows with different keys and of different topics come in any order (`Delivered`).

`console_agrees`: after any runs of the three services, once their outboxes have been delivered like that,
the console's counts are the numbers of users, restaurants and orders, its orders by status are those of
the orders service and its GMV is what the orders that are not cancelled or rejected come to. The rows it
lists are the services' own, but that an edit of a profile is not announced: the names and the phone
number are those of the last announcement, and of the row where its profile was never edited. When a row
was created is when the console first heard of it.
-/

import FoodDelivery.Admin.Console
import FoodDelivery.Orders.Runs
import FoodDelivery.Restaurants.Approval
import FoodDelivery.Users.Approval

set_option autoImplicit false

namespace FoodDelivery.Admin

open FoodDelivery.Lib

/-! ### What travels -/

/-- A row of `order-events`, as the console reads it. -/
def orderPayload (event : Orders.OrderEvent) : OrderPayload where
  orderId := some event.orderId
  customerId := some event.customerId
  restaurantId := some event.restaurantId
  status := some event.status.value
  paymentStatus := some event.paymentStatus.value
  total := some event.total

/-- A row of `user-events`. -/
def userPayload (event : Users.UserEvent) : UserPayload where
  userId := some event.userId
  firstName := some event.firstName
  lastName := some event.lastName
  role := some event.role.value
  isActive := some event.isActive

/-- A row of `user-contact-events`. -/
def contactPayload (event : Users.ContactEvent) : ContactPayload where
  userId := some event.userId
  email := some event.email
  phone := some event.phone

/-- A row of `restaurant-events`. -/
def restaurantPayload (event : Restaurants.RestaurantEvent) : RestaurantPayload where
  restaurantId := some event.restaurantId
  name := some event.name
  ownerId := some event.ownerId

/-! ### What the services have recorded -/

def userEventsOf (userId : Nat) (outbox : List Users.OutboxEvent) : List Users.UserEvent :=
  (outbox.filterMap Users.OutboxEvent.userEvent?).filter fun event => event.userId = userId

def contactEventsOf (userId : Nat) (outbox : List Users.OutboxEvent) : List Users.ContactEvent :=
  (outbox.filterMap Users.OutboxEvent.contactEvent?).filter fun event => event.userId = userId

def restaurantEventsOf (restaurantId : Nat) (outbox : List Restaurants.OutboxEvent) :
    List Restaurants.RestaurantEvent :=
  (outbox.filterMap Restaurants.OutboxEvent.restaurantEvent?).filter fun event =>
    event.restaurantId = restaurantId

/-- **Everything has been delivered**: the rows with one key of one topic in their order, and possibly
again. -/
structure Delivered (u : Users.State) (r : Restaurants.State) (o : Orders.State)
    (handled : List (Message × Timestamp)) : Prop where
  orders : ∀ orderId, Relayed ((Orders.eventsOf orderId o.outbox).map orderPayload)
    (brought (fun label => label.1.orderEvent?) OrderPayload.orderId orderId handled)
  users : ∀ userId, Relayed ((userEventsOf userId u.outbox).map userPayload)
    (brought (fun label => label.1.userEvent?) UserPayload.userId userId handled)
  contacts : ∀ userId, Relayed ((contactEventsOf userId u.outbox).map contactPayload)
    (brought (fun label => label.1.contactEvent?) ContactPayload.userId userId handled)
  restaurants : ∀ restaurantId,
    Relayed ((restaurantEventsOf restaurantId r.outbox).map restaurantPayload)
      (brought (fun label => label.1.restaurantEvent?) RestaurantPayload.restaurantId restaurantId handled)

/-! ### What the console has to say -/

/-- An order, as the console lists it. -/
def OrderRow.listed (row : OrderRow) : Nat × Nat × String × String × Money :=
  (row.customerId, row.restaurantId, row.status, row.paymentStatus, row.total)

def listedOrder (order : Orders.Order) : Nat × Nat × String × String × Money :=
  (order.customerId, order.restaurantId, order.status.value, order.paymentStatus.value, order.total)

/-- Counted as trade. -/
def Traded (order : Orders.Order) : Prop := order.status ≠ .cancelled ∧ order.status ≠ .rejected

instance (order : Orders.Order) : Decidable (Traded order) := inferInstanceAs (Decidable (_ ∧ _))

/-- **The console agrees with the services**, once it has handled some messages. The names and the phone
number of an account are those that were announced last. -/
structure Agrees (u : Users.State) (r : Restaurants.State) (o : Orders.State)
    (handled : List (Message × Timestamp)) : Prop where
  users : (getStats (consoleAfter handled)).users = u.users.rows.length
  restaurants : (getStats (consoleAfter handled)).restaurants = r.restaurants.rows.length
  ordersTotal : (getStats (consoleAfter handled)).ordersTotal = o.orders.rows.length
  ordersByStatus : ∀ status count, (status, count) ∈ (getStats (consoleAfter handled)).ordersByStatus ↔
    0 < count ∧ count = o.orders.rows.countP fun order => order.status.value = status
  grossMerchandiseValue : (getStats (consoleAfter handled)).grossMerchandiseValue =
    ((o.orders.rows.filter fun order => Traded order).map Orders.Order.total).sum
  orderRows : ∀ orderId, ((consoleAfter handled).orders.find? orderId).map OrderRow.listed =
    (o.orders.find? orderId).map listedOrder
  userRows : ∀ userId,
    ((consoleAfter handled).users.find? userId).map (fun row => (row.email, row.role, row.isActive)) =
      (u.users.find? userId).map fun user => (user.email, user.role.value, user.isActive)
  userNames : ∀ userId,
    ((consoleAfter handled).users.find? userId).map (fun row => (row.firstName, row.lastName)) =
      (userEventsOf userId u.outbox).getLast?.map fun event => (event.firstName, event.lastName)
  userPhones : ∀ userId, ((consoleAfter handled).users.find? userId).map UserRow.phone =
    (contactEventsOf userId u.outbox).getLast?.map Users.ContactEvent.phone
  restaurantRows : ∀ restaurantId,
    ((consoleAfter handled).restaurants.find? restaurantId).map (fun row => (row.name, row.ownerId)) =
      (r.restaurants.find? restaurantId).map fun restaurant => (restaurant.name, restaurant.ownerId)
  heard : (∀ orderId, ((consoleAfter handled).orders.find? orderId).map OrderRow.createdAt =
      firstHeard orderUpsert handled orderId) ∧
    (∀ userId, ((consoleAfter handled).users.find? userId).map UserRow.createdAt =
      firstHeard userUpsert handled userId) ∧
    ∀ restaurantId, ((consoleAfter handled).restaurants.find? restaurantId).map RestaurantRow.createdAt =
      firstHeard restaurantUpsert handled restaurantId

/-! ### The orders service tells every change -/

section Orders

/-- What an event says that the console lists. -/
def listedEvent (event : Orders.OrderEvent) : Nat × Nat × String × String × Money :=
  (event.customerId, event.restaurantId, event.status.value, event.paymentStatus.value, event.total)

/-- The last event about every order says what its row says. -/
def OrdersTold (o : Orders.State) : Prop :=
  Told Orders.OrderEvent.orderId listedOrder listedEvent o.orders
    (o.outbox.filterMap Orders.OutboxEvent.orderEvent?)

/-- An event that comes last tells its order. -/
theorem getLast?_emitted (before : List Orders.OrderEvent) (tables : Orders.State)
    (order : Orders.Order) :
    (before ++ (Orders.emitStatus tables order).orderEvent?.toList).getLast?.map listedEvent =
      some (listedOrder order) := by
  show ((before ++ [_]).getLast?).map listedEvent = _
  rw [List.getLast?_append]
  rfl

theorem ordersTold_step (o : Orders.State) (label : Orders.Operation × Timestamp) (told : OrdersTold o) :
    OrdersTold (o.step label) := by
  intro orderId
  have before := told orderId
  change (Orders.eventsOf orderId o.outbox).getLast?.map listedEvent = _ at before
  show (Orders.eventsOf orderId (o.step label).outbox).getLast?.map listedEvent = _
  have changed := o.changed label orderId
  revert changed
  generalize o.step label = next
  intro changed
  cases changed with
  | same untouched =>
    rw [untouched.events, untouched.row]
    exact before
  | placed tables user request acquired cart post validated now written operation absent place row
      commands events =>
    rw [events, row, getLast?_emitted]
    rfl
  | acted tables now action order written performs found performed row commands events =>
    rw [events, row, getLast?_emitted]
    rfl

theorem ordersTold_run (labels : List (Orders.Operation × Timestamp)) :
    OrdersTold (run Orders.State.step .empty labels) := by
  have start : OrdersTold .empty := told_empty
  exact (always_of_step ordersTold_step start).last

end Orders

/-! ### The users service tells every change but an edit's -/

section Users

variable {ε α : Type} {said : ε → α} {u next : Users.State}

/-- A topic on which an account is announced when it is created, opened or decided about. -/
structure Topic (ε : Type) where
  pick : Users.OutboxEvent → Option ε
  about : ε → Nat
  announce : Users.User → ε
  published : ∀ user, (Users.publishUser user).filterMap pick = [announce user]
  own : ∀ user, about (announce user) = user.id
  unregistered : ∀ payload, pick (.restaurantRegistrations payload) = none

/-- `user-events`. -/
def userTopic : Topic Users.UserEvent where
  pick := Users.OutboxEvent.userEvent?
  about := Users.UserEvent.userId
  announce user :=
    { userId := user.id
      role := user.role
      firstName := user.firstName
      lastName := user.lastName
      isActive := user.isActive }
  published _ := rfl
  own _ := rfl
  unregistered _ := rfl

/-- `user-contact-events`. -/
def contactTopic : Topic Users.ContactEvent where
  pick := Users.OutboxEvent.contactEvent?
  about := Users.ContactEvent.userId
  announce user := { userId := user.id, email := user.email, phone := user.phone }
  published _ := rfl
  own _ := rfl
  unregistered _ := rfl

variable {topic : Topic ε}

/-- **The topic tells**: the last event about every account says what an announcement of it would say
now, as far as `said` goes. -/
def Topic.Tells (topic : Topic ε) (said : ε → α) (u : Users.State) : Prop :=
  Told topic.about (fun user => said (topic.announce user)) said u.users (u.outbox.filterMap topic.pick)

/-- The rows that an action writes and does not announce. -/
inductive Edited : Users.Action → Users.User → Users.User → Prop
  | profile (user : Users.User) (data : Users.UserUpdate) (lostRace : Bool) :
    Edited (.updateProfile user.id data lostRace) user (data.apply user)
  | password (action : Users.Action) (user : Users.User) (change : Users.PasswordChange) :
    Edited action user (change.apply user)

/-- A user who is written and announced. -/
theorem tells_put (told : topic.Tells said u) {user : Users.User} {registration : List Users.OutboxEvent}
    (users : next.users = u.users.put user)
    (outbox : next.outbox = u.outbox ++ Users.publishUser user ++ registration)
    (registers : ∀ event ∈ registration, ∃ payload, event = .restaurantRegistrations payload) :
    topic.Tells said next := by
  have silent : registration.filterMap topic.pick = [] := by
    refine List.filterMap_eq_nil_iff.mpr fun event member => ?_
    obtain ⟨payload, rfl⟩ := registers event member
    exact topic.unregistered payload
  unfold Topic.Tells
  rw [users, outbox, List.filterMap_append, List.filterMap_append, silent, List.append_nil,
    topic.published]
  exact Told.put told (topic.own user) rfl

/-- A user who is written and looks the same. -/
theorem tells_keep (told : topic.Tells said u) {user edit : Users.User}
    (found : u.users.find? user.id = some user) (id : edit.id = user.id)
    (same : said (topic.announce edit) = said (topic.announce user)) :
    topic.Tells said { u with users := u.users.put edit } :=
  Told.keep told (id ▸ found) same

theorem tells_changed (told : topic.Tells said u) {user : Users.User}
    (found : u.users.find? user.id = some user) (outcome : Except Raised Users.PasswordChange)
    (keeps : ∀ change : Users.PasswordChange,
      said (topic.announce (change.apply user)) = said (topic.announce user)) :
    topic.Tells said (Users.changed u user outcome) := by
  cases outcome with
  | error raised => exact told
  | ok change => exact tells_keep told found rfl (keeps change)

/-- **One action**, whose edits look the same to `said`. -/
theorem tells_step (verifyPassword : String → String → Bool) (w : Users.Gate) (action : Users.Action)
    (told : topic.Tells said w.db) (keeps : ∀ user edit, Edited action user edit →
      said (topic.announce edit) = said (topic.announce user)) :
    topic.Tells said (w.step verifyPassword action).db := by
  cases action with
  | registerUser data hashedPassword gap lostRace =>
    show topic.Tells said (Users.attempted w.db (Users.registerUser w.db data hashedPassword gap lostRace))
    cases outcome : Users.registerUser w.db data hashedPassword gap lostRace with
    | error raised => exact told
    | ok next =>
      obtain ⟨user, registration, -, users, outbox, -, -, registers⟩ := Users.registerUser_ok outcome
      exact tells_put told users outbox registers
  | bootstrapAdmin email hashedPassword gap lostRace =>
    show topic.Tells said (Users.attempted w.db (Users.bootstrapAdmin w.db email hashedPassword gap lostRace))
    unfold Users.bootstrapAdmin
    split_ifs
    · exact told
    · exact told
    · exact told
    · exact tells_put told rfl (List.append_nil _).symm (by simp)
  | applyRestaurantDecision ownerId status fails =>
    cases fails with
    | true => exact told
    | false =>
      show topic.Tells said (Users.applyRestaurantDecision w.db ownerId status)
      rcases Users.applyRestaurantDecision_cases w.db ownerId status with idle | ⟨user, -, -, decides⟩
      · rw [idle]
        exact told
      · rw [decides]
        exact tells_put told rfl (List.append_nil _).symm (by simp)
  | login email password => exact told
  | updateProfile userId data lostRace =>
    unfold Users.Gate.step
    dsimp only
    split
    · exact told
    · rename_i user found
      obtain rfl : user.id = userId := Table.key_of_find? found
      show topic.Tells said (Users.attempted w.db (Users.updateProfile w.db user data lostRace))
      rcases Users.updateProfile_cases w.db user data lostRace with ⟨raised, refused, -⟩ | ⟨-, -, edits⟩
      · rw [refused]
        exact told
      · rw [edits]
        exact tells_keep told found rfl (keeps user _ (.profile user data lostRace))
  | resetPassword redeemed userId newHash =>
    unfold Users.Gate.step
    dsimp only
    split
    · exact told
    · rename_i user found
      obtain rfl : user.id = userId := Table.key_of_find? found
      exact tells_changed told found _ fun change => keeps user _ (.password _ user change)
  | changePassword userId currentPassword newHash =>
    unfold Users.Gate.step
    dsimp only
    split
    · exact told
    · rename_i user found
      obtain rfl : user.id = userId := Table.key_of_find? found
      exact tells_changed told found _ fun change => keeps user _ (.password _ user change)
  | resetAdminPassword email oldPassword newHash =>
    unfold Users.Gate.step
    dsimp only
    split
    · exact told
    · rename_i user found
      exact tells_changed told (Table.find?_of_first? found).1 _ fun change =>
        keeps user _ (.password _ user change)

theorem tells_run (verifyPassword : String → String → Bool) (actions : List Users.Action)
    (keeps : ∀ action ∈ actions, ∀ user edit, Edited action user edit →
      said (topic.announce edit) = said (topic.announce user)) :
    topic.Tells said (run (Users.Gate.step verifyPassword) .empty actions).db := by
  have start : topic.Tells said Users.Gate.empty.db := told_empty
  exact (always_of_throughout (P := fun w : Users.Gate => topic.Tells said w.db)
    (fun w action told kept => tells_step verifyPassword w action told kept) start
    (throughout_of_mem fun action member _ => keeps action member)).last

/-- The role and the access of every account, which no edit changes. -/
theorem roles_told (verifyPassword : String → String → Bool) (actions : List Users.Action) :
    userTopic.Tells (fun event => (event.role, event.isActive))
      (run (Users.Gate.step verifyPassword) .empty actions).db :=
  tells_run verifyPassword actions fun _ _ _ _ edited => by cases edited <;> rfl

/-- The email of every account, which no edit changes. -/
theorem emails_told (verifyPassword : String → String → Bool) (actions : List Users.Action) :
    contactTopic.Tells Users.ContactEvent.email
      (run (Users.Gate.step verifyPassword) .empty actions).db :=
  tells_run verifyPassword actions fun _ _ _ _ edited => by cases edited <;> rfl

/-- No edit of the account's profile is among the actions. -/
def Unedited (userId : Nat) (actions : List Users.Action) : Prop :=
  ∀ data lostRace, Users.Action.updateProfile userId data lostRace ∉ actions

/-- What a topic says of one account, and nothing of the others. -/
def only (about : ε → Nat) (userId : Nat) (said : ε → α) (event : ε) : Option α :=
  if about event = userId then some (said event) else none

/-- **An account whose profile was not edited** was last announced as it is. -/
theorem announced_now (topic : Topic ε) (said : ε → α) {userId : Nat}
    (verifyPassword : String → String → Bool)
    {actions : List Users.Action} (unedited : Unedited userId actions)
    (keeps : ∀ (user : Users.User) (change : Users.PasswordChange),
      said (topic.announce (change.apply user)) = said (topic.announce user)) :
    let u := (run (Users.Gate.step verifyPassword) .empty actions).db
    ((u.outbox.filterMap topic.pick).filter fun event => topic.about event = userId).getLast?.map said =
      (u.users.find? userId).map fun user => said (topic.announce user) := by
  intro u
  have told : topic.Tells (only topic.about userId said) u := by
    refine tells_run verifyPassword actions fun action member user edit edited => ?_
    unfold only
    rw [topic.own, topic.own]
    cases edited with
    | profile _ data lostRace =>
      -- an edit of another account
      have other : user.id ≠ userId := fun same => unedited data lostRace (same ▸ member)
      rw [if_neg other, if_neg (show (data.apply user).id ≠ userId from other)]
    | password _ _ change => rw [keeps, show (change.apply user).id = user.id from rfl]
  have events : ∀ event, ((u.outbox.filterMap topic.pick).filter fun event =>
      topic.about event = userId).getLast? = some event →
      some (said event) = only topic.about userId said event := by
    intro event last
    have own := (List.mem_filter.mp (List.mem_of_getLast? last)).2
    exact (if_pos (of_decide_eq_true own)).symm
  have rows : ∀ user, u.users.find? userId = some user →
      only topic.about userId said (topic.announce user) = some (said (topic.announce user)) :=
    fun user found => if_pos ((topic.own user).trans (Table.key_of_find? found))
  refine Option.map_injective (Option.some_injective α) ?_
  rw [Option.map_map, Option.map_map]
  exact (Option.map_congr events).trans ((told userId).trans (Option.map_congr rows))

end Users

/-! ### The restaurants service tells every change -/

section Restaurants

def nameAndOwner (restaurant : Restaurants.Restaurant) : String × Nat :=
  (restaurant.name, restaurant.ownerId)

def RestaurantsTold (r : Restaurants.State) : Prop :=
  Told Restaurants.RestaurantEvent.restaurantId nameAndOwner (fun event => (event.name, event.ownerId))
    r.restaurants (r.outbox.filterMap Restaurants.OutboxEvent.restaurantEvent?)

theorem restaurantsTold_step (env : Restaurants.Environment) (r : Restaurants.State)
    (op : Restaurants.Operation) (told : RestaurantsTold r) : RestaurantsTold (r.step env op) := by
  unfold RestaurantsTold
  rcases r.announced env op with ⟨venues, outbox⟩ | ⟨restaurant, alerts, venues, outbox, silent⟩
  · rw [venues, outbox]
    exact told
  · have last : (Restaurants.publishRestaurant restaurant :: alerts).filterMap
        Restaurants.OutboxEvent.restaurantEvent? =
        [{ restaurantId := restaurant.id
           ownerId := restaurant.ownerId
           name := restaurant.name
           isOpen := restaurant.isOpen
           approvalStatus := restaurant.approvalStatus }] := by
      show _ :: alerts.filterMap _ = _
      rw [silent]
    rw [venues, outbox, List.filterMap_append, last]
    exact told.put rfl rfl

theorem restaurantsTold_run (env : Restaurants.Environment) (ops : List Restaurants.Operation) :
    RestaurantsTold (run (Restaurants.State.step env) .empty ops) := by
  have start : RestaurantsTold .empty := told_empty
  exact (always_of_step (restaurantsTold_step env) start).last

end Restaurants

/-! ### The rows, once everything has been delivered -/

section Rows

variable {u : Users.State} {r : Restaurants.State} {o : Orders.State}
  {handled : List (Message × Timestamp)}

theorem present_order (delivered : Delivered u r o handled) (told : OrdersTold o) (orderId : Nat) :
    ((run orderUpsert.step .empty handled).find? orderId).isSome ↔ (o.orders.find? orderId).isSome := by
  rw [← told.ne_nil_iff]
  change _ ↔ Orders.eventsOf orderId o.outbox ≠ []
  have sent := (delivered.orders orderId).ne_nil_iff
  rw [ne_eq, ne_eq, List.map_eq_nil_iff, ← ne_eq, ← ne_eq] at sent
  rw [← sent, brought_ne_nil, Upsert.present_run]
  simp only [orderUpsert, Option.bind_eq_some_iff]
  exact or_iff_left (by simp [Table.find?, Table.empty])

/-- **An order is listed as it stands.** -/
theorem order_listed (delivered : Delivered u r o handled) (told : OrdersTold o) (orderId : Nat) :
    ((consoleAfter handled).orders.find? orderId).map OrderRow.listed =
      (o.orders.find? orderId).map listedOrder := by
  have filled : ∀ status : OrderStatus,
      ((some status.value).filter fun text => text ≠ "") = some status.value := by
    intro status
    cases status <;> decide
  have aims : ∀ (label : Message × Timestamp) event, label.1.orderEvent? = some event →
      orderUpsert.target label = event.orderId := fun label event picked => by simp [orderUpsert, picked]
  have relayed := delivered.orders orderId
  have present := present_order delivered told orderId
  have customerId := orders_follow_customerId.shows aims relayed told present (fun listed => listed.1)
    fun _ => rfl
  have restaurantId := orders_follow_restaurantId.shows aims relayed told present
    (fun listed => listed.2.1) fun _ => rfl
  have status := orders_follow_status.shows aims relayed told present (fun listed => listed.2.2.1)
    fun event => filled event.status
  have paymentStatus := orders_follow_paymentStatus.shows aims relayed told present
    (fun listed => listed.2.2.2.1) fun _ => rfl
  have total := orders_follow_total.shows aims relayed told present (fun listed => listed.2.2.2.2)
    fun _ => rfl
  rw [(tables_after handled).1]
  exact map_pair customerId (map_pair restaurantId (map_pair status (map_pair paymentStatus total)))

/-! ### Users and restaurants -/

/-- The users service's part of what the console has to say. -/
structure UsersTold (u : Users.State) : Prop where
  roles : userTopic.Tells (fun event => (event.role, event.isActive)) u
  emails : contactTopic.Tells Users.ContactEvent.email u

theorem present_user (delivered : Delivered u r o handled) (told : UsersTold u) (userId : Nat) :
    ((run userUpsert.step .empty handled).find? userId).isSome ↔ (u.users.find? userId).isSome := by
  have openly := (delivered.users userId).ne_nil_iff
  have restricted := (delivered.contacts userId).ne_nil_iff
  rw [ne_eq, ne_eq, List.map_eq_nil_iff, ← ne_eq, ← ne_eq] at openly restricted
  have both : userEventsOf userId u.outbox ≠ [] ∨ contactEventsOf userId u.outbox ≠ [] ↔
      (u.users.find? userId).isSome := by
    have some_user : userEventsOf userId u.outbox ≠ [] ↔ _ := told.roles.ne_nil_iff userId
    have some_contact : contactEventsOf userId u.outbox ≠ [] ↔ _ := told.emails.ne_nil_iff userId
    rw [some_user, some_contact, or_self]
  have aims : ∀ label : Message × Timestamp, userUpsert.target label = some userId ↔
      (∃ event, label.1.userEvent? = some event ∧ event.userId = some userId) ∨
        ∃ event, label.1.contactEvent? = some event ∧ event.userId = some userId := by
    rintro ⟨message, now⟩
    cases message with
    | userEvents payload => simp [userUpsert, Message.userEvent?, Message.contactEvent?]
    | userContactEvents payload => simp [userUpsert, Message.userEvent?, Message.contactEvent?]
    | orderEvents payload => simp [userUpsert, Message.userEvent?, Message.contactEvent?]
    | restaurantEvents payload => simp [userUpsert, Message.userEvent?, Message.contactEvent?]
  rw [← both, ← openly, ← restricted, brought_ne_nil, brought_ne_nil, Upsert.present_run]
  simp only [aims, and_or_left, exists_or]
  exact or_iff_left (by simp [Table.find?, Table.empty])

/-- **A user is listed with the email, the role and the access that their row has.** -/
theorem user_listed (delivered : Delivered u r o handled) (told : UsersTold u) (userId : Nat) :
    ((consoleAfter handled).users.find? userId).map (fun row => (row.email, row.role, row.isActive)) =
      (u.users.find? userId).map fun user => (user.email, user.role.value, user.isActive) := by
  have present := present_user delivered told userId
  have role := users_follow_role.shows userUpsert_userEvent (delivered.users userId) told.roles
    present (fun shown => shown.1.value) fun _ => rfl
  have isActive := users_follow_isActive.shows userUpsert_userEvent (delivered.users userId)
    told.roles present (fun shown => shown.2) fun _ => rfl
  have email := users_follow_email.shows userUpsert_contactEvent (delivered.contacts userId)
    told.emails present id fun _ => rfl
  rw [(tables_after handled).2.1]
  exact map_pair email (map_pair role isActive)

/-- **A user is listed with the names of the last event about them.** -/
theorem names_listed (delivered : Delivered u r o handled) (told : UsersTold u) (userId : Nat) :
    ((consoleAfter handled).users.find? userId).map (fun row => (row.firstName, row.lastName)) =
      (userEventsOf userId u.outbox).getLast?.map fun event => (event.firstName, event.lastName) := by
  have present : ((run userUpsert.step .empty handled).find? userId).isSome ↔
      (userEventsOf userId u.outbox).map userPayload ≠ [] := by
    rw [present_user delivered told userId, ne_eq, List.map_eq_nil_iff]
    exact (told.roles.ne_nil_iff userId).symm
  have firstName := users_follow_firstName.agrees userUpsert_userEvent (delivered.users userId)
    (fun event member => by obtain ⟨_, -, rfl⟩ := List.mem_map.mp member; rfl) present
  have lastName := users_follow_lastName.agrees userUpsert_userEvent (delivered.users userId)
    (fun event member => by obtain ⟨_, -, rfl⟩ := List.mem_map.mp member; rfl) present
  rw [List.getLast?_map, Option.bind_map] at firstName lastName
  rw [(tables_after handled).2.1]
  exact map_pair (firstName.trans (Option.map_eq_bind ..).symm) (lastName.trans (Option.map_eq_bind ..).symm)

/-- **A user is listed with the phone number of the last event about them.** -/
theorem phone_listed (delivered : Delivered u r o handled) (told : UsersTold u) (userId : Nat) :
    ((consoleAfter handled).users.find? userId).map UserRow.phone =
      (contactEventsOf userId u.outbox).getLast?.map Users.ContactEvent.phone := by
  have present : ((run userUpsert.step .empty handled).find? userId).isSome ↔
      (contactEventsOf userId u.outbox).map contactPayload ≠ [] := by
    rw [present_user delivered told userId, ne_eq, List.map_eq_nil_iff]
    exact (told.emails.ne_nil_iff userId).symm
  have phone := users_follow_phone.agrees userUpsert_contactEvent (delivered.contacts userId)
    (fun event member => by obtain ⟨_, -, rfl⟩ := List.mem_map.mp member; rfl) present
  rw [List.getLast?_map, Option.bind_map] at phone
  rw [(tables_after handled).2.1]
  exact phone.trans (Option.map_eq_bind ..).symm

theorem present_restaurant (delivered : Delivered u r o handled) (told : RestaurantsTold r)
    (restaurantId : Nat) : ((run restaurantUpsert.step .empty handled).find? restaurantId).isSome ↔
      (r.restaurants.find? restaurantId).isSome := by
  have sent := (delivered.restaurants restaurantId).ne_nil_iff
  rw [ne_eq, ne_eq, List.map_eq_nil_iff, ← ne_eq, ← ne_eq] at sent
  rw [← told.ne_nil_iff]
  change _ ↔ restaurantEventsOf restaurantId r.outbox ≠ []
  rw [← sent, brought_ne_nil, Upsert.present_run]
  simp only [restaurantUpsert, Option.bind_eq_some_iff]
  exact or_iff_left (by simp [Table.find?, Table.empty])

/-- **A restaurant is listed with its name and its owner.** -/
theorem restaurant_listed (delivered : Delivered u r o handled) (told : RestaurantsTold r)
    (restaurantId : Nat) :
    ((consoleAfter handled).restaurants.find? restaurantId).map (fun row => (row.name, row.ownerId)) =
      (r.restaurants.find? restaurantId).map fun restaurant => (restaurant.name, restaurant.ownerId) := by
  have aims : ∀ (label : Message × Timestamp) event, label.1.restaurantEvent? = some event →
      restaurantUpsert.target label = event.restaurantId :=
    fun label event picked => by simp [restaurantUpsert, picked]
  have present := present_restaurant delivered told restaurantId
  have name := restaurants_follow_name.shows aims (delivered.restaurants restaurantId) told present
    (fun shown => shown.1) fun _ => rfl
  have ownerId := restaurants_follow_ownerId.shows aims (delivered.restaurants restaurantId) told present
    (fun shown => shown.2) fun _ => rfl
  rw [(tables_after handled).2.2]
  exact map_pair name ownerId

end Rows

/-! ### The numbers -/

section Numbers

variable {o : Orders.State} {c : Console}

/-- The orders that the console counts and those of the service. -/
def OrdersAlike (o : Orders.State) (c : Console) : Prop :=
  (c.orders.rows.map OrderRow.listed).Perm (o.orders.rows.map listedOrder)

theorem ordersByStatus_of_alike (alike : OrdersAlike o c) (status : String) (count : Nat) :
    (status, count) ∈ (getStats c).ordersByStatus ↔
      0 < count ∧ count = o.orders.rows.countP fun order => order.status.value = status := by
  have counts := alike.countP_eq fun listed => listed.2.2.1 = status
  rw [List.countP_map, List.countP_map] at counts
  show (status, count) ∈ (groupBy OrderRow.status c.orders.rows).map _ ↔ _
  rw [mem_groupBy_length]
  exact and_congr_right fun _ => by rw [show (c.orders.rows.countP fun row => row.status = status) =
    o.orders.rows.countP fun order => order.status.value = status from counts]

theorem excludedFromGmv_iff (order : Orders.Order) :
    order.status.value ∉ excludedFromGmv ↔ Traded order := by
  unfold Traded
  cases order.status <;> decide

/-- **The GMV is what the orders that were traded come to.** -/
theorem gmv_of_alike (alike : OrdersAlike o c) : (getStats c).grossMerchandiseValue =
    ((o.orders.rows.filter fun order => Traded order).map Orders.Order.total).sum := by
  have summed := (((alike.filter fun listed => listed.2.2.1 ∉ excludedFromGmv).map
    fun listed => listed.2.2.2.2)).sum_eq
  rw [List.filter_map, List.filter_map, List.map_map, List.map_map] at summed
  have traded : (o.orders.rows.filter fun order => Traded order) =
      o.orders.rows.filter fun order => order.status.value ∉ excludedFromGmv :=
    List.filter_congr fun order _ => decide_eq_decide.mpr (excludedFromGmv_iff order).symm
  rw [traded]
  exact summed

end Numbers

/-- **The console agrees with the services** once what they have recorded has been delivered, however
often and in whatever order across keys and topics; and an account whose profile was not edited is listed
with the names and the phone number that it has. -/
theorem console_agrees (verifyPassword : String → String → Bool) (actions : List Users.Action)
    (env : Restaurants.Environment) (ops : List Restaurants.Operation)
    (labels : List (Orders.Operation × Timestamp)) (handled : List (Message × Timestamp))
    (delivered : Delivered (run (Users.Gate.step verifyPassword) .empty actions).db
      (run (Restaurants.State.step env) .empty ops) (run Orders.State.step .empty labels) handled) :
    Agrees (run (Users.Gate.step verifyPassword) .empty actions).db
      (run (Restaurants.State.step env) .empty ops) (run Orders.State.step .empty labels) handled ∧
    ∀ userId, Unedited userId actions →
      ((consoleAfter handled).users.find? userId).map
          (fun row => ((row.firstName, row.lastName), row.phone)) =
        ((run (Users.Gate.step verifyPassword) .empty actions).db.users.find? userId).map
          fun user => ((user.firstName, user.lastName), user.phone) := by
  have told : UsersTold (run (Users.Gate.step verifyPassword) .empty actions).db :=
    ⟨roles_told verifyPassword actions, emails_told verifyPassword actions⟩
  have orderRows := order_listed delivered (ordersTold_run labels)
  have userRows := user_listed delivered told
  have userNames := names_listed delivered told
  have userPhones := phone_listed delivered told
  have restaurantRows := restaurant_listed delivered (restaurantsTold_run env ops)
  have orders := Table.perm_map_of_find? orderRows
  have users := (Table.perm_map_of_find? userRows).length_eq
  have restaurants := (Table.perm_map_of_find? restaurantRows).length_eq
  rw [List.length_map, List.length_map] at users restaurants
  have ordersTotal := orders.length_eq
  rw [List.length_map, List.length_map] at ordersTotal
  refine ⟨
    { users := users
      restaurants := restaurants
      ordersTotal := ordersTotal
      ordersByStatus := ordersByStatus_of_alike orders
      grossMerchandiseValue := gmv_of_alike orders
      orderRows := orderRows
      userRows := userRows
      userNames := userNames
      userPhones := userPhones
      restaurantRows := restaurantRows
      heard := ⟨orders_createdAt handled, users_createdAt handled, restaurants_createdAt handled⟩ },
    fun userId unedited => ?_⟩
  have names : (userEventsOf userId _).getLast?.map _ = _ :=
    announced_now userTopic (fun event => (event.firstName, event.lastName)) verifyPassword
      unedited fun _ _ => rfl
  have phone : (contactEventsOf userId _).getLast?.map _ = _ :=
    announced_now contactTopic Users.ContactEvent.phone verifyPassword unedited fun _ _ => rfl
  exact map_pair ((userNames userId).trans names) ((userPhones userId).trans phone)

/-! ### One pass, and another -/

/-- Every row that has been recorded, topic by topic. -/
def pass (u : Users.State) (r : Restaurants.State) (o : Orders.State) (now : Timestamp) :
    List (Message × Timestamp) :=
  ((u.outbox.filterMap Users.OutboxEvent.contactEvent?).map fun event =>
      (Message.userContactEvents (contactPayload event), now)) ++
    ((r.outbox.filterMap Restaurants.OutboxEvent.restaurantEvent?).map fun event =>
      (Message.restaurantEvents (restaurantPayload event), now)) ++
    ((o.outbox.filterMap Orders.OutboxEvent.orderEvent?).map fun event =>
      (Message.orderEvents (orderPayload event), now)) ++
    (u.outbox.filterMap Users.OutboxEvent.userEvent?).map fun event =>
      (Message.userEvents (userPayload event), now)

/-- What is handled a second time is delivered all the same. -/
theorem delivered_twice (u : Users.State) (r : Restaurants.State) (o : Orders.State)
    (first second : Timestamp) : Delivered u r o (pass u r o first ++ pass u r o second) := by
  have orders : ∀ orderId now, brought (fun label => label.1.orderEvent?) OrderPayload.orderId orderId
      (pass u r o now) = (Orders.eventsOf orderId o.outbox).map orderPayload := by
    intro orderId now
    simp [pass, brought, List.filterMap_map, Function.comp_def, Message.orderEvent?, List.filter_map,
      orderPayload, Orders.eventsOf]
  have users : ∀ userId now, brought (fun label => label.1.userEvent?) UserPayload.userId userId
      (pass u r o now) = (userEventsOf userId u.outbox).map userPayload := by
    intro userId now
    simp [pass, brought, List.filterMap_map, Function.comp_def, Message.userEvent?, List.filter_map,
      userPayload, userEventsOf]
  have contacts : ∀ userId now, brought (fun label => label.1.contactEvent?) ContactPayload.userId userId
      (pass u r o now) = (contactEventsOf userId u.outbox).map contactPayload := by
    intro userId now
    simp [pass, brought, List.filterMap_map, Function.comp_def, Message.contactEvent?, List.filter_map,
      contactPayload, contactEventsOf]
  have restaurants : ∀ restaurantId now, brought (fun label => label.1.restaurantEvent?)
      RestaurantPayload.restaurantId restaurantId (pass u r o now) =
        (restaurantEventsOf restaurantId r.outbox).map restaurantPayload := by
    intro restaurantId now
    simp [pass, brought, List.filterMap_map, Function.comp_def, Message.restaurantEvent?, List.filter_map,
      restaurantPayload, restaurantEventsOf]
  refine ⟨fun k => ?_, fun k => ?_, fun k => ?_, fun k => ?_⟩
  · rw [brought_append, orders, orders]
    exact relayed_twice _
  · rw [brought_append, users, users]
    exact relayed_twice _
  · rw [brought_append, contacts, contacts]
    exact relayed_twice _
  · rw [brought_append, restaurants, restaurants]
    exact relayed_twice _

/-- A customer signs up, a restaurant opens and a meal is ordered. -/
theorem console_agrees_meal :
    let actions : List Users.Action :=
      [.registerUser { email := "a@x.in", phone := "+919876543210", firstName := "Asha", lastName := "Rao"
                       selfService := by decide, matches_role := by decide } "h" 0 false]
    let u := (run (Users.Gate.step fun _ _ => true) .empty actions).db
    let r := run (Restaurants.State.step Restaurants.plainEnvironment) .empty Restaurants.newVenue
    let o := run Orders.State.step .empty (Orders.mealCheckout .cod)
    let handled := pass u r o 20 ++ pass u r o 30
    Agrees u r o handled ∧
      ((consoleAfter handled).users.find? 1).map (fun row => ((row.firstName, row.lastName), row.phone)) =
        (u.users.find? 1).map fun user => ((user.firstName, user.lastName), user.phone) := by
  intro actions u r o handled
  obtain ⟨agrees, profiles⟩ := console_agrees (fun _ _ => true) actions Restaurants.plainEnvironment
    Restaurants.newVenue (Orders.mealCheckout .cod) handled (delivered_twice _ _ _ 20 30)
  exact ⟨agrees, profiles 1 fun data lostRace member => by cases List.mem_singleton.mp member⟩

end FoodDelivery.Admin
