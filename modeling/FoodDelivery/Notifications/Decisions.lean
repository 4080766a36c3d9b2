/-
**One decision, one mail** (`services/notifications/app/consumer.py`, `_handle_restaurant`, and
`templates.py`).

A decision is no event of its own. Each event about a restaurant carries its approval status, and
`_handle_restaurant` mails the owner for every event whose status is a decision. An edit of a venue that
has been decided on announces it again, with the old decision, and mails again.

`mails_eq`: once every event has been delivered, an owner has been mailed once for each decision on the
owner's venues and once for each edit of a venue of theirs that had been decided on.
`oneMailEach_iff`: the mails are the decisions if and only if there was no such edit.
-/

import FoodDelivery.Lib.Counts
import FoodDelivery.Notifications.Contacts
import FoodDelivery.Restaurants.Runs

set_option autoImplicit false

namespace FoodDelivery.Notifications

open FoodDelivery.Lib
open FoodDelivery.Restaurants (ApprovalStatus Environment Operation Restaurant RestaurantEvent)

/-! ### The wording -/

/-- `restaurant_decision`: subject and body for an approval decision, or none when it is not one worth
mailing about. -/
def restaurantDecision (status name : String) : Option (String × String) :=
  if status = "approved" then
    some ("Your restaurant is approved",
      name ++ " has been approved. You can now sign in and start setting up your menu — customers " ++
        "will see you as soon as you open the kitchen.")
  else if status = "rejected" then
    some ("About your restaurant registration",
      name ++ " was not approved, so it will not appear to customers and you cannot sign in yet. " ++
        "If you think this is a mistake, reply to this email and we will take another look.")
  else none

/-- The payload of `restaurant-events`; a key that is missing or null is `none`. -/
structure RestaurantPayload where
  ownerId : Option Nat
  approvalStatus : Option String
  name : Option String
deriving DecidableEq, Repr

/-! ### The consumer -/

/-- A call of `senders.dispatch` on the email channel, for the user whose contact it was. -/
structure Mail where
  userId : Nat
  recipient : String
  subject : String
  body : String
deriving DecidableEq, Repr

structure Notification where
  userId : Nat
  channel : String
  type : String
  message : String
  delivered : Bool
deriving DecidableEq, Repr

/-- The service's tables, and the mails it has dispatched, oldest first. -/
structure Mailroom where
  contacts : Table Nat Contact Contact.userId
  notifications : List Notification := []
  mails : List Mail := []

/-- The address on file for a user: none without a contact, an email or with an empty one. -/
def emailOf (contacts : Table Nat Contact Contact.userId) (userId : Nat) : Option String :=
  (contacts.find? userId).bind fun contact => contact.email.filter fun email => email ≠ ""

/-- `_handle_restaurant`: mail a restaurant owner the operator's decision on their venue. `send` is the
sender, which is `false` when it fails or raises. -/
def handleRestaurant (send : Mail → Bool) (room : Mailroom) (payload : RestaurantPayload) :
    Mailroom :=
  match payload.ownerId, payload.approvalStatus with
  | some ownerId, some status =>
    match restaurantDecision status ((payload.name.filter (· ≠ "")).getD "Your restaurant") with
    | none => room
    | some (subject, body) =>
      match emailOf room.contacts ownerId with
      | none => room
      | some recipient =>
        let mail : Mail := ⟨ownerId, recipient, subject, body⟩
        { room with
          mails := room.mails ++ [mail]
          notifications := room.notifications ++
            [{ userId := ownerId
               channel := "EMAIL"
               type := "restaurant." ++ status
               message := body
               delivered := send mail }] }
  | _, _ => room

/-! ### The events on their way -/

/-- `approval_status` as the column and the event have it. -/
def approvalText : ApprovalStatus → String
  | .pending => "pending"
  | .approved => "approved"
  | .rejected => "rejected"

/-- An event of the restaurants service, as it arrives. -/
def restaurantPayload (event : RestaurantEvent) : RestaurantPayload where
  ownerId := some event.ownerId
  approvalStatus := some (approvalText event.approvalStatus)
  name := some event.name

/-- The payload of a `restaurant-events` row. -/
def eventOf : Restaurants.OutboxEvent → Option RestaurantEvent
  | .restaurantEvents payload => some payload
  | .notificationEvents _ _ => none

/-- The `restaurant-events` rows of an outbox. -/
def eventsOf (s : Restaurants.State) : List RestaurantEvent := s.outbox.filterMap eventOf

/-- Both services, and how many of the events have been delivered. -/
structure Desk where
  restaurants : Restaurants.State
  delivered : Nat
  room : Mailroom

inductive Label where
  | operate (op : Operation)
  | deliver

/-- A request to the restaurants service, or the delivery of its next event. -/
def Desk.step (env : Environment) (send : Mail → Bool) (w : Desk) : Label → Desk
  | .operate op => { w with restaurants := w.restaurants.step env op }
  | .deliver =>
    match (eventsOf w.restaurants)[w.delivered]? with
    | none => w
    | some event =>
      { w with
        delivered := w.delivered + 1
        room := handleRestaurant send w.room (restaurantPayload event) }

/-- A database whose events have all been delivered, and the contacts there are. -/
def Desk.start (db : Restaurants.State) (contacts : Table Nat Contact Contact.userId) : Desk where
  restaurants := db
  delivered := (eventsOf db).length
  room := { contacts := contacts }

/-- Every event that was recorded has been delivered. -/
def Desk.AllDelivered (w : Desk) : Prop := w.delivered = (eventsOf w.restaurants).length

/-! ### What is counted -/

/-- The mails to an owner. -/
def Desk.mailsTo (w : Desk) (ownerId : Nat) : Nat :=
  w.room.mails.countP fun mail => mail.userId = ownerId

/-- A decision, to approve or to reject, on a venue of the owner. -/
def decides (ownerId : Nat) (s : Restaurants.State) : Operation → Bool
  | .setApproval restaurantId status _ =>
    status ≠ .pending ∧
      ((s.restaurants.find? restaurantId).any fun restaurant => restaurant.ownerId = ownerId)
  | _ => false

/-- An edit, which is allowed and can be stored, of a venue of the owner that has been decided on. -/
def editsDecided (ownerId : Nat) (s : Restaurants.State) : Operation → Bool
  | .updateRestaurant restaurantId user data =>
    match Restaurants.ownedRestaurant s user restaurantId with
    | .error _ => false
    | .ok restaurant => restaurant.ownerId = ownerId ∧ restaurant.approvalStatus ≠ .pending ∧
        (data.apply restaurant).toOption.isSome
  | _ => false

/-- The requests of a run that meet a condition. -/
def onRequests (condition : Restaurants.State → Operation → Bool) (w : Desk) : Label → Bool
  | .operate op => condition w.restaurants op
  | .deliver => false

/-! ### What an event mails -/

/-- The event is about a decided venue of the owner. -/
def Announces (ownerId : Nat) (event : RestaurantEvent) : Bool :=
  event.ownerId = ownerId ∧ event.approvalStatus ≠ .pending

theorem restaurantDecision_isSome (status : ApprovalStatus) (name : String) :
    (restaurantDecision (approvalText status) name).isSome = decide (status ≠ .pending) := by
  cases status <;> simp [approvalText, restaurantDecision]

@[simp] theorem contacts_handleRestaurant (send : Mail → Bool) (room : Mailroom)
    (payload : RestaurantPayload) : (handleRestaurant send room payload).contacts = room.contacts := by
  unfold handleRestaurant
  split
  · split
    · rfl
    · split <;> rfl
  · rfl

/-- **What the delivery of an event adds** to the mails of an owner who can be reached. -/
theorem mailsTo_handleRestaurant {send : Mail → Bool} {room : Mailroom} {ownerId : Nat}
    (reachable : (emailOf room.contacts ownerId).isSome) (event : RestaurantEvent) :
    ((handleRestaurant send room (restaurantPayload event)).mails.countP
        fun mail => mail.userId = ownerId) =
      (room.mails.countP fun mail => mail.userId = ownerId) +
        if Announces ownerId event then 1 else 0 := by
  have wording := restaurantDecision_isSome event.approvalStatus
    (((some event.name).filter (· ≠ "")).getD "Your restaurant")
  unfold handleRestaurant restaurantPayload Announces
  dsimp only
  cases decision : restaurantDecision (approvalText event.approvalStatus)
      (((some event.name).filter (· ≠ "")).getD "Your restaurant") with
  | none =>
    rw [decision] at wording
    have pending : event.approvalStatus = .pending := by simpa using wording
    simp [pending]
  | some worded =>
    rw [decision] at wording
    have decided : event.approvalStatus ≠ .pending := by simpa using wording
    obtain ⟨subject, body⟩ := worded
    dsimp only
    by_cases own : event.ownerId = ownerId
    · obtain ⟨address, known⟩ := Option.isSome_iff_exists.mp reachable
      rw [own, known]
      simp [decided]
    · cases emailOf room.contacts event.ownerId with
      | none => simp [own]
      | some address => simp [own]

/-! ### What a request announces -/

variable {env : Environment} {s next : Restaurants.State} {ownerId : Nat}

/-- What a request records for this topic, by how many of its events announce a decided venue of the
owner. -/
def Records (ownerId : Nat) (s next : Restaurants.State) (count : Nat) : Prop :=
  ∃ new, eventsOf next = eventsOf s ++ new ∧ new.countP (Announces ownerId) = count

theorem records_none (same : next.outbox = s.outbox) : Records ownerId s next 0 :=
  ⟨[], by simp [eventsOf, same], rfl⟩

/-- **A venue that is saved is announced as it is**, whatever alert goes with it. -/
theorem records_save (ownerId : Nat) {before : Restaurants.State} (same : before.outbox = s.outbox)
    (restaurant : Restaurant) {more : List Restaurants.OutboxEvent}
    (alerts : more.filterMap eventOf = []) :
    Records ownerId s
      (before.save restaurant (Restaurants.publishRestaurant restaurant :: more))
      (if restaurant.ownerId = ownerId ∧ restaurant.approvalStatus ≠ .pending then 1 else 0) := by
  refine ⟨[⟨restaurant.id, restaurant.ownerId, restaurant.name, restaurant.isOpen,
    restaurant.approvalStatus⟩], ?_, ?_⟩
  · simp [eventsOf, eventOf, Restaurants.State.save, Restaurants.publishRestaurant, same, alerts]
  · by_cases announced : restaurant.ownerId = ownerId ∧ restaurant.approvalStatus ≠ .pending
    · simp [Announces, announced]
    · rw [if_neg announced]
      simpa [Announces] using announced

/-- A venue that waits for a decision announces none. -/
theorem records_pending {restaurant : Restaurant} (pending : restaurant.approvalStatus = .pending)
    {more : List Restaurants.OutboxEvent} (alerts : more.filterMap eventOf = []) :
    Records ownerId s (s.save restaurant (Restaurants.publishRestaurant restaurant :: more)) 0 := by
  simpa [pending] using records_save (s := s) ownerId rfl restaurant alerts

theorem records_registerFromSignup (adminAlertEmail : String) (payload : Restaurants.Registration) :
    Records ownerId s (Restaurants.registerFromSignup adminAlertEmail s payload) 0 := by
  unfold Restaurants.registerFromSignup
  split
  · split_ifs
    · exact records_none rfl
    · exact records_none rfl
    · refine records_pending rfl ?_
      unfold Restaurants.alertAdminOfSubmission
      split <;> rfl
  · exact records_none rfl

theorem records_createRestaurant {owner : Identity} {data : Restaurants.RestaurantCreate}
    (outcome : Restaurants.createRestaurant s owner data = .ok next) :
    Records ownerId s next 0 := by
  unfold Restaurants.createRestaurant at outcome
  split at outcome
  · cases outcome
  · cases outcome
    exact records_pending rfl rfl

/-- **A decision** is announced, to approve or to reject, where the venue is the owner's. -/
theorem records_setApproval (ownerId : Nat) {restaurantId : Nat} {status : ApprovalStatus}
    {reason : Option String}
    (outcome : Restaurants.setApproval s restaurantId status reason = .ok next) :
    Records ownerId s next
      (if decides ownerId s (.setApproval restaurantId status reason) then 1 else 0) := by
  obtain ⟨restaurant, got, rest⟩ := bind_eq_ok.mp outcome
  cases rest
  have found := Restaurants.getRestaurant_ok.mp got
  have saved := records_save (s := s) ownerId rfl
    { restaurant with
      approvalStatus := status
      rejectionReason := if status = .rejected then reason else none
      isOpen := if status ≠ .approved then false else restaurant.isOpen } List.filterMap_nil
  dsimp only at saved
  simpa [decides, found, and_comm] using saved

/-- **An edit** announces the venue with the decision it has. -/
theorem records_updateRestaurant (ownerId : Nat) {restaurantId : Nat} {user : Identity}
    {data : Restaurants.RestaurantUpdate}
    (outcome : Restaurants.updateRestaurant s restaurantId user data = .ok next) :
    Records ownerId s next
      (if editsDecided ownerId s (.updateRestaurant restaurantId user data) then 1 else 0) := by
  obtain ⟨restaurant, owned, rest⟩ := bind_eq_ok.mp outcome
  obtain ⟨edited, applied, rest⟩ := bind_eq_ok.mp rest
  obtain ⟨_, sameOwner, sameStatus, _⟩ := Restaurants.apply_ok applied
  have saved : Records ownerId s next
      (if edited.ownerId = ownerId ∧ edited.approvalStatus ≠ .pending then 1 else 0) := by
    cases rest
    refine records_save ownerId ?_ edited rfl
    cases data.openingHours <;> rfl
  rw [sameOwner, sameStatus] at saved
  simpa [editsDecided, owned, applied, Except.toOption] using saved

theorem decides_of_error {op : Operation} {raised : Raised} (fails : op.outcome env s = .error raised) :
    decides ownerId s op = false := by
  cases op with
  | setApproval restaurantId status reason =>
    cases found : s.restaurants.find? restaurantId with
    | none => simp [decides, found]
    | some restaurant =>
      have got := Restaurants.getRestaurant_ok.mpr found
      simp [Operation.outcome, Restaurants.setApproval, got, bind, Except.bind, pure, Except.pure]
        at fails
  | _ => rfl

theorem editsDecided_of_error {op : Operation} {raised : Raised}
    (fails : op.outcome env s = .error raised) : editsDecided ownerId s op = false := by
  cases op with
  | updateRestaurant restaurantId user data =>
    cases owned : Restaurants.ownedRestaurant s user restaurantId with
    | error _ => simp [editsDecided, owned]
    | ok restaurant =>
      cases applied : data.apply restaurant with
      | error _ => simp [editsDecided, owned, applied, Except.toOption]
      | ok edited =>
        simp [Operation.outcome, Restaurants.updateRestaurant, owned, applied, bind, Except.bind,
          pure, Except.pure] at fails
  | _ => rfl

/-- **What a request announces**: a decision on a venue of the owner, or an edit of a decided one. -/
theorem records_step (env : Environment) (s : Restaurants.State) (op : Operation) (ownerId : Nat) :
    Records ownerId s (s.step env op)
      (if decides ownerId s op || editsDecided ownerId s op then 1 else 0) := by
  unfold Restaurants.State.step
  cases outcome : op.outcome env s with
  | error raised =>
    rw [decides_of_error outcome, editsDecided_of_error outcome]
    exact records_none rfl
  | ok next =>
    cases op with
    | registerFromSignup payload =>
      cases outcome
      exact records_registerFromSignup env.adminAlertEmail payload
    | createRestaurant owner data => exact records_createRestaurant outcome
    | setApproval restaurantId status reason =>
      have recorded := records_setApproval ownerId outcome
      simpa [editsDecided] using recorded
    | updateRestaurant restaurantId user data =>
      have recorded := records_updateRestaurant ownerId outcome
      simpa [decides] using recorded
    | addCategory user restaurantId data =>
      obtain ⟨_, -, rfl⟩ := Restaurants.addCategory_ok outcome
      exact records_none rfl
    | updateCategory user restaurantId categoryId data =>
      obtain ⟨_, _, -, -, -, rfl⟩ := Restaurants.updateCategory_ok outcome
      exact records_none rfl
    | deleteCategory user restaurantId categoryId =>
      obtain ⟨-, rfl⟩ := Restaurants.deleteCategory_ok outcome
      exact records_none rfl
    | addItem user restaurantId data =>
      obtain ⟨_, _, -, -, -, rfl⟩ := Restaurants.addItem_ok outcome
      exact records_none rfl
    | updateItem user restaurantId itemId data =>
      obtain ⟨_, _, -, -, -, rfl⟩ := Restaurants.updateItem_ok outcome
      exact records_none rfl
    | deleteItem user restaurantId itemId =>
      obtain rfl := Restaurants.deleteItem_ok outcome
      exact records_none rfl
    | validateOrder restaurantId body clock =>
      rcases Restaurants.validateOrder_ok outcome with rfl | ⟨_, rfl⟩
      · exact records_none rfl
      · exact records_none rfl
    | releaseStock lines =>
      cases outcome
      exact records_none rfl

/-! ### A run -/

/-- What has been mailed to the owner and what the events on their way will mail. -/
def Desk.due (w : Desk) (ownerId : Nat) : Nat :=
  w.mailsTo ownerId + ((eventsOf w.restaurants).drop w.delivered).countP (Announces ownerId)

/-- The owner can be reached, and no more has been delivered than was recorded. -/
structure Desk.Reaches (ownerId : Nat) (w : Desk) : Prop where
  reachable : (emailOf w.room.contacts ownerId).isSome
  recorded : w.delivered ≤ (eventsOf w.restaurants).length

variable {send : Mail → Bool} {w : Desk}

/-- **One step** raises what is due by one for a decision and for an edit of a decided venue. -/
theorem due_step (reaches : w.Reaches ownerId) (label : Label) :
    (w.step env send label).Reaches ownerId ∧
      (w.step env send label).due ownerId = w.due ownerId +
        if onRequests (decides ownerId) w label || onRequests (editsDecided ownerId) w label
        then 1 else 0 := by
  obtain ⟨reachable, recorded⟩ := reaches
  cases label with
  | operate op =>
    obtain ⟨new, grown, counted⟩ := records_step env w.restaurants op ownerId
    constructor
    · refine ⟨reachable, ?_⟩
      simp only [Desk.step, grown, List.length_append]
      omega
    · simp only [Desk.due, Desk.step, Desk.mailsTo, onRequests, grown,
        List.drop_append_of_le_length recorded, List.countP_append, counted, Nat.add_assoc]
      rfl
  | deliver =>
    unfold Desk.step
    dsimp only
    cases next : (eventsOf w.restaurants)[w.delivered]? with
    | none => exact ⟨⟨reachable, recorded⟩, rfl⟩
    | some event =>
      obtain ⟨inside, here⟩ := List.getElem?_eq_some_iff.mp next
      have rest : (eventsOf w.restaurants).drop w.delivered =
          event :: (eventsOf w.restaurants).drop (w.delivered + 1) :=
        here ▸ List.drop_eq_getElem_cons inside
      constructor
      · exact ⟨by simpa using reachable, inside⟩
      · simp only [Desk.due, Desk.mailsTo, onRequests, mailsTo_handleRestaurant reachable, rest,
          List.countP_cons]
        simp only [Bool.or_self, Bool.false_eq_true, if_false]
        omega

theorem reaches_start {db : Restaurants.State} {contacts : Table Nat Contact Contact.userId}
    (reachable : (emailOf contacts ownerId).isSome) : (Desk.start db contacts).Reaches ownerId :=
  ⟨reachable, Nat.le_refl _⟩

/-- **The mails of a run**, once every event has been delivered. -/
theorem mails_eq {db : Restaurants.State} {contacts : Table Nat Contact Contact.userId}
    (reachable : (emailOf contacts ownerId).isSome) {labels : List Label}
    (delivered : (run (Desk.step env send) (Desk.start db contacts) labels).AllDelivered) :
    (run (Desk.step env send) (Desk.start db contacts) labels).mailsTo ownerId =
      times (Desk.step env send) (onRequests (decides ownerId)) (Desk.start db contacts) labels +
      times (Desk.step env send) (onRequests (editsDecided ownerId)) (Desk.start db contacts)
        labels := by
  have counted : (run (Desk.step env send) (Desk.start db contacts) labels).due ownerId =
      (Desk.start db contacts).due ownerId + times (Desk.step env send)
        (fun w label => onRequests (decides ownerId) w label ||
          onRequests (editsDecided ownerId) w label) (Desk.start db contacts) labels :=
    measure_run (P := Desk.Reaches ownerId) (fun w => w.due ownerId)
      (fun w label reaches => (due_step reaches label).1)
      (fun w label reaches => (due_step reaches label).2) (reaches_start reachable)
  rw [times_or] at counted
  · unfold Desk.due at counted
    rw [delivered, List.drop_length] at counted
    simpa [Desk.start, Desk.mailsTo] using counted
  · intro w label decided
    cases label with
    | deliver => rfl
    | operate op =>
      cases op with
      | setApproval restaurantId status reason => rfl
      | _ => cases decided

/-- **One decision, one mail**: the owner has been mailed as often as decisions were made. -/
def OneMailEach (env : Environment) (send : Mail → Bool) (ownerId : Nat) (w : Desk)
    (labels : List Label) : Prop :=
  (run (Desk.step env send) w labels).mailsTo ownerId =
    times (Desk.step env send) (onRequests (decides ownerId)) w labels

/-- **When each decision is one mail.** In any run of the two services that ends with every event
delivered, an owner who can be reached by email has been mailed once a decision if and only if no
request edited a venue of the owner that was approved or rejected. -/
theorem oneMailEach_iff (env : Environment) (send : Mail → Bool) (db : Restaurants.State)
    (contacts : Table Nat Contact Contact.userId) (ownerId : Nat) (labels : List Label)
    (reachable : (emailOf contacts ownerId).isSome)
    (delivered : (run (Desk.step env send) (Desk.start db contacts) labels).AllDelivered) :
    OneMailEach env send ownerId (Desk.start db contacts) labels ↔
      Throughout (Desk.step env send)
        (fun w label => onRequests (editsDecided ownerId) w label = false)
        (Desk.start db contacts) labels := by
  rw [← times_eq_zero, OneMailEach, mails_eq reachable delivered]
  omega

/-- What an owner's path to a first menu is: a venue, its approval, and two edits. -/
def firstDays : List Label :=
  [.operate (.createRestaurant ⟨7, "restaurant"⟩
      { name := "Spice Route", city := "Surat", addressLine := "1 Ring Road", phone := "98" }),
    .operate (.setApproval 1 .approved none),
    .operate (.updateRestaurant 1 ⟨7, "restaurant"⟩ { isOpen := some (some true) }),
    .operate (.updateRestaurant 1 ⟨7, "restaurant"⟩ { name := some (some "Spice Road") }),
    .deliver, .deliver, .deliver, .deliver]

/-- The owner's contact. -/
def reachableOwner : Table Nat Contact Contact.userId :=
  Table.empty.put { userId := 7, email := some "owner@example.com" }

/-- Without the edits, the approval is the one mail. -/
theorem oneMailEach_undisturbed :
    OneMailEach ⟨"", ⟨fun _ _ => 0, id, fun _ => ""⟩⟩ (fun _ => true) 7
      (Desk.start .empty reachableOwner)
      (firstDays.take 2 ++ [.deliver, .deliver]) := by
  refine (oneMailEach_iff ⟨"", ⟨fun _ _ => 0, id, fun _ => ""⟩⟩ (fun _ => true) .empty reachableOwner 7
    _ (by decide) ?_).mpr ?_
  · unfold Desk.AllDelivered
    decide
  · decide

/-- **Three mails for one decision.** Opening the kitchen and a new name each announce the approval
again. -/
theorem not_oneMailEach :
    ¬ OneMailEach ⟨"", ⟨fun _ _ => 0, id, fun _ => ""⟩⟩ (fun _ => true) 7
      (Desk.start .empty reachableOwner) firstDays := by
  unfold OneMailEach
  decide

end FoodDelivery.Notifications
