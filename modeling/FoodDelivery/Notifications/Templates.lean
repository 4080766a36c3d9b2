/-
**What an order's status sends, and where** (`services/notifications/app/templates.py`, `preferences.py`,
`service.py`).

`handleOrderStatus` is everything one status change produces: the feed row, then one row for each message
that was sent. The senders are a parameter. `feed_handleOrderStatus`: whatever is sent, exactly one of
the rows is the customer's feed.
-/

import FoodDelivery.Notifications.Contacts
import FoodDelivery.Notifications.Devices
import FoodDelivery.Notifications.Decisions

set_option autoImplicit false

namespace FoodDelivery.Notifications

open FoodDelivery.Lib (Table)

/-! ### The copy -/

inductive Channel where
  | log
  | push
  | sms
  | email
deriving DecidableEq, Repr

def Channel.value : Channel → String
  | .log => "LOG"
  | .push => "PUSH"
  | .sms => "SMS"
  | .email => "EMAIL"

/-- `STATUS_COPY`. -/
def statusCopy : List (String × String) :=
  [ ("PAYMENT_SUCCESS", "Your order is confirmed and awaiting the restaurant."),
    ("RESTAURANT_ACCEPTED", "The restaurant accepted your order."),
    ("PREPARING", "Your order is being prepared."),
    ("READY_FOR_PICKUP", "Your order is ready and awaiting a driver."),
    ("OUT_FOR_DELIVERY", "Your order is on the way!"),
    ("DELIVERED", "Your order has been delivered. Enjoy!"),
    ("COMPLETED", "Your order is complete."),
    ("CANCELLED", "Your order was cancelled."),
    ("REJECTED", "The restaurant could not accept your order.") ]

/-- `EMAIL_SUBJECT`, by what follows the order's number. -/
def emailSubject : List (String × String) :=
  [ ("PAYMENT_SUCCESS", " confirmed"),
    ("DELIVERED", " delivered"),
    ("CANCELLED", " cancelled"),
    ("REJECTED", " could not be accepted") ]

/-- `_SMS_STATUSES`. -/
def smsStatuses : List String := ["OUT_FOR_DELIVERY", "DELIVERED", "CANCELLED", "REJECTED"]

/-- The in-app, SMS and push wording for a status: an unknown one is worded too. -/
def shortCopy (status : String) : String :=
  (statusCopy.lookup status).getD ("Order status: " ++ status)

/-- Outbound channels this status is worth sending on. -/
def channelsFor (status : String) : List Channel :=
  if (statusCopy.lookup status).isSome then
    [.push] ++ (if status ∈ smsStatuses then [.sms] else []) ++
      if (emailSubject.lookup status).isSome then [.email] else []
  else []

/-- One status change, worded for one channel. -/
structure Rendered where
  channel : String
  subject : Option String
  body : String
deriving DecidableEq, Repr

def render (channel : Channel) (status : String) (orderId : Nat) : Rendered :=
  let copy := shortCopy status
  let number := "Order #" ++ toString orderId
  match channel with
  | .email =>
    { channel := channel.value
      subject := some (((emailSubject.lookup status).map fun rest => number ++ rest).getD "Order update")
      body := copy ++ "\n\n" ++ number }
  | _ => { channel := channel.value, subject := none, body := number ++ ": " ++ copy }

/-! ### The tables -/

structure NotificationPreference where
  userId : Nat
  emailEnabled : Bool := true
  smsEnabled : Bool := false
  pushEnabled : Bool := true
deriving DecidableEq, Repr

/-- What the service looks a user up in. -/
structure Directory where
  contacts : Table Nat Contact Contact.userId
  preferences : Table Nat NotificationPreference NotificationPreference.userId
  devices : Devices

/-- The user's preferences, the defaults when there are none. -/
def Directory.getPreferences (s : Directory) (user : Nat) : NotificationPreference :=
  (s.preferences.find? user).getD { userId := user }

/-- Whether the user accepts this channel. -/
def NotificationPreference.allows (prefs : NotificationPreference) : Channel → Bool
  | .email => prefs.emailEnabled
  | .sms => prefs.smsEnabled
  | .push => prefs.pushEnabled
  | .log => false

/-- The token strings, newest device first. -/
def Devices.deviceTokens (s : Devices) (user : Nat) : List String :=
  ((s.of user).insertionSort fun first second => first.id ≥ second.id).map DeviceToken.token

/-! ### One status change -/

/-- The payload of `order-events`, as far as this service reads it. -/
structure OrderStatusEvent where
  orderId : Nat
  status : String
  customerId : Nat
deriving DecidableEq, Repr

/-- A row of `notifications` about an order. -/
structure OrderNotification extends Notification where
  orderId : Option Nat
deriving DecidableEq, Repr

/-- `add_notification`: an in-app feed row. -/
def addNotification (user : Nat) (type message : String) (orderId : Option Nat) : OrderNotification where
  userId := user
  channel := Channel.log.value
  type := type
  message := message
  delivered := true
  orderId := orderId

/-- `_recipients`: an empty address is none. -/
def Directory.recipients (s : Directory) (channel : Channel) (event : OrderStatusEvent) : List String :=
  match channel with
  | .push => s.devices.deviceTokens event.customerId
  | .email =>
    ((s.contacts.find? event.customerId).bind fun contact => contact.email.filter (· ≠ "")).toList
  | .sms =>
    ((s.contacts.find? event.customerId).bind fun contact => contact.phone.filter (· ≠ "")).toList
  | .log => []

/-- `_send_one`: the attempt is recorded, `send` being false when the sender fails or raises. -/
def sendOne (send : Rendered → String → Bool) (event : OrderStatusEvent) (rendered : Rendered)
    (recipient : String) : OrderNotification where
  userId := event.customerId
  channel := rendered.channel
  type := "order." ++ event.status
  message := rendered.body
  delivered := send rendered recipient
  orderId := some event.orderId

/-- The feed row of a status change. -/
def feedRow (event : OrderStatusEvent) : OrderNotification :=
  addNotification event.customerId ("order." ++ event.status) (shortCopy event.status) (some event.orderId)

/-- `handle_order_status`: the rows that it commits. -/
def Directory.handleOrderStatus (s : Directory) (send : Rendered → String → Bool)
    (event : OrderStatusEvent) : List OrderNotification :=
  let prefs := s.getPreferences event.customerId
  feedRow event :: (channelsFor event.status).flatMap fun channel =>
    if prefs.allows channel then
      let rendered := render channel event.status event.orderId
      (s.recipients channel event).map (sendOne send event rendered)
    else []

/-- `list_for_user`, without its limit and its order: LOG rows only. -/
def feedOf (notifications : List OrderNotification) (user : Nat) : List OrderNotification :=
  notifications.filter fun row => row.userId = user && row.channel = Channel.log.value

/-! ### What it puts into the feed -/

/-- The rows of everybody's feed. -/
def feedRows (notifications : List OrderNotification) : List OrderNotification :=
  notifications.filter fun row => row.channel = Channel.log.value

theorem render_channel (channel : Channel) (status : String) (orderId : Nat) :
    (render channel status orderId).channel = channel.value := by
  cases channel with
  | log | push | sms | email => rfl

/-- Nothing is sent on the feed's own channel. -/
theorem log_not_mem_channelsFor (status : String) : Channel.log ∉ channelsFor status := by
  unfold channelsFor
  split
  · simp only [List.mem_append, List.mem_singleton, not_or]
    refine ⟨⟨by decide, ?_⟩, ?_⟩
    · split <;> simp
    · split <;> simp
  · exact List.not_mem_nil

/-- **One feed row for each status change**, whatever is sent besides. -/
theorem feed_handleOrderStatus (s : Directory) (send : Rendered → String → Bool)
    (event : OrderStatusEvent) : feedRows (s.handleOrderStatus send event) = [feedRow event] := by
  unfold feedRows Directory.handleOrderStatus
  rw [List.filter_cons_of_pos (by rfl), List.filter_eq_nil_iff.mpr]
  intro row member
  obtain ⟨channel, listed, sent⟩ := List.mem_flatMap.mp member
  split at sent
  · obtain ⟨recipient, _, rfl⟩ := List.mem_map.mp sent
    have outbound : channel ≠ .log := by
      rintro rfl
      exact log_not_mem_channelsFor event.status listed
    simp only [sendOne, render_channel, decide_eq_true_eq]
    cases channel with
    | log => exact absurd rfl outbound
    | push | sms | email => decide
  · cases sent

end FoodDelivery.Notifications
