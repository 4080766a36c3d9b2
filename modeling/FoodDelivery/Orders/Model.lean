/-
**The tables of the orders service** (`services/orders/app/models.py`), the events it writes to its
outbox, and the state its operations run on.

An `Order` carries its lines and its audit trail, as the two `relationship`s of the source do. The
state is the database together with the release-stock calls made to the restaurants service, which
are an effect outside it.
-/

import FoodDelivery.Lib.Table
import FoodDelivery.Shared.Basic
import Mathlib.Data.Rat.Defs

set_option autoImplicit false

namespace FoodDelivery.Orders

open FoodDelivery.Lib (Table)

inductive PaymentStatus where
  | pending
  | success
  | failed
  | refunded
deriving DecidableEq, Repr

def PaymentStatus.value : PaymentStatus → String
  | .pending => "PENDING"
  | .success => "SUCCESS"
  | .failed => "FAILED"
  | .refunded => "REFUNDED"

inductive RefundStatus where
  | none
  | full
  | partial_
deriving DecidableEq, Repr

inductive Actor where
  | customer
  | restaurant
  | driver
  | system
deriving DecidableEq, Repr

structure OrderItem where
  menuItemId : Nat
  name : String
  unitPrice : Money
  quantity : Nat
  lineTotal : Money
deriving DecidableEq, Repr

/-- A row of the transition log behind an order. -/
structure OrderStatusEvent where
  fromStatus : Option OrderStatus
  toStatus : OrderStatus
  actor : Actor
  reason : Option String := none
deriving DecidableEq, Repr

structure Order where
  id : Nat
  customerId : Nat
  restaurantId : Nat
  addressId : Nat
  status : OrderStatus := .created
  paymentMethod : PaymentMethod := .cod
  paymentStatus : PaymentStatus := .pending
  subtotal : Money
  deliveryFee : Money := 0
  total : Money
  refundStatus : RefundStatus := .none
  refundAmount : Money := 0
  cancelledBy : Option Actor := none
  cancelReason : Option String := none
  createdAt : Timestamp
  updatedAt : Timestamp
  items : List OrderItem
  events : List OrderStatusEvent
deriving DecidableEq, Repr

/-- A point on the map. The columns are doubles, which are rationals; they are only copied here. -/
abbrev Coordinate := Rat

structure AddressSnapshot where
  addressId : Nat
  userId : Nat
  city : String := ""
  latitude : Option Coordinate := none
  longitude : Option Coordinate := none
deriving DecidableEq

structure CustomerSnapshot where
  userId : Nat
  displayName : String := ""
deriving DecidableEq, Repr

structure RestaurantSnapshot where
  restaurantId : Nat
  ownerId : Nat
  name : String := ""
deriving DecidableEq, Repr

/-! ### The outbox -/

/-- The payload of a row of `order-events`. -/
structure OrderEvent where
  orderId : Nat
  status : OrderStatus
  customerId : Nat
  customerName : String
  restaurantId : Nat
  restaurantName : Option String
  total : Money
  paymentMethod : PaymentMethod
  paymentStatus : PaymentStatus
  destinationLatitude : Option Coordinate
  destinationLongitude : Option Coordinate
deriving DecidableEq

/-- The payload of a row of `notification-events`. -/
structure Notification where
  userId : Nat
  type : String
  message : String
  orderId : Option Nat
deriving DecidableEq, Repr

/-- A row of the outbox: its topic is the constructor. The key is the order id in all three. -/
inductive OutboxEvent where
  | orderEvents (payload : OrderEvent)
  | paymentCommands (payload : PaymentCommand)
  | notificationEvents (payload : Notification)
deriving DecidableEq

/-- The order-events payload of a row, when that is its topic. -/
def OutboxEvent.orderEvent? : OutboxEvent → Option OrderEvent
  | .orderEvents payload => some payload
  | _ => none

/-- The payment-commands payload of a row, when that is its topic. -/
def OutboxEvent.command? : OutboxEvent → Option PaymentCommand
  | .paymentCommands payload => some payload
  | _ => none

/-- The commands among some outbox rows that are keyed by an order. -/
def commandsOf (orderId : Nat) (outbox : List OutboxEvent) : List PaymentCommand :=
  (outbox.filterMap OutboxEvent.command?).filter fun command => command.orderId = orderId

@[simp] theorem commandsOf_append (orderId : Nat) (first second : List OutboxEvent) :
    commandsOf orderId (first ++ second) = commandsOf orderId first ++ commandsOf orderId second := by
  simp [commandsOf]

/-- They are about that order. -/
theorem orderId_of_commandsOf {orderId : Nat} {outbox : List OutboxEvent} {command : PaymentCommand}
    (member : command ∈ commandsOf orderId outbox) : command.orderId = orderId :=
  of_decide_eq_true (List.mem_filter.mp member).2

/-! ### The state -/

/-- A call of the restaurants service's release-stock endpoint. -/
structure StockRelease where
  restaurantId : Nat
  lines : List OrderItem
  authHeader : String
deriving DecidableEq, Repr

/-- The service's database, and the release-stock calls it has made, oldest first. -/
structure State where
  orders : Table Nat Order Order.id
  restaurants : Table Nat RestaurantSnapshot RestaurantSnapshot.restaurantId
  customers : Table Nat CustomerSnapshot CustomerSnapshot.userId
  addresses : Table Nat AddressSnapshot AddressSnapshot.addressId
  outbox : List OutboxEvent
  releases : List StockRelease

/-- A database with no rows. -/
def State.empty : State where
  orders := .empty
  restaurants := .empty
  customers := .empty
  addresses := .empty
  outbox := []
  releases := []

/-- What one transaction writes about one order: the row, the outbox rows recorded with it, and the
release-stock call made on the way. -/
structure Written where
  order : Order
  outbox : List OutboxEvent
  release : Option StockRelease := none
deriving DecidableEq

/-- `session.commit()`: the row and its outbox rows, in one transaction. -/
def State.commit (s : State) (written : Written) : State :=
  { s with
    orders := s.orders.put written.order
    outbox := s.outbox ++ written.outbox
    releases := s.releases ++ written.release.toList }

@[simp] theorem State.commit_orders (s : State) (written : Written) :
    (s.commit written).orders = s.orders.put written.order := rfl

@[simp] theorem State.commit_outbox (s : State) (written : Written) :
    (s.commit written).outbox = s.outbox ++ written.outbox := rfl

end FoodDelivery.Orders
