/-
**Orders and payments together.**

The two services, the messages between them and the events of the payment provider. What one service
publishes is its outbox: the messages about an order on one topic are the outbox rows with that topic
and key, in their order, and the consumer's position in them is how many it has acknowledged. A
message is delivered as often as it takes; it is acknowledged only when its handler returned, and
even then the acknowledgement may get lost.

Requests, sweeps and messages come in any order (`Label`). `State.steps` is the inversion of a step,
as far as the orders, the payments and the payment events between them go.
-/

import FoodDelivery.Lib.Messages
import FoodDelivery.Lib.Runs
import FoodDelivery.Orders.Runs
import FoodDelivery.Payments.Messages

set_option autoImplicit false

namespace FoodDelivery.Platform

open FoodDelivery.Lib

/-! ### What travels -/

/-- A row of `order-events`, as the payments service reads it. -/
def orderPayload (event : Orders.OrderEvent) : Payments.OrderEvent where
  orderId := some event.orderId
  customerId := some event.customerId
  status := some event.status
  total := some event.total
  paymentMethod := some event.paymentMethod

/-- A row of `payment-commands`, as the payments service reads it. -/
def commandPayload (command : PaymentCommand) : Payments.Command where
  orderId := some command.orderId
  action := some command.action

/-- A row of `payment-events`, as the orders service reads it. -/
def paymentPayload (event : Payments.PaymentEvent) : Orders.PaymentEvent where
  orderId := some event.orderId
  paymentStatus := some event.paymentStatus

/-! ### The state -/

/-- Both services, how many messages of each topic are acknowledged for each order, and the provider's
events that are still to be delivered. -/
structure State where
  orders : Orders.State
  payments : Payments.World
  orderEventsRead : Nat → Nat
  commandsRead : Nat → Nat
  paymentEventsRead : Nat → Nat
  providerEvents : List Payments.StripeEvent

/-- Nothing stored and nothing sent. -/
def State.empty : State where
  orders := .empty
  payments := .empty
  orderEventsRead := fun _ => 0
  commandsRead := fun _ => 0
  paymentEventsRead := fun _ => 0
  providerEvents := []

/-- The next message about an order on `order-events`. -/
def State.orderEvent (s : State) (orderId : Nat) : Option Orders.OrderEvent :=
  (Orders.eventsOf orderId s.orders.outbox)[s.orderEventsRead orderId]?

/-- The next message about an order on `payment-commands`. -/
def State.command (s : State) (orderId : Nat) : Option PaymentCommand :=
  (Orders.commandsOf orderId s.orders.outbox)[s.commandsRead orderId]?

/-- The next message about an order on `payment-events`. -/
def State.paymentEvent (s : State) (orderId : Nat) : Option Payments.PaymentEvent :=
  (s.payments.eventsOf orderId)[s.paymentEventsRead orderId]?

/-- **Nothing is in flight.** -/
structure State.Quiet (s : State) : Prop where
  orderEvents : ∀ orderId, s.orderEvent orderId = none
  commands : ∀ orderId, s.command orderId = none
  paymentEvents : ∀ orderId, s.paymentEvent orderId = none
  providerEvents : s.providerEvents = []

/-- Where everything that was published is about one order, and that has been read, nothing is in
flight. -/
theorem quiet_of_one {s : State} (only : Nat)
    (orderEvents : ∀ event ∈ s.orders.outbox.filterMap Orders.OutboxEvent.orderEvent?,
      event.orderId = only)
    (commands : ∀ command ∈ s.orders.outbox.filterMap Orders.OutboxEvent.command?,
      command.orderId = only)
    (paymentEvents : ∀ event ∈ s.payments.outbox, event.orderId = only)
    (orderEvent : s.orderEvent only = none) (command : s.command only = none)
    (paymentEvent : s.paymentEvent only = none) (providerEvents : s.providerEvents = []) :
    s.Quiet where
  orderEvents := none_next only orderEvents orderEvent
  commands := none_next only commands command
  paymentEvents := none_next only paymentEvents paymentEvent
  providerEvents := providerEvents

/-! ### The steps -/

/-- What a customer asks of the payments service about an order. -/
inductive Request where
  | resume
  | confirm
  | retry
deriving DecidableEq, Repr

def Request.operation (request : Request) (gateway : Payments.Gateway)
    (order : Payments.OrderSnapshot) : Payments.Operation :=
  match request with
  | .resume => .resumeCardPayment gateway order none
  | .confirm => .confirmCardPayment gateway order none
  | .retry => .retryPayment gateway order none

/-- What can happen. A message of `payment-events` reaches the orders service by its delivery only.
`acknowledged` is whether the acknowledgement of a handler that returned gets through. -/
inductive Label where
  | orders (op : Orders.Operation) (now : Timestamp)
  | request (request : Request) (gateway : Payments.Gateway) (orderId : Nat)
  | deliverOrderEvent (gateway : Payments.Gateway) (orderId : Nat) (acknowledged : Bool)
  | deliverCommand (gateway : Payments.Gateway) (orderId : Nat) (acknowledged : Bool)
  | deliverPaymentEvent (orderId : Nat) (now : Timestamp) (acknowledged : Bool)
  | emit (event : Payments.StripeEvent)
  | deliverProviderEvent (i : Nat) (redis : Bool) (acknowledged : Bool)
  | expireSeen (keys : List String)

/-- The positions after a delivery about an order. -/
def readOn (read : Nat → Nat) (orderId : Nat) (acknowledged : Bool) : Nat → Nat :=
  fun id => if id = orderId ∧ acknowledged = true then read id + 1 else read id

/-- The handler returned. -/
def returned {α : Type} : Except Raised α → Bool
  | .ok _ => true
  | .error _ => false

/-- The orders service's own requests, messages and sweeps. -/
def ownOperation : Orders.Operation → Bool
  | .applyPaymentEvent _ => false
  | _ => true

def State.step (s : State) : Label → State
  | .orders op now =>
    if ownOperation op then { s with orders := s.orders.step (op, now) } else s
  | .request request gateway orderId =>
    match s.payments.snapshots.find? orderId with
    | none => s
    | some order => { s with payments := s.payments.step (request.operation gateway order) }
  | .deliverOrderEvent gateway orderId acknowledged =>
    match s.orderEvent orderId with
    | none => s
    | some event =>
      let done := (Payments.applyOrderEvent gateway (orderPayload event)).exec s.payments
      { s with
        payments := done.1
        orderEventsRead := readOn s.orderEventsRead orderId (acknowledged && returned done.2) }
  | .deliverCommand gateway orderId acknowledged =>
    match s.command orderId with
    | none => s
    | some command =>
      let done := (Payments.applyPaymentCommand gateway (commandPayload command)).exec s.payments
      { s with
        payments := done.1
        commandsRead := readOn s.commandsRead orderId (acknowledged && returned done.2) }
  | .deliverPaymentEvent orderId now acknowledged =>
    match s.paymentEvent orderId with
    | none => s
    | some event =>
      let op := Orders.Operation.applyPaymentEvent (paymentPayload event)
      { s with
        orders := s.orders.step (op, now)
        paymentEventsRead := readOn s.paymentEventsRead orderId
          (acknowledged && returned (op.outcome s.orders now)) }
  | .emit event => { s with providerEvents := s.providerEvents ++ [event] }
  | .deliverProviderEvent i redis acknowledged =>
    match s.providerEvents[i]? with
    | none => s
    | some event =>
      { s with
        payments := s.payments.step (.handleEvent redis event)
        providerEvents := if acknowledged then s.providerEvents.eraseIdx i else s.providerEvents }
  | .expireSeen keys => { s with payments := s.payments.step (.expireSeen keys) }

/-! ### What a step can do -/

/-- **The outcomes of a step**: the orders service takes one of its own steps, or the next payment
event reaches it, or the payments service does something that may create the payment of an order that
was announced to it, and may settle without an event only a payment it was told to settle. -/
inductive State.Steps (s : State) : Label → State → Prop
  | apart (label : Label) (next : State) (orders : next.orders = s.orders)
      (payments : next.payments = s.payments)
      (read : next.paymentEventsRead = s.paymentEventsRead) : s.Steps label next
  | orders (op : Orders.Operation) (now : Timestamp) :
    s.Steps (.orders op now) { s with orders := s.orders.step (op, now) }
  | paymentEvent (orderId : Nat) (now : Timestamp) (acknowledged : Bool)
      (event : Payments.PaymentEvent) (found : s.paymentEvent orderId = some event) :
    s.Steps (.deliverPaymentEvent orderId now acknowledged)
      { s with
        orders := s.orders.step (.applyPaymentEvent (paymentPayload event), now)
        paymentEventsRead := readOn s.paymentEventsRead orderId
          (acknowledged && returned (Orders.Operation.outcome s.orders now
            (.applyPaymentEvent (paymentPayload event)))) }
  | payments (label : Label) (next : State) (orders : next.orders = s.orders)
      (read : next.paymentEventsRead = s.paymentEventsRead)
      (books : ∀ orderId, Payments.World.Books orderId
        (Orders.eventsOf orderId s.orders.outbox ≠ [])
        (∃ command ∈ Orders.commandsOf orderId s.orders.outbox, command.action = .settle)
        s.payments next.payments) : s.Steps label next

/-- A request of a customer neither creates nor captures a payment. -/
theorem books_of_request (request : Request) (gateway : Payments.Gateway)
    (order : Payments.OrderSnapshot) (w : Payments.World) (orderId : Nat)
    (creates captures : Prop) : Payments.World.Books orderId creates captures w
      (w.step (request.operation gateway order)) := by
  have books := Payments.books_of_touched (w.touched (request.operation gateway order) orderId)
  refine books.mono ?_ ?_
  · rintro ⟨_, _, _, operation, _⟩
    cases request <;> cases operation
  · rintro ⟨_, operation, _⟩
    cases request <;> cases operation

theorem State.steps (s : State) (label : Label) : s.Steps label (s.step label) := by
  cases label with
  | orders op now =>
    unfold State.step
    dsimp only
    split
    · exact .orders op now
    · exact .apart _ _ rfl rfl rfl
  | request request gateway orderId =>
    unfold State.step
    dsimp only
    split
    · exact .apart _ _ rfl rfl rfl
    · rename_i order found
      exact .payments _ _ rfl rfl fun other => books_of_request request gateway order _ other _ _
  | deliverOrderEvent gateway orderId acknowledged =>
    unfold State.step
    dsimp only
    split
    · exact .apart _ _ rfl rfl rfl
    · rename_i event found
      have member : event ∈ Orders.eventsOf orderId s.orders.outbox := List.mem_of_getElem? found
      have own : event.orderId = orderId := Orders.orderId_of_eventsOf member
      refine .payments _ _ rfl rfl fun other => ?_
      refine (Payments.books_applyOrderEvent gateway orderId s.payments
        (congrArg some own) other).mono ?_ False.elim
      rintro rfl
      exact List.ne_nil_of_mem member
  | deliverCommand gateway orderId acknowledged =>
    unfold State.step
    dsimp only
    split
    · exact .apart _ _ rfl rfl rfl
    · rename_i command found
      have member : command ∈ Orders.commandsOf orderId s.orders.outbox := List.mem_of_getElem? found
      have own : command.orderId = orderId := Orders.orderId_of_commandsOf member
      refine .payments _ _ rfl rfl fun other => ?_
      refine (Payments.books_applyPaymentCommand gateway command.orderId s.payments command.action
        other).mono False.elim ?_
      rintro ⟨settles, rfl⟩
      rw [own]
      exact ⟨command, member, settles⟩
  | deliverPaymentEvent orderId now acknowledged =>
    unfold State.step
    dsimp only
    split
    · exact .apart _ _ rfl rfl rfl
    · rename_i event found
      exact .paymentEvent orderId now acknowledged event found
  | emit event => exact .apart _ _ rfl rfl rfl
  | deliverProviderEvent i redis acknowledged =>
    unfold State.step
    dsimp only
    split
    · exact .apart _ _ rfl rfl rfl
    · rename_i event found
      refine .payments _ _ rfl rfl fun other => ?_
      refine (Payments.books_of_touched (s.payments.touched (.handleEvent redis event) other)).mono
        ?_ ?_
      · rintro ⟨_, _, _, operation, _⟩
        cases operation
      · rintro ⟨_, operation, _⟩
        cases operation
  | expireSeen keys => exact .payments _ _ rfl rfl fun other => .same rfl rfl

end FoodDelivery.Platform
