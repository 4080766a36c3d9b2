/-
**What the eight state changes do to an order**, said once.

`Performed s now action order written` states everything the later results use of a state change
that wrote `written` over `order`: the transition is in the table, the audit event, the refund
fields, the payment command, the order event and the release-stock call. `performed_of_body` proves
it from the source's bodies; no other proof unfolds them.
-/

import FoodDelivery.Lib.Outcomes
import FoodDelivery.Orders.Service

set_option autoImplicit false

namespace FoodDelivery.Orders

open FoodDelivery.Lib

/-! ### What an action asks for -/

/-- The status an action moves its order to. -/
def Action.target : Action → OrderStatus
  | .markPaid => .paymentSuccess
  | .cancelByCustomer _ _ => .cancelled
  | .acceptByRestaurant _ => .restaurantAccepted
  | .rejectByRestaurant _ _ _ => .rejected
  | .advanceStatus _ target => target
  | .driverAdvance target => target
  | .expireUnpaidOrders => .cancelled
  | .expirePendingAcceptances => .cancelled

/-- Who the audit event names. -/
def Action.actor : Action → Actor
  | .markPaid => .system
  | .cancelByCustomer _ _ => .customer
  | .acceptByRestaurant _ => .restaurant
  | .rejectByRestaurant _ _ _ => .restaurant
  | .advanceStatus _ _ => .restaurant
  | .driverAdvance _ => .driver
  | .expireUnpaidOrders => .system
  | .expirePendingAcceptances => .system

/-- What `_record_refund` is called with, if it is called: `current` is the status before. -/
def Action.refund (current : OrderStatus) : Action → Option RefundStatus
  | .cancelByCustomer _ _ => some (refundOnCancel current .customer)
  | .rejectByRestaurant _ _ _ => some .full
  | .advanceStatus _ .cancelled => some (refundOnCancel current .restaurant)
  | .expireUnpaidOrders => some .none
  | .expirePendingAcceptances => some .full
  | _ => none

/-- What the payments service is asked to do. -/
def Action.command (current : OrderStatus) (action : Action) : Option PaymentAction :=
  if action.refund current = some .full then some .refund
  else
    match action with
    | .advanceStatus _ .delivered => some .settle
    | .driverAdvance .delivered => some .settle
    | _ => none

/-- What an action demands of the order it reads, over the transition being legal. -/
def Action.demands (s : State) (now : Timestamp) (order : Order) : Action → Prop
  | .markPaid => order.status = .paymentPending
  | .cancelByCustomer user _ =>
    orderForUser s user order = .ok order ∧ customerCancelAllowed order.status = true
  | .acceptByRestaurant user => ∃ snapshot, ownedRestaurant s user order.restaurantId = .ok snapshot
  | .rejectByRestaurant user _ _ =>
    ∃ snapshot, ownedRestaurant s user order.restaurantId = .ok snapshot
  | .advanceStatus user _ => ∃ snapshot, ownedRestaurant s user order.restaurantId = .ok snapshot
  | .driverAdvance _ => True
  | .expireUnpaidOrders => isStale .paymentPending paymentWindowSeconds now order = true
  | .expirePendingAcceptances =>
    isStale .paymentSuccess restaurantAcceptTimeoutSeconds now order = true

/-- The payment status an action leaves. -/
def Action.paymentStatusAfter (order : Order) (action : Action) : PaymentStatus :=
  if action = .markPaid then .success
  else if action.refund order.status = some .full then .refunded
  else order.paymentStatus

/-- **Everything a state change does.** -/
structure Performed (s : State) (now : Timestamp) (action : Action) (order : Order)
    (written : Written) : Prop where
  demanded : action.demands s now order
  legal : action.target ∈ allowed order.status
  id : written.order.id = order.id
  customerId : written.order.customerId = order.customerId
  restaurantId : written.order.restaurantId = order.restaurantId
  method : written.order.paymentMethod = order.paymentMethod
  total : written.order.total = order.total
  items : written.order.items = order.items
  status : written.order.status = action.target
  audit : ∃ reason, written.order.events =
    order.events ++ [⟨some order.status, action.target, action.actor, reason⟩]
  payment : written.order.paymentStatus = action.paymentStatusAfter order
  refundStatus : written.order.refundStatus = (action.refund order.status).getD order.refundStatus
  refundAmount : written.order.refundAmount =
    match action.refund order.status with
    | none => order.refundAmount
    | some refund => if refund = .full then order.total else 0
  commands : written.outbox.filterMap OutboxEvent.command? =
    (action.command order.status).toList.map fun command => ⟨order.id, command, order.total⟩
  announced : written.outbox.filterMap OutboxEvent.orderEvent? =
    (emitStatus s written.order).orderEvent?.toList
  released : written.release.isSome = (action.refund order.status).isSome

/-! ### The bodies meet it -/

theorem orderForUser_ok {s : State} {user : Identity} {order seen : Order}
    (visible : orderForUser s user order = .ok seen) : seen = order := by
  unfold orderForUser at visible
  split at visible
  · cases visible
    rfl
  · split at visible
    · cases visible
      rfl
    · cases visible

/-- Announcing a paid order commands nothing. -/
theorem commands_paid (s : State) (order : Order) :
    (emitStatus s order :: notifyRestaurant s order).filterMap OutboxEvent.command? = [] := by
  unfold notifyRestaurant
  split <;> rfl

/-- Announcing a paid order tells the other services once. -/
theorem announced_paid (s : State) (order : Order) :
    (emitStatus s order :: notifyRestaurant s order).filterMap OutboxEvent.orderEvent? =
      (emitStatus s order).orderEvent?.toList := by
  unfold notifyRestaurant
  split <;> rfl

theorem recordRefund_full (order : Order) : recordRefund order .full =
    { order with
      refundStatus := .full
      refundAmount := order.total
      paymentStatus := .refunded } := rfl

theorem recordRefund_none (order : Order) : recordRefund order .none =
    { order with refundStatus := .none, refundAmount := 0 } := rfl

/-- A cancellation is refunded in full or not at all. -/
theorem refundOnCancel_cases (current : OrderStatus) (actor : Actor) :
    refundOnCancel current actor = .full ∨ refundOnCancel current actor = .none := by
  unfold refundOnCancel
  split_ifs <;> simp

variable {s : State} {now : Timestamp} {order : Order} {written : Written}

theorem markPaid_performed (body : markPaid s now order = .ok (some written)) :
    Performed s now .markPaid order written := by
  unfold markPaid at body
  split at body
  · cases body
  · rename_i pending
    obtain ⟨legal, body⟩ := bind_applyTransition_ok.mp body
    cases body
    exact
      { demanded := not_not.mp pending, legal, id := rfl, customerId := rfl, restaurantId := rfl
        method := rfl, total := rfl, items := rfl, status := rfl, audit := ⟨_, rfl⟩, payment := rfl
        refundStatus := rfl, refundAmount := rfl
        commands := commands_paid _ _
        announced := announced_paid _ _
        released := rfl }

theorem acceptByRestaurant_performed {user : Identity}
    (body : acceptByRestaurant s user now order = .ok (some written)) :
    Performed s now (.acceptByRestaurant user) order written := by
  obtain ⟨snapshot, owned, body⟩ := bind_eq_ok.mp body
  obtain ⟨legal, body⟩ := bind_applyTransition_ok.mp body
  cases body
  exact
    { demanded := ⟨snapshot, owned⟩, legal, id := rfl, customerId := rfl, restaurantId := rfl
      method := rfl, total := rfl, items := rfl, status := rfl, audit := ⟨_, rfl⟩, payment := rfl
      refundStatus := rfl, refundAmount := rfl, commands := rfl, announced := rfl, released := rfl }

theorem rejectByRestaurant_performed {user : Identity} {reason : Option String} {authHeader : String}
    (body : rejectByRestaurant s user reason authHeader now order = .ok (some written)) :
    Performed s now (.rejectByRestaurant user reason authHeader) order written := by
  obtain ⟨snapshot, owned, body⟩ := bind_eq_ok.mp body
  obtain ⟨legal, body⟩ := bind_applyTransition_ok.mp body
  cases body
  exact
    { demanded := ⟨snapshot, owned⟩, legal, id := rfl, customerId := rfl, restaurantId := rfl
      method := rfl, total := rfl, items := rfl, status := rfl, audit := ⟨_, rfl⟩, payment := rfl
      refundStatus := rfl, refundAmount := rfl, commands := rfl, announced := rfl, released := rfl }

theorem cancelByCustomer_performed {user : Identity} {authHeader : String}
    (body : cancelByCustomer s user authHeader now order = .ok (some written)) :
    Performed s now (.cancelByCustomer user authHeader) order written := by
  obtain ⟨seen, visible, rest⟩ := bind_eq_ok.mp body
  obtain rfl := orderForUser_ok visible
  dsimp only at rest
  split at rest
  · cases rest
  · rename_i mayCancel
    obtain ⟨legal, rest⟩ := bind_applyTransition_ok.mp rest
    have demanded : (Action.cancelByCustomer user authHeader).demands s now seen :=
      ⟨visible, eq_true_of_ne_false mayCancel⟩
    rcases refundOnCancel_cases seen.status .customer with refund | refund
    all_goals
      simp only [refund, recordRefund_full, recordRefund_none] at rest
      cases rest
      exact
        { demanded, legal, id := rfl, customerId := rfl, restaurantId := rfl
          method := rfl, total := rfl, items := rfl, status := rfl, audit := ⟨_, rfl⟩
          payment := by simp [Action.paymentStatusAfter, Action.refund, refund]
          refundStatus := by simp [Action.refund, refund]
          refundAmount := by simp [Action.refund, refund]
          commands := by simp [Action.command, Action.refund, refund]; rfl
          announced := rfl
          released := rfl }

theorem advanceStatus_performed {user : Identity} {target : OrderStatus}
    (body : advanceStatus s user target now order = .ok (some written)) :
    Performed s now (.advanceStatus user target) order written := by
  obtain ⟨snapshot, owned, body⟩ := bind_eq_ok.mp body
  obtain ⟨legal, body⟩ := bind_applyTransition_ok.mp body
  have demanded : (Action.advanceStatus user target).demands s now order := ⟨snapshot, owned⟩
  split at body
  · rename_i cancels
    subst cancels
    rcases refundOnCancel_cases order.status .restaurant with refund | refund
    all_goals
      simp only [refund, recordRefund_full, recordRefund_none] at body
      cases body
      exact
        { demanded, legal, id := rfl, customerId := rfl, restaurantId := rfl
          method := rfl, total := rfl, items := rfl, status := rfl, audit := ⟨_, rfl⟩
          payment := by simp [Action.paymentStatusAfter, Action.refund, refund]
          refundStatus := by simp [Action.refund, refund]
          refundAmount := by simp [Action.refund, refund]
          commands := by simp [Action.command, Action.refund, refund]; rfl
          announced := rfl
          released := rfl }
  · rename_i other
    have noRefund : (Action.advanceStatus user target).refund order.status = none := by
      cases target <;> first | rfl | exact absurd rfl other
    cases body
    exact
      { demanded, legal, id := rfl, customerId := rfl, restaurantId := rfl
        method := rfl, total := rfl, items := rfl, status := rfl, audit := ⟨_, rfl⟩
        payment := by simp [Action.paymentStatusAfter, noRefund]
        refundStatus := by simp [noRefund]
        refundAmount := by simp [noRefund]
        commands := by cases target <;> first | rfl | exact absurd rfl other
        announced := by cases target <;> rfl
        released := by simp [noRefund] }

theorem driverAdvance_performed {target : OrderStatus}
    (body : driverAdvance s target now order = .ok (some written)) :
    Performed s now (.driverAdvance target) order written := by
  obtain ⟨legal, body⟩ := bind_applyTransition_ok.mp body
  cases body
  exact
    { demanded := trivial, legal, id := rfl, customerId := rfl, restaurantId := rfl
      method := rfl, total := rfl, items := rfl, status := rfl, audit := ⟨_, rfl⟩, payment := rfl
      refundStatus := rfl, refundAmount := rfl
      commands := by cases target <;> rfl
      announced := by cases target <;> rfl
      released := rfl }

theorem expireUnpaidOrder_performed (body : expireUnpaidOrder s now order = .ok (some written)) :
    Performed s now .expireUnpaidOrders order written := by
  unfold expireUnpaidOrder at body
  split at body
  · rename_i stale
    obtain ⟨legal, body⟩ := bind_applyTransition_ok.mp body
    cases body
    exact
      { demanded := stale, legal, id := rfl, customerId := rfl, restaurantId := rfl
        method := rfl, total := rfl, items := rfl, status := rfl, audit := ⟨_, rfl⟩, payment := rfl
        refundStatus := rfl, refundAmount := rfl, commands := rfl, announced := rfl
        released := rfl }
  · cases body

theorem expirePendingAcceptance_performed
    (body : expirePendingAcceptance s now order = .ok (some written)) :
    Performed s now .expirePendingAcceptances order written := by
  unfold expirePendingAcceptance at body
  split at body
  · rename_i stale
    obtain ⟨legal, body⟩ := bind_applyTransition_ok.mp body
    cases body
    exact
      { demanded := stale, legal, id := rfl, customerId := rfl, restaurantId := rfl
        method := rfl, total := rfl, items := rfl, status := rfl, audit := ⟨_, rfl⟩, payment := rfl
        refundStatus := rfl, refundAmount := rfl, commands := rfl, announced := rfl
        released := rfl }
  · cases body

/-- **Whatever an action writes, it performed.** -/
theorem performed_of_body {action : Action} (body : action.body s now order = .ok (some written)) :
    Performed s now action order written := by
  cases action with
  | markPaid => exact markPaid_performed body
  | cancelByCustomer user authHeader => exact cancelByCustomer_performed body
  | acceptByRestaurant user => exact acceptByRestaurant_performed body
  | rejectByRestaurant user reason authHeader => exact rejectByRestaurant_performed body
  | advanceStatus user target => exact advanceStatus_performed body
  | driverAdvance target => exact driverAdvance_performed body
  | expireUnpaidOrders => exact expireUnpaidOrder_performed body
  | expirePendingAcceptances => exact expirePendingAcceptance_performed body

/-! ### The release-stock call -/

/-- The header of the release-stock call that an action makes, when it makes one. -/
def Action.releaseHeader : Action → Option String
  | .cancelByCustomer _ authHeader => some authHeader
  | .rejectByRestaurant _ _ authHeader => some authHeader
  | .advanceStatus _ .cancelled => some ""
  | .expireUnpaidOrders => some ""
  | .expirePendingAcceptances => some ""
  | _ => none

theorem advanceStatus_release {user : Identity} {target : OrderStatus}
    (body : advanceStatus s user target now order = .ok (some written)) :
    written.release = (Action.advanceStatus user target).releaseHeader.map fun authHeader =>
      restoreStock order authHeader := by
  obtain ⟨snapshot, owned, body⟩ := bind_eq_ok.mp body
  obtain ⟨_, body⟩ := bind_applyTransition_ok.mp body
  split at body
  · rename_i cancels
    subst cancels
    rcases refundOnCancel_cases order.status .restaurant with refund | refund
    all_goals
      simp only [refund, recordRefund_full, recordRefund_none] at body
      cases body
      rfl
  · rename_i other
    cases body
    cases target <;> first | rfl | exact absurd rfl other

theorem cancelByCustomer_release {user : Identity} {authHeader : String}
    (body : cancelByCustomer s user authHeader now order = .ok (some written)) :
    written.release = some (restoreStock order authHeader) := by
  obtain ⟨seen, visible, rest⟩ := bind_eq_ok.mp body
  obtain rfl := orderForUser_ok visible
  dsimp only at rest
  split at rest
  · cases rest
  · obtain ⟨_, rest⟩ := bind_applyTransition_ok.mp rest
    rcases refundOnCancel_cases seen.status .customer with refund | refund
    all_goals
      simp only [refund, recordRefund_full, recordRefund_none] at rest
      cases rest
      rfl

/-- **What an action gives back**: its order's lines, with the header it has. -/
theorem release_of_body {action : Action} (body : action.body s now order = .ok (some written)) :
    written.release = action.releaseHeader.map fun authHeader => restoreStock order authHeader := by
  have released := (performed_of_body body).released
  -- the actions that end no order release nothing
  have none_released (isSome : written.release.isSome = false) : written.release = none :=
    Option.not_isSome_iff_eq_none.mp (ne_true_of_eq_false isSome)
  cases action with
  | markPaid => exact none_released released
  | cancelByCustomer user authHeader => exact cancelByCustomer_release body
  | acceptByRestaurant user => exact none_released released
  | rejectByRestaurant user reason authHeader =>
    obtain ⟨_, _, body⟩ := bind_eq_ok.mp body
    obtain ⟨_, body⟩ := bind_applyTransition_ok.mp body
    cases body
    rfl
  | advanceStatus user target => exact advanceStatus_release body
  | driverAdvance target => exact none_released released
  | expireUnpaidOrders =>
    change expireUnpaidOrder s now order = .ok (some written) at body
    unfold expireUnpaidOrder at body
    split at body
    · obtain ⟨_, body⟩ := bind_applyTransition_ok.mp body
      cases body
      rfl
    · cases body
  | expirePendingAcceptances =>
    change expirePendingAcceptance s now order = .ok (some written) at body
    unfold expirePendingAcceptance at body
    split at body
    · obtain ⟨_, body⟩ := bind_applyTransition_ok.mp body
      cases body
      rfl
    · cases body

/-! ### What the actions have in common -/

/-- The operations that do not lock all cancel. -/
theorem Action.target_of_unlocked {action : Action} (unlocked : action.locks = false) :
    action.target = .cancelled := by
  cases action <;> first | rfl | cases unlocked

/-- The actions that record a refund decision end their order. -/
theorem Action.ended_of_refund {action : Action} {current : OrderStatus} {refund : RefundStatus}
    (recorded : action.refund current = some refund) : ended action.target = true := by
  cases action with
  | advanceStatus user target => cases target <;> first | rfl | cases recorded
  | _ => first | rfl | cases recorded

/-- The actions that command a payment settle their order's fate. -/
theorem Action.settled_of_command {action : Action} {current : OrderStatus}
    {command : PaymentAction} (commanded : action.command current = some command) :
    action.target ∈ settledStatuses ∧ action.target ≠ .completed := by
  unfold Action.command at commanded
  split at commanded
  · rename_i refunds
    have ends := Action.ended_of_refund refunds
    revert ends
    cases action.target <;> decide
  · have delivered : OrderStatus.delivered ∈ settledStatuses ∧
        OrderStatus.delivered ≠ .completed := by decide
    split at commanded
    · exact delivered
    · exact delivered
    · cases commanded

end FoodDelivery.Orders
