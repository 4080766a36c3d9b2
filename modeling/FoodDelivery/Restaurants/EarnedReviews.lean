/-
**Reviews are earned.**

The orders service, whose events the restaurants service applies to its copies of the orders, and the
reviews that are written against these copies. An event may be applied any number of times, in any order
with the others, so a copy may go back to an earlier status; a review may be deleted and written again.

`reviews_earned`: an order has one review at most, by its customer and about its restaurant, and an event
that the order was delivered had been applied before the review was written; only its author changes what
it says, and only its author or an admin removes it.
-/

import FoodDelivery.Orders.Runs
import FoodDelivery.Restaurants.Reviews

set_option autoImplicit false

namespace FoodDelivery.Restaurants

open FoodDelivery.Lib

/-! ### The two services -/

/-- A row of `order-events`, as this service reads it. -/
def orderPayload (event : Orders.OrderEvent) : OrderPayload where
  orderId := some event.orderId
  customerId := some event.customerId
  restaurantId := some event.restaurantId
  status := some event.status.value
  customerName := some event.customerName

/-- Both services, and the events that have been applied so far. -/
structure ReviewWorld where
  orders : Orders.State
  desk : ReviewState
  applied : List Orders.OrderEvent

/-- No order and no review yet. -/
def ReviewWorld.start (service : State) : ReviewWorld where
  orders := .empty
  desk := .start service
  applied := []

/-- What `_emit_status` has written so far. -/
def ReviewWorld.orderEvents (w : ReviewWorld) : List Orders.OrderEvent :=
  w.orders.outbox.filterMap Orders.OutboxEvent.orderEvent?

/-- The orders service is asked something, an event is applied (again), a review is written, edited,
removed or answered, or the restaurants service is asked anything else. -/
inductive ReviewLabel where
  | orders (label : Orders.Operation × Timestamp)
  | apply (i : Nat)
  | ask (op : ReviewOperation) (now : Timestamp)
  | service (env : Environment) (op : Operation)

def ReviewWorld.step (w : ReviewWorld) : ReviewLabel → ReviewWorld
  | .orders label => { w with orders := w.orders.step label }
  | .apply i =>
    match w.orderEvents[i]? with
    | none => w
    | some event =>
      { w with
        desk := applyOrderEvent w.desk (orderPayload event)
        applied := w.applied ++ [event] }
  | .ask op now => { w with desk := w.desk.ask op now }
  | .service env op => { w with desk := { w.desk with service := w.desk.service.step env op } }

/-! ### What has to hold -/

/-- An event that the order with an id was delivered or completed. -/
def ReportsDelivered (orderId : Nat) (event : Orders.OrderEvent) : Prop :=
  event.orderId = orderId ∧ (event.status = .delivered ∨ event.status = .completed)

/-- **The reviews of a state are earned.** -/
structure Earned (w : ReviewWorld) : Prop where
  once : ∀ first ∈ w.desk.reviews.rows, ∀ second ∈ w.desk.reviews.rows,
    first.orderId = second.orderId → first = second
  reported : ∀ review ∈ w.desk.reviews.rows, ∀ event ∈ w.orderEvents,
    event.orderId = review.orderId →
      review.customerId = event.customerId ∧ review.restaurantId = event.restaurantId
  delivered : ∀ review ∈ w.desk.reviews.rows, ∃ event ∈ w.applied, ReportsDelivered review.orderId event

/-- **A step treats the reviews rightfully**: one is written by its customer once its order is reported
delivered, edited by its author, and removed by its author or an admin. -/
structure Rightful (w : ReviewWorld) (label : ReviewLabel) : Prop where
  created : ∀ review ∈ (w.step label).desk.reviews.rows, w.desk.reviews.find? review.id = none →
    (∃ caller rating comment now, caller.userId = review.customerId ∧
      label = .ask (.createReview caller review.orderId rating comment) now) ∧
    ∃ event ∈ w.applied, ReportsDelivered review.orderId event
  edited : ∀ review ∈ w.desk.reviews.rows, ∀ edit,
    (w.step label).desk.reviews.find? review.id = some edit →
      (edit.rating ≠ review.rating ∨ edit.comment ≠ review.comment) →
        ∃ caller rating comment commentSet now, caller.userId = review.customerId ∧
          label = .ask (.updateReview caller review.id rating comment commentSet) now
  removed : ∀ review ∈ w.desk.reviews.rows,
    (w.step label).desk.reviews.find? review.id = none →
      ∃ caller now, (caller.userId = review.customerId ∨ caller.role = "admin") ∧
        label = .ask (.deleteReview caller review.id) now

/-! ### The invariant -/

/-- What a copy says after an event. -/
def copyOf (event : Orders.OrderEvent) : OrderSnapshot where
  orderId := event.orderId
  customerId := event.customerId
  customerName := event.customerName
  restaurantId := event.restaurantId
  status := event.status.value

/-- An event is about an order as the orders service has it. -/
def Tells (orders : Orders.State) (event : Orders.OrderEvent) : Prop :=
  ∃ order, orders.orders.find? event.orderId = some order ∧ order.customerId = event.customerId ∧
    order.restaurantId = event.restaurantId

/-- A review is by the customer and about the restaurant of an applied event of a delivered order. -/
def EarnedBy (applied : List Orders.OrderEvent) (review : Review) : Prop :=
  ∃ event ∈ applied, ReportsDelivered review.orderId event ∧ event.customerId = review.customerId ∧
    event.restaurantId = review.restaurantId

/-- **What carries the claim through a run.** -/
structure Supported (w : ReviewWorld) : Prop where
  tells : ∀ event ∈ w.orderEvents, Tells w.orders event
  applied : ∀ event ∈ w.applied, event ∈ w.orderEvents
  copies : ∀ snapshot ∈ w.desk.snapshots.rows, ∃ event ∈ w.applied, snapshot = copyOf event
  once : ∀ first ∈ w.desk.reviews.rows, ∀ second ∈ w.desk.reviews.rows,
    first.orderId = second.orderId → first = second
  reviews : ∀ review ∈ w.desk.reviews.rows, EarnedBy w.applied review

variable {w : ReviewWorld}

theorem supported_start (service : State) : Supported (.start service) where
  tells := List.forall_mem_nil _
  applied := List.forall_mem_nil _
  copies := List.forall_mem_nil _
  once := List.forall_mem_nil _
  reviews := List.forall_mem_nil _

theorem earned_of_supported (supported : Supported w) : Earned w where
  once := supported.once
  reported := by
    intro review stored event written about
    obtain ⟨source, handled, ⟨order, -⟩, customer, restaurant⟩ := supported.reviews review stored
    obtain ⟨row, found, customer', restaurant'⟩ := supported.tells event written
    obtain ⟨row', found', customer'', restaurant''⟩ := supported.tells source (supported.applied source handled)
    rw [order, ← about, found] at found'
    obtain rfl := Option.some.inj found'
    exact ⟨(customer''.trans customer).symm.trans customer',
      (restaurant''.trans restaurant).symm.trans restaurant'⟩
  delivered := by
    intro review stored
    obtain ⟨event, handled, reports, -⟩ := supported.reviews review stored
    exact ⟨event, handled, reports⟩

/-! ### The orders service -/

/-- **An order's events tell the truth** whatever happens to it: its customer and its restaurant stay. -/
theorem tells_step (s : Orders.State) (label : Orders.Operation × Timestamp)
    (tells : ∀ event ∈ s.outbox.filterMap Orders.OutboxEvent.orderEvent?, Tells s event) :
    ∀ event ∈ (s.step label).outbox.filterMap Orders.OutboxEvent.orderEvent?,
      Tells (s.step label) event := by
  intro event written
  have own : event ∈ Orders.eventsOf event.orderId (s.step label).outbox := Orders.mem_eventsOf.mpr ⟨written, rfl⟩
  have earlier : event ∈ Orders.eventsOf event.orderId s.outbox → Tells s event :=
    fun before => tells event (Orders.mem_eventsOf.mp before).1
  unfold Tells at earlier ⊢
  cases s.changed label event.orderId with
  | same untouched =>
    rw [untouched.row]
    exact earlier (untouched.events ▸ own)
  | placed tables user request acquired cart post validated now new operation absent place row commands
      events =>
    rw [events, List.mem_append] at own
    rcases own with before | announced
    · obtain ⟨order, found, -⟩ := earlier before
      cases absent.symm.trans found
    · have told := List.mem_singleton.mp announced
      exact ⟨new.order, row, by rw [told], by rw [told]⟩
  | acted tables now action order new performs found performed row commands events =>
    rw [events, List.mem_append] at own
    refine ⟨new.order, row, ?_⟩
    rcases own with before | announced
    · obtain ⟨held, here, customer, restaurant⟩ := earlier before
      obtain rfl := Option.some.inj (found.symm.trans here)
      exact ⟨performed.customerId.trans customer, performed.restaurantId.trans restaurant⟩
    · rw [List.mem_singleton.mp announced]
      exact ⟨rfl, rfl⟩

/-- What is written stays written. -/
theorem orderEvents_grow (s : Orders.State) (label : Orders.Operation × Timestamp)
    {event : Orders.OrderEvent}
    (written : event ∈ s.outbox.filterMap Orders.OutboxEvent.orderEvent?) :
    event ∈ (s.step label).outbox.filterMap Orders.OutboxEvent.orderEvent? :=
  (Orders.mem_eventsOf.mp ((s.changed label event.orderId).events_grow
    (Orders.mem_eventsOf.mpr ⟨written, rfl⟩))).1

/-! ### The steps -/

/-- Every field of an event is there, so a copy says just what the event says. -/
theorem applyOrderEvent_eq (s : ReviewState) (event : Orders.OrderEvent) :
    applyOrderEvent s (orderPayload event) = { s with snapshots := s.snapshots.put (copyOf event) } := by
  have said : event.status.value ≠ "" := by cases event.status <;> decide
  unfold applyOrderEvent
  cases found : s.snapshots.find? event.orderId with
  | none => simp [orderPayload, OrderPayload.statusOr, found, copyOf, Option.filter_some, said]
  | some snapshot =>
    have id := Table.key_of_find? found
    simp [orderPayload, OrderPayload.statusOr, found, copyOf, Option.filter_some, said, id]

/-- A copy in a reviewable status is one of a delivered order. -/
theorem delivered_of_reviewable (status : OrderStatus) (reviewable : status.value ∈ reviewableStatuses) :
    status = .delivered ∨ status = .completed := by
  revert reviewable
  cases status <;> decide

/-- **A new review is earned** by the event that its copy was made from. -/
theorem earnedBy_created {snapshot : OrderSnapshot} {review : Review} {orderId : Nat}
    (supported : Supported w) (found : w.desk.snapshots.find? orderId = some snapshot)
    (earned : snapshot.status ∈ reviewableStatuses) (order : review.orderId = orderId)
    (customer : review.customerId = snapshot.customerId)
    (restaurant : review.restaurantId = snapshot.restaurantId) : EarnedBy w.applied review := by
  obtain ⟨stored, id⟩ := Table.find?_eq_some.mp found
  obtain ⟨event, handled, rfl⟩ := supported.copies snapshot stored
  exact ⟨event, handled, ⟨id.trans order.symm, delivered_of_reviewable event.status earned⟩,
    customer.symm, restaurant.symm⟩

/-- An edited review is earned as it was. -/
theorem EarnedBy.edit {applied : List Orders.OrderEvent} {review edit : Review}
    (earned : EarnedBy applied review) (order : edit.orderId = review.orderId)
    (customer : edit.customerId = review.customerId)
    (restaurant : edit.restaurantId = review.restaurantId) : EarnedBy applied edit := by
  obtain ⟨event, handled, reports, same, same'⟩ := earned
  exact ⟨event, handled, order ▸ reports, same.trans customer.symm, same'.trans restaurant.symm⟩

/-- A review written over itself, or for an order that has none, leaves one an order. -/
theorem once_put {reviews : Table Nat Review Review.id} {review : Review}
    (once : ∀ first ∈ reviews.rows, ∀ second ∈ reviews.rows, first.orderId = second.orderId → first = second)
    (alone : ∀ other ∈ reviews.rows, other.id ≠ review.id → other.orderId ≠ review.orderId) :
    ∀ first ∈ (reviews.put review).rows, ∀ second ∈ (reviews.put review).rows,
      first.orderId = second.orderId → first = second := by
  intro first stored second stored' same
  rcases Table.mem_put.mp stored with rfl | ⟨before, apart⟩
  · rcases Table.mem_put.mp stored' with rfl | ⟨before', apart'⟩
    · rfl
    · exact absurd same.symm (alone second before' apart')
  · rcases Table.mem_put.mp stored' with rfl | ⟨before', -⟩
    · exact absurd same (alone first before apart)
    · exact once first before second before' same

/-- **An operation on the reviews keeps them earned.** -/
theorem supported_ask (op : ReviewOperation) (now : Timestamp) (supported : Supported w) :
    Supported { w with desk := w.desk.ask op now } := by
  have copies := (w.desk.frame op now).2.symm ▸ supported.copies
  cases w.desk.written op now with
  | same _ reviews =>
    exact { supported with
      copies := copies
      once := reviews.symm ▸ supported.once
      reviews := reviews.symm ▸ supported.reviews }
  | created caller orderId rating comment snapshot review found own earned first fresh order customer
      restaurant reviews =>
    have new := earnedBy_created supported found earned order (customer.trans own.symm) restaurant
    refine { supported with copies := copies, once := ?_, reviews := ?_ }
    · dsimp only
      rw [reviews]
      exact once_put supported.once fun other stored _ => order ▸ first other stored
    · dsimp only
      rw [reviews]
      intro row stored
      rcases Table.mem_put.mp stored with rfl | ⟨before, -⟩
      · exact new
      · exact supported.reviews row before
  | edited _ review edit found id order customer restaurant author reviews =>
    have stands := (Table.find?_eq_some.mp found).1
    refine { supported with copies := copies, once := ?_, reviews := ?_ }
    · dsimp only
      rw [reviews]
      refine once_put supported.once fun other stored apart shared => apart ?_
      rw [supported.once other stored review stands (shared.trans order), id]
    · dsimp only
      rw [reviews]
      intro row stored
      rcases Table.mem_put.mp stored with rfl | ⟨before, -⟩
      · exact (supported.reviews review stands).edit order customer restaurant
      · exact supported.reviews row before
  | deleted caller review found may reviews =>
    refine { supported with copies := copies, once := ?_, reviews := ?_ }
    · dsimp only
      rw [reviews]
      exact fun first stored second stored' => supported.once first (List.mem_of_mem_filter stored) second
        (List.mem_of_mem_filter stored')
    · dsimp only
      rw [reviews]
      exact fun row stored => supported.reviews row (List.mem_of_mem_filter stored)

/-- **An event keeps them earned**: it only makes a copy. -/
theorem supported_apply {event : Orders.OrderEvent} (written : event ∈ w.orderEvents) (supported : Supported w) :
    Supported { w with
      desk := applyOrderEvent w.desk (orderPayload event)
      applied := w.applied ++ [event] } := by
  rw [applyOrderEvent_eq]
  refine { supported with applied := ?_, copies := ?_, reviews := ?_ }
  · exact List.forall_mem_append.mpr ⟨supported.applied, List.forall_mem_singleton.mpr written⟩
  · intro snapshot stored
    rcases Table.mem_put.mp stored with rfl | ⟨before, -⟩
    · exact ⟨event, List.mem_append_right _ (List.mem_singleton_self event), rfl⟩
    · obtain ⟨source, handled, same⟩ := supported.copies snapshot before
      exact ⟨source, List.mem_append_left _ handled, same⟩
  · intro review stored
    obtain ⟨source, handled, rest⟩ := supported.reviews review stored
    exact ⟨source, List.mem_append_left _ handled, rest⟩

theorem supported_step (w : ReviewWorld) (label : ReviewLabel) (supported : Supported w) : Supported (w.step label) := by
  cases label with
  | orders label =>
    exact { supported with
      tells := tells_step w.orders label supported.tells
      applied := fun event handled => orderEvents_grow w.orders label (supported.applied event handled) }
  | apply i =>
    simp only [ReviewWorld.step]
    split
    · exact supported
    · rename_i event written
      exact supported_apply (List.mem_of_getElem? written) supported
  | ask op now => exact supported_ask op now supported
  | service env op => exact { supported with }

/-! ### Whose steps they are -/

/-- The reviews change only when they are asked to. -/
theorem reviews_step (w : ReviewWorld) (label : ReviewLabel) :
    (w.step label).desk.reviews = w.desk.reviews ∨
      ∃ op now, label = .ask op now := by
  cases label with
  | orders label => exact Or.inl rfl
  | apply i =>
    left
    simp only [ReviewWorld.step]
    split
    · rfl
    · rw [applyOrderEvent_eq]
  | ask op now => exact Or.inr ⟨op, now, rfl⟩
  | service env op => exact Or.inl rfl

theorem rightful_same {label : ReviewLabel}
    (same : (w.step label).desk.reviews = w.desk.reviews) : Rightful w label where
  created := by
    rw [same]
    intro review stored absent
    exact absurd rfl (Table.find?_eq_none.mp absent review stored)
  edited := by
    rw [same]
    intro review stored edit found changed
    rw [Table.find?_eq_some.mpr ⟨stored, rfl⟩] at found
    obtain rfl := Option.some.inj found
    rcases changed with changed | changed
    · exact absurd rfl changed
    · exact absurd rfl changed
  removed := by
    rw [same]
    intro review stored absent
    exact absurd rfl (Table.find?_eq_none.mp absent review stored)

section Rightful

variable {review edit : Review} {label : ReviewLabel}

theorem stands (stored : review ∈ w.desk.reviews.rows) :
    w.desk.reviews.find? review.id = some review :=
  Table.find?_eq_some.mpr ⟨stored, rfl⟩

/-- A review that is found again says what it said. -/
theorem not_changed (stored : review ∈ w.desk.reviews.rows)
    (found : w.desk.reviews.find? review.id = some edit) :
    ¬ (edit.rating ≠ review.rating ∨ edit.comment ≠ review.comment) := by
  obtain rfl := Option.some.inj ((stands stored).symm.trans found)
  simp

/-- A new review changes and removes no other. -/
theorem rightful_created (after : (w.step label).desk.reviews = w.desk.reviews.put review)
    (fresh : review.id = w.desk.nextReviewId)
    (asked : ∃ caller rating comment now, caller.userId = review.customerId ∧
      label = .ask (.createReview caller review.orderId rating comment) now)
    (earned : EarnedBy w.applied review) : Rightful w label := by
  have apart : ∀ row ∈ w.desk.reviews.rows, review.id ≠ row.id := by
    intro row stored same
    have used : row.id ∈ w.desk.reviews.rows.map Review.id := List.mem_map_of_mem stored
    rw [← same, fresh] at used
    exact nextId_not_mem _ used
  refine ⟨?_, ?_, ?_⟩
  · rw [after]
    intro row stored absent
    rcases Table.mem_put.mp stored with rfl | ⟨before, -⟩
    · obtain ⟨event, handled, reports, -⟩ := earned
      exact ⟨asked, event, handled, reports⟩
    · cases absent.symm.trans (stands before)
  · rw [after]
    intro row stored next there changed
    rw [Table.find?_put_other _ (apart row stored)] at there
    exact absurd changed (not_changed stored there)
  · rw [after]
    intro row stored gone
    rw [Table.find?_put_other _ (apart row stored), stands stored] at gone
    cases gone

/-- An edit changes what its author says, and nothing else. -/
theorem rightful_edited (after : (w.step label).desk.reviews = w.desk.reviews.put edit)
    (found : w.desk.reviews.find? review.id = some review) (id : edit.id = review.id)
    (asked : (edit.rating ≠ review.rating ∨ edit.comment ≠ review.comment) →
      ∃ caller rating comment commentSet now, caller.userId = review.customerId ∧
        label = .ask (.updateReview caller review.id rating comment commentSet) now) :
    Rightful w label := by
  refine ⟨?_, ?_, ?_⟩
  · rw [after]
    intro row stored absent
    rcases Table.mem_put.mp stored with rfl | ⟨before, -⟩
    · rw [id, found] at absent
      cases absent
    · cases absent.symm.trans (stands before)
  · rw [after]
    intro row stored next there changed
    by_cases own : edit.id = row.id
    · rw [← own, Table.find?_put_self] at there
      obtain rfl := Option.some.inj there
      rw [← id, own, stands stored] at found
      obtain rfl := Option.some.inj found
      exact asked changed
    · rw [Table.find?_put_other _ own] at there
      exact absurd changed (not_changed stored there)
  · rw [after]
    intro row stored gone
    by_cases own : edit.id = row.id
    · rw [← own, Table.find?_put_self] at gone
      cases gone
    · rw [Table.find?_put_other _ own, stands stored] at gone
      cases gone

/-- A removal removes one. -/
theorem rightful_deleted
    (after : (w.step label).desk.reviews = w.desk.reviews.filter fun row => row.id ≠ review.id)
    (found : w.desk.reviews.find? review.id = some review)
    (asked : ∃ caller now, (caller.userId = review.customerId ∨ caller.role = "admin") ∧
      label = .ask (.deleteReview caller review.id) now) : Rightful w label := by
  refine ⟨?_, ?_, ?_⟩
  · rw [after]
    intro row stored absent
    cases absent.symm.trans (stands (List.mem_of_mem_filter stored))
  · rw [after]
    intro row stored next there changed
    rw [Table.find?_filter] at there
    exact absurd changed (not_changed stored (Option.filter_eq_some_iff.mp there).1)
  · rw [after]
    intro row stored gone
    by_cases own : row.id = review.id
    · rw [← own, stands stored] at found
      obtain rfl := Option.some.inj found
      exact asked
    · rw [Table.find?_filter, stands stored, Option.filter_some, if_pos (decide_eq_true own)] at gone
      cases gone

/-- **What is asked of the reviews is done rightfully.** -/
theorem rightful_ask (op : ReviewOperation) (now : Timestamp) (supported : Supported w) :
    Rightful w (.ask op now) := by
  cases w.desk.written op now with
  | same _ reviews => exact rightful_same reviews
  | created caller orderId rating comment snapshot review found own earned first fresh order customer
      restaurant reviews =>
    refine rightful_created reviews fresh ⟨caller, rating, comment, now, customer.symm, by rw [order]⟩ ?_
    exact earnedBy_created supported found earned order (customer.trans own.symm) restaurant
  | edited _ review edit found id order customer restaurant author reviews =>
    refine rightful_edited reviews found id fun changed => ?_
    obtain ⟨caller, rating, comment, commentSet, same, rfl⟩ := author changed
    exact ⟨caller, rating, comment, commentSet, now, same, rfl⟩
  | deleted caller review found may reviews =>
    exact rightful_deleted reviews found ⟨caller, now, may, rfl⟩

end Rightful

theorem rightful_step (w : ReviewWorld) (label : ReviewLabel) (supported : Supported w) :
    Rightful w label := by
  rcases reviews_step w label with same | ⟨op, now, rfl⟩
  · exact rightful_same same
  · exact rightful_ask op now supported

/-- **Reviews are earned**, in every state of every run of the two services, whichever events are applied
again and whoever asks for what. -/
theorem reviews_earned (service : State) (labels : List ReviewLabel) :
    Always ReviewWorld.step Earned (.start service) labels ∧
      Throughout ReviewWorld.step Rightful (.start service) labels :=
  ⟨(always_of_step supported_step (supported_start service)).mono fun _ => earned_of_supported,
    throughout_of_step supported_step rightful_step (supported_start service)⟩

end FoodDelivery.Restaurants
