/-
**A customer's orders, page by page** (`services/orders/app/service.py`, `list_orders`).

The orders tab shows what is still in flight and what is past. An order is past when its status is one of
`FINISHED`, which lists three of the four statuses that nothing but DELIVERED to COMPLETED leads out of:
COMPLETED itself is not on the list.

* `listsSplit`: in every state, active and past share the customer's orders between them, newest first;
* `past_iff`: through a run, past is just what has nothing more to come, and what is past stays past, if and
  only if no order of the customer is completed.
-/

import FoodDelivery.Lib.Pages
import FoodDelivery.Orders.Runs

set_option autoImplicit false

namespace FoodDelivery.Orders

open FoodDelivery.Lib

/-! ### The list -/

/-- `FINISHED`. -/
def finished : List OrderStatus := [.delivered, .cancelled, .rejected]

/-- The scopes of the list; what is neither of the others is all. -/
inductive Scope where
  | all
  | active
  | past
deriving DecidableEq, Repr

/-- The `WHERE` of a scope. -/
def Scope.admits (scope : Scope) (order : Order) : Bool :=
  match scope with
  | .all => true
  | .active => order.status ∉ finished
  | .past => order.status ∈ finished

/-- `ORDER BY created_at DESC, id DESC`. -/
def newestFirst (first second : Order) : Bool :=
  second.createdAt < first.createdAt ∨ first.createdAt = second.createdAt ∧ second.id ≤ first.id

/-- An order with the name of its restaurant, when that is known. -/
structure ListedOrder where
  order : Order
  restaurantName : Option String
deriving DecidableEq, Repr

/-- The orders of a customer. -/
def ordersOf (s : State) (customerId : Nat) : List Order :=
  s.orders.rows.filter fun order => order.customerId = customerId

/-- What is attached to an order on the list. -/
def listedOrder (s : State) (order : Order) : ListedOrder where
  order := order
  restaurantName := (s.restaurants.find? order.restaurantId).map RestaurantSnapshot.name

/-- A customer's orders, newest first. -/
def listOrders (s : State) (customerId : Nat) (limit : Nat := 20) (offset : Nat := 0)
    (scope : Scope := .all) : List ListedOrder :=
  (page offset limit (((ordersOf s customerId).filter scope.admits).mergeSort newestFirst)).map
    (listedOrder s)

/-- The first pages of the list. -/
def listPages (s : State) (customerId : Nat) (scope : Scope) (size count : Nat) : List ListedOrder :=
  (List.range count).flatMap fun n => listOrders s customerId size (n * size) scope

/-! ### What has to hold -/

/-- **Active and past split the list**: together they hold each of the customer's orders once, as the whole
list does, and every list is newest first. -/
structure ListsSplit (s : State) (customerId size count : Nat) : Prop where
  once : ((listPages s customerId .active size count ++ listPages s customerId .past size count).map
    ListedOrder.order).Perm (ordersOf s customerId)
  all : (listPages s customerId .active size count ++ listPages s customerId .past size count).Perm
    (listPages s customerId .all size count)
  sorted : ∀ scope, (listPages s customerId scope size count).Pairwise fun first second =>
    newestFirst first.order second.order = true

/-- The order with an id is on some page of a scope. -/
def OnList (s : State) (customerId : Nat) (scope : Scope) (orderId : Nat) : Prop :=
  ∃ limit offset, ∃ listed ∈ listOrders s customerId limit offset scope, listed.order.id = orderId

/-- An order is past exactly when no more is to come: it is delivered, completed, cancelled or rejected. -/
def PastIsOver (customerId : Nat) (s : State) : Prop :=
  ∀ orderId order, s.orders.find? orderId = some order → order.customerId = customerId →
    (OnList s customerId .past orderId ↔ order.status ∈ settledStatuses)

/-- What was past is not active later. -/
def NotActiveAgain (customerId : Nat) (earlier later : State) : Prop :=
  ∀ orderId, OnList earlier customerId .past orderId → ¬ OnList later customerId .active orderId

/-- A restaurant completes a delivered order of the customer. -/
def Completes (customerId : Nat) (s : State) (label : Operation × Timestamp) : Prop :=
  ∃ orderId user order snapshot, label.1 = .advanceStatus orderId user .completed ∧
    s.orders.find? orderId = some order ∧ order.customerId = customerId ∧
    order.status = .delivered ∧ ownedRestaurant s user order.restaurantId = .ok snapshot

/-! ### The pages -/

section Pages

variable (s : State) (customerId : Nat) {size count : Nat}

theorem newestFirst_trans (x y z : Order) (first : newestFirst x y = true)
    (second : newestFirst y z = true) : newestFirst x z = true := by
  unfold newestFirst at *
  rw [decide_eq_true_iff] at *
  rcases first with first | ⟨same, first⟩
  · rcases second with second | ⟨same', -⟩
    · exact Or.inl (Int.lt_trans second first)
    · exact Or.inl (same' ▸ first)
  · rcases second with second | ⟨same', second⟩
    · exact Or.inl (same ▸ second)
    · exact Or.inr ⟨same.trans same', Nat.le_trans second first⟩

theorem newestFirst_total (x y : Order) : (newestFirst x y || newestFirst y x) = true := by
  unfold newestFirst
  rw [Bool.or_eq_true, decide_eq_true_iff, decide_eq_true_iff]
  rcases Int.lt_trichotomy x.createdAt y.createdAt with less | same | more
  · exact Or.inr (Or.inl less)
  · rcases Nat.le_total x.id y.id with less | more
    · exact Or.inr (Or.inr ⟨same.symm, less⟩)
    · exact Or.inl (Or.inr ⟨same, more⟩)
  · exact Or.inl (Or.inl more)

/-- **Enough pages are the whole list.** -/
theorem listPages_eq (scope : Scope) (enough : (ordersOf s customerId).length ≤ count * size) :
    listPages s customerId scope size count =
      (((ordersOf s customerId).filter scope.admits).mergeSort newestFirst).map (listedOrder s) := by
  have cut := pages_const (((ordersOf s customerId).filter scope.admits).mergeSort newestFirst) size count
  rw [listPages]
  unfold listOrders
  rw [← List.map_flatMap]
  congr 1
  rw [pages] at cut
  rw [cut, List.take_of_length_le]
  rw [List.length_mergeSort]
  exact Nat.le_trans (List.length_filter_le _ _) enough

theorem listsSplit (enough : (ordersOf s customerId).length ≤ count * size) :
    ListsSplit s customerId size count := by
  have sorted : ∀ scope : Scope, (((ordersOf s customerId).filter scope.admits).mergeSort newestFirst).Perm
      ((ordersOf s customerId).filter scope.admits) := fun scope => List.mergeSort_perm _ _
  have shared : ((ordersOf s customerId).filter Scope.active.admits ++
      (ordersOf s customerId).filter Scope.past.admits).Perm (ordersOf s customerId) := by
    refine List.perm_append_comm.trans ?_
    have others : (ordersOf s customerId).filter Scope.active.admits =
        (ordersOf s customerId).filter fun order => !Scope.past.admits order :=
      List.filter_congr fun order _ => by simp [Scope.admits]
    rw [others]
    exact List.filter_append_perm _ _
  have whole : (ordersOf s customerId).filter Scope.all.admits = ordersOf s customerId :=
    List.filter_eq_self.mpr fun _ _ => rfl
  have both := ((sorted .active).append (sorted .past)).trans shared
  have plain : ∀ orders : List Order, (orders.map (listedOrder s)).map ListedOrder.order = orders := by
    intro orders
    rw [List.map_map]
    exact List.map_id orders
  refine ⟨?_, ?_, fun scope => ?_⟩
  · rw [listPages_eq s customerId .active enough, listPages_eq s customerId .past enough, ← List.map_append,
      plain]
    exact both
  · rw [listPages_eq s customerId .active enough, listPages_eq s customerId .past enough,
      listPages_eq s customerId .all enough, ← List.map_append]
    exact (both.trans ((sorted .all).trans (List.Perm.of_eq whole)).symm).map _
  · rw [listPages_eq s customerId scope enough, List.pairwise_map]
    exact List.pairwise_mergeSort newestFirst_trans newestFirst_total _

/-- What is on a list. -/
theorem onList_iff {scope : Scope} {orderId : Nat} :
    OnList s customerId scope orderId ↔
      ∃ order, s.orders.find? orderId = some order ∧ order.customerId = customerId ∧
        scope.admits order = true := by
  have sorted := List.mergeSort_perm ((ordersOf s customerId).filter scope.admits) newestFirst
  have member : ∀ order, order ∈ ((ordersOf s customerId).filter scope.admits).mergeSort newestFirst ↔
      (order ∈ s.orders.rows ∧ order.customerId = customerId) ∧ scope.admits order = true := by
    intro order
    rw [sorted.mem_iff, List.mem_filter, ordersOf, List.mem_filter, decide_eq_true_iff]
  constructor
  · rintro ⟨limit, offset, listed, there, rfl⟩
    obtain ⟨order, cut, rfl⟩ := List.mem_map.mp there
    obtain ⟨⟨stored, own⟩, admitted⟩ := (member order).mp (page_sublist.subset cut)
    exact ⟨order, Table.find?_eq_some.mpr ⟨stored, rfl⟩, own, admitted⟩
  · rintro ⟨order, found, own, admitted⟩
    obtain ⟨stored, rfl⟩ := Table.find?_eq_some.mp found
    refine ⟨(((ordersOf s customerId).filter scope.admits).mergeSort newestFirst).length, 0,
      listedOrder s order, List.mem_map_of_mem ?_, rfl⟩
    rw [page, List.drop_zero, List.take_length]
    exact (member order).mpr ⟨⟨stored, own⟩, admitted⟩

end Pages

/-! ### Runs -/

section Runs

variable {s : State} {label : Operation × Timestamp} {customerId orderId : Nat} {order : Order}

/-- No order of the customer is completed. -/
def NoneCompleted (customerId : Nat) (s : State) : Prop :=
  ∀ orderId order, s.orders.find? orderId = some order → order.customerId = customerId →
    order.status ≠ .completed

/-- What is finished stays so. -/
def FinishedStays (customerId : Nat) (earlier later : State) : Prop :=
  ∀ orderId order, earlier.orders.find? orderId = some order → order.customerId = customerId →
    order.status ∈ finished → ∃ moved, later.orders.find? orderId = some moved ∧
      moved.customerId = customerId ∧ moved.status ∈ finished

theorem mem_settledStatuses {status : OrderStatus} (going : status ≠ .completed) :
    status ∈ settledStatuses ↔ status ∈ finished := by
  revert going
  cases status <;> decide

theorem pastIsOver_of_noneCompleted (clear : NoneCompleted customerId s) : PastIsOver customerId s := by
  intro orderId order found own
  rw [onList_iff, mem_settledStatuses (clear orderId order found own)]
  constructor
  · rintro ⟨other, there, -, past⟩
    obtain rfl := Option.some.inj (found.symm.trans there)
    exact of_decide_eq_true past
  · intro past
    exact ⟨order, found, own, decide_eq_true past⟩

theorem deliveryTarget_ne_completed (status : Option DeliveryStatus) :
    deliveryTarget status ≠ some .completed := by
  rcases status with _ | status
  · decide
  · cases status <;> decide

/-- **How an order comes to be completed**: a restaurant completes it. -/
theorem completes_of_acted {op : Operation} {now : Timestamp} {action : Action}
    (performs : op.Performs orderId action) (target : action.target = .completed)
    (found : s.orders.find? orderId = some order) (own : order.customerId = customerId)
    (legal : .completed ∈ allowed order.status)
    (moves : (s.step (op, now)).orders.find? orderId ≠ s.orders.find? orderId) :
    Completes customerId s (op, now) := by
  have delivered : order.status = .delivered := by
    revert legal
    cases order.status <;> decide
  cases performs with
  | advanceStatus _ user target' =>
    obtain rfl : target' = .completed := target
    cases outcome : (Operation.advanceStatus orderId user .completed).outcome s now with
    | error raised =>
      refine absurd ?_ moves
      rw [State.step, outcome]
    | ok next =>
      obtain ⟨snapshot, manages⟩ := owned_of_advanceStatus outcome found
      exact ⟨orderId, user, order, snapshot, rfl, found, own, delivered, manages⟩
  | driverAdvance _ status target' drives =>
    obtain rfl : target' = .completed := target
    exact absurd drives (deliveryTarget_ne_completed status)
  | cancelByCustomer => cases target
  | acceptByRestaurant => cases target
  | rejectByRestaurant => cases target
  | markPaid => cases target
  | expireUnpaidOrders => cases target
  | expirePendingAcceptances => cases target

/-- **What a step that completes no order of the customer does to an order**: nothing; or it is new and not
completed; or it moves along the table, and if it is the customer's, not to completed. -/
theorem cases_of_spares (spares : ¬ Completes customerId s label) (orderId : Nat) :
    (s.step label).orders.find? orderId = s.orders.find? orderId ∨
      (s.orders.find? orderId = none ∧ ∃ placed, (s.step label).orders.find? orderId = some placed ∧
        placed.status ≠ .completed) ∨
      ∃ order moved, s.orders.find? orderId = some order ∧
        (s.step label).orders.find? orderId = some moved ∧ moved.customerId = order.customerId ∧
        moved.status ∈ allowed order.status ∧
        (order.customerId = customerId → moved.status ≠ .completed) := by
  cases s.changed label orderId with
  | same untouched => exact Or.inl untouched.row
  | placed tables user request acquired cart post validated now written operation absent place row commands
      events =>
    refine Or.inr (Or.inl ⟨absent, written.order, row, ?_⟩)
    rw [(placeOrder_ok rfl place).1]
    split
    · simp
    · simp
  | acted tables now action order written performs found performed row commands events =>
    have legal := performed.legal
    rw [← performed.status] at legal
    refine Or.inr (Or.inr ⟨order, written.order, found, row, performed.customerId, legal,
      fun own completed => spares ?_⟩)
    refine completes_of_acted performs (performed.status.symm.trans completed) found own
      (completed ▸ legal) ?_
    rw [row, found]
    intro same
    exact ne_of_allowed legal (congrArg Order.status (Option.some.inj same))

/-- A step that completes an order leaves it completed. -/
theorem not_pastIsOver_of_completes (completes : Completes customerId s label) :
    ¬ PastIsOver customerId (s.step label) := by
  obtain ⟨orderId, user, order, snapshot, asked, found, own, delivered, manages⟩ := completes
  obtain ⟨op, now⟩ := label
  obtain rfl : op = .advanceStatus orderId user .completed := asked
  have legal : .completed ∈ allowed order.status := by rw [delivered]; decide
  obtain ⟨written, performed, -, outcome⟩ := onOrder_advanceStatus now found manages legal
  have stepped : s.step (.advanceStatus orderId user .completed, now) = s.commit written := by
    unfold State.step
    rw [show (Operation.advanceStatus orderId user .completed).outcome s now = .ok (s.commit written)
      from outcome]
  have row : (s.commit written).orders.find? orderId = some written.order := by
    rw [State.commit_orders, ← Table.key_of_find? found, ← performed.id, Table.find?_put_self]
  intro claimed
  have completed : written.order.status = .completed := performed.status
  have listed := (claimed orderId written.order (stepped ▸ row) (performed.customerId.trans own)).mpr
    (by rw [completed]; decide)
  obtain ⟨other, there, -, past⟩ := (onList_iff _ customerId).mp listed
  obtain rfl := Option.some.inj (row.symm.trans (stepped ▸ there))
  have finishes : written.order.status ∈ finished := of_decide_eq_true past
  rw [completed] at finishes
  exact absurd finishes (by decide)

theorem noneCompleted_step (clear : NoneCompleted customerId s)
    (spares : ¬ Completes customerId s label) : NoneCompleted customerId (s.step label) := by
  intro orderId order after own
  rcases cases_of_spares spares orderId with same | ⟨-, placed, row, going⟩ |
    ⟨before, moved, -, row, customer, -, going⟩
  · exact clear orderId order (same ▸ after) own
  · obtain rfl := Option.some.inj (row.symm.trans after)
    exact going
  · obtain rfl := Option.some.inj (row.symm.trans after)
    exact going (customer.symm.trans own)

theorem finishedStays_step (spares : ¬ Completes customerId s label) :
    FinishedStays customerId s (s.step label) := by
  intro orderId order found own finishes
  rcases cases_of_spares spares orderId with same | ⟨absent, -⟩ |
    ⟨before, moved, there, row, customer, legal, going⟩
  · exact ⟨order, same.trans found, own, finishes⟩
  · cases absent.symm.trans found
  · obtain rfl := Option.some.inj (there.symm.trans found)
    have settled : before.status ∈ settledStatuses :=
      (mem_settledStatuses fun completed =>
        absurd (completed ▸ finishes : .completed ∈ finished) (by decide)).mpr finishes
    exact absurd (allowed_of_settled settled legal).2 (going own)

/-- **Past means over exactly where no order is completed.** In every state the lists of active and past
orders split the customer's orders; and through a run past is what has nothing more to come, and nothing
past is active again, if and only if no step completes an order of the customer. -/
theorem past_iff (customerId : Nat) (labels : List (Operation × Timestamp)) :
    (∀ s size count, (ordersOf s customerId).length ≤ count * size →
      ListsSplit s customerId size count) ∧
    ((Always State.step (PastIsOver customerId) .empty labels ∧
        Onward State.step (NotActiveAgain customerId) .empty labels) ↔
      Throughout State.step (fun s label => ¬ Completes customerId s label) .empty labels) := by
  have safe : Always State.step (PastIsOver customerId) .empty labels ↔
      Throughout State.step (fun s label => ¬ Completes customerId s label) .empty labels :=
    always_iff_throughout (Q := NoneCompleted customerId)
      (fun s label clear spares => noneCompleted_step clear spares)
      (fun s => pastIsOver_of_noneCompleted)
      (fun s label _ completes => not_pastIsOver_of_completes (not_not.mp completes))
      (fun orderId order found => by cases found)
  refine ⟨fun s size count => listsSplit s customerId, fun both => safe.mp both.1, fun spares =>
    ⟨safe.mpr spares, ?_⟩⟩
  have stays : Onward State.step (FinishedStays customerId) .empty labels :=
    (onward_iff_throughout (fun s orderId order found own past => ⟨order, found, own, past⟩)
      (fun s t u first second orderId order found own past => by
        obtain ⟨moved, found, own, past⟩ := first orderId order found own past
        exact second orderId moved found own past)).mpr
      (spares.mono fun s label => finishedStays_step)
  refine stays.mono fun earlier later stays orderId past active => ?_
  obtain ⟨order, found, own, finishes⟩ := (onList_iff earlier customerId).mp past
  obtain ⟨moved, there, -, still⟩ := stays orderId order found own (of_decide_eq_true finishes)
  obtain ⟨other, there', -, flies⟩ := (onList_iff later customerId).mp active
  obtain rfl := Option.some.inj (there.symm.trans there')
  exact of_decide_eq_true flies still

/-- A cash order that its restaurant takes all the way to completed. -/
def completedMeal : List (Operation × Timestamp) :=
  mealCheckout .cod ++
    [(.advanceStatus 1 ⟨9, "restaurant"⟩ .restaurantAccepted, 20),
      (.advanceStatus 1 ⟨9, "restaurant"⟩ .preparing, 30),
      (.advanceStatus 1 ⟨9, "restaurant"⟩ .readyForPickup, 40),
      (.advanceStatus 1 ⟨9, "restaurant"⟩ .outForDelivery, 50),
      (.advanceStatus 1 ⟨9, "restaurant"⟩ .delivered, 60),
      (.advanceStatus 1 ⟨9, "restaurant"⟩ .completed, 70)]

/-- It ends on the customer's active list. -/
theorem completedMeal_active :
    ¬ ∀ customerId labels, Always State.step (PastIsOver customerId) .empty labels ∧
      Onward State.step (NotActiveAgain customerId) .empty labels := by
  intro all
  have finally_ := (all 7 completedMeal).1.last
  have row : ((run State.step .empty completedMeal).orders.find? 1).map
      (fun order => (order.customerId, order.status)) = some (7, .completed) := by decide
  obtain ⟨order, found, said⟩ := Option.map_eq_some_iff.mp row
  obtain ⟨own, status⟩ := Prod.mk.inj said
  have listed := (finally_ 1 order found own).mpr (by rw [status]; decide)
  obtain ⟨other, there, -, past⟩ := (onList_iff _ 7).mp listed
  obtain rfl := Option.some.inj (found.symm.trans there)
  have finishes : order.status ∈ finished := of_decide_eq_true past
  rw [status] at finishes
  exact absurd finishes (by decide)

end Runs

end FoodDelivery.Orders
