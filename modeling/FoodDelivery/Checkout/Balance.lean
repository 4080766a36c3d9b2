/-
**The balance of a step**: what it takes from the orders it gives to the items.

A state change that ends no order is balanced, and so is an ending whose release-stock call is let in
(`balanced_credited`). An ending whose call is refused, or that makes none, is balanced only for what
its order did not hold (`balanced_untracked`, `lost_of_tracked`). `onOrders_sweep` says what a sweep
leaves, `balanced_message` and `stockOf_edit` that the other services' messages and the owners' edits
move no stock.
-/

import FoodDelivery.Checkout.Stock

set_option autoImplicit false

namespace FoodDelivery.Checkout

open FoodDelivery.Lib
open FoodDelivery.Orders (Action Order OrderItem Performed Written StockRelease ended)
open FoodDelivery.Restaurants (Items OrderLine StockLine stockOf wanted applyOrder restoreOrder)

/-! ### The balance of a step -/

/-- What a step takes from the orders it gives to the items. -/
def Balanced (start : Items) (s next : State) : Prop :=
  ∀ id left, (stockOf start id).isSome → stockOf s.restaurants.items id = some left →
    ∃ after, stockOf next.restaurants.items id = some after ∧
      after + held next.orders id = left + held s.orders id

variable {start : Items} {setting : Setting} {s next : State}

theorem Balanced.refl (start : Items) (s : State) : Balanced start s s :=
  fun _ left _ here => ⟨left, here, rfl⟩

theorem Conserved.step (conserved : Conserved start s) (balanced : Balanced start s next) :
    Conserved start next := by
  intro id stock tracked
  obtain ⟨left, here, sum⟩ := conserved id stock tracked
  have known : (stockOf start id).isSome := by rw [tracked]; rfl
  obtain ⟨after, there, same⟩ := balanced id left known here
  exact ⟨after, there, same.trans sum⟩

/-- Orders that hold as much, and items as they were. -/
theorem balanced_of_same (items : next.restaurants = s.restaurants)
    (holds : ∀ id, (stockOf start id).isSome → held next.orders id = held s.orders id) :
    Balanced start s next := by
  intro id left tracked here
  rw [items, holds id tracked]
  exact ⟨left, here, rfl⟩

/-- Portions that no order holds any more and no item has back are lost. -/
theorem not_conserved_of_lost (conserved : Conserved start s)
    (items : next.restaurants = s.restaurants) {id : Nat} (tracked : (stockOf start id).isSome)
    (fewer : held next.orders id < held s.orders id) : ¬ Conserved start next := by
  intro still
  obtain ⟨stock, known⟩ := Option.isSome_iff_exists.mp tracked
  obtain ⟨left, here, before⟩ := conserved id stock known
  obtain ⟨after, there, sum⟩ := still id stock known
  rw [items, here] at there
  cases there
  omega

/-! ### What an order holds -/

theorem holding_of_open {order : Order} (open_ : ended order.status = false) (id : Nat) :
    holding id order = wanted (order.items.map lineStock) id := by
  rw [holding, open_]
  rfl

theorem holding_of_ended {order : Order} (ends : ended order.status = true) (id : Nat) :
    holding id order = 0 := by
  rw [holding, if_pos ends]

/-- The portions that an order with a tracked item holds of it. -/
theorem wanted_pos_of_line {order : Order} {line : OrderItem} (member : line ∈ order.items)
    (quantity : 1 ≤ line.quantity) :
    0 < wanted (order.items.map lineStock) line.menuItemId := by
  have counted := Restaurants.quantity_le_wanted (List.mem_map_of_mem (f := lineStock) member)
  exact lt_of_lt_of_le quantity counted

theorem wanted_of_untracked {order : Order} (untracked : ¬ HoldsTracked start order) {id : Nat}
    (tracked : (stockOf start id).isSome) : wanted (order.items.map lineStock) id = 0 := by
  refine Restaurants.wanted_eq_zero fun named => untracked ?_
  obtain ⟨_, member, same⟩ := List.mem_map.mp named
  obtain ⟨line, among, rfl⟩ := List.mem_map.mp member
  exact ⟨line, among, by rw [show line.menuItemId = id from same]; exact tracked⟩

/-- **What a commit does to what is held.** -/
theorem held_commit (orders : Orders.State) (written : Written) (id : Nat) :
    held (orders.commit written) id + orders.orders.weight (holding id) written.order.id =
      held orders id + holding id written.order :=
  orders.orders.total_put written.order (holding id)

/-- An ending gives up what its order held; any other state change keeps it. -/
theorem held_performed {orders tables : Orders.State} {now : Timestamp} {action : Action}
    {orderId : Nat} {order : Order} {written : Written}
    (found : orders.orders.find? orderId = some order)
    (performed : Performed tables now action order written) (id : Nat) :
    held (orders.commit written) id +
        (if ended action.target then wanted (order.items.map lineStock) id else 0) =
      held orders id := by
  have sum := held_commit orders written id
  have own : written.order.id = orderId := performed.id.trans (Table.key_of_find? found)
  have before : orders.orders.weight (holding id) written.order.id =
      wanted (order.items.map lineStock) id := by
    rw [Table.weight, own, found, Option.elim_some]
    exact holding_of_open (Orders.not_ended_of_allowed performed.legal) id
  by_cases ends : ended action.target = true
  · have after : holding id written.order = 0 :=
      holding_of_ended (by rw [performed.status]; exact ends) id
    rw [if_pos ends]
    omega
  · have after : holding id written.order = wanted (written.order.items.map lineStock) id :=
      holding_of_open (by rw [performed.status]; exact eq_false_of_ne_true ends) id
    rw [performed.items] at after
    rw [if_neg ends]
    omega

/-! ### The release-stock call -/

/-- Without a header, the call is refused. -/
theorem foldl_release_refused (restaurants : Restaurants.State) (swept : List Order) :
    (swept.map fun order => Orders.restoreStock order "").foldl (release setting) restaurants =
      restaurants := by
  induction swept with
  | nil => rfl
  | cons order swept ih => exact ih

/-- With one that is let in, it puts the lines back. -/
theorem release_accepted {authHeader : String} {user : Identity} {order : Order}
    (restaurants : Restaurants.State)
    (known : authenticate setting.verify (forwarded authHeader) = some user)
    (quantities : ∀ line ∈ order.items, 1 ≤ line.quantity) :
    release setting restaurants (Orders.restoreStock order authHeader) =
      restoreOrder restaurants (order.items.map lineStock) := by
  have valid : (wireRelease order.items).all OrderLine.valid = true := by
    refine List.all_eq_true.mpr fun line member => ?_
    obtain ⟨own, among, rfl⟩ := List.mem_map.mp member
    exact decide_eq_true (quantities own among)
  unfold release Restaurants.serveReleaseStock Orders.restoreStock
  dsimp only
  rw [known]
  dsimp only
  rw [if_neg (by simp [valid]), Restaurants.releaseStock, wireRelease, List.map_map]
  rfl

/-- The calls a step makes, when it commits one order. -/
theorem onOrders_commit {op : Orders.Operation} {now : Timestamp} {written : Written}
    (commits : s.orders.step (op, now) = s.orders.commit written) :
    s.onOrders setting op now =
      ⟨s.orders.commit written, written.release.toList.foldl (release setting) s.restaurants⟩ := by
  unfold State.onOrders
  rw [commits]
  dsimp only
  rw [show (s.orders.commit written).releases = s.orders.releases ++ written.release.toList from rfl,
    List.drop_left]

/-- A step that leaves the orders leaves everything. -/
theorem onOrders_same {op : Orders.Operation} {now : Timestamp}
    (same : s.orders.step (op, now) = s.orders) : s.onOrders setting op now = s := by
  unfold State.onOrders
  rw [same]
  dsimp only
  rw [List.drop_length]
  rfl

/-! ### A state change of one order -/

/-- A request for one order leaves everything, or commits a state change and makes its call. -/
theorem onOrders_cases (setting : Setting) {op : Orders.Operation} {now : Timestamp} {orderId : Nat}
    {action : Action}
    (acts : s.orders.step (op, now) =
      match s.orders.onOrder orderId action now with
      | .ok next => next
      | .error _ => s.orders) :
    s.onOrders setting op now = s ∨ ∃ order written, s.orders.orders.find? orderId = some order ∧
      Performed s.orders now action order written ∧
      s.onOrders setting op now = ⟨s.orders.commit written,
        (action.releaseHeader.map fun authHeader =>
          Orders.restoreStock order authHeader).toList.foldl (release setting) s.restaurants⟩ := by
  cases result : s.orders.onOrder orderId action now with
  | error raised =>
    rw [result] at acts
    exact Or.inl (onOrders_same acts)
  | ok orders =>
    rw [result] at acts
    rcases Orders.onOrder_cases result with rfl | ⟨order, written, found, performed, released, rfl⟩
    · exact Or.inl (onOrders_same acts)
    · refine Or.inr ⟨order, written, found, performed, ?_⟩
      rw [onOrders_commit acts, released]

section

variable {now : Timestamp} {orderId : Nat} {action : Action} {order : Order} {written : Written}

/-- **A state change that ends no order** keeps the balance. -/
theorem balanced_quiet (found : s.orders.orders.find? orderId = some order)
    (performed : Performed s.orders now action order written)
    (continues : ended action.target = false) :
    Balanced start s ⟨s.orders.commit written, s.restaurants⟩ := by
  refine balanced_of_same rfl fun id _ => ?_
  have sum := held_performed found performed id
  rw [if_neg (by simp [continues])] at sum
  exact sum

/-- **An ending whose call is let in** gives back what its order held. -/
theorem balanced_credited {authHeader : String} {user : Identity}
    (found : s.orders.orders.find? orderId = some order)
    (performed : Performed s.orders now action order written) (ends : ended action.target = true)
    (known : authenticate setting.verify (forwarded authHeader) = some user)
    (quantities : ∀ line ∈ order.items, 1 ≤ line.quantity) :
    Balanced start s
      ⟨s.orders.commit written,
        release setting s.restaurants (Orders.restoreStock order authHeader)⟩ := by
  intro id left _ here
  have sum := held_performed found performed id
  rw [if_pos ends] at sum
  refine ⟨left + wanted (order.items.map lineStock) id, ?_, by dsimp only; omega⟩
  dsimp only
  rw [release_accepted s.restaurants known quantities, Restaurants.stockOf_restoreOrder, here,
    Option.map_some]

/-- **An ending that gives nothing back** keeps the balance of what its order did not hold, -/
theorem balanced_untracked (found : s.orders.orders.find? orderId = some order)
    (performed : Performed s.orders now action order written) (ends : ended action.target = true)
    (untracked : ¬ HoldsTracked start order) :
    Balanced start s ⟨s.orders.commit written, s.restaurants⟩ := by
  refine balanced_of_same rfl fun id tracked => ?_
  have sum := held_performed found performed id
  rw [if_pos ends, wanted_of_untracked untracked tracked] at sum
  exact sum

/-- and loses what it did. -/
theorem lost_of_tracked (conserved : Conserved start s)
    (found : s.orders.orders.find? orderId = some order)
    (performed : Performed s.orders now action order written) (ends : ended action.target = true)
    (quantities : ∀ line ∈ order.items, 1 ≤ line.quantity) (holds : HoldsTracked start order) :
    ¬ Conserved start ⟨s.orders.commit written, s.restaurants⟩ := by
  obtain ⟨line, member, tracked⟩ := holds
  have sum := held_performed found performed line.menuItemId
  rw [if_pos ends] at sum
  have some_held := wanted_pos_of_line member (quantities line member)
  exact not_conserved_of_lost conserved rfl tracked (by dsimp only; omega)

end

/-! ### Steps that may touch many orders -/

/-- Every line of every order is for at least one portion. -/
def Quantities (orders : Orders.State) : Prop :=
  ∀ orderId order, orders.orders.find? orderId = some order → ∀ line ∈ order.items,
    1 ≤ line.quantity

/-- An operation that places no order. -/
def PlacesNone (op : Orders.Operation) : Prop :=
  ∀ user request acquired cart post, op ≠ .createOrderFromCheckout user request acquired cart post

theorem quantities_step {orders : Orders.State} {op : Orders.Operation} (now : Timestamp)
    (places : PlacesNone op) (quantities : Quantities orders) :
    Quantities (orders.step (op, now)) := by
  intro orderId order found
  cases orders.changed (op, now) orderId with
  | same untouched =>
    rw [untouched.row] at found
    exact quantities orderId order found
  | placed tables user request acquired cart post validated now written operation absent place row
      commands events =>
    exact absurd operation (places user request acquired cart post)
  | acted tables now action before written performs was performed row commands events =>
    rw [row] at found
    cases found
    rw [performed.items]
    exact quantities orderId before was

/-- A state change that ends no order and makes no call. -/
theorem balanced_onOrder {op : Orders.Operation} {now : Timestamp} (orderId : Nat) (action : Action)
    (acts : s.orders.step (op, now) =
      match s.orders.onOrder orderId action now with
      | .ok next => next
      | .error _ => s.orders)
    (continues : ended action.target = false) (silent : action.releaseHeader = none) :
    Balanced start s (s.onOrders setting op now) := by
  rcases onOrders_cases setting acts with same | ⟨order, written, found, performed, next⟩
  · rw [same]
    exact Balanced.refl start s
  · rw [next, silent]
    exact balanced_quiet found performed continues

/-- An update of a read-model. -/
theorem balanced_readModel {op : Orders.Operation} {now : Timestamp}
    (orders : (s.orders.step (op, now)).orders = s.orders.orders)
    (releases : (s.orders.step (op, now)).releases = s.orders.releases) :
    Balanced start s (s.onOrders setting op now) := by
  have items : (s.onOrders setting op now).restaurants = s.restaurants := by
    unfold State.onOrders
    dsimp only
    rw [releases, List.drop_length]
    rfl
  refine balanced_of_same items fun id _ => ?_
  show (s.orders.step (op, now)).orders.total (holding id) = _
  rw [orders]
  rfl

/-- **A message of another service** ends no order and gives nothing back. -/
theorem balanced_message (message : Message) (now : Timestamp) :
    Balanced start s (s.onOrders setting message.operation now) := by
  cases message with
  | payment payload =>
    rcases Orders.applyPaymentEvent_cases s.orders payload now with same | ⟨orderId, asks⟩
    · have acts : s.orders.step (.applyPaymentEvent payload, now) = s.orders := by
        unfold Orders.State.step Orders.Operation.outcome
        simp only [same]
      exact balanced_readModel (by rw [Message.operation, acts]) (by rw [Message.operation, acts])
    · exact balanced_onOrder orderId .markPaid (asks ▸ rfl) rfl rfl
  | delivery payload =>
    rcases Orders.applyDeliveryEvent_cases s.orders payload now with
      same | ⟨orderId, target, continues, asks⟩
    · have acts : s.orders.step (.applyDeliveryEvent payload, now) = s.orders := same
      exact balanced_readModel (by rw [Message.operation, acts]) (by rw [Message.operation, acts])
    · exact balanced_onOrder orderId (.driverAdvance target) asks continues rfl
  | address payload =>
    obtain ⟨orders, releases⟩ := Orders.applyAddressEvent_frame s.orders payload
    exact balanced_readModel orders releases
  | restaurant payload =>
    obtain ⟨orders, releases⟩ := Orders.applyRestaurantEvent_frame s.orders payload
    exact balanced_readModel orders releases
  | user payload =>
    obtain ⟨orders, releases⟩ := Orders.applyUserEvent_frame s.orders payload
    exact balanced_readModel orders releases

section

variable {op : Orders.Operation} {now : Timestamp} {action : Action}

/-- **A sweep**: it puts nothing back, ends the orders it looks for and leaves the others. -/
theorem onOrders_sweep (setting : Setting) (sweeps : action.sweeps)
    (performs : ∀ orderId, op.Performs orderId action)
    (outcome : op.outcome s.orders now = s.orders.sweep action now) :
    (s.onOrders setting op now).restaurants = s.restaurants ∧
      ∀ id orderId, (s.orders.step (op, now)).orders.weight (holding id) orderId =
        if ∃ order ∈ s.orders.orders.find? orderId, action.selects now order = true then 0
        else s.orders.orders.weight (holding id) orderId := by
  have current : ∀ row ∈ s.orders.orders.rows, s.orders.orders.find? row.id = some row :=
    fun row member => Table.find?_eq_some.mpr ⟨member, rfl⟩
  have distinct := s.orders.orders.unique
  obtain ⟨next, swept, result, releases, ends⟩ :=
    Orders.sweepRows_of_sweeps sweeps distinct performs current
  have steps : s.orders.step (op, now) = next := by
    unfold Orders.State.step
    rw [outcome, Orders.State.sweep, result]
  have aside := fun orderId =>
    (Orders.changed_sweepRows performs orderId distinct current result).2
  constructor
  · unfold State.onOrders
    rw [steps]
    dsimp only
    rw [releases, List.drop_left]
    exact foldl_release_refused s.restaurants swept
  · intro id orderId
    rw [steps]
    cases found : s.orders.orders.find? orderId with
    | none =>
      have absent : orderId ∉ s.orders.orders.rows.map Order.id := by
        intro member
        obtain ⟨row, among, same⟩ := List.mem_map.mp member
        exact Table.find?_eq_none.mp found row among same
      rw [if_neg (by simp), Table.weight, Table.weight, (aside orderId absent).row]
    | some row =>
      obtain ⟨member, rfl⟩ := Table.find?_eq_some.mp found
      obtain ⟨order, after, cancels, keeps⟩ := ends row member
      by_cases selected : action.selects now row = true
      · rw [if_pos ⟨row, rfl, selected⟩, Table.weight, after, Option.elim_some]
        exact holding_of_ended (by rw [cancels selected]; rfl) id
      · rw [if_neg (by simpa using selected), Table.weight, Table.weight, after, found,
          keeps (eq_false_of_ne_true selected)]

end

/-! ### Edits -/

/-- An item that was written over, and that was there with the stock it is written with. -/
theorem stockOf_put {items : Items} {old new : Restaurants.MenuItem} {itemId id left : Nat}
    (found : items.find? itemId = some old) (same : new.id = old.id)
    (stock : new.stockQuantity = old.stockQuantity) (here : stockOf items id = some left) :
    stockOf (items.put new) id = some left := by
  have own : old.id = itemId := Table.key_of_find? found
  unfold stockOf at here ⊢
  by_cases mine : id = itemId
  · subst mine
    rw [found] at here
    rw [← own, ← same, Table.find?_put_self, Option.bind_some, stock]
    exact here
  · rw [Table.find?_put_other]
    · exact here
    · rw [same, own]
      exact fun clash => mine clash.symm

/-- A new item has an id of its own. -/
theorem stockOf_put_new {s : Restaurants.State} {new : Restaurants.MenuItem} {id left : Nat}
    (fresh : new.id = s.nextItemId) (here : stockOf s.items id = some left) :
    stockOf (s.items.put new) id = some left := by
  unfold stockOf at here ⊢
  rw [Table.find?_put_other]
  · exact here
  · rintro rfl
    obtain ⟨item, found, _⟩ := Option.bind_eq_some_iff.mp here
    have member := (Table.find?_eq_some.mp found).1
    have taken : item.id ∈ s.items.rows.map Restaurants.MenuItem.id := List.mem_map_of_mem member
    rw [Table.key_of_find? found, fresh] at taken
    exact nextId_not_mem _ taken

/-- An edit of an item that leaves out its stock leaves its stock. -/
theorem apply_stock {data : Restaurants.MenuItemUpdate} {item edited : Restaurants.MenuItem}
    (noStock : data.stockQuantity = none) (applied : data.apply item = .ok edited) :
    edited.id = item.id ∧ edited.stockQuantity = item.stockQuantity := by
  obtain ⟨same, -, stock, -⟩ := Restaurants.MenuItemUpdate.apply_ok applied
  rw [noStock] at stock
  exact ⟨same, stock⟩

/-- **An edit that is not one of stock** leaves the stock of every item that is there. -/
theorem stockOf_edit (env : Restaurants.Environment) (s : Restaurants.State)
    (op : Restaurants.Operation) (leaves : leavesStock op = true) {id left : Nat}
    (here : stockOf s.items id = some left) : stockOf (s.step env op).items id = some left := by
  unfold Restaurants.State.step
  split
  · rename_i next outcome
    cases op with
    | registerFromSignup payload =>
      cases outcome
      rcases Restaurants.registerFromSignup_cases env.adminAlertEmail s payload with
        same | ⟨_, _, _, new⟩
      · rw [same]
        exact here
      · rw [new]
        exact here
    | createRestaurant owner data =>
      obtain ⟨_, _, _, rfl⟩ := Restaurants.createRestaurant_ok outcome
      exact here
    | setApproval restaurantId status reason =>
      obtain ⟨_, _, rest⟩ := bind_eq_ok.mp outcome
      cases rest
      exact here
    | updateRestaurant restaurantId user data =>
      obtain ⟨_, _, -, -, -, items, -⟩ := Restaurants.updateRestaurant_ok outcome
      rw [items]
      exact here
    | addCategory user restaurantId data =>
      obtain ⟨_, -, rfl⟩ := Restaurants.addCategory_ok outcome
      exact here
    | updateCategory user restaurantId categoryId data =>
      obtain ⟨_, _, -, -, -, rfl⟩ := Restaurants.updateCategory_ok outcome
      exact here
    | deleteCategory user restaurantId categoryId =>
      obtain ⟨-, rfl⟩ := Restaurants.deleteCategory_ok outcome
      exact here
    | addItem user restaurantId data =>
      obtain ⟨item, _, -, -, fresh, rfl⟩ := Restaurants.addItem_ok outcome
      exact stockOf_put_new fresh here
    | updateItem user restaurantId itemId data =>
      have noStock : data.stockQuantity = none := of_decide_eq_true leaves
      obtain ⟨item, edited, found, applied, -, rfl⟩ := Restaurants.updateItem_ok outcome
      obtain ⟨same, stock⟩ := apply_stock noStock applied
      exact stockOf_put (Restaurants.itemInRestaurant_ok found).1 same stock here
    | deleteItem user restaurantId itemId => cases leaves
    | validateOrder restaurantId body clock => cases leaves
    | releaseStock lines => cases leaves
  · exact here

end FoodDelivery.Checkout
