/-
**Stock is conserved, or exactly when it is not.**

`Sound` is the invariant of the runs that conserve the stock: `sound_step` keeps it over the steps that
give back what they end, and the others break the balance at once (`not_conserved_step`).

`conserved_always_iff`: a run conserves the stock of every tracked item if and only if no sweep cancels
an order, and no status request cancels or rejects one, that holds such an item.
-/

import FoodDelivery.Checkout.Balance

set_option autoImplicit false

namespace FoodDelivery.Checkout

open FoodDelivery.Lib
open FoodDelivery.Orders (Action Order Performed ended)
open FoodDelivery.Restaurants (Items mondayNoon stockOf wanted)

variable {start : Items} {setting : Setting} {s next : State}

/-! ### The invariant -/

/-- **The invariant**: the balance, and that every line of every order is for at least one portion. -/
structure Sound (start : Items) (s : State) : Prop where
  conserved : Conserved start s
  quantities : Quantities s.orders

theorem known_of_requireRole {verify : String → Option Identity} {roles : List String}
    {authorization : Option String} {user : Identity}
    (allowed : requireRole verify roles authorization = some user) :
    authenticate verify (forwarded (authorization.getD "")) = some user :=
  authenticate_forwarded (Option.filter_eq_some_iff.mp allowed).1

theorem sound_checkout (sound : Sound start s) (user : Identity) (authHeader : String)
    (request : Orders.CheckoutRequest) (acquired : Bool) (cart : Orders.StoredCart) (now : Timestamp)
    (clock : Restaurants.LocalTime) :
    Sound start (s.checkout setting user authHeader request acquired cart now clock) := by
  rcases checkout_cases setting s user authHeader request acquired cart now clock with
    same | ⟨written, lines, next, absent, open_, items, quantities, covered⟩
  · rw [same]
    exact sound
  · rw [next]
    constructor
    · refine sound.conserved.step fun id left _ here => ?_
      have sum := held_commit s.orders written id
      have before : s.orders.orders.weight (holding id) written.order.id = 0 := by
        rw [Table.weight, absent, Option.elim_none]
      have after := holding_of_open open_ id
      rw [items] at after
      have enough := covered id left here
      refine ⟨left - wanted lines id, ?_, by dsimp only; omega⟩
      rw [Restaurants.stockOf_applyOrder, here, Option.map_some]
    · intro orderId order found line member
      rw [Orders.State.commit_orders, Table.find?_put] at found
      split_ifs at found
      · cases found
        refine quantities (lineStock line) ?_
        rw [← items]
        exact List.mem_map_of_mem member
      · exact sound.quantities orderId order found line member

theorem sound_onOrders {op : Orders.Operation} {now : Timestamp} (sound : Sound start s)
    (places : PlacesNone op) (balanced : Balanced start s (s.onOrders setting op now)) :
    Sound start (s.onOrders setting op now) where
  conserved := sound.conserved.step balanced
  quantities := quantities_step now places sound.quantities

/-- **The customer's cancel and the kitchen's reject** forward a header that is let in. -/
theorem balanced_forwarded {op : Orders.Operation} {now : Timestamp} {authHeader : String}
    {user : Identity} (orderId : Nat) (action : Action) (sound : Sound start s)
    (acts : s.orders.step (op, now) =
      match s.orders.onOrder orderId action now with
      | .ok next => next
      | .error _ => s.orders)
    (ends : ended action.target = true) (calls : action.releaseHeader = some authHeader)
    (known : authenticate setting.verify (forwarded authHeader) = some user) :
    Balanced start s (s.onOrders setting op now) := by
  rcases onOrders_cases setting acts with same | ⟨order, written, found, performed, next⟩
  · rw [same]
    exact Balanced.refl start s
  · rw [next, calls]
    exact balanced_credited found performed ends known (sound.quantities orderId order found)

/-- The status route makes no release-stock call that is let in. -/
theorem status_release (restaurants : Restaurants.State) (order : Order) (user : Identity)
    (target : OrderStatus) :
    ((Action.advanceStatus user target).releaseHeader.map fun authHeader =>
      Orders.restoreStock order authHeader).toList.foldl (release setting) restaurants =
      restaurants := by
  cases target <;> rfl

theorem status_cases (setting : Setting) (s : State) (orderId : Nat) (user : Identity)
    (target : OrderStatus) (now : Timestamp) :
    s.onOrders setting (.advanceStatus orderId user target) now = s ∨
      ∃ order written, s.orders.orders.find? orderId = some order ∧
        Performed s.orders now (.advanceStatus user target) order written ∧
        s.onOrders setting (.advanceStatus orderId user target) now =
          ⟨s.orders.commit written, s.restaurants⟩ := by
  have acts : s.orders.step (.advanceStatus orderId user target, now) =
      match s.orders.onOrder orderId (.advanceStatus user target) now with
      | .ok next => next
      | .error _ => s.orders := rfl
  rcases onOrders_cases setting acts with
    same | ⟨order, written, found, performed, next⟩
  · exact Or.inl same
  · rw [status_release] at next
    exact Or.inr ⟨order, written, found, performed, next⟩

theorem mem_endedByStatus {authorization : Option String} {orderId : Nat} {target : OrderStatus}
    {order : Order} :
    order ∈ endedByStatus setting s authorization orderId target ↔
      ended target = true ∧ ∃ user,
        requireRole setting.verify ["restaurant", "admin"] authorization = some user ∧
        s.orders.orders.find? orderId = some order ∧
        (∃ snapshot, Orders.ownedRestaurant s.orders user order.restaurantId = .ok snapshot) ∧
        target ∈ Orders.allowed order.status := by
  unfold endedByStatus
  by_cases ends : ended target = true
  · have isOk_iff : ∀ result : Except Raised Orders.RestaurantSnapshot,
        result.isOk = true ↔ ∃ snapshot, result = .ok snapshot := by
      intro result
      cases result <;> simp [Except.isOk, Except.toBool]
    rw [if_pos ends, Option.mem_def, Option.bind_eq_some_iff]
    simp [ends, Option.filter_eq_some_iff, isOk_iff]
  · simp [ends]

theorem mem_endedBySweep {authorization : Option String} {status : OrderStatus} {window : Int}
    {now : Timestamp} {order : Order} {user : Identity}
    (known : requireRole setting.verify ["admin"] authorization = some user) :
    order ∈ endedBySweep setting s authorization status window now ↔
      s.orders.orders.find? order.id = some order ∧
        Orders.isStale status window now order = true := by
  unfold endedBySweep
  rw [known, if_pos Option.isSome_some, List.mem_filter, Table.find?_eq_some]
  simp

/-- A sweep that misses the condition is let in and finds an order with a tracked item. -/
theorem swept_of_missed {authorization : Option String} {status : OrderStatus} {window : Int}
    {now : Timestamp}
    (missed : ¬ ∀ order ∈ endedBySweep setting s authorization status window now,
      ¬ HoldsTracked start order) :
    ∃ user order, requireRole setting.verify ["admin"] authorization = some user ∧
      s.orders.orders.find? order.id = some order ∧
      Orders.isStale status window now order = true ∧ HoldsTracked start order := by
  simp only [not_forall, not_not] at missed
  obtain ⟨order, member, holds⟩ := missed
  cases allowed : requireRole setting.verify ["admin"] authorization with
  | none =>
    rw [endedBySweep, allowed] at member
    cases member
  | some user =>
    obtain ⟨found, stale⟩ := (mem_endedBySweep allowed).mp member
    exact ⟨user, order, rfl, found, stale, holds⟩

section

variable {op : Orders.Operation} {now : Timestamp} {action : Action}

theorem not_ended_of_selects {order : Order} (sweeps : action.sweeps)
    (selected : action.selects now order = true) : ended order.status = false := by
  rcases sweeps with rfl | rfl
  · have waiting : order.status = .paymentPending := (of_decide_eq_true selected).1
    rw [waiting]
    rfl
  · have paid : order.status = .paymentSuccess := (of_decide_eq_true selected).1
    rw [paid]
    rfl

/-- A sweep whose orders hold no tracked item keeps the balance, -/
theorem balanced_sweep (sweeps : action.sweeps) (performs : ∀ orderId, op.Performs orderId action)
    (outcome : op.outcome s.orders now = s.orders.sweep action now)
    (untracked : ∀ order, s.orders.orders.find? order.id = some order →
      action.selects now order = true → ¬ HoldsTracked start order) :
    Balanced start s (s.onOrders setting op now) := by
  obtain ⟨items, weights⟩ := onOrders_sweep setting sweeps performs outcome
  refine balanced_of_same items fun id tracked => Table.total_congr fun orderId => ?_
  show (s.orders.step (op, now)).orders.weight (holding id) orderId = _
  rw [weights]
  split_ifs with ends
  · obtain ⟨order, found, selected⟩ := ends
    obtain rfl := Table.key_of_find? found
    have holds_none := wanted_of_untracked (untracked order found selected) tracked
    rw [Table.weight, show s.orders.orders.find? order.id = some order from found, Option.elim_some,
      holding]
    split_ifs
    · rfl
    · exact holds_none.symm
  · rfl

/-- and one with such an order loses what it holds. -/
theorem lost_of_sweep (sound : Sound start s) (sweeps : action.sweeps)
    (performs : ∀ orderId, op.Performs orderId action)
    (outcome : op.outcome s.orders now = s.orders.sweep action now) {order : Order}
    (found : s.orders.orders.find? order.id = some order)
    (selected : action.selects now order = true) (holds : HoldsTracked start order) :
    ¬ Conserved start (s.onOrders setting op now) := by
  obtain ⟨items, weights⟩ := onOrders_sweep setting sweeps performs outcome
  obtain ⟨line, member, tracked⟩ := holds
  have open_ : ended order.status = false := not_ended_of_selects sweeps selected
  have smaller : ∀ orderId, (s.orders.step (op, now)).orders.weight (holding line.menuItemId) orderId ≤
      s.orders.orders.weight (holding line.menuItemId) orderId := by
    intro orderId
    rw [weights]
    split_ifs
    · exact Nat.zero_le _
    · exact le_refl _
  have strict : (s.orders.step (op, now)).orders.weight (holding line.menuItemId) order.id <
      s.orders.orders.weight (holding line.menuItemId) order.id := by
    rw [weights, if_pos ⟨order, found, selected⟩, Table.weight, found, Option.elim_some,
      holding_of_open open_]
    exact wanted_pos_of_line member (sound.quantities order.id order found line member)
  exact not_conserved_of_lost sound.conserved items tracked (Table.total_lt smaller strict)

end

/-! ### The steps -/

/-- **A step that gives back what it ends** keeps the invariant. -/
theorem sound_step (setting : Setting) (start : Items) (s : State) (label : Label)
    (sound : Sound start s) (credited : Credited setting start s label) :
    Sound start (s.step setting label) := by
  cases label with
  | request authorization route now =>
    unfold State.step
    dsimp only
    cases allowed : requireRole setting.verify route.roles authorization with
    | none => exact sound
    | some user =>
      have known := known_of_requireRole allowed
      cases route with
      | checkout request acquired cart clock =>
        exact sound_checkout sound user _ request acquired cart now clock
      | cancel orderId =>
        exact sound_onOrders sound (fun _ _ _ _ _ same => by cases same)
          (balanced_forwarded orderId (.cancelByCustomer user _) sound rfl rfl rfl known)
      | accept orderId =>
        exact sound_onOrders sound (fun _ _ _ _ _ same => by cases same)
          (balanced_onOrder orderId (.acceptByRestaurant user) rfl rfl rfl)
      | reject orderId reason =>
        exact sound_onOrders sound (fun _ _ _ _ _ same => by cases same)
          (balanced_forwarded orderId (.rejectByRestaurant user reason _) sound rfl rfl rfl known)
      | setStatus orderId target =>
        refine sound_onOrders sound (fun _ _ _ _ _ same => by cases same) ?_
        rcases status_cases setting s orderId user target now with
          same | ⟨order, written, found, performed, next⟩
        · rw [same]
          exact Balanced.refl start s
        · rw [next]
          by_cases ends : ended target = true
          · have member := mem_endedByStatus.mpr
              ⟨ends, user, allowed, found, performed.demanded, performed.legal⟩
            exact balanced_untracked found performed ends (credited order member)
          · exact balanced_quiet found performed (eq_false_of_ne_true ends)
      | expireAcceptances =>
        refine sound_onOrders sound (fun _ _ _ _ _ same => by cases same)
          (balanced_sweep (Or.inr rfl) .expirePendingAcceptances rfl fun order found selected => ?_)
        exact credited order ((mem_endedBySweep allowed).mpr ⟨found, selected⟩)
      | expireUnpaid =>
        refine sound_onOrders sound (fun _ _ _ _ _ same => by cases same)
          (balanced_sweep (Or.inl rfl) .expireUnpaidOrders rfl fun order found selected => ?_)
        exact credited order ((mem_endedBySweep allowed).mpr ⟨found, selected⟩)
  | message message now =>
    refine sound_onOrders sound (fun _ _ _ _ _ same => ?_) (balanced_message message now)
    cases message <;> cases same
  | edit op =>
    unfold State.step
    dsimp only
    split_ifs with leaves
    · refine ⟨sound.conserved.step fun id left _ here => ?_, sound.quantities⟩
      exact ⟨left, stockOf_edit setting.env s.restaurants op leaves here, rfl⟩
    · exact sound

/-- **A step that ends without giving back** loses what its order held. -/
theorem not_conserved_step (setting : Setting) (start : Items) (s : State) (label : Label)
    (sound : Sound start s) (missed : ¬ Credited setting start s label) :
    ¬ Conserved start (s.step setting label) := by
  cases label with
  | request authorization route now =>
    cases route with
    | checkout request acquired cart clock => exact absurd trivial missed
    | cancel orderId => exact absurd trivial missed
    | accept orderId => exact absurd trivial missed
    | reject orderId reason => exact absurd trivial missed
    | setStatus orderId target =>
      simp only [Credited, not_forall, not_not] at missed
      obtain ⟨order, member, holds⟩ := missed
      obtain ⟨ends, user, allowed, found, ⟨snapshot, owned⟩, legal⟩ := mem_endedByStatus.mp member
      obtain ⟨written, performed, released, outcome⟩ :=
        Orders.onOrder_advanceStatus now found owned legal
      have acts : s.orders.step (.advanceStatus orderId user target, now) =
          s.orders.commit written := by
        unfold Orders.State.step Orders.Operation.outcome
        simp only [outcome]
      have next : s.step setting (.request authorization (.setStatus orderId target) now) =
          ⟨s.orders.commit written, s.restaurants⟩ := by
        unfold State.step
        dsimp only [Route.roles]
        rw [allowed]
        exact (onOrders_commit acts).trans (by rw [released, status_release])
      rw [next]
      exact lost_of_tracked sound.conserved found performed ends
        (sound.quantities orderId order found) holds
    | expireAcceptances =>
      obtain ⟨user, order, allowed, found, selected, holds⟩ := swept_of_missed missed
      have next : s.step setting (.request authorization .expireAcceptances now) =
          s.onOrders setting .expirePendingAcceptances now := by
        unfold State.step
        dsimp only [Route.roles]
        rw [allowed]
        rfl
      rw [next]
      exact lost_of_sweep sound (Or.inr rfl) .expirePendingAcceptances rfl found selected holds
    | expireUnpaid =>
      obtain ⟨user, order, allowed, found, selected, holds⟩ := swept_of_missed missed
      have next : s.step setting (.request authorization .expireUnpaid now) =
          s.onOrders setting .expireUnpaidOrders now := by
        unfold State.step
        dsimp only [Route.roles]
        rw [allowed]
        rfl
      rw [next]
      exact lost_of_sweep sound (Or.inl rfl) .expireUnpaidOrders rfl found selected holds
  | message message now => exact absurd trivial missed
  | edit op => exact absurd trivial missed

/-- **When stock is conserved**: in every run from any menu, exactly when no ending that gives nothing
back finds an order that holds a tracked item. -/
theorem conserved_always_iff (setting : Setting) (restaurants : Restaurants.State)
    (labels : List Label) :
    Always (State.step setting) (Conserved restaurants.items) (State.start restaurants) labels ↔
      Throughout (State.step setting) (Credited setting restaurants.items)
        (State.start restaurants) labels := by
  have start : Sound restaurants.items (State.start restaurants) :=
    { conserved := fun id stock tracked => ⟨stock, tracked, rfl⟩
      quantities := fun _ _ found => by cases found }
  exact always_iff_throughout (sound_step setting restaurants.items)
    (fun s sound => sound.conserved) (not_conserved_step setting restaurants.items) start

/-! ### An order that expires -/

/-- They are ordered for cash. -/
def ordered : List Label :=
  [ .message (.restaurant { restaurantId := some 3, ownerId := some 9, name := some "Spice" }) 0,
    .message (.address { addressId := some 5, userId := some 7, city := some "Surat" }) 0,
    .request (some "Bearer customer") (.checkout cashRequest true twoPortions mondayNoon) 10 ]

/-- A cancellation by the customer gives the portions back. -/
example : stockOf (run (State.step threeUsers) (State.start fivePortions)
    (ordered ++ [.request (some "Bearer customer") (.cancel 1) 20])).restaurants.items 1 =
      some 5 := by decide

/-- **An order expires and its portions are gone.** The kitchen did not accept it in time, and the
sweep's release-stock call has no header. -/
theorem expiry_loses_stock :
    ¬ ∀ setting restaurants labels, Always (State.step setting) (Conserved restaurants.items)
      (State.start restaurants) labels := by
  intro always
  have last := (always threeUsers fivePortions
    (ordered ++ [.request (some "Bearer admin") .expireAcceptances 400])).last
  obtain ⟨left, here, sum⟩ := last 1 5 (by decide)
  have stock : stockOf (run (State.step threeUsers) (State.start fivePortions)
      (ordered ++ [.request (some "Bearer admin") .expireAcceptances 400])).restaurants.items 1 =
        some 3 := by decide
  have nobody : held (run (State.step threeUsers) (State.start fivePortions)
      (ordered ++ [.request (some "Bearer admin") .expireAcceptances 400])).orders 1 = 0 := by decide
  rw [stock] at here
  cases here
  rw [nobody] at sum
  exact absurd sum (by decide)

end FoodDelivery.Checkout
