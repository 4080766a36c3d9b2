/-
**What becomes of the portions in a cart** (`services/orders/app/cart.py`, `create_order_from_checkout`).

`add_item` and `update_item` load the cart, change it and save it: a `GET` and a `SET`, with anything in
between. A checkout takes a lock that runs out after ten seconds, loads the cart, has it validated, commits
the order, deletes the cart and deletes the lock, whoever's it is by then. Any number of calls of one user
run at once, and any of their Redis and database calls may raise; a process that dies takes no more steps.
All this takes less than the week that a cart is kept for.

`accounted_always_iff`: no portion is on two orders and every portion that was added is in the cart, on an
order or was taken out by an update of its line, if and only if no save leaves out a portion that is owed,
no order is placed from a content that another one has portions of, and no cart is deleted with a portion
that is owed. `doubleSubmit_orders_twice`: a checkout that outlives its lock, and a second one.
-/

import FoodDelivery.Checkout.Portions
import FoodDelivery.Checkout.Stock
import FoodDelivery.Lib.Slots

set_option autoImplicit false

namespace FoodDelivery.Checkout

open FoodDelivery.Lib
open FoodDelivery.Orders (AddressSnapshot CheckoutRequest MenuRow OrderItem ValidatedOrder
  checkoutAddress checkoutCart checkoutReply)
open FoodDelivery.Restaurants (LocalTime OrderLine StockLine mondayNoon serveValidateOrder wanted)

/-! ### The calls -/

/-- What a call asks for, and what the menu lookup of an `add_item` answers; `remove_item` is an update to
zero. -/
inductive CartRequest where
  | addItem (menuItemId quantity : Nat) (rows : List MenuRow)
  | updateItem (menuItemId quantity : Nat)
  | createOrderFromCheckout (request : CheckoutRequest) (authHeader : String)

/-- The call sets the quantity of this line. -/
def CartRequest.updates : CartRequest → Nat → Bool
  | .updateItem menuItemId _, id => id = menuItemId
  | _, _ => false

/-- Where a call stands, and what it has in hand. -/
inductive CartPhase where
  | waiting
  | saving (content : Content) (added : List Portion)
  | locked
  | loaded (content : Content)
  | validated (content : Content) (order : ValidatedOrder)
  | committed
  | unlocking (raised : Option Raised)
  | returned
  | failed (raised : Raised)

structure CartCall where
  request : CartRequest
  phase : CartPhase := .waiting

/-- The lines of an order that was placed, and the portions it was placed for. -/
structure Placed where
  items : List OrderItem
  portions : List Portion

/-- What one user's calls work on: the cart and the lock in Redis, and the orders in the database. The
portions that were put in by an `add_item` are `added`, those that an update of their line took out are
`takenOut`, and `numbered` is how many there have been. -/
structure CartState where
  content : Content := .empty
  isLocked : Bool := false
  orders : List Placed := []
  calls : List CartCall
  numbered : Nat := 0
  added : List Portion := []
  takenOut : List Portion := []

/-- What a checkout finds outside of Redis. -/
structure Around where
  address : Option AddressSnapshot
  restaurants : Restaurants.State
  clock : LocalTime

/-- What happens next: a step of a call; its next call of Redis or of the database raises instead; the
lock runs out. -/
inductive CartStep where
  | call (i : Nat) (around : Around)
  | raises (i : Nat) (raised : Raised)
  | lockExpires

/-! ### The steps -/

def CartState.moved (w : CartState) (i : Nat) (request : CartRequest) (phase : CartPhase) :
    CartState :=
  { w with calls := w.calls.set i { request := request, phase := phase } }

/-- The first step: the `GET` and what is made of it, or the lock. -/
def CartState.begin (w : CartState) (i : Nat) (request : CartRequest) : CartState :=
  match request with
  | .addItem menuItemId quantity rows =>
    match Orders.itemToAdd menuItemId rows >>= w.content.addItem w.numbered menuItemId quantity with
    | .error raised => w.moved i request (.failed raised)
    | .ok content =>
      CartState.moved { w with numbered := w.numbered + quantity } i request
        (.saving content (newPortions w.numbered menuItemId quantity))
  | .updateItem menuItemId quantity =>
    match w.content.updateItem w.numbered menuItemId quantity with
    | .error raised => w.moved i request (.failed raised)
    | .ok content =>
      CartState.moved { w with numbered := w.numbered + quantity } i request (.saving content [])
  | .createOrderFromCheckout _ _ =>
    if w.isLocked then
      w.moved i request
        (.failed (Orders.orderError "CHECKOUT_IN_PROGRESS" "A checkout is already in progress."))
    else CartState.moved { w with isLocked := true } i request .locked

/-- The `SET` of an `add_item` or `update_item`. -/
def CartState.save (w : CartState) (request : CartRequest) (content : Content)
    (added : List Portion) : CartState :=
  { w with
    content := content
    added := w.added ++ added
    takenOut := w.takenOut ++ w.content.portions.filter fun portion =>
      request.updates portion.menuItemId && decide (portion ∉ content.portions) }

/-- `validate_checkout`, with the restaurants service's own answer. -/
def validateView (setting : Setting) (user : Identity) (cart : Orders.CartView)
    (request : CheckoutRequest) (authHeader : String) (around : Around) :
    Except Raised ValidatedOrder := do
  let restaurantId ← checkoutCart cart request
  let body ← checkoutAddress around.address cart user.userId request
  checkoutReply restaurantId request.addressId
    (wireResponse (serveValidateOrder setting.verify setting.env.runtime around.restaurants restaurantId
      (forwarded authHeader) (wireBody body) around.clock).1)

/-- The next step of a call. -/
def CartState.advance (setting : Setting) (user : Identity) (w : CartState) (i : Nat)
    (request : CartRequest) (around : Around) : CartPhase → CartState
  | .waiting => w.begin i request
  | .saving content added => (w.save request content added).moved i request .returned
  | .locked => w.moved i request (.loaded w.content)
  | .loaded content =>
    match request with
    | .createOrderFromCheckout body authHeader =>
      match validateView setting user (content.cart.view setting.sha256) body authHeader around with
      | .error raised => w.moved i request (.unlocking (some raised))
      | .ok order => w.moved i request (.validated content order)
    | _ => w
  | .validated content order =>
    CartState.moved
      { w with orders := w.orders ++ [{ items := order.items, portions := content.portions }] } i
      request .committed
  | .committed => CartState.moved { w with content := .empty } i request (.unlocking none)
  | .unlocking raised =>
    CartState.moved { w with isLocked := false } i request (raised.elim .returned .failed)
  | .returned => w
  | .failed _ => w

/-- Where a call goes when it raises: once it has the lock, it deletes it first. -/
def CartPhase.raising (raised : Raised) : CartPhase → CartPhase
  | .locked | .loaded _ | .validated _ _ | .committed => .unlocking (some raised)
  | .returned => .returned
  | .failed earlier => .failed earlier
  | _ => .failed raised

def CartState.step (setting : Setting) (user : Identity) (w : CartState) : CartStep → CartState
  | .call i around =>
    match w.calls[i]? with
    | none => w
    | some call => w.advance setting user i call.request around call.phase
  | .raises i raised =>
    match w.calls[i]? with
    | none => w
    | some call => w.moved i call.request (call.phase.raising raised)
  | .lockExpires => { w with isLocked := false }

/-- An empty cart, and the calls that will be made. -/
def CartState.start (requests : List CartRequest) : CartState where
  calls := requests.map fun request => { request := request }

/-! ### What has to hold -/

/-- A portion is owed: an `add_item` put it in, it is on no order, and no update of its line has taken it
out. -/
def CartState.Owed (w : CartState) (portion : Portion) : Prop :=
  portion ∈ w.added ∧ (∀ order ∈ w.orders, portion ∉ order.portions) ∧ portion ∉ w.takenOut

/-- **Nothing is ordered twice and nothing is lost**: no portion is on two orders, the lines of an order
are the portions it was placed for, and what is owed is in the cart. -/
structure Accounted (w : CartState) : Prop where
  once : (w.orders.flatMap Placed.portions).Nodup
  lines : ∀ order ∈ w.orders, order.portions ≠ [] ∧
    ∀ id, portionsOf order.portions id = wanted (order.items.map lineStock) id
  kept : ∀ portion, w.Owed portion → portion ∈ w.content.portions

/-- A save keeps what is owed, other than of the line it updates; an order is placed from a content that
no order has a portion of; a cart is deleted when nothing is owed. -/
def Careful (w : CartState) : CartStep → Prop
  | .call i _ => ∀ call, w.calls[i]? = some call →
    match call.phase with
    | .saving content _ => ∀ portion, w.Owed portion →
        portion ∈ content.portions ∨ call.request.updates portion.menuItemId
    | .validated content _ => ∀ portion ∈ content.portions, ∀ order ∈ w.orders,
        portion ∉ order.portions
    | .committed => ∀ portion, ¬ w.Owed portion
    | _ => True
  | _ => True

/-! ### The lines of an order -/

variable {setting : Setting} {user : Identity} {w : CartState}

/-- What stock movement sees of a line of the view. -/
def viewStock (line : Orders.CartItemView) : StockLine := ⟨line.menuItemId, line.quantity⟩

/-- The view shows what the cart holds. -/
theorem wanted_view (sha256 : String → String) (cart : Orders.StoredCart) (id : Nat) :
    wanted ((cart.view sha256).items.map viewStock) id = cart.quantity id := by
  have distinct : (((cart.view sha256).items.map viewStock).map StockLine.menuItemId).Nodup := by
    simpa [viewStock, Function.comp_def] using Orders.distinct_view sha256 cart
  have members : ∀ line, line ∈ (cart.view sha256).items ↔
      ∃ stored ∈ cart.items.rows, stored.view = line := by
    intro line
    unfold Orders.StoredCart.view
    split
    · rename_i none_stored
      simp [none_stored]
    · simp [List.mem_insertionSort]
  unfold Orders.StoredCart.quantity
  cases found : cart.items.find? id with
  | none =>
    rw [Restaurants.wanted_eq_zero]
    · rfl
    · simp only [List.map_map, List.mem_map, not_exists, not_and]
      intro line shown same
      obtain ⟨stored, row, rfl⟩ := (members line).mp shown
      exact Table.find?_eq_none.mp found stored row same
  | some stored =>
    obtain ⟨row, own⟩ := Table.find?_eq_some.mp found
    have shown : viewStock stored.view ∈ (cart.view sha256).items.map viewStock :=
      List.mem_map_of_mem ((members stored.view).mpr ⟨stored, row, rfl⟩)
    have counted := Restaurants.wanted_of_distinct distinct shown
    exact own ▸ counted

theorem lines_of_checkoutAddress {address : Option AddressSnapshot} {cart : Orders.CartView}
    {customerId : Nat} {request : CheckoutRequest} {body : Orders.ValidateRequest}
    (outcome : checkoutAddress address cart customerId request = .ok body) :
    body.reserve = true ∧
      (wireBody body).items.map OrderLine.stock = cart.items.map viewStock := by
  obtain ⟨_, _, _, rfl⟩ := Orders.checkoutAddress_ok.mp outcome
  refine ⟨rfl, ?_⟩
  simp [wireBody, OrderLine.stock, viewStock]

/-- **The lines of an order are the portions of the content it was placed from.** -/
theorem lines_of_validateView {content : Content} {request : CheckoutRequest} {authHeader : String}
    {around : Around} {order : ValidatedOrder}
    (outcome : validateView setting user (content.cart.view setting.sha256) request authHeader around =
      .ok order) :
    content.portions ≠ [] ∧
      ∀ id, portionsOf content.portions id = wanted (order.items.map lineStock) id := by
  obtain ⟨restaurantId, chosen, rest⟩ := bind_eq_ok.mp outcome
  obtain ⟨body, addressed, replied⟩ := bind_eq_ok.mp rest
  obtain ⟨reserves, lines⟩ := lines_of_checkoutAddress addressed
  rcases Restaurants.serveValidateOrder_cases setting.verify setting.env.runtime around.restaurants
    restaurantId (forwarded authHeader) (wireBody body) around.clock reserves with
    ⟨_, served, serves, refused⟩ | ⟨_, id, passed, valid, checked, serves⟩
  · obtain ⟨raised, fails⟩ := checkoutReply_refused restaurantId request.addressId refused
    rw [serves, fails] at replied
    cases replied
  · rw [serves, checkoutReply_accepted] at replied
    cases replied
    have stock := (Restaurants.stock_of_validateLines checked).1
    have same : (passed.map wireLine).map lineStock =
        (content.cart.view setting.sha256).items.map viewStock := by
      rw [← lines, ← stock, List.map_map]
      rfl
    refine ⟨?_, fun id => ?_⟩
    · intro empty
      have nothing : ∀ id, content.cart.quantity id = 0 := by
        intro id
        rw [← content.counted, empty]
        rfl
      cases shown : (content.cart.view setting.sha256).items with
      | nil =>
        unfold checkoutCart at chosen
        simp [shown] at chosen
      | cons first others =>
        have member : viewStock first ∈ (wireBody body).items.map OrderLine.stock := by
          rw [lines, shown]
          exact List.mem_cons_self
        have one := one_le_of_valid valid (viewStock first) member
        have counted := wanted_view setting.sha256 content.cart first.menuItemId
        rw [nothing, shown, List.map_cons, Restaurants.wanted_cons] at counted
        have positive : 1 ≤ first.quantity := one
        simp [viewStock] at counted
        omega
    · rw [same, wanted_view, content.counted]

/-! ### The invariant -/

/-- What a call has in hand holds no portion twice and none that is still to be numbered; what it is about
to save holds what it adds, and the order that it is about to place has its lines. -/
def CartPhase.Sound (numbered : Nat) : CartPhase → Prop
  | .saving content added => content.portions.Nodup ∧
      (∀ portion ∈ content.portions, portion.id < numbered) ∧
      ∀ portion ∈ added, portion ∈ content.portions
  | .loaded content => content.portions.Nodup
  | .validated content order => content.portions.Nodup ∧ content.portions ≠ [] ∧
      ∀ id, portionsOf content.portions id = wanted (order.items.map lineStock) id
  | _ => True

structure CartState.Sound (w : CartState) : Prop where
  accounted : Accounted w
  distinct : w.content.portions.Nodup
  numbers : ∀ portion ∈ w.content.portions, portion.id < w.numbered
  calls : ∀ (i : Nat) (call : CartCall), w.calls[i]? = some call → call.phase.Sound w.numbered

theorem CartPhase.Sound.mono {numbered later : Nat} {phase : CartPhase}
    (sound : phase.Sound numbered) (more : numbered ≤ later) : phase.Sound later := by
  cases phase with
  | saving content added =>
    obtain ⟨distinct, numbers, adds⟩ := sound
    exact ⟨distinct, fun portion member => (numbers portion member).trans_le more, adds⟩
  | loaded content => exact sound
  | validated content order => exact sound
  | waiting | locked | committed | unlocking | returned | failed => trivial

/-- A call that moves on. -/
theorem CartState.Sound.moved (sound : w.Sound) {i : Nat} {request : CartRequest} {phase : CartPhase}
    (next : phase.Sound w.numbered) : (w.moved i request phase).Sound where
  accounted := ⟨sound.accounted.once, sound.accounted.lines, sound.accounted.kept⟩
  distinct := sound.distinct
  numbers := sound.numbers
  calls := by
    intro j call found
    rcases of_set found with ⟨_, rfl⟩ | ⟨_, old⟩
    · exact next
    · exact sound.calls j call old

/-- Portions are numbered. -/
theorem CartState.Sound.number (sound : w.Sound) (more : Nat) :
    CartState.Sound { w with numbered := w.numbered + more } where
  accounted := ⟨sound.accounted.once, sound.accounted.lines, sound.accounted.kept⟩
  distinct := sound.distinct
  numbers := fun portion member => (sound.numbers portion member).trans_le (Nat.le_add_right _ _)
  calls := fun i call found => (sound.calls i call found).mono (Nat.le_add_right _ _)

/-- The lock is taken, or goes. -/
theorem CartState.Sound.lock (sound : w.Sound) (isLocked : Bool) :
    CartState.Sound { w with isLocked := isLocked } where
  accounted := ⟨sound.accounted.once, sound.accounted.lines, sound.accounted.kept⟩
  distinct := sound.distinct
  numbers := sound.numbers
  calls := sound.calls

/-- What a call is about to save, of the portions that are there and those it has numbered. -/
theorem CartState.Sound.saving (sound : w.Sound) {content : Content} {added : List Portion}
    {menuItemId quantity : Nat} (distinct : content.portions.Nodup)
    (source : ∀ portion ∈ content.portions, portion ∈ w.content.portions ∨
      portion ∈ newPortions w.numbered menuItemId quantity)
    (adds : ∀ portion ∈ added, portion ∈ content.portions) :
    (CartPhase.saving content added).Sound (w.numbered + quantity) := by
  refine ⟨distinct, fun portion member => ?_, adds⟩
  rcases source portion member with old | new
  · exact (sound.numbers portion old).trans_le (Nat.le_add_right _ _)
  · exact (mem_newPortions new).2.2

theorem CartState.Sound.begin (sound : w.Sound) (i : Nat) (request : CartRequest) :
    (w.begin i request).Sound := by
  unfold CartState.begin
  cases request with
  | addItem menuItemId quantity rows =>
    dsimp only
    split
    · exact sound.moved trivial
    · rename_i content outcome
      obtain ⟨item, _, saved⟩ := bind_eq_ok.mp outcome
      have portions := (Content.addItem_ok saved).2
      apply (sound.number quantity).moved
      apply sound.saving
      · rw [portions]
        exact nodup_append_new sound.distinct sound.numbers
      · intro portion member
        rw [portions] at member
        exact List.mem_append.mp member
      · rw [portions]
        exact fun portion new => List.mem_append_right _ new
  | updateItem menuItemId quantity =>
    dsimp only
    split
    · exact sound.moved trivial
    · rename_i content outcome
      have portions := (Content.updateItem_ok outcome).2
      apply (sound.number quantity).moved
      apply sound.saving
      · rw [portions]
        exact nodup_resized sound.distinct sound.numbers
      · intro portion member
        rw [portions] at member
        exact mem_resized member
      · simp
  | createOrderFromCheckout request authHeader =>
    dsimp only
    split
    · exact sound.moved trivial
    · exact (sound.lock true).moved trivial

/-- **A save** that keeps what is owed, other than of the line it updates. -/
theorem CartState.Sound.save (sound : w.Sound) {request : CartRequest} {content : Content}
    {added : List Portion} (now : (CartPhase.saving content added).Sound w.numbered)
    (careful : ∀ portion, w.Owed portion →
      portion ∈ content.portions ∨ request.updates portion.menuItemId) :
    (w.save request content added).Sound where
  accounted :=
    { once := sound.accounted.once
      lines := sound.accounted.lines
      kept := by
        rintro portion ⟨put_in, unordered, left_in⟩
        show portion ∈ content.portions
        by_contra left_out
        have earlier : portion ∉ w.takenOut := fun gone => left_in (List.mem_append_left _ gone)
        rcases List.mem_append.mp put_in with before | new
        · have owed : w.Owed portion := ⟨before, unordered, earlier⟩
          have updates := (careful portion owed).resolve_left left_out
          refine left_in (List.mem_append_right _ (List.mem_filter.mpr ⟨?_, ?_⟩))
          · exact sound.accounted.kept portion owed
          · simp [updates, left_out]
        · exact left_out (now.2.2 portion new) }
  distinct := now.1
  numbers := now.2.1
  calls := sound.calls

/-- **An order** from a content that no order has a portion of. -/
theorem CartState.Sound.commit (sound : w.Sound) {content : Content} {order : ValidatedOrder}
    (now : (CartPhase.validated content order).Sound w.numbered)
    (careful : ∀ portion ∈ content.portions, ∀ placed ∈ w.orders, portion ∉ placed.portions) :
    CartState.Sound
      { w with orders := w.orders ++ [{ items := order.items, portions := content.portions }] } where
  accounted :=
    { once := by
        show ((w.orders ++ [_]).flatMap Placed.portions).Nodup
        rw [List.flatMap_append, List.flatMap_singleton]
        refine List.nodup_append.mpr ⟨sound.accounted.once, now.1, fun portion ordered other new => ?_⟩
        rintro rfl
        obtain ⟨placed, member, has⟩ := List.mem_flatMap.mp ordered
        exact careful portion new placed member has
      lines := by
        intro placed member
        rcases List.mem_append.mp member with before | new
        · exact sound.accounted.lines placed before
        · rw [List.mem_singleton.mp new]
          exact now.2
      kept := by
        rintro portion ⟨put_in, unordered, left_in⟩
        exact sound.accounted.kept portion
          ⟨put_in, fun placed member => unordered placed (List.mem_append_left _ member), left_in⟩ }
  distinct := sound.distinct
  numbers := sound.numbers
  calls := sound.calls

/-- **A cart is deleted** when nothing is owed. -/
theorem CartState.Sound.clear (sound : w.Sound) (careful : ∀ portion, ¬ w.Owed portion) :
    CartState.Sound { w with content := .empty } where
  accounted :=
    { once := sound.accounted.once
      lines := sound.accounted.lines
      kept := fun portion owed => absurd owed (careful portion) }
  distinct := List.nodup_nil
  numbers := by
    intro portion member
    cases member
  calls := sound.calls

theorem CartState.Sound.advance (sound : w.Sound) {i : Nat} {call : CartCall} {around : Around}
    (found : w.calls[i]? = some call) (careful : Careful w (.call i around)) :
    (w.advance setting user i call.request around call.phase).Sound := by
  obtain ⟨request, phase⟩ := call
  have now : phase.Sound w.numbered := sound.calls i _ found
  have cares := careful _ found
  cases phase with
  | waiting => exact sound.begin i request
  | saving content added => exact (sound.save now cares).moved trivial
  | locked => exact sound.moved sound.distinct
  | loaded content =>
    unfold CartState.advance
    dsimp only
    split
    · split
      · exact sound.moved trivial
      · rename_i order outcome
        exact sound.moved ⟨now, lines_of_validateView outcome⟩
    · exact sound
  | validated content order => exact (sound.commit now cares).moved trivial
  | committed => exact (sound.clear cares).moved trivial
  | unlocking raised =>
    apply (sound.lock false).moved
    cases raised with
    | none => trivial
    | some raised => trivial
  | returned => exact sound
  | failed raised => exact sound

theorem CartPhase.Sound.raising {numbered : Nat} {phase : CartPhase} (sound : phase.Sound numbered)
    (raised : Raised) : (phase.raising raised).Sound numbered := by
  cases phase with
  | waiting | saving | locked | loaded | validated | committed | unlocking | returned | failed =>
    exact trivial

/-- **One step.** -/
theorem CartState.Sound.step (sound : w.Sound) {step : CartStep} (careful : Careful w step) :
    (w.step setting user step).Sound := by
  cases step with
  | call i around =>
    unfold CartState.step
    dsimp only
    split
    · exact sound
    · rename_i call found
      exact sound.advance found careful
  | raises i raised =>
    unfold CartState.step
    dsimp only
    split
    · exact sound
    · rename_i call found
      exact sound.moved ((sound.calls i call found).raising raised)
  | lockExpires => exact sound.lock false

/-! ### A careless step -/

theorem not_accounted_save {request : CartRequest} {content : Content} {added : List Portion}
    {portion : Portion} (owed : w.Owed portion) (left_out : portion ∉ content.portions)
    (other : request.updates portion.menuItemId = false) :
    ¬ Accounted (w.save request content added) := by
  intro accounted
  obtain ⟨put_in, unordered, left_in⟩ := owed
  refine left_out (accounted.kept portion ⟨List.mem_append_left _ put_in, unordered, ?_⟩)
  intro gone
  rcases List.mem_append.mp gone with earlier | now
  · exact left_in earlier
  · have taken := (List.mem_filter.mp now).2
    simp [other] at taken

theorem not_accounted_commit {content : Content} {items : List OrderItem} {portion : Portion}
    {placed : Placed} (member : portion ∈ content.portions) (earlier : placed ∈ w.orders)
    (has : portion ∈ placed.portions) :
    ¬ Accounted { w with orders := w.orders ++ [{ items := items, portions := content.portions }] } := by
  intro accounted
  have once : ((w.orders ++ [(⟨items, content.portions⟩ : Placed)]).flatMap
      Placed.portions).Nodup := accounted.once
  rw [List.flatMap_append, List.flatMap_singleton] at once
  have apart := (List.nodup_append.mp once).2.2
  exact apart portion (List.mem_flatMap.mpr ⟨placed, earlier, has⟩) portion member rfl

theorem not_accounted_clear {portion : Portion} (owed : w.Owed portion) :
    ¬ Accounted { w with content := .empty } := by
  intro accounted
  have there : portion ∈ Content.empty.portions := accounted.kept portion owed
  cases there

theorem not_accounted_of_careless {step : CartStep} (careless : ¬ Careful w step) :
    ¬ Accounted (w.step setting user step) := by
  cases step with
  | raises i raised => exact absurd trivial careless
  | lockExpires => exact absurd trivial careless
  | call i around =>
    unfold Careful at careless
    push Not at careless
    obtain ⟨⟨request, phase⟩, found, goesWrong⟩ := careless
    unfold CartState.step
    simp only [found]
    cases phase with
    | saving content added =>
      dsimp only at goesWrong
      push Not at goesWrong
      obtain ⟨portion, owed, left_out, other⟩ := goesWrong
      intro accounted
      have saved : Accounted (w.save request content added) :=
        ⟨accounted.once, accounted.lines, accounted.kept⟩
      exact not_accounted_save owed left_out (by simpa using other) saved
    | validated content order =>
      dsimp only at goesWrong
      push Not at goesWrong
      obtain ⟨portion, member, placed, earlier, has⟩ := goesWrong
      intro accounted
      exact not_accounted_commit member earlier has
        ⟨accounted.once, accounted.lines, accounted.kept⟩
    | committed =>
      dsimp only at goesWrong
      push Not at goesWrong
      obtain ⟨portion, owed⟩ := goesWrong
      intro accounted
      exact not_accounted_clear owed ⟨accounted.once, accounted.lines, accounted.kept⟩
    | waiting | locked | loaded | unlocking | returned | failed => exact absurd trivial goesWrong

theorem CartState.sound_start (requests : List CartRequest) : (CartState.start requests).Sound where
  accounted :=
    { once := List.nodup_nil
      lines := by
        intro order member
        cases member
      kept := by
        rintro portion ⟨put_in, _⟩
        cases put_in }
  distinct := List.nodup_nil
  numbers := by
    intro portion member
    cases member
  calls := by
    intro i call found
    obtain ⟨request, _, rfl⟩ := List.mem_map.mp (List.mem_of_getElem? found)
    exact trivial

/-- **When no food is lost or ordered twice.** In every interleaving of the Redis and database calls of
any number of adds, updates, removals and checkouts, with locks that run out and calls that raise, every
portion that was added stays in the cart, is on exactly one order or is taken out by an update of its
line exactly when no save leaves out an owed portion of another line, no checkout commits a content that
an order already has portions of, and no checkout deletes a cart while a portion is owed. -/
theorem accounted_always_iff (setting : Setting) (user : Identity) (requests : List CartRequest)
    (steps : List CartStep) :
    Always (CartState.step setting user) Accounted (.start requests) steps ↔
      Throughout (CartState.step setting user) Careful (.start requests) steps := by
  refine always_iff_throughout (Q := CartState.Sound) (fun w step sound careful => sound.step careful)
    (fun w sound => sound.accounted) (fun w step _ careless => ?_) (CartState.sound_start requests)
  exact not_accounted_of_careless careless

/-- Two portions are put in a cart, and the checkout is submitted twice. -/
def doubleSubmit : List CartRequest :=
  [ .addItem 1 2 [{ restaurantId := 3, name := "Thali", price := 20000 }],
    .createOrderFromCheckout cashRequest "Bearer customer",
    .createOrderFromCheckout cashRequest "Bearer customer" ]

/-- The venue is open and delivers to the customer. -/
def atNoon : Around where
  address := some { addressId := 5, userId := 7, city := "Surat" }
  restaurants := fivePortions
  clock := mondayNoon

/-- The first checkout has loaded the cart when its lock runs out. -/
def outlivedLock : List CartStep :=
  [ .call 0 atNoon, .call 0 atNoon, .call 1 atNoon, .call 1 atNoon, .lockExpires, .call 2 atNoon,
    .call 2 atNoon, .call 1 atNoon, .call 2 atNoon, .call 1 atNoon, .call 2 atNoon ]

/-- **One cart, two orders.** -/
theorem doubleSubmit_orders_twice : ¬ ∀ (setting : Setting) (user : Identity)
    (requests : List CartRequest) (steps : List CartStep),
    Always (CartState.step setting user) Accounted (.start requests) steps := by
  intro always
  have once := (always threeUsers ⟨7, "customer"⟩ doubleSubmit outlivedLock).last.once
  have twice : (run (CartState.step threeUsers ⟨7, "customer"⟩) (.start doubleSubmit)
      outlivedLock).orders.flatMap Placed.portions = [⟨0, 1⟩, ⟨1, 1⟩, ⟨0, 1⟩, ⟨1, 1⟩] := by
    decide
  rw [twice] at once
  exact absurd once (by decide)

end FoodDelivery.Checkout
