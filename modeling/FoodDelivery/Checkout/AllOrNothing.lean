/-
**A checkout is all or nothing, or exactly when it is not.**

The restaurants service commits the reservation before the orders service has an order, and nothing
gives it back when what follows fails. `cut_cases` says what each failure point leaves in the two
databases.

`allOrNothing_iff`: whatever fails and wherever the process dies, either the order is there or the stock
is as it was, if and only if a reservation that was made for a tracked item is followed by its commit.
-/

import FoodDelivery.Checkout.Faults

set_option autoImplicit false

namespace FoodDelivery.Checkout

open FoodDelivery.Lib
open FoodDelivery.Lib.Program (cut)
open FoodDelivery.Orders (CheckoutRequest ValidatedOrder ValidateRequest ended checkoutAddress
  checkoutCart checkoutCall checkoutReply)
open FoodDelivery.Restaurants (LocalTime OrderLine Accepts stockOf wanted applyOrder)

/-! ### One call at a time -/

section

variable {α β : Type} {fault : Fault} {view : World → α} {update : World → World}
  {rest : α → Call β} {w : World} {n : Nat}

@[simp] theorem cut_zero (program : Call α) (w : World) : cut 0 program w = w := by
  cases program <;> rfl

@[simp] theorem cut_ret (n : Nat) (value : α) (w : World) : cut n (.ret value : Call α) w = w := by
  cases n <;> rfl

@[simp] theorem cut_raise (n : Nat) (raised : Raised) (w : World) :
    cut n (.raise raised : Call α) w = w := by
  cases n <;> rfl

@[simp] theorem cut_call_succ (n : Nat) (w : World) :
    cut (n + 1) (call .none view update >>= rest) w = cut n (rest (view w)) (update w) := rfl

/-- A read that fails, or before which the process dies, leaves everything as it is. -/
theorem cut_read_failed (failed : fault ≠ .none ∨ n = 0) (w : World) :
    cut n (call fault view id >>= rest) w = w := by
  rcases n with _ | n
  · exact cut_zero _ w
  · cases fault with
    | none => simp at failed
    | before raised => rfl
    | after raised => exact cut_raise n raised w

@[simp] theorem cut_lift_ok (n : Nat) (value : α) (w : World) :
    cut n (lift (.ok value) >>= rest) w = cut n (rest value) w := rfl

@[simp] theorem cut_lift_error (n : Nat) (raised : Raised) (w : World) :
    cut n (lift (.error raised) >>= rest) w = w :=
  cut_raise n raised w

end

/-! ### The order -/

/-- Nothing fails between the answer and the commit, the order fits its columns, and the process lives for
it. -/
structure Finishes (faults : Faults) (validated : ValidatedOrder) (n : Nat) : Prop where
  flush : faults.flush = .none
  fits : Storable validated
  emit : faults.emit = .none
  commit : ∀ raised, faults.commit ≠ .before raised
  lives : 3 ≤ n

variable {faults : Faults} {request : CheckoutRequest}

/-- The order is committed, -/
theorem cut_commitOrder_of_finishes {n : Nat} {validated : ValidatedOrder}
    (finishes : Finishes faults validated n) (user : Identity) (request : CheckoutRequest)
    (now : Timestamp) (w : World) :
    ∃ written, cut n (commitOrder faults user request validated now) w =
        { w with orders := w.orders.commit written } ∧
      w.orders.orders.find? written.order.id = none ∧ written.order.customerId = user.userId ∧
      written.order.items = validated.items ∧ ended written.order.status = false := by
  obtain ⟨written, placed, id, customer, items, open_⟩ :=
    placeOrder_new w.orders w.orders.nextOrderId user.userId request validated now
  refine ⟨written, ?_, by rw [id]; exact Orders.find?_nextOrderId w.orders, customer, items, open_⟩
  obtain ⟨n, rfl⟩ := Nat.exists_eq_add_of_le' finishes.lives
  unfold commitOrder
  rw [finishes.flush, finishes.emit, show n + 3 = (n + 1 + 1) + 1 from rfl, cut_call_succ,
    show flushed validated = .ok () from if_pos finishes.fits, cut_lift_ok, cut_call_succ]
  dsimp only [id_eq]
  rw [placed, cut_lift_ok]
  cases commit : faults.commit with
  | none => exact cut_ret n () _
  | before raised => exact absurd commit (finishes.commit raised)
  | after raised => exact cut_raise n raised _

/-- or everything is as it was. -/
theorem cut_commitOrder_of_not {n : Nat} {validated : ValidatedOrder}
    (fails : ¬ Finishes faults validated n) (user : Identity) (request : CheckoutRequest)
    (now : Timestamp) (w : World) :
    cut n (commitOrder faults user request validated now) w = w := by
  unfold commitOrder
  by_cases flush : faults.flush = .none ∧ n ≠ 0
  · obtain ⟨flush, positive⟩ := flush
    obtain ⟨n, rfl⟩ := Nat.exists_eq_succ_of_ne_zero positive
    rw [flush, cut_call_succ]
    by_cases fits : Storable validated
    swap
    · rw [flushed, if_neg fits]
      exact cut_lift_error n _ w
    rw [flushed, if_pos fits, cut_lift_ok]
    by_cases emit : faults.emit = .none ∧ n ≠ 0
    · obtain ⟨emit, positive⟩ := emit
      obtain ⟨n, rfl⟩ := Nat.exists_eq_succ_of_ne_zero positive
      obtain ⟨written, placed, _⟩ :=
        placeOrder_new w.orders w.orders.nextOrderId user.userId request validated now
      rw [emit, cut_call_succ]
      dsimp only [id_eq]
      rw [placed, cut_lift_ok]
      cases commit : faults.commit with
      | before raised => exact cut_raise n raised w
      | none =>
        rcases n with _ | n
        · exact cut_zero _ w
        · exact absurd ⟨flush, fits, emit, by simp [commit], by omega⟩ fails
      | after raised =>
        rcases n with _ | n
        · exact cut_zero _ w
        · exact absurd ⟨flush, fits, emit, by simp [commit], by omega⟩ fails
    · exact cut_read_failed (by tauto) w
  · exact cut_read_failed (by tauto) w

/-! ### The reservation -/

section

variable {setting : Setting} {cart : Orders.CartView} {authHeader : String} {clock : LocalTime}
  {w : World} {n : Nat}

/-- The call is made, the service handles it and accepts it. -/
structure Reaches (setting : Setting) (faults : Faults) (cart : Orders.CartView) (customerId : Nat)
    (request : CheckoutRequest) (authHeader : String) (clock : LocalTime) (w : World) (n : Nat)
    (asked : Nat × ValidateRequest) : Prop where
  address : faults.address = .none
  handled : faults.post.handled = true
  lives : 2 ≤ n
  calls : checkoutCall w.orders cart customerId request = .ok asked
  accepts : Accepts setting.verify setting.env.runtime w.restaurants asked.1 (forwarded authHeader)
    (wireBody asked.2) clock

/-- The lines of a call, as stock movement sees them. -/
def reserved (asked : Nat × ValidateRequest) : List Restaurants.StockLine :=
  (wireBody asked.2).items.map OrderLine.stock

/-- The stock is taken. -/
def World.reserve (w : World) (asked : Nat × ValidateRequest) : World :=
  { w with restaurants := applyOrder w.restaurants (reserved asked) }

/-- What the service makes of a call. -/
def served (setting : Setting) (w : World) (authHeader : String) (clock : LocalTime)
    (restaurantId : Nat) (body : ValidateRequest) : Restaurants.Served × Restaurants.State :=
  Restaurants.serveValidateOrder setting.verify setting.env.runtime w.restaurants restaurantId
    (forwarded authHeader) (wireBody body) clock

variable {restaurantId : Nat} {body : ValidateRequest} {next : Orders.Response → Call Unit}

theorem cut_post_answered :
    cut (n + 1) (post setting .answered authHeader restaurantId body clock >>= next) w =
      cut n (next (wireResponse (served setting w authHeader clock restaurantId body).1))
        { w with restaurants := (served setting w authHeader clock restaurantId body).2 } := rfl

theorem cut_post_lost :
    cut n (post setting .lost authHeader restaurantId body clock >>= next) w = w :=
  cut_raise n unavailable w

theorem cut_post_unanswered :
    cut (n + 1) (post setting .unanswered authHeader restaurantId body clock >>= next) w =
      { w with restaurants := (served setting w authHeader clock restaurantId body).2 } :=
  cut_raise n unavailable _

theorem cut_post_garbled (garbled : Garbled) :
    cut (n + 1) (post setting (.garbled garbled) authHeader restaurantId body clock >>= next) w =
      cut n (next garbled.reply)
        { w with restaurants := (served setting w authHeader clock restaurantId body).2 } := rfl

/-- What the service does with a call that it accepts. -/
theorem serve_of_accepts {asked : Nat × ValidateRequest} (reserves : asked.2.reserve = true)
    (accepts : Accepts setting.verify setting.env.runtime w.restaurants asked.1
      (forwarded authHeader) (wireBody asked.2) clock) :
    ∃ id validated, served setting w authHeader clock asked.1 asked.2 =
        ({ statusCode := 200, answer := some (Restaurants.accept id validated) },
          applyOrder w.restaurants (reserved asked)) ∧
      (validated.map wireLine).map lineStock = reserved asked := by
  rcases Restaurants.serveValidateOrder_cases setting.verify setting.env.runtime w.restaurants
    asked.1 (forwarded authHeader) (wireBody asked.2) clock reserves with
    ⟨refuses, _⟩ | ⟨_, id, validated, _, passed, serves⟩
  · exact absurd accepts refuses
  · refine ⟨id, validated, serves, ?_⟩
    rw [List.map_map, reserved, ← (Restaurants.stock_of_validateLines passed).1]
    rfl

/-- And with one that it does not. -/
theorem serve_of_refuses {asked : Nat × ValidateRequest} (reserves : asked.2.reserve = true)
    (refuses : ¬ Accepts setting.verify setting.env.runtime w.restaurants asked.1
      (forwarded authHeader) (wireBody asked.2) clock) :
    ∃ answer, served setting w authHeader clock asked.1 asked.2 = (answer, w.restaurants) ∧
      (400 ≤ answer.statusCode ∨ ∃ verdict, answer.answer = some verdict ∧ verdict.ok = false) := by
  rcases Restaurants.serveValidateOrder_cases setting.verify setting.env.runtime w.restaurants
    asked.1 (forwarded authHeader) (wireBody asked.2) clock reserves with
    ⟨_, answer, serves, refused⟩ | ⟨accepts, _⟩
  · exact ⟨answer, serves, refused⟩
  · exact absurd accepts refuses

theorem reserve_of_checkoutAddress {address : Option Orders.AddressSnapshot} {customerId : Nat}
    (asks : checkoutAddress address cart customerId request = .ok body) : body.reserve = true := by
  obtain ⟨_, _, _, rfl⟩ := Orders.checkoutAddress_ok.mp asks
  rfl

theorem cut_validate_of_reaches {customerId : Nat} {asked : Nat × ValidateRequest}
    (reaches : Reaches setting faults cart customerId request authHeader clock w n asked)
    (rest : ValidatedOrder → Call Unit) :
    (faults.post ≠ .answered ∧
      cut n (validateCheckout setting faults cart customerId request authHeader clock >>= rest) w =
        w.reserve asked) ∨
    (faults.post = .answered ∧ ∃ validated : ValidatedOrder,
      validated.items.map lineStock = reserved asked ∧
      (Storable validated ↔ FitsColumns (wireBody asked.2).items) ∧
      cut n (validateCheckout setting faults cart customerId request authHeader clock >>= rest) w =
        cut (n - 2) (rest validated) (w.reserve asked)) := by
  obtain ⟨restaurantId, body⟩ := asked
  obtain ⟨cartOk, addressOk⟩ := Orders.checkoutCall_ok.mp reaches.calls
  obtain ⟨id, validated, serves, lines⟩ :=
    serve_of_accepts (reserve_of_checkoutAddress addressOk) reaches.accepts
  obtain ⟨n, rfl⟩ := Nat.exists_eq_add_of_le' reaches.lives
  unfold validateCheckout
  simp only [Program.bind_assoc]
  rw [cartOk, cut_lift_ok, reaches.address, show n + 2 = (n + 1) + 1 from rfl, cut_call_succ]
  dsimp only [id_eq]
  rw [addressOk, cut_lift_ok]
  cases exchange : faults.post with
  | answered =>
    let order : ValidatedOrder :=
      { restaurantId := id
        addressId := request.addressId
        items := validated.map wireLine
        subtotal := Restaurants.subtotalOf validated }
    have reply : checkoutReply restaurantId request.addressId
        (wireResponse (served setting w authHeader clock restaurantId body).1) = .ok order := by
      rw [serves, checkoutReply_accepted]
    refine Or.inr ⟨rfl, order, lines, storable_of_reply reply, ?_⟩
    rw [cut_post_answered, reply, cut_lift_ok, serves]
    rfl
  | lost =>
    have handled := reaches.handled
    rw [exchange] at handled
    cases handled
  | unanswered =>
    refine Or.inl ⟨by simp, ?_⟩
    rw [cut_post_unanswered, serves]
    rfl
  | garbled garbled =>
    obtain ⟨raised, unreadable⟩ := garbled.unreadable restaurantId request.addressId
    refine Or.inl ⟨by simp, ?_⟩
    rw [cut_post_garbled, serves, unreadable, cut_lift_error]
    rfl

theorem cut_validate_of_not {customerId : Nat}
    (misses : ∀ asked,
      ¬ Reaches setting faults cart customerId request authHeader clock w n asked)
    (rest : ValidatedOrder → Call Unit) :
    cut n (validateCheckout setting faults cart customerId request authHeader clock >>= rest) w =
      w := by
  unfold validateCheckout
  simp only [Program.bind_assoc]
  cases cartOk : checkoutCart cart request with
  | error raised => exact cut_lift_error n raised w
  | ok restaurantId =>
    rw [cut_lift_ok]
    by_cases address : faults.address = .none ∧ n ≠ 0
    · obtain ⟨address, positive⟩ := address
      obtain ⟨n, rfl⟩ := Nat.exists_eq_succ_of_ne_zero positive
      rw [address, cut_call_succ]
      cases addressOk : checkoutAddress (w.orders.addresses.find? request.addressId) cart customerId
          request with
      | error raised => exact cut_lift_error n raised w
      | ok body =>
        rw [cut_lift_ok]
        have calls : checkoutCall w.orders cart customerId request = .ok (restaurantId, body) :=
          Orders.checkoutCall_ok.mpr ⟨cartOk, addressOk⟩
        rcases n with _ | n
        · exact cut_zero _ w
        · show cut (n + 1) (post setting faults.post authHeader restaurantId body clock >>= _) w = w
          by_cases lost : faults.post = .lost
          · rw [lost, cut_post_lost]
          · have handled : faults.post.handled = true := by
              cases exchange : faults.post <;> first | rfl | exact absurd exchange lost
            have refuses := fun accepts =>
              misses (restaurantId, body) ⟨address, handled, by omega, calls, accepts⟩
            obtain ⟨answer, serves, refused⟩ :=
              serve_of_refuses (reserve_of_checkoutAddress addressOk) refuses
            obtain ⟨raised, fails⟩ := checkoutReply_refused restaurantId request.addressId refused
            cases exchange : faults.post with
            | answered =>
              rw [cut_post_answered, serves, fails, cut_lift_error]
            | lost => exact absurd exchange lost
            | unanswered => rw [cut_post_unanswered, serves]
            | garbled garbled =>
              obtain ⟨raised, unreadable⟩ := garbled.unreadable restaurantId request.addressId
              rw [cut_post_garbled, serves, unreadable, cut_lift_error]
    · exact cut_read_failed (by tauto) w

end

/-! ### What has to hold -/

/-- The lines of a cart, as stock movement sees them. -/
def cartStock (cart : Orders.CartView) : List Restaurants.StockLine :=
  cart.items.map fun line => ⟨line.menuItemId, line.quantity⟩

/-- An order for the cart is committed: it is new, the caller's, open, and holds the cart's lines. -/
def OrderCommitted (setting : Setting) (user : Identity) (before after : World) : Prop :=
  ∃ id order, before.orders.orders.find? id = none ∧ after.orders.orders.find? id = some order ∧
    order.customerId = user.userId ∧ ended order.status = false ∧
    order.items.map lineStock = cartStock (before.cart.view setting.sha256)

/-- The stock quantities are what they were. -/
def StockKept (before after : World) : Prop :=
  ∀ id, stockOf after.restaurants.items id = stockOf before.restaurants.items id

/-- **All or nothing.** -/
def AllOrNothing (setting : Setting) (user : Identity) (before after : World) : Prop :=
  OrderCommitted setting user before after ∨ StockKept before after

/-- **A reservation is made**: the lock is free, nothing fails before the service has handled the call
and the process lives for it, and the checks accept what the cart asks for. -/
structure Reserves (setting : Setting) (faults : Faults) (user : Identity)
    (request : CheckoutRequest) (authHeader : String) (clock : LocalTime) (w : World) (n : Nat)
    (asked : Nat × ValidateRequest) : Prop where
  free : w.locked = false
  lock : faults.lock = .none
  cart : faults.cart = .none
  address : faults.address = .none
  handled : faults.post.handled = true
  lives : 4 ≤ n
  calls : checkoutCall w.orders (w.cart.view setting.sha256) user.userId request = .ok asked
  accepts : Accepts setting.verify setting.env.runtime w.restaurants asked.1 (forwarded authHeader)
    (wireBody asked.2) clock

/-- One of the items that are asked for has its stock tracked. -/
def AsksTracked (w : World) (asked : Nat × ValidateRequest) : Prop :=
  ∃ line ∈ asked.2.items, (stockOf w.restaurants.items line.menuItemId).isSome

/-- **The order follows it**: the answer arrives, nothing fails before the commit has taken effect, what was
asked for fits the columns of an order, and the process lives for it. -/
structure Completes (faults : Faults) (n : Nat) (asked : Nat × ValidateRequest) : Prop where
  answered : faults.post = .answered
  flush : faults.flush = .none
  fits : FitsColumns (wireBody asked.2).items
  emit : faults.emit = .none
  commit : ∀ raised, faults.commit ≠ .before raised
  lives : 7 ≤ n

/-! ### What a reservation does to the stock -/

section

variable {setting : Setting} {authHeader : String} {clock : LocalTime} {w : World}
  {asked : Nat × ValidateRequest}

theorem reserved_of_calls {cart : Orders.CartView} {customerId : Nat}
    (calls : checkoutCall w.orders cart customerId request = .ok asked) :
    reserved asked = cartStock cart := by
  obtain ⟨restaurantId, body⟩ := asked
  obtain ⟨_, _, _, rfl⟩ := Orders.checkoutAddress_ok.mp (Orders.checkoutCall_ok.mp calls).2
  simp [reserved, wireBody, OrderLine.stock, cartStock, Function.comp_def]

/-- It changes the stock of every tracked item of the body, -/
theorem not_stockKept_reserve
    (accepts : Accepts setting.verify setting.env.runtime w.restaurants asked.1
      (forwarded authHeader) (wireBody asked.2) clock)
    (tracked : AsksTracked w asked) :
    ¬ StockKept w (w.reserve asked) := by
  intro kept
  obtain ⟨line, member, tracked⟩ := tracked
  obtain ⟨stock, known⟩ := Option.isSome_iff_exists.mp tracked
  obtain ⟨_, valid, restaurant, _, validated, judged⟩ := accepts
  obtain ⟨_, _, _, passed, _, _⟩ := Restaurants.judge_ok.mp judged
  have among : (⟨line.menuItemId, line.quantity, line.unitPrice.resent⟩ : OrderLine) ∈
      (wireBody asked.2).items := List.mem_map_of_mem member
  have covered := (Restaurants.stock_of_validateLines passed).2 _ among stock known
  have positive : 1 ≤ line.quantity := one_le_of_valid valid _ (List.mem_map_of_mem among)
  have counted : line.quantity ≤ wanted (reserved asked) line.menuItemId :=
    Restaurants.quantity_le_wanted (List.mem_map_of_mem among : _ ∈ reserved asked)
  have same := kept line.menuItemId
  rw [World.reserve, Restaurants.stockOf_applyOrder, known, Option.map_some] at same
  have less := Option.some.inj same
  dsimp only at covered
  omega

/-- and nothing when there is none. -/
theorem stockKept_reserve (untracked : ¬ AsksTracked w asked) :
    StockKept w (w.reserve asked) := by
  intro id
  rw [World.reserve, Restaurants.stockOf_applyOrder]
  cases known : stockOf w.restaurants.items id with
  | none => rfl
  | some stock =>
    have unnamed : id ∉ (reserved asked).map Restaurants.StockLine.menuItemId := by
      intro named
      obtain ⟨taken, fromBody, rfl⟩ := List.mem_map.mp named
      obtain ⟨sent, fromCall, rfl⟩ := List.mem_map.mp fromBody
      obtain ⟨line, member, rfl⟩ := List.mem_map.mp fromCall
      exact untracked ⟨line, member, Option.isSome_of_eq_some known⟩
    rw [Restaurants.wanted_eq_zero unnamed]
    rfl

end

/-! ### The whole checkout -/

section

variable {setting : Setting} {authHeader : String} {clock : LocalTime} {w : World} {n : Nat}

/-- What is done under the lock decides what the databases hold. -/
theorem cut_createOrder (setting : Setting) (faults : Faults) (user : Identity)
    (request : CheckoutRequest) (authHeader : String) (now : Timestamp) (clock : LocalTime)
    (free : w.locked = false) (lock : faults.lock = .none) :
    (cut (n + 1) (createOrderFromCheckout setting faults user request authHeader now clock)
        w).databases =
      (cut n (placeOrder setting faults user request authHeader now clock)
        { w with locked := true }).databases := by
  unfold createOrderFromCheckout
  rw [lock, cut_call_succ, free]
  rw [if_neg (by decide)]
  have unlock : (call faults.unlock (fun _ => ()) fun w => { w with locked := false }).Keeps
      World.databases := keeps_call _ _ fun _ => rfl
  refine (Program.cut_andFinally_of_keeps unlock n _).trans (Program.cut_bind_of_keeps ?_ n _)
  exact fun _ => Program.Keeps.bind (keeps_call _ _ fun _ => rfl) fun _ => keeps_call _ _ fun _ => rfl

/-- Without the lock, nothing is done. -/
theorem cut_createOrder_of_not (user : Identity) (request : CheckoutRequest) (now : Timestamp)
    (stops : ¬ (w.locked = false ∧ faults.lock = .none ∧ n ≠ 0)) :
    (cut n (createOrderFromCheckout setting faults user request authHeader now clock) w).databases =
      w.databases := by
  unfold createOrderFromCheckout
  rcases n with _ | n
  · rw [cut_zero]
  · cases lock : faults.lock with
    | before raised => rfl
    | after raised =>
      show (cut n (.raise raised : Call Unit) { w with locked := true }).databases = _
      rw [cut_raise]
      rfl
    | none =>
      have locked : w.locked = true := by
        by_contra free
        exact stops ⟨eq_false_of_ne_true free, lock, Nat.succ_ne_zero n⟩
      rw [cut_call_succ, locked]
      rw [if_pos (by decide), cut_raise]
      rfl

/-- **What is left once the reservation is made**: the reservation alone, or the order with it. -/
theorem cut_checkout_of_reaches {faults : Faults} {user : Identity} {cart : Orders.CartView}
    {asked : Nat × ValidateRequest}
    (reaches : Reaches setting faults cart user.userId request authHeader clock w n asked)
    (now : Timestamp) :
    let after := cut n (validateCheckout setting faults cart user.userId request authHeader clock >>=
      fun validated => commitOrder faults user request validated now) w
    (¬ Completes faults (n + 2) asked ∧ after.databases = (w.reserve asked).databases) ∨
      (Completes faults (n + 2) asked ∧ ∃ written,
        after.databases = (w.orders.commit written, (w.reserve asked).restaurants) ∧
        w.orders.orders.find? written.order.id = none ∧ written.order.customerId = user.userId ∧
        written.order.items.map lineStock = reserved asked ∧
        ended written.order.status = false) := by
  intro after
  rcases cut_validate_of_reaches reaches
    (fun validated => commitOrder faults user request validated now) with
    ⟨unanswered, left⟩ | ⟨answered, validated, lines, storable, left⟩
  · exact Or.inl ⟨fun completes => unanswered completes.answered, congrArg World.databases left⟩
  · by_cases finishes : Finishes faults validated (n - 2)
    · obtain ⟨written, commits, absent, customer, items, open_⟩ :=
        cut_commitOrder_of_finishes finishes user request now (w.reserve asked)
      have enough := finishes.lives
      refine Or.inr ⟨⟨answered, finishes.flush, storable.mp finishes.fits, finishes.emit, finishes.commit,
        by omega⟩,
        written, ?_, absent, customer, by rw [items, lines], open_⟩
      exact congrArg World.databases (left.trans commits)
    · have stays := cut_commitOrder_of_not finishes user request now (w.reserve asked)
      refine Or.inl ⟨fun completes => finishes ⟨completes.flush, storable.mpr completes.fits, completes.emit,
        completes.commit, ?_⟩, congrArg World.databases (left.trans stays)⟩
      have enough := completes.lives
      omega

/-- **What each failure point leaves.** -/
theorem cut_cases (setting : Setting) (faults : Faults) (user : Identity)
    (request : CheckoutRequest) (authHeader : String) (now : Timestamp) (clock : LocalTime)
    (w : World) (n : Nat) :
    let after := cut n (createOrderFromCheckout setting faults user request authHeader now clock) w
    ((∀ asked, ¬ Reserves setting faults user request authHeader clock w n asked) ∧
      after.databases = w.databases) ∨
    ∃ asked, Reserves setting faults user request authHeader clock w n asked ∧
      ((¬ Completes faults n asked ∧ after.databases = (w.reserve asked).databases) ∨
      (Completes faults n asked ∧ ∃ written,
        after.databases = (w.orders.commit written, (w.reserve asked).restaurants) ∧
        w.orders.orders.find? written.order.id = none ∧ written.order.customerId = user.userId ∧
        written.order.items.map lineStock = reserved asked ∧
        ended written.order.status = false)) := by
  intro after
  by_cases starts : w.locked = false ∧ faults.lock = .none ∧ n ≠ 0
  · obtain ⟨free, lock, positive⟩ := starts
    obtain ⟨n, rfl⟩ := Nat.exists_eq_succ_of_ne_zero positive
    have inner := cut_createOrder setting faults user request authHeader now clock (n := n) free lock
    by_cases cart : faults.cart = .none ∧ n ≠ 0
    · obtain ⟨cart, positive⟩ := cart
      obtain ⟨n, rfl⟩ := Nat.exists_eq_succ_of_ne_zero positive
      have validates : cut (n + 1) (placeOrder setting faults user request authHeader now clock)
          { w with locked := true } =
          cut n (validateCheckout setting faults (w.cart.view setting.sha256) user.userId request
            authHeader clock >>= fun validated => commitOrder faults user request validated now)
            { w with locked := true } := by
        unfold placeOrder
        rw [cart, cut_call_succ]
        rfl
      have whole := inner.trans (congrArg World.databases validates)
      by_cases reached : ∃ asked, Reaches setting faults (w.cart.view setting.sha256) user.userId
          request authHeader clock { w with locked := true } n asked
      · obtain ⟨asked, reaches⟩ := reached
        have lives := reaches.lives
        refine Or.inr ⟨asked, ⟨free, lock, cart, reaches.address, reaches.handled, by omega,
          reaches.calls, reaches.accepts⟩, ?_⟩
        rcases cut_checkout_of_reaches reaches now with ⟨stops, left⟩ | ⟨completes, written, left, placed⟩
        · exact Or.inl ⟨stops, whole.trans left⟩
        · exact Or.inr ⟨completes, written, whole.trans left, placed⟩
      · refine Or.inl ⟨fun asked reserves => reached ⟨asked, reserves.address, reserves.handled, ?_,
          reserves.calls, reserves.accepts⟩, ?_⟩
        · have lives := reserves.lives
          omega
        · have stays := cut_validate_of_not (fun asked reaches => reached ⟨asked, reaches⟩)
            (fun validated => commitOrder faults user request validated now)
          have left := congrArg World.databases stays
          exact whole.trans left
    · refine Or.inl ⟨fun asked reserves => cart ⟨reserves.cart, ?_⟩, ?_⟩
      · have lives := reserves.lives
        omega
      · refine inner.trans ?_
        unfold placeOrder
        rw [cut_read_failed (by tauto)]
        rfl
  · refine Or.inl ⟨fun asked reserves => starts ⟨reserves.free, reserves.lock, ?_⟩, ?_⟩
    · have lives := reserves.lives
      omega
    · exact cut_createOrder_of_not user request now starts

end

/-! ### The result -/

/-- **When a checkout is all or nothing**: whatever fails and after however many calls the process dies,
exactly when a reservation of a tracked item is followed by its order. -/
theorem allOrNothing_iff (setting : Setting) (faults : Faults) (user : Identity)
    (request : CheckoutRequest) (authHeader : String) (now : Timestamp) (clock : LocalTime)
    (w : World) (n : Nat) :
    AllOrNothing setting user w
        (cut n (createOrderFromCheckout setting faults user request authHeader now clock) w) ↔
      ∀ asked, Reserves setting faults user request authHeader clock w n asked →
        AsksTracked w asked → Completes faults n asked := by
  have outcomes := cut_cases setting faults user request authHeader now clock w n
  revert outcomes
  generalize cut n (createOrderFromCheckout setting faults user request authHeader now clock) w = after
  rintro (⟨unreserved, same⟩ | ⟨asked, reserves, ⟨stops, same⟩ | ⟨completes, written, same, rest⟩⟩)
  · have kept : StockKept w after := fun id => congrArg (fun s => stockOf s.2.items id) same
    exact ⟨fun _ asked reserves => absurd reserves (unreserved asked), fun _ => Or.inr kept⟩
  · have orders : after.orders = w.orders := congrArg Prod.fst same
    have stock : StockKept w after ↔ StockKept w (w.reserve asked) := by
      have restaurants : after.restaurants = (w.reserve asked).restaurants := congrArg Prod.snd same
      rw [StockKept, restaurants]
      rfl
    have no_order : ¬ OrderCommitted setting user w after := by
      rintro ⟨id, order, absent, present, _⟩
      rw [orders, absent] at present
      cases present
    constructor
    · rintro (committed | kept) other otherReserves tracked
      · exact absurd committed no_order
      · have one : other = asked := Except.ok.inj (otherReserves.calls.symm.trans reserves.calls)
        subst one
        exact absurd (stock.mp kept) (not_stockKept_reserve reserves.accepts tracked)
    · intro condition
      refine Or.inr (stock.mpr (stockKept_reserve fun tracked => ?_))
      exact stops (condition asked reserves tracked)
  · obtain ⟨absent, customer, items, open_⟩ := rest
    have orders : after.orders = w.orders.commit written := congrArg Prod.fst same
    refine ⟨fun _ other otherReserves _ => ?_, fun _ => Or.inl ?_⟩
    · have one : other = asked := Except.ok.inj (otherReserves.calls.symm.trans reserves.calls)
      exact one ▸ completes
    refine ⟨written.order.id, written.order, absent, ?_, customer, open_, ?_⟩
    · rw [orders, Orders.State.commit_orders, Table.find?_put_self]
    · rw [items]
      exact reserved_of_calls reserves.calls

/-- A customer with a cart, an address and a venue. -/
def readyToOrder : World where
  locked := false
  cart := twoPortions
  orders := Orders.applyAddressEvent .empty
    { addressId := some 5, userId := some 7, city := some "Surat" }
  restaurants := fivePortions

/-- **The answer is lost and the portions with it.** The restaurants service commits the reservation,
the client gives up waiting, and no order is placed. -/
theorem lostAnswer_keepsReservation :
    ¬ ∀ setting faults user request authHeader now clock w n, AllOrNothing setting user w
      (cut n (createOrderFromCheckout setting faults user request authHeader now clock) w) := by
  intro always
  have outcome := always threeUsers { post := .unanswered } ⟨7, "customer"⟩ cashRequest
    "Bearer customer" 10 ⟨0, 720⟩ readyToOrder 10
  have stock : stockOf (cut 10 (createOrderFromCheckout threeUsers { post := .unanswered }
      ⟨7, "customer"⟩ cashRequest "Bearer customer" 10 ⟨0, 720⟩) readyToOrder).restaurants.items 1 =
        some 3 := by decide
  have no_rows : (cut 10 (createOrderFromCheckout threeUsers { post := .unanswered }
      ⟨7, "customer"⟩ cashRequest "Bearer customer" 10 ⟨0, 720⟩) readyToOrder).orders.orders.rows =
        [] := by decide
  rcases outcome with ⟨id, order, _, present, _⟩ | kept
  · have member := (Table.find?_eq_some.mp present).1
    rw [no_rows] at member
    cases member
  · have before : stockOf readyToOrder.restaurants.items 1 = some 5 := by decide
    have same := kept 1
    rw [stock, before] at same
    exact absurd same (by decide)

end FoodDelivery.Checkout
