/-
**The order is the cart, exactly** (`create_order_from_checkout` with the restaurants service's
`validate_order`).

The amounts of a cart go out as texts, are compared with the menu's and multiplied again there, come
back as texts and are stored. What fits the columns has not been rounded, and the flush fails for what does
not fit. `prepareOrder` is a checkout under its lock, up to the commit; it leaves the orders alone
(`keeps_prepareOrder`), and what it returns is the cart (`exact_of_prepared`).

`checkout_exact`: whatever fails, an order that is committed is the cart line by line and cent by cent,
at the names of the menu; and nothing is written before the commit.
-/

import FoodDelivery.Checkout.Faults

set_option autoImplicit false

namespace FoodDelivery.Checkout

open FoodDelivery.Lib
open FoodDelivery.Orders (CartItemView CartView CheckoutRequest Order OrderItem StoredCart
  StoredLine ValidatedOrder ValidateRequest Written checkoutAddress checkoutCart checkoutReply)
open FoodDelivery.Restaurants (Items LocalTime OrderLine ValidatedLine itemOf validateLine
  validateLines)

/-! ### What has to hold -/

/-- What a line of the cart is ordered as: the item's current name, at the price and in the quantity of
the cart. -/
def LineExact (menu : Items) (line : CartItemView) (ordered : OrderItem) : Prop :=
  ∃ item, menu.find? line.menuItemId = some item ∧
    ordered = ⟨line.menuItemId, item.name, line.unitPrice, line.quantity,
      line.unitPrice * line.quantity⟩

/-- **The order is the cart.** -/
structure OrderExact (menu : Items) (cart : CartView) (request : CheckoutRequest) (order : Order) :
    Prop where
  lines : List.Forall₂ (LineExact menu) cart.items order.items
  subtotal : order.subtotal = (order.items.map OrderItem.lineTotal).sum
  total : order.total = (order.items.map OrderItem.lineTotal).sum
  shown : order.subtotal = cart.subtotal
  restaurant : cart.restaurantId = some order.restaurantId
  card : request.paymentMethod = .card →
    order.status = .paymentPending ∧ order.paymentStatus = .pending
  cash : request.paymentMethod = .cod →
    order.status = .paymentSuccess ∧ order.paymentStatus = .success

/-- One order is added, and every other is as it was. -/
structure Adds (before after : Orders.State) (order : Order) : Prop where
  new : before.orders.find? order.id = none
  there : after.orders.find? order.id = some order
  others : ∀ id, id ≠ order.id → after.orders.find? id = before.orders.find? id

/-! ### Up to the commit -/

/-- What is done under the lock before the commit. -/
def prepareOrder (setting : Setting) (faults : Faults) (user : Identity) (request : CheckoutRequest)
    (authHeader : String) (now : Timestamp) (clock : LocalTime) : Call Written := do
  let cart ← call faults.cart (fun w => w.cart.view setting.sha256) id
  let validated ← validateCheckout setting faults cart user.userId request authHeader clock
  let orderId ← call faults.flush (fun w => w.orders.nextOrderId) id
  lift (flushed validated)
  let placed ← call faults.emit
    (fun w => Orders.placeOrder w.orders
      (Orders.newOrder orderId user.userId request validated now)) id
  lift placed

/-- The commit, in one action. -/
def commitWritten (faults : Faults) (written : Written) : Call Unit :=
  call faults.commit (fun _ => ()) fun w => { w with orders := w.orders.commit written }

/-- **A checkout under its lock is what it prepares and the commit.** -/
theorem placeOrder_eq (setting : Setting) (faults : Faults) (user : Identity)
    (request : CheckoutRequest) (authHeader : String) (now : Timestamp) (clock : LocalTime) :
    placeOrder setting faults user request authHeader now clock =
      prepareOrder setting faults user request authHeader now clock >>= commitWritten faults := by
  unfold placeOrder prepareOrder commitOrder
  simp only [Program.bind_assoc]
  rfl

/-- The call takes effect, whatever it answers. -/
def Fault.effective : Fault → Bool
  | .before _ => false
  | _ => true

/-- **The commit takes effect**: the lock is free and taken, everything up to the commit returns, and
the commit does not fail before it is done. -/
structure Commits (setting : Setting) (faults : Faults) (user : Identity) (request : CheckoutRequest)
    (authHeader : String) (now : Timestamp) (clock : LocalTime) (w : World) : Prop where
  free : w.locked = false
  lock : faults.lock = .none
  prepared : ∃ written, ((prepareOrder setting faults user request authHeader now clock).exec
    { w with locked := true }).2 = .ok written
  done : faults.commit.effective = true

variable {setting : Setting} {faults : Faults} {user : Identity} {request : CheckoutRequest}
  {authHeader : String} {now : Timestamp} {clock : LocalTime} {w : World}

theorem keeps_orders {α : Type} (fault : Fault) (view : World → α) {update : World → World}
    (keeps : ∀ w, (update w).orders = w.orders) : (call fault view update).Keeps World.orders := by
  cases fault with
  | none => exact fun w => ⟨keeps w, trivial⟩
  | before raised => trivial
  | after raised => exact fun w => ⟨keeps w, trivial⟩

theorem keeps_read {α : Type} (fault : Fault) (view : World → α) :
    (call fault view id).Keeps World.orders :=
  keeps_orders fault view fun _ => rfl

theorem keeps_lift {α : Type} (result : Except Raised α) :
    (lift result).Keeps World.orders := by
  cases result with
  | error raised => trivial
  | ok value => trivial

theorem keeps_post (exchange : Exchange) (restaurantId : Nat) (body : ValidateRequest) :
    (post setting exchange authHeader restaurantId body clock).Keeps World.orders := by
  cases exchange with
  | answered => exact fun w => ⟨rfl, trivial⟩
  | lost => trivial
  | unanswered => exact fun w => ⟨rfl, trivial⟩
  | garbled garbled => exact fun w => ⟨rfl, trivial⟩

/-- **Nothing is written before the commit.** -/
theorem keeps_prepareOrder (setting : Setting) (faults : Faults) (user : Identity)
    (request : CheckoutRequest) (authHeader : String) (now : Timestamp) (clock : LocalTime) :
    (prepareOrder setting faults user request authHeader now clock).Keeps World.orders := by
  unfold prepareOrder validateCheckout
  refine .bind (keeps_read _ _) fun cart => ?_
  refine .bind (.bind (keeps_lift _) fun restaurantId => ?_) fun validated => ?_
  · refine .bind (keeps_read _ _) fun address => .bind (keeps_lift _) fun body => ?_
    exact .bind (keeps_post _ _ _) fun response => keeps_lift _
  · refine .bind (keeps_read _ _) fun orderId => .bind (keeps_lift _) fun _ => ?_
    exact .bind (keeps_read _ _) fun placed => keeps_lift placed

/-! ### The lines, there and back -/

/-- A line of the cart, as the restaurants service reads it. -/
def sentLine (line : CartItemView) : OrderLine :=
  ⟨line.menuItemId, line.quantity, line.unitPrice.resent⟩

/-- **Lines that pass the checks come back as the cart's**, with the menu's names, when what they come to
fits its column. -/
theorem exact_of_validateLines {menu : Items} {restaurantId : Nat} {lines : List CartItemView}
    {validated : List ValidatedLine}
    (valid : validateLines (itemOf menu restaurantId) (lines.map sentLine) = .ok validated)
    (fits : ∀ line ∈ lines, FitsNumeric (sentLine line).amount) :
    List.Forall₂ (LineExact menu) lines (validated.map wireLine) := by
  induction lines generalizing validated with
  | nil =>
    cases valid
    exact .nil
  | cons line lines ih =>
    rw [List.map_cons] at valid
    obtain ⟨first, rest, head, tail, rfl⟩ := Restaurants.validateLines_cons.mp valid
    obtain ⟨item, found, _, _, price, rfl⟩ := Restaurants.validateLine_ok.mp head
    have row : menu.find? line.menuItemId = some item :=
      (Option.filter_eq_some_iff.mp found).1
    have own : item.id = line.menuItemId := Table.key_of_find? row
    have shown : item.price = line.unitPrice := price.trans (Money.resent_eq _)
    have unrounded : toPrecision decimalDigits (line.unitPrice * line.quantity) =
        line.unitPrice * line.quantity := by
      have short := fits line List.mem_cons_self
      rw [OrderLine.amount, sentLine, Money.resent_eq] at short
      exact toPrecision_of_lt (short.trans (by decide))
    refine .cons ⟨item, row, ?_⟩ (ih tail fun other among => fits other (.tail _ among))
    simp [wireLine, sentLine, own, shown, unrounded]

theorem lineTotals_of_exact {menu : Items} {sha256 : String → String} {cart : StoredCart}
    {items : List OrderItem}
    (exact_lines : List.Forall₂ (LineExact menu) (cart.view sha256).items items) :
    (items.map OrderItem.lineTotal).sum = (cart.view sha256).subtotal := by
  have same : ∀ lines : List CartItemView, (∀ line ∈ lines,
      line.lineTotal = line.unitPrice * line.quantity) → ∀ items,
      List.Forall₂ (LineExact menu) lines items →
      items.map OrderItem.lineTotal = lines.map CartItemView.lineTotal := by
    intro lines totals items pairs
    induction pairs with
    | nil => rfl
    | cons pair pairs ih =>
      obtain ⟨item, _, rfl⟩ := pair
      rw [List.map_cons, List.map_cons, ih fun line member => totals line (.tail _ member),
        totals _ (.head _)]
  rw [Orders.subtotal_view, same _ (fun line => Orders.lineTotal_of_mem_view) _ exact_lines]

/-! ### What has been prepared -/

section

variable {α β : Type} {fault : Fault} {view : World → α} {update : World → World} {value : β}

theorem exec_call_ok {rest : α → Call β}
    (returned : ((call fault view update >>= rest).exec w).2 = .ok value) :
    ((rest (view w)).exec (update w)).2 = .ok value := by
  cases fault with
  | none => exact returned
  | before raised => cases returned
  | after raised => cases returned

theorem exec_lift_of_ok {result : Except Raised α} {rest : α → Call β}
    (returned : ((lift result >>= rest).exec w).2 = .ok value) :
    ∃ found, result = .ok found ∧ ((rest found).exec w).2 = .ok value := by
  cases result with
  | error raised => cases returned
  | ok found => exact ⟨found, rfl, returned⟩

end

/-- What the call brings is the service's own answer, or garbled. -/
theorem exec_post_ok {β : Type} {value : β} {exchange : Exchange} {restaurantId : Nat}
    {body : ValidateRequest} {rest : Orders.Response → Call β}
    (returned : ((post setting exchange authHeader restaurantId body clock >>= rest).exec w).2 =
      .ok value) :
    ∃ response after, after.orders = w.orders ∧ ((rest response).exec after).2 = .ok value ∧
      (response = wireResponse (Restaurants.serveValidateOrder setting.verify setting.env.runtime
          w.restaurants restaurantId (forwarded authHeader) (wireBody body) clock).1 ∨
        ∃ garbled : Garbled, response = garbled.reply) := by
  cases exchange with
  | answered =>
    refine ⟨_, { w with restaurants := (Restaurants.serveValidateOrder setting.verify
      setting.env.runtime w.restaurants restaurantId (forwarded authHeader) (wireBody body) clock).2 },
      rfl, ?_, Or.inl rfl⟩
    exact returned
  | lost => cases returned
  | unanswered => cases returned
  | garbled garbled =>
    refine ⟨_, { w with restaurants := (Restaurants.serveValidateOrder setting.verify
      setting.env.runtime w.restaurants restaurantId (forwarded authHeader) (wireBody body) clock).2 },
      rfl, ?_, Or.inr ⟨garbled, rfl⟩⟩
    exact returned

/-- **What is prepared**: the cart is not empty and as it was shown, the address is the caller's, the
answer that comes is the service's own, and it fits the columns. -/
theorem prepared_ok {written : Written}
    (returned : ((prepareOrder setting faults user request authHeader now clock).exec w).2 =
      .ok written) :
    ∃ restaurantId body validated,
      checkoutCart (w.cart.view setting.sha256) request = .ok restaurantId ∧
      checkoutAddress (w.orders.addresses.find? request.addressId) (w.cart.view setting.sha256)
        user.userId request = .ok body ∧
      checkoutReply restaurantId request.addressId (wireResponse
        (Restaurants.serveValidateOrder setting.verify setting.env.runtime w.restaurants restaurantId
          (forwarded authHeader) (wireBody body) clock).1) = .ok validated ∧
      Storable validated ∧ Orders.placeOrder w.orders
        (Orders.newOrder w.orders.nextOrderId user.userId request validated now) = .ok written := by
  unfold prepareOrder validateCheckout at returned
  simp only [Program.bind_assoc] at returned
  replace returned := exec_call_ok returned
  obtain ⟨restaurantId, cartOk, returned⟩ := exec_lift_of_ok returned
  replace returned := exec_call_ok returned
  obtain ⟨body, addressOk, returned⟩ := exec_lift_of_ok returned
  obtain ⟨response, after, same, returned, reply⟩ := exec_post_ok returned
  obtain ⟨validated, replyOk, returned⟩ := exec_lift_of_ok returned
  replace returned := exec_call_ok returned
  obtain ⟨_, stored, returned⟩ := exec_lift_of_ok returned
  have placed := exec_call_ok returned
  simp only [id_eq] at same placed addressOk cartOk
  rw [same] at placed
  refine ⟨restaurantId, body, validated, cartOk, addressOk, ?_, ?_, ?_⟩
  · rcases reply with rfl | ⟨garbled, rfl⟩
    · exact replyOk
    · obtain ⟨raised, unreadable⟩ := garbled.unreadable restaurantId request.addressId
      rw [unreadable] at replyOk
      cases replyOk
  · by_contra oversized
    rw [flushed, if_neg oversized] at stored
    cases stored
  · cases outcome : Orders.placeOrder w.orders
        (Orders.newOrder w.orders.nextOrderId user.userId request validated now) with
    | error raised =>
      rw [outcome] at placed
      cases placed
    | ok other =>
      rw [outcome] at placed
      exact placed

/-! ### The order -/

/-- The venue asked is the cart's, and the body has its lines. -/
theorem asked_of_checkout {cart : CartView} {address : Option Orders.AddressSnapshot}
    {customerId restaurantId : Nat} {body : ValidateRequest}
    (cartOk : checkoutCart cart request = .ok restaurantId)
    (addressOk : checkoutAddress address cart customerId request = .ok body) :
    cart.restaurantId = some restaurantId ∧ request.priceHash = cart.priceHash ∧ cart.items ≠ [] ∧
      (wireBody body).items = cart.items.map sentLine := by
  unfold checkoutCart at cartOk
  split at cartOk
  · cases cartOk
  · cases cartOk
  · rename_i known filled
    split_ifs at cartOk with hash
    cases cartOk
    refine ⟨known, not_not.mp hash, filled, ?_⟩
    obtain ⟨_, _, _, rfl⟩ := Orders.checkoutAddress_ok.mp addressOk
    rw [wireBody, List.map_map]
    rfl

/-- **What is prepared is the cart.** -/
theorem exact_of_prepared {written : Written}
    (returned : ((prepareOrder setting faults user request authHeader now clock).exec w).2 =
      .ok written) :
    w.orders.orders.find? written.order.id = none ∧
      OrderExact w.restaurants.items (w.cart.view setting.sha256) request written.order ∧
      request.priceHash = (w.cart.view setting.sha256).priceHash ∧
      (w.cart.view setting.sha256).items ≠ [] ∧ ∀ line ∈ written.order.items, 1 ≤ line.quantity := by
  obtain ⟨restaurantId, body, validated, cartOk, addressOk, replyOk, storable, placed⟩ :=
    prepared_ok returned
  obtain ⟨venue, hash, filled, sent⟩ := asked_of_checkout cartOk addressOk
  rcases Restaurants.serveValidateOrder_outcome setting.verify setting.env.runtime w.restaurants
    restaurantId (forwarded authHeader) (wireBody body) clock with
    ⟨_, served, serves, refusal⟩ | ⟨_, restaurant, passed, found, valid, lines, _, serves⟩
  · obtain ⟨raised, fails⟩ :=
      checkoutReply_refused restaurantId request.addressId (refusal.imp_left And.left)
    rw [serves, fails] at replyOk
    cases replyOk
  · rw [serves, checkoutReply_accepted] at replyOk
    cases replyOk
    rw [sent] at lines
    have own : restaurant.id = restaurantId := Table.key_of_find? found
    have fits := (storable_iff lines _ _).mp storable
    obtain ⟨unrounded, sum⟩ := exact_of_fits lines fits
    have exact_lines := exact_of_validateLines lines fun line member =>
      (fits.2 _ (List.mem_map_of_mem member)).2.2
    have totals : Restaurants.subtotalOf passed =
        ((passed.map wireLine).map OrderItem.lineTotal).sum := by
      rw [sum, ← unrounded, List.map_map]
      refine congrArg List.sum (List.map_congr_left fun line _ => ?_)
      exact (Money.resent_eq _).symm
    have shown := lineTotals_of_exact exact_lines
    have order_eq := (Orders.placeOrder_ok rfl placed).1
    have positive : ∀ line ∈ passed.map wireLine, 1 ≤ line.quantity := by
      intro line member
      obtain ⟨answered, among, rfl⟩ := List.mem_map.mp member
      have stock : answered.stock ∈ (wireBody body).items.map OrderLine.stock := by
        rw [sent, ← (Restaurants.stock_of_validateLines lines).1]
        exact List.mem_map_of_mem among
      exact one_le_of_valid valid _ stock
    rw [order_eq]
    split
    · rename_i cash
      refine ⟨Orders.find?_nextOrderId w.orders, ⟨exact_lines, totals, totals, totals.trans shown,
        ?_, ?_, fun _ => ⟨rfl, rfl⟩⟩, hash, filled, positive⟩
      · rw [venue, ← own]
        rfl
      · exact fun card => absurd (card.symm.trans cash) (by decide)
    · rename_i card
      refine ⟨Orders.find?_nextOrderId w.orders, ⟨exact_lines, totals, totals, totals.trans shown,
        ?_, fun _ => ⟨rfl, rfl⟩, fun cash => absurd cash card⟩, hash, filled, positive⟩
      rw [venue, ← own]
      rfl

/-! ### The whole checkout -/

/-- The commit, where what comes before it has returned, -/
theorem exec_commitWritten (faults : Faults) (written : Written) (w : World) :
    ((commitWritten faults written).exec w).1.orders =
      (if faults.commit.effective then w.orders.commit written else w.orders) ∧
    (((commitWritten faults written).exec w).2 = .ok () → faults.commit.effective = true) := by
  unfold commitWritten
  cases faults.commit with
  | none => exact ⟨rfl, fun _ => rfl⟩
  | before raised => exact ⟨rfl, fun returned => by cases returned⟩
  | after raised => exact ⟨rfl, fun _ => rfl⟩

/-- and a checkout under its lock: the commit of what was prepared, or nothing. -/
theorem exec_placeOrder_orders (setting : Setting) (faults : Faults) (user : Identity)
    (request : CheckoutRequest) (authHeader : String) (now : Timestamp) (clock : LocalTime)
    (w : World) :
    let prepared := (prepareOrder setting faults user request authHeader now clock).exec w
    let run := (placeOrder setting faults user request authHeader now clock).exec w
    (∀ written, prepared.2 = .ok written → run.1.orders =
      if faults.commit.effective then w.orders.commit written else w.orders) ∧
    ((∀ written, prepared.2 ≠ .ok written) → run.1.orders = w.orders) ∧
    (run.2 = .ok () → faults.commit.effective = true ∧ ∃ written, prepared.2 = .ok written) := by
  intro prepared run
  have kept : prepared.1.orders = w.orders :=
    (keeps_prepareOrder setting faults user request authHeader now clock).exec w
  have parts : run = (prepareOrder setting faults user request authHeader now clock >>=
      commitWritten faults).exec w := by
    rw [← placeOrder_eq]
  cases outcome : prepared.2 with
  | error raised =>
    rw [parts, Program.exec_bind_of_error outcome]
    exact ⟨fun _ same => (by cases same), fun _ => kept, fun same => by cases same⟩
  | ok written =>
    obtain ⟨orders, effective⟩ := exec_commitWritten faults written prepared.1
    rw [kept] at orders
    rw [parts, Program.exec_bind_of_ok outcome]
    refine ⟨fun other same => ?_, fun missing => absurd rfl (missing written), fun returned =>
      ⟨effective returned, written, rfl⟩⟩
    cases same
    exact orders

/-- A checkout that gets the lock leaves the orders as its placing does, and succeeds only if that
does. -/
theorem exec_createOrder_of_free {setting : Setting} {faults : Faults} {user : Identity}
    {request : CheckoutRequest} {authHeader : String} {now : Timestamp} {clock : LocalTime}
    {w : World} (free : w.locked = false) (lock : faults.lock = .none) :
    let run := (createOrderFromCheckout setting faults user request authHeader now clock).exec w
    let placing := (placeOrder setting faults user request authHeader now clock).exec
      { w with locked := true }
    run.1.orders = placing.1.orders ∧ (run.2 = .ok () → placing.2 = .ok ()) := by
  intro run placing
  let held : World := { w with locked := true }
  let work : Call Unit := do
    placeOrder setting faults user request authHeader now clock
    call faults.clearCart (fun _ => ()) fun w => { w with cart := {} }
    call faults.load (fun _ => ()) id
  let unlock : Call Unit := call faults.unlock (fun _ => ()) fun w => { w with locked := false }
  have run_eq : run = (work.andFinally unlock).exec held := by
    show (createOrderFromCheckout _ _ _ _ _ _ _).exec w = _
    unfold createOrderFromCheckout
    rw [lock, exec_call, free]
    rfl
  refine ⟨?_, fun returned => ?_⟩
  · rw [run_eq]
    have cleaned : unlock.Keeps World.orders := keeps_orders _ _ fun _ => rfl
    refine (Program.exec_andFinally_of_keeps cleaned held).trans ?_
    refine Program.exec_bind_of_keeps (fun _ => ?_) held
    exact .bind (keeps_orders _ _ fun _ => rfl) fun _ => keeps_read _ _
  · rw [run_eq] at returned
    have worked := Program.exec_of_andFinally_ok returned
    cases outcome : placing.2 with
    | ok value => rfl
    | error raised =>
      have stops := Program.exec_bind_of_error outcome fun _ => (do
        call faults.clearCart (fun _ => ()) fun w => { w with cart := {} }
        call faults.load (fun _ => ()) id)
      rw [show work.exec held = _ from stops] at worked
      cases worked

/-- One that does not get it raises, and leaves the orders alone. -/
theorem exec_createOrder_of_taken {setting : Setting} {faults : Faults} {user : Identity}
    {request : CheckoutRequest} {authHeader : String} {now : Timestamp} {clock : LocalTime}
    {w : World} (taken : ¬ (w.locked = false ∧ faults.lock = .none)) :
    ∃ raised, ((createOrderFromCheckout setting faults user request authHeader now
      clock).exec w).1.orders = w.orders ∧ ((createOrderFromCheckout setting faults user request
      authHeader now clock).exec w).2 = .error raised := by
  unfold createOrderFromCheckout
  cases lock : faults.lock with
  | before raised => exact ⟨raised, rfl, rfl⟩
  | after raised => exact ⟨raised, rfl, rfl⟩
  | none =>
    have held : w.locked = true := by
      by_contra other
      exact taken ⟨Bool.not_eq_true _ ▸ other, lock⟩
    rw [exec_call, held]
    exact ⟨_, rfl, rfl⟩

/-- **What a checkout leaves among the orders**: what it has prepared, when its commit takes effect, and
nothing otherwise. -/
theorem exec_createOrder_orders (setting : Setting) (faults : Faults) (user : Identity)
    (request : CheckoutRequest) (authHeader : String) (now : Timestamp) (clock : LocalTime)
    (w : World) :
    let run := (createOrderFromCheckout setting faults user request authHeader now clock).exec w
    (Commits setting faults user request authHeader now clock w → ∃ written,
      ((prepareOrder setting faults user request authHeader now clock).exec
        { w with locked := true }).2 = .ok written ∧ run.1.orders = w.orders.commit written) ∧
    (¬ Commits setting faults user request authHeader now clock w → run.1.orders = w.orders) ∧
    (run.2 = .ok () → Commits setting faults user request authHeader now clock w) := by
  intro run
  by_cases got : w.locked = false ∧ faults.lock = .none
  · obtain ⟨free, lock⟩ := got
    obtain ⟨orders, returns⟩ : run.1.orders = _ ∧ (run.2 = .ok () → _) :=
      exec_createOrder_of_free free lock
    obtain ⟨committed, missing, reached⟩ :=
      exec_placeOrder_orders setting faults user request authHeader now clock { w with locked := true }
    refine ⟨?_, ?_, ?_⟩
    · intro commits
      obtain ⟨written, prepared⟩ := commits.prepared
      refine ⟨written, prepared, ?_⟩
      rw [orders, committed written prepared, if_pos commits.done]
    · intro misses
      rw [orders]
      by_cases prepared : ∃ written, ((prepareOrder setting faults user request authHeader now
          clock).exec { w with locked := true }).2 = .ok written
      · obtain ⟨written, prepared⟩ := prepared
        rw [committed written prepared, if_neg]
        exact fun done => misses ⟨free, lock, ⟨written, prepared⟩, done⟩
      · exact missing fun written outcome => prepared ⟨written, outcome⟩
    · intro returned
      obtain ⟨done, prepared⟩ := reached (returns returned)
      exact ⟨free, lock, prepared, done⟩
  · have missed : ¬ Commits setting faults user request authHeader now clock w :=
      fun commits => got ⟨commits.free, commits.lock⟩
    obtain ⟨raised, orders, result⟩ := exec_createOrder_of_taken got
    refine ⟨fun commits => absurd commits missed, fun _ => orders, fun returned => ?_⟩
    rw [show run.2 = _ from result] at returned
    cases returned

/-- The commit adds its order. -/
theorem adds_commit {orders : Orders.State} {written : Written}
    (absent : orders.orders.find? written.order.id = none) :
    Adds orders (orders.commit written) written.order where
  new := absent
  there := by rw [Orders.State.commit_orders, Table.find?_put_self]
  others := fun _ other => by rw [Orders.State.commit_orders, Table.find?_put_other _ other.symm]

/-- **From the cart to the order, exactly.** Whatever fails on the way: a checkout that succeeds, and any
other whose commit takes effect, has placed one order, which is the cart line by line and cent by cent
with the menu's names; and a checkout that raises before its commit has written nothing. -/
theorem checkout_exact (setting : Setting) (faults : Faults) (user : Identity)
    (request : CheckoutRequest) (authHeader : String) (now : Timestamp) (clock : LocalTime)
    (w : World) :
    let run := (createOrderFromCheckout setting faults user request authHeader now clock).exec w
    (run.2 = .ok () ∨ Commits setting faults user request authHeader now clock w → ∃ order,
      Adds w.orders run.1.orders order ∧
      OrderExact w.restaurants.items (w.cart.view setting.sha256) request order) ∧
    (¬ Commits setting faults user request authHeader now clock w → run.1.orders = w.orders) := by
  intro run
  obtain ⟨committed, nothing, returned⟩ :=
    exec_createOrder_orders setting faults user request authHeader now clock w
  refine ⟨fun succeeds => ?_, nothing⟩
  obtain ⟨written, prepared, orders⟩ := committed (succeeds.elim returned id)
  obtain ⟨absent, exact_order, _⟩ := exact_of_prepared prepared
  refine ⟨written.order, ?_, exact_order⟩
  rw [show run.1.orders = w.orders.commit written from orders]
  exact adds_commit absent

end FoodDelivery.Checkout
