/-
**Ordering again** (`services/orders/app/reorder.py`).

The batch lookup decides which lines of a past order are carried over; then the old cart is cleared, and
every line that is carried over is added with a lookup of its own. The menu may change between the two,
and a call may fail.

* `accounted_of_ok`: a reorder that returns accounts for every line;
* `reorder_iff`: it also leaves the cart alone whenever it raises, exactly when one restaurant offers all
  lines that are carried over, or the cart before was by chance what had been added until one failed;
* `past_of_exact`: the orders that checkout places are such as a reorder expects.
-/

import FoodDelivery.Checkout.Placing
import FoodDelivery.Orders.Actions
import FoodDelivery.Orders.Basket

set_option autoImplicit false

namespace FoodDelivery.Orders

open FoodDelivery.Lib

/-! ### What a reorder accounts for -/

/-- The item and the quantity of a line that is stored, and of one that was ordered. -/
def StoredLine.amount (line : StoredLine) : Nat × Nat := (line.menuItemId, line.quantity)

def OrderItem.amount (line : OrderItem) : Nat × Nat := (line.menuItemId, line.quantity)

/-- **Every line is accounted for**: the lines are split into those that the cart holds, with exactly
their quantities and nothing else with them, and those that are named in `skipped`. -/
structure Accounted (lines : List OrderItem) (skipped : List String) (cart : StoredCart)
    (kept left : List OrderItem) : Prop where
  split : (kept ++ left).Perm lines
  held : cart.items.rows.map StoredLine.amount = kept.map OrderItem.amount
  named : List.Forall₂ (fun line text => text = skippedText line unavailable ∨
    text = skippedText line soldOut) left skipped

/-! ### What the lookups of the lines offer -/

/-- What the lookup of a line offers: its first row, if that is available. -/
def offered (pair : OrderItem × Basket.Answer) : Option MenuRow :=
  match pair.2 with
  | .error _ => none
  | .ok rows => rows.head?.filter fun item => item.isAvailable

/-- The line that it makes in a cart without the item. -/
def storedLine (pair : OrderItem × Basket.Answer) : Option StoredLine :=
  (offered pair).map fun item => ⟨pair.1.menuItemId, item.name, item.price, pair.1.quantity⟩

/-- The restaurant of the first line. -/
def restaurantOf (pairs : List (OrderItem × Basket.Answer)) : Option Nat :=
  (pairs.head?.bind offered).map MenuRow.restaurantId

/-- The line can be added to a cart of the restaurant, if it has one. -/
def Accepts (restaurantId : Option Nat) (pair : OrderItem × Basket.Answer) : Prop :=
  ∃ item, offered pair = some item ∧ (restaurantId = none ∨ restaurantId = some item.restaurantId)

section Loop

variable {b filled : Basket} {pair : OrderItem × Basket.Answer}
  {pairs : List (OrderItem × Basket.Answer)} {rows : List LookupRow} {lines : List OrderItem}

theorem offered_eq_some {item : MenuRow} : offered pair = some item ↔
    ∃ rows, pair.2 = .ok rows ∧ rows.head? = some item ∧ item.isAvailable = true := by
  unfold offered
  cases pair.2 with
  | error raised => simp
  | ok rows => simp [Option.filter_eq_some_iff]

/-- A row whose key is new goes to the end. -/
theorem rows_put_of_absent {cart : StoredCart} {line : StoredLine}
    (absent : line.menuItemId ∉ cart.items.rows.map StoredLine.menuItemId) :
    (cart.items.put line).rows = cart.items.rows ++ [line] := by
  rw [Table.put, dif_neg absent]

theorem savedLine_of_absent {cart : StoredCart} {menuItemId : Nat} {item : MenuRow} (quantity : Nat)
    (absent : menuItemId ∉ cart.items.rows.map StoredLine.menuItemId) :
    savedLine cart menuItemId quantity item = ⟨menuItemId, item.name, item.price, quantity⟩ := by
  have none_yet : cart.items.find? menuItemId = none := by
    refine Table.find?_eq_none.mpr fun line listed same => absent ?_
    exact List.mem_map.mpr ⟨line, listed, same⟩
  simp [savedLine, StoredCart.quantity, none_yet]

theorem accepts_iff : Accepts b.cart.restaurantId pair ↔ ∃ next, b.addLine pair = .ok next := by
  constructor
  · rintro ⟨item, offers, owner⟩
    obtain ⟨rows, found, first, available⟩ := offered_eq_some.mp offers
    exact ⟨_, Basket.addItem_ok.mpr ⟨rows, item, found, first, available, owner, rfl⟩⟩
  · rintro ⟨next, added⟩
    obtain ⟨rows, item, found, first, available, owner, -⟩ := Basket.addItem_ok.mp added
    exact ⟨item, offered_eq_some.mpr ⟨rows, found, first, available⟩, owner⟩

/-- A cart that has no restaurant gets that of the first line. -/
theorem restaurantId_addLine (added : b.addLine pair = .ok filled) :
    filled.cart.restaurantId = b.cart.restaurantId.or (restaurantOf [pair]) := by
  obtain ⟨rows, item, found, first, available, owner, rfl⟩ := Basket.addItem_ok.mp added
  have offers := offered_eq_some.mpr ⟨rows, found, first, available⟩
  rcases owner with none_yet | own
  · simp [none_yet, restaurantOf, offers]
  · simp [own]

/-- A line for an item that the cart does not hold becomes its last. -/
theorem rows_addLine (added : b.addLine pair = .ok filled)
    (absent : pair.1.menuItemId ∉ b.cart.items.rows.map StoredLine.menuItemId) :
    ∃ line, storedLine pair = some line ∧ line.amount = pair.1.amount ∧
      filled.cart.items.rows = b.cart.items.rows ++ [line] := by
  obtain ⟨rows, item, found, first, available, -, rfl⟩ := Basket.addItem_ok.mp added
  have offers := offered_eq_some.mpr ⟨rows, found, first, available⟩
  refine ⟨⟨pair.1.menuItemId, item.name, item.price, pair.1.quantity⟩, ?_, rfl, ?_⟩
  · rw [storedLine, offers, Option.map_some]
  · rw [savedLine_of_absent pair.1.quantity absent, rows_put_of_absent absent]

/-- The restaurant of a cart stays the same once it has one. -/
theorem or_restaurantOf (pairs : List (OrderItem × Basket.Answer)) {restaurantId : Option Nat}
    (accepts : Accepts restaurantId pair) :
    restaurantId.or (restaurantOf (pair :: pairs)) = restaurantId.or (restaurantOf [pair]) ∧
      (restaurantId.or (restaurantOf [pair])).or (restaurantOf pairs) =
        restaurantId.or (restaurantOf [pair]) ∧
      Accepts (restaurantId.or (restaurantOf [pair])) pair := by
  obtain ⟨item, offers, owner⟩ := accepts
  rcases owner with rfl | rfl
  · simp [restaurantOf, Accepts, offers]
  · simp [restaurantOf, Accepts, offers]

/-- **Lines that are added** are offered by one restaurant, -/
theorem accepts_foldlM (added : pairs.foldlM Basket.addLine b = .ok filled) :
    filled.cart.restaurantId = b.cart.restaurantId.or (restaurantOf pairs) ∧
      ∀ pair ∈ pairs, Accepts (b.cart.restaurantId.or (restaurantOf pairs)) pair := by
  induction pairs generalizing b with
  | nil =>
    cases added
    simp [restaurantOf]
  | cons pair pairs hyp =>
    obtain ⟨next, first, rest⟩ := foldlM_cons_eq_ok.mp added
    obtain ⟨whole, later, own⟩ := or_restaurantOf pairs (accepts_iff.mpr ⟨next, first⟩)
    obtain ⟨ended, each⟩ := hyp rest
    rw [restaurantId_addLine first, later] at ended each
    rw [whole]
    exact ⟨ended, List.forall_mem_cons.mpr ⟨own, each⟩⟩

/-- and lines that one restaurant offers are added. -/
theorem foldlM_of_accepts
    (accepts : ∀ pair ∈ pairs, Accepts (b.cart.restaurantId.or (restaurantOf pairs)) pair) :
    ∃ filled, pairs.foldlM Basket.addLine b = .ok filled := by
  induction pairs generalizing b with
  | nil => exact ⟨b, rfl⟩
  | cons pair pairs hyp =>
    have first : Accepts b.cart.restaurantId pair := by
      obtain ⟨item, offers, owner⟩ := accepts pair List.mem_cons_self
      cases own : b.cart.restaurantId with
      | none => exact ⟨item, offers, Or.inl rfl⟩
      | some restaurantId =>
        rw [own, Option.some_or] at owner
        exact ⟨item, offers, owner⟩
    obtain ⟨next, added⟩ := accepts_iff.mp first
    obtain ⟨whole, later, -⟩ := or_restaurantOf pairs first
    obtain ⟨filled, rest⟩ := hyp (b := next) fun other among => by
      rw [restaurantId_addLine added, later, ← whole]
      exact accepts other (List.mem_cons_of_mem pair among)
    exact ⟨filled, foldlM_cons_eq_ok.mpr ⟨next, added, rest⟩⟩

/-- **What the added lines come to**, when they are for different items. -/
theorem rows_foldlM (added : pairs.foldlM Basket.addLine b = .ok filled)
    (distinct : (b.cart.items.rows.map StoredLine.menuItemId ++
      pairs.map fun pair => pair.1.menuItemId).Nodup) :
    filled.cart.items.rows = b.cart.items.rows ++ pairs.filterMap storedLine ∧
      (pairs.filterMap storedLine).map StoredLine.amount = pairs.map fun pair => pair.1.amount := by
  induction pairs generalizing b with
  | nil =>
    cases added
    simp
  | cons pair pairs hyp =>
    obtain ⟨next, first, rest⟩ := foldlM_cons_eq_ok.mp added
    rw [List.map_cons] at distinct
    have absent : pair.1.menuItemId ∉ b.cart.items.rows.map StoredLine.menuItemId := by
      intro present
      exact (List.disjoint_of_nodup_append distinct) present List.mem_cons_self
    obtain ⟨line, stored, amount, rows⟩ := rows_addLine first absent
    have ids : next.cart.items.rows.map StoredLine.menuItemId =
        b.cart.items.rows.map StoredLine.menuItemId ++ [pair.1.menuItemId] := by
      rw [rows, List.map_append, List.map_singleton, show line.menuItemId = pair.1.menuItemId from
        congrArg Prod.fst amount]
    obtain ⟨others, amounts⟩ := hyp rest (by rw [ids, List.append_assoc]; exact distinct)
    rw [List.filterMap_cons_some stored]
    refine ⟨?_, ?_⟩
    · rw [others, rows, List.append_assoc, List.singleton_append]
    · rw [List.map_cons, List.map_cons, amount, amounts]

theorem skipReason_cases {line : OrderItem} {reason : String}
    (skips : skipReason rows line = some reason) : reason = unavailable ∨ reason = soldOut := by
  unfold skipReason at skips
  split at skips
  · exact Or.inl (Option.some_inj.mp skips).symm
  · split_ifs at skips
    · exact Or.inl (Option.some_inj.mp skips).symm
    · exact Or.inr (Option.some_inj.mp skips).symm

/-- The lines that are named are those that are not carried over. -/
theorem named_skippedTexts (lines : List OrderItem) :
    List.Forall₂ (fun line text => text = skippedText line unavailable ∨
        text = skippedText line soldOut)
      (lines.filter fun line => skipReason rows line ≠ none) (skippedTexts rows lines) := by
  induction lines with
  | nil => exact List.Forall₂.nil
  | cons line lines hyp =>
    rw [skippedTexts]
    cases reason : skipReason rows line with
    | none =>
      rw [List.filter_cons_of_neg (by simp [reason]), List.filterMap_cons_none (by rw [reason]; rfl)]
      exact hyp
    | some text =>
      rw [List.filter_cons_of_pos (by simp [reason]), List.filterMap_cons_some (by rw [reason]; rfl)]
      refine List.Forall₂.cons ?_ hyp
      rcases skipReason_cases reason with rfl | rfl
      · exact Or.inl rfl
      · exact Or.inr rfl

theorem map_fst_asked (lines : List OrderItem) (answers : ReorderAnswers) :
    (asked lines answers).map Prod.fst = lines := by
  rw [asked, List.map_map]
  exact List.zipIdx_map_fst 0 lines

theorem map_fst_carried (rows : List LookupRow) (pairs : List (OrderItem × Basket.Answer)) :
    (carried rows pairs).map Prod.fst =
      (pairs.map Prod.fst).filter fun line => skipReason rows line = none := by
  rw [carried, List.filter_map]
  rfl

/-- **A loop that ends accounts for every line.** -/
theorem accounted_of_ok {answers : ReorderAnswers} {out : List String}
    (distinct : (lines.map OrderItem.menuItemId).Nodup)
    (returned : refill rows (asked lines answers) [] b.clearCart = (.ok out, filled)) :
    Accounted lines out filled.cart (lines.filter fun line => skipReason rows line = none)
      (lines.filter fun line => skipReason rows line ≠ none) := by
  obtain ⟨added, rfl⟩ := refill_eq_ok.mp returned
  have kept := map_fst_carried rows (asked lines answers)
  rw [map_fst_asked] at kept
  refine ⟨?_, ?_, ?_⟩
  · simpa using List.filter_append_perm (fun line => skipReason rows line = none) lines
  · have ids : (carried rows (asked lines answers)).map (fun pair => pair.1.menuItemId) =
        (lines.filter fun line => skipReason rows line = none).map OrderItem.menuItemId := by
      rw [← kept, List.map_map]
      rfl
    obtain ⟨held, amounts⟩ := rows_foldlM added (by
      rw [ids]
      exact distinct.sublist ((List.filter_sublist).map _))
    rw [held, ← kept, List.map_map]
    exact amounts
  · rw [map_fst_asked, List.nil_append]
    exact named_skippedTexts lines

end Loop

/-! ### The order that is ordered again -/

/-- Only the customer's own order is ordered again. -/
theorem linesToReorder_ok {s : State} {user : Identity} {orderId : Nat} {lines : List OrderItem}
    (found : linesToReorder s user orderId = .ok lines) :
    ∃ order, s.orders.find? orderId = some order ∧ order.customerId = user.userId ∧
      order.items = lines ∧ lines ≠ [] := by
  unfold linesToReorder at found
  cases stored : s.orders.find? orderId with
  | none =>
    rw [stored] at found
    cases found
  | some order =>
    rw [stored] at found
    obtain ⟨seen, visible, checked⟩ := bind_eq_ok.mp found
    obtain rfl := orderForUser_ok visible
    by_cases own : seen.customerId ≠ user.userId
    · rw [if_pos own] at checked
      cases checked
    · rw [if_neg own] at checked
      by_cases empty : seen.items = []
      · rw [if_pos empty] at checked
        cases checked
      · rw [if_neg empty] at checked
        cases checked
        exact ⟨seen, rfl, not_not.mp own, rfl, empty⟩

/-- **The orders that checkout places** are for different items, and for some of each. -/
theorem past_of_exact {menu : Restaurants.Items} {sha256 : String → String} {cart : StoredCart}
    {request : CheckoutRequest} {order : Order}
    (placed : Checkout.OrderExact menu (cart.view sha256) request order)
    (positive : ∀ line ∈ cart.items.rows, 1 ≤ line.quantity) :
    (∀ line ∈ order.items, 1 ≤ line.quantity) ∧ (order.items.map OrderItem.menuItemId).Nodup := by
  have amounts : (cart.view sha256).items.map (fun line => (line.menuItemId, line.quantity)) =
      order.items.map OrderItem.amount := by
    rw [← List.forall₂_eq_eq_eq, List.forall₂_map_left_iff, List.forall₂_map_right_iff]
    refine placed.lines.imp fun line ordered exact_line => ?_
    obtain ⟨item, -, rfl⟩ := exact_line
    rfl
  constructor
  · intro line ordered
    have among : line.amount ∈
        (cart.view sha256).items.map (fun line => (line.menuItemId, line.quantity)) := by
      rw [amounts]
      exact List.mem_map_of_mem ordered
    obtain ⟨shown, listed, same⟩ := List.mem_map.mp among
    obtain ⟨stored, present, rfl⟩ := stored_of_mem_view listed
    have quantity : stored.quantity = line.quantity := congrArg Prod.snd same
    exact quantity ▸ positive stored present
  · have ids := congrArg (List.map Prod.fst) amounts
    rw [List.map_map, List.map_map] at ids
    have distinct := distinct_view sha256 cart
    rw [show (cart.view sha256).items.map CartItemView.menuItemId =
      order.items.map OrderItem.menuItemId from ids] at distinct
    exact distinct

/-! ### When a reorder loses no cart -/

section Faithful

variable {view : StoredCart → CartView} {orders : PastOrders} {user : Identity} {orderId : Nat}
  {answers : ReorderAnswers} {b : Basket}

/-- **What a reorder should do.** If it returns, every line is in the cart or named, and the cart that is
answered is the stored one; if it raises, the cart is what it was. -/
structure Faithful (view : StoredCart → CartView) (orders : PastOrders) (user : Identity)
    (orderId : Nat) (answers : ReorderAnswers) (b : Basket) : Prop where
  returned : ∀ result, (reorder view orders.state user orderId answers b).1 = .ok result →
    ∃ order kept left, orders.state.orders.find? orderId = some order ∧
      Accounted order.items result.skipped
        (reorder view orders.state user orderId answers b).2.cart kept left ∧
      result.cart = view (reorder view orders.state user orderId answers b).2.cart
  raised : ∀ failure, (reorder view orders.state user orderId answers b).1 = .error failure →
    (reorder view orders.state user orderId answers b).2.cart = b.cart

/-- **A reorder that returns** accounts for every line. -/
theorem returned_reorder {result : ReorderResult}
    (returned : (reorder view orders.state user orderId answers b).1 = .ok result) :
    ∃ order kept left, orders.state.orders.find? orderId = some order ∧
      Accounted order.items result.skipped
        (reorder view orders.state user orderId answers b).2.cart kept left ∧
      result.cart = view (reorder view orders.state user orderId answers b).2.cart := by
  rcases reorder_cases view orders.state user orderId answers b with
    ⟨failure, ended⟩ | ⟨lines, rows, outcome, filled, found, -, loop, ended⟩
  · rw [ended] at returned
    cases returned
  · rw [ended] at returned ⊢
    obtain ⟨order, stored, -, rfl, -⟩ := linesToReorder_ok found
    have distinct := orders.distinct order (Table.find?_eq_some.mp stored).1
    cases outcome with
    | error failure => cases returned
    | ok skipped =>
      cases returned
      exact ⟨order, _, _, stored, accounted_of_ok distinct loop, rfl⟩

/-- **What a failure finds again.** Where the lines up to one are offered by one restaurant and that one is
not, the cart was already made of these lines. -/
def FoundAgain (pairs : List (OrderItem × Basket.Answer)) (cart : StoredCart) : Prop :=
  ∀ before pair after, pairs = before ++ pair :: after →
    (∀ earlier ∈ before, Accepts (restaurantOf before) earlier) →
    ¬ Accepts (restaurantOf before) pair →
    cart.restaurantId = restaurantOf before ∧ cart.items.rows = before.filterMap storedLine

theorem cart_ext {first second : StoredCart} (restaurant : first.restaurantId = second.restaurantId)
    (rows : first.items.rows = second.items.rows) : first = second := by
  obtain ⟨restaurantId, items, distinct⟩ := first
  obtain ⟨other, others, distinct'⟩ := second
  obtain rfl : restaurantId = other := restaurant
  obtain rfl : items = others := rows
  rfl

/-- The lines that are carried over are for different items. -/
theorem distinct_carried {lines : List OrderItem} {rows : List LookupRow}
    {before rest : List (OrderItem × Basket.Answer)}
    (found : linesToReorder orders.state user orderId = .ok lines)
    (split : carried rows (asked lines answers) = before ++ rest) :
    (before.map fun pair => pair.1.menuItemId).Nodup := by
  obtain ⟨order, stored, -, rfl, -⟩ := linesToReorder_ok found
  have distinct := orders.distinct order (Table.find?_eq_some.mp stored).1
  rw [← map_fst_asked order.items answers, List.map_map] at distinct
  refine distinct.sublist (List.Sublist.map _ ?_)
  refine (List.sublist_append_left before rest).trans ?_
  rw [← split, carried]
  exact List.filter_sublist

/-- **When a reorder loses no cart.** For every past order, every cart and all answers, a reorder does
what it should exactly when all lines that the batch lookup lets through are offered by one restaurant
when they are added, or else the cart before the call was made of those up to the first that is not. -/
theorem reorder_iff (view : StoredCart → CartView) (orders : PastOrders) (user : Identity)
    (orderId : Nat) (answers : ReorderAnswers) (b : Basket) :
    Faithful view orders user orderId answers b ↔
      ∀ lines rows, linesToReorder orders.state user orderId = .ok lines → answers.batch = .ok rows →
        FoundAgain (carried rows (asked lines answers)) b.cart := by
  constructor
  · intro faithful lines rows found batch before pair after split accepted refused
    obtain ⟨filled, added⟩ := foldlM_of_accepts (b := b.clearCart) accepted
    have restaurant : filled.cart.restaurantId = restaurantOf before := (accepts_foldlM added).1
    have held := (rows_foldlM added (distinct_carried found split)).1
    cases failed : filled.addLine pair with
    | ok next =>
      have accepts := accepts_iff.mpr ⟨next, failed⟩
      rw [restaurant] at accepts
      exact absurd accepts refused
    | error failure =>
      have loop : refill rows (asked lines answers) [] b.clearCart = (.error failure, filled) :=
        refill_eq_error.mpr ⟨before, pair, after, split, added, failed⟩
      have raised := faithful.raised failure
      simp only [reorder, found, batch, loop] at raised
      rw [← raised trivial]
      exact ⟨restaurant, held⟩
  · intro found_again
    refine ⟨fun result => returned_reorder, fun failure raised => ?_⟩
    rcases reorder_cases view orders.state user orderId answers b with
      ⟨other, ended⟩ | ⟨lines, rows, outcome, filled, found, batch, loop, ended⟩
    · rw [ended]
    · rw [ended] at raised ⊢
      cases outcome with
      | ok skipped => cases raised
      | error other =>
        obtain ⟨before, pair, after, split, added, failed⟩ := refill_eq_error.mp loop
        obtain ⟨restaurant, accepted⟩ : filled.cart.restaurantId = restaurantOf before ∧
            ∀ earlier ∈ before, Accepts (restaurantOf before) earlier := accepts_foldlM added
        have held := (rows_foldlM added (distinct_carried found split)).1
        have refused : ¬ Accepts (restaurantOf before) pair := by
          rw [← restaurant, accepts_iff]
          rintro ⟨next, added_too⟩
          cases failed.symm.trans added_too
        obtain ⟨same, rows_same⟩ :=
          found_again lines rows found batch before pair after split accepted refused
        exact cart_ext (restaurant.trans same.symm) (held.trans rows_same.symm)

/-- One past order, of one thali. -/
def lastOrder : PastOrders where
  state :=
    { State.empty with
      orders := ⟨[{ id := 1, customerId := 7, restaurantId := 3, addressId := 5, subtotal := 20000,
                    total := 20000, createdAt := 0, updatedAt := 0, events := []
                    items := [⟨1, "Thali", 20000, 1, 20000⟩] }], by decide⟩ }
  positive := by decide
  distinct := by decide

/-- A cart with something else in it. -/
def dessert : Basket where
  cart := { restaurantId := some 4, items := ⟨[⟨9, "Kulfi", 8000, 2⟩], by decide⟩ }

/-- The thali is on the menu when all lines are looked up, and the call fails when it is added: the
reorder raises, and the kulfis are gone. -/
theorem not_faithful_lastOrder :
    ¬ ∀ (view : StoredCart → CartView) (orders : PastOrders) (user : Identity) (orderId : Nat)
      (answers : ReorderAnswers) (b : Basket), Faithful view orders user orderId answers b := by
  intro always
  have kept := (always (fun _ => {}) lastOrder ⟨7, "customer"⟩ 1
    ⟨.ok [⟨1, true, none⟩], fun _ => .error (.app { message := "unavailable", statusCode := 503 })⟩
    dessert).raised (.app { message := "unavailable", statusCode := 503 }) rfl
  have restaurants := congrArg StoredCart.restaurantId kept
  exact absurd restaurants (by decide)

end Faithful

end FoodDelivery.Orders
