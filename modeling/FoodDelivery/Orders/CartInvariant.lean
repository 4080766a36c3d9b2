/-
**What always holds of a cart** (`services/orders/app/cart.py`, `services/orders/app/reorder.py`).

A run is any sequence of changes to one customer's cart: items added with whatever their lookup answers,
quantities set, lines removed, the cart cleared, and past orders ordered again.

* `cart_always`: the cart has a restaurant exactly when it has lines, every line was added from that
  restaurant and for at least one portion, no two are for one item, the view shows each of them once in
  the order of their ids, and a change that raises leaves the cart as it was, ordering again aside;
* `decimalView`: the view with the amounts that `Decimal` arithmetic gives, which keeps 28 digits, so that
  line totals and subtotal are exact while they have no more (`not_always_exactly`).
-/

import FoodDelivery.Lib.Decimals
import FoodDelivery.Lib.Histories
import FoodDelivery.Orders.Reorder

set_option autoImplicit false

namespace FoodDelivery.Orders

open FoodDelivery.Lib

/-! ### Changes -/

/-- A change to a cart, with what the restaurants service answers to it. -/
inductive Change where
  | addItem (menuItemId quantity : Nat) (positive : 1 ≤ quantity) (answer : Basket.Answer)
  | updateItem (menuItemId quantity : Nat)
  | removeItem (menuItemId : Nat)
  | clearCart
  | reorder (orders : PastOrders) (user : Identity) (orderId : Nat) (answers : ReorderAnswers)

/-- What an operation that saves once leaves: the cart as it was, if it raises. -/
def saved (b : Basket) : Except Raised Basket → Except Raised Unit × Basket
  | .error raised => (.error raised, b)
  | .ok next => (.ok (), next)

/-- Whether a change raises, and the basket that it leaves. -/
def Change.outcome (b : Basket) : Change → Except Raised Unit × Basket
  | .addItem menuItemId quantity _ answer => saved b (b.addItem menuItemId quantity answer)
  | .updateItem menuItemId quantity => saved b (b.updateItem menuItemId quantity)
  | .removeItem menuItemId => saved b (b.removeItem menuItemId)
  | .clearCart => (.ok (), b.clearCart)
  | .reorder orders user orderId answers =>
    -- the view that it answers with is not looked at
    let ended := Orders.reorder (fun _ => {}) orders.state user orderId answers b
    (ended.1.map fun _ => (), ended.2)

/-- The change is another than ordering again. -/
def Change.savesOnce : Change → Prop
  | .reorder _ _ _ _ => False
  | _ => True

def change (b : Basket) (c : Change) : Basket := (c.outcome b).2

/-! ### The invariant -/

/-- The item was added from the restaurant, and has not left the cart or come from another since. -/
def AddedFrom (history : List Entry) (menuItemId restaurantId : Nat) : Prop :=
  Since (fun _ entry => entry = .added menuItemId restaurantId)
    (fun _ entry => entry = .removed menuItemId ∨ entry = .cleared ∨
      ∃ other, other ≠ restaurantId ∧ entry = .added menuItemId other) history

/-- **What always holds of a cart and its history.** -/
structure Sound (b : Basket) : Prop where
  empty : b.cart.restaurantId = none ↔ b.cart.items.rows = []
  source : ∀ line ∈ b.cart.items.rows, ∃ restaurantId, b.cart.restaurantId = some restaurantId ∧
    AddedFrom b.history line.menuItemId restaurantId
  positive : ∀ line ∈ b.cart.items.rows, 1 ≤ line.quantity
  distinct : (b.cart.items.rows.map StoredLine.menuItemId).Nodup

theorem sound_empty : Sound {} :=
  ⟨iff_of_true rfl rfl, by simp [Table.empty], by simp [Table.empty], Table.unique _⟩

section Keep

variable {b next : Basket} {menuItemId quantity : Nat} {answer : Basket.Answer}

theorem addedFrom_added {history : List Entry} {restaurantId id : Nat}
    (earlier : id = menuItemId ∨ AddedFrom history id restaurantId) :
    AddedFrom (history ++ [.added menuItemId restaurantId]) id restaurantId := by
  refine since_append_singleton.mpr ?_
  rcases earlier with rfl | earlier
  · exact Or.inl rfl
  · refine Or.inr ⟨earlier, ?_⟩
    simp

theorem sound_addItem (sound : Sound b) (some_portion : 1 ≤ quantity)
    (added : b.addItem menuItemId quantity answer = .ok next) : Sound next := by
  obtain ⟨rows, item, -, -, -, owner, rfl⟩ := Basket.addItem_ok.mp added
  have filled : (b.cart.items.put (savedLine b.cart menuItemId quantity item)).rows ≠ [] :=
    List.ne_nil_of_mem (Table.mem_put.mpr (Or.inl rfl))
  refine ⟨iff_of_false (Option.some_ne_none _) filled, fun line listed => ?_, fun line listed => ?_,
    Table.unique _⟩
  · refine ⟨item.restaurantId, rfl, addedFrom_added ?_⟩
    rcases Table.mem_put.mp listed with rfl | ⟨present, -⟩
    · exact Or.inl rfl
    · -- the cart had a restaurant, since it had this line
      obtain ⟨restaurantId, same, from_it⟩ := sound.source line present
      rcases owner with none_yet | own
      · exact absurd (same.symm.trans none_yet) (Option.some_ne_none _)
      · obtain rfl := Option.some_inj.mp (same.symm.trans own)
        exact Or.inr from_it
  · rcases Table.mem_put.mp listed with rfl | ⟨present, -⟩
    · exact Nat.le_add_left_of_le some_portion
    · exact sound.positive line present

/-- A line after a change of quantity: the changed one, or an old one that has not been removed. -/
theorem mem_updated {cart : StoredCart} {line other : StoredLine}
    {items : Table Nat StoredLine StoredLine.menuItemId}
    (changed : items = if quantity = 0 then cart.items.filter fun other => other.menuItemId ≠ menuItemId
      else cart.items.put { line with quantity := quantity }) (listed : other ∈ items.rows) :
    (quantity ≠ 0 ∧ other = { line with quantity := quantity }) ∨
      (other ∈ cart.items.rows ∧ (quantity = 0 → other.menuItemId ≠ menuItemId)) := by
  by_cases removed : quantity = 0
  · rw [changed, if_pos removed] at listed
    obtain ⟨old, kept⟩ := List.mem_filter.mp listed
    exact Or.inr ⟨old, fun _ => of_decide_eq_true kept⟩
  · rw [changed, if_neg removed] at listed
    rcases Table.mem_put.mp listed with new | ⟨old, -⟩
    · exact Or.inl ⟨removed, new⟩
    · exact Or.inr ⟨old, fun none_left => absurd none_left removed⟩

/-- What was added is still added when another line has been removed. -/
theorem addedFrom_updated {history : List Entry} {restaurantId id : Nat}
    (other : quantity = 0 → id ≠ menuItemId) (earlier : AddedFrom history id restaurantId) :
    AddedFrom (history ++ if quantity = 0 then [.removed menuItemId] else []) id restaurantId := by
  by_cases removed : quantity = 0
  · rw [if_pos removed]
    refine since_append_singleton.mpr (Or.inr ⟨earlier, ?_⟩)
    simp [(other removed).symm]
  · rw [if_neg removed, List.append_nil]
    exact earlier

theorem sound_updateItem (sound : Sound b) (updated : b.updateItem menuItemId quantity = .ok next) :
    Sound next := by
  obtain ⟨saved, history⟩ := Basket.updateItem_ok.mp updated
  obtain ⟨line, items, found, changed, cart⟩ := updateItem_ok.mp saved
  have present := (Table.find?_eq_some.mp found).1
  have owned : b.cart.restaurantId ≠ none := fun none_yet =>
    List.ne_nil_of_mem present (sound.empty.mp none_yet)
  refine ⟨?_, fun other listed => ?_, fun other listed => ?_, Table.unique _⟩
  · rw [cart]
    by_cases none_left : items.rows = []
    · exact iff_of_true (if_pos none_left) none_left
    · rw [if_neg none_left]
      exact iff_of_false owned none_left
  · rw [cart] at listed ⊢
    rw [if_neg (List.ne_nil_of_mem listed), history]
    rcases mem_updated changed listed with ⟨some_left, rfl⟩ | ⟨old, kept⟩
    · obtain ⟨restaurantId, same, from_it⟩ := sound.source line present
      exact ⟨restaurantId, same, addedFrom_updated (fun none_left => absurd none_left some_left) from_it⟩
    · obtain ⟨restaurantId, same, from_it⟩ := sound.source other old
      exact ⟨restaurantId, same, addedFrom_updated kept from_it⟩
  · rw [cart] at listed
    rcases mem_updated changed listed with ⟨some_left, rfl⟩ | ⟨old, -⟩
    · exact Nat.one_le_iff_ne_zero.mpr some_left
    · exact sound.positive other old

theorem sound_clearCart : Sound b.clearCart :=
  ⟨iff_of_true rfl rfl, by simp [Basket.clearCart, Table.empty],
    by simp [Basket.clearCart, Table.empty], Table.unique _⟩

theorem sound_foldlM {pairs : List (OrderItem × Basket.Answer)} (sound : Sound b)
    (some_portions : ∀ pair ∈ pairs, 1 ≤ pair.1.quantity)
    (added : pairs.foldlM Basket.addLine b = .ok next) : Sound next := by
  refine foldlM_keeps (fun b pair next among sound added => ?_) sound added
  exact sound_addItem sound (some_portions pair among) added

/-- A refill leaves some of the lines of the order, whether it ends or raises. -/
theorem sound_refill {rows : List LookupRow} {pairs : List (OrderItem × Basket.Answer)}
    {outcome : Except Raised (List String)} (some_portions : ∀ pair ∈ pairs, 1 ≤ pair.1.quantity)
    (ended : refill rows pairs [] b.clearCart = (outcome, next)) : Sound next := by
  have each : ∀ pair ∈ carried rows pairs, 1 ≤ pair.1.quantity :=
    fun pair among => some_portions pair (List.mem_filter.mp among).1
  cases outcome with
  | ok skipped => exact sound_foldlM sound_clearCart each (refill_eq_ok.mp ended).1
  | error raised =>
    obtain ⟨before, pair, after, split, added, -⟩ := refill_eq_error.mp ended
    refine sound_foldlM sound_clearCart (fun pair among => each pair ?_) added
    rw [split]
    exact List.mem_append_left _ among

theorem sound_reorder {view : StoredCart → CartView} {orders : PastOrders} {user : Identity}
    {orderId : Nat} {answers : ReorderAnswers} (sound : Sound b) :
    Sound (reorder view orders.state user orderId answers b).2 := by
  rcases reorder_cases view orders.state user orderId answers b with
    ⟨raised, ended⟩ | ⟨lines, rows, outcome, filled, found, -, loop, ended⟩
  · rw [ended]
    exact sound
  · rw [ended]
    obtain ⟨order, stored, -, rfl, -⟩ := linesToReorder_ok found
    refine sound_refill (fun pair listed => ?_) loop
    have ordered : pair.1 ∈ order.items := by
      rw [← map_fst_asked order.items answers]
      exact List.mem_map_of_mem listed
    exact orders.positive order (Table.find?_eq_some.mp stored).1 pair.1 ordered

end Keep

/-- **Every change keeps the invariant.** -/
theorem sound_change (b : Basket) (c : Change) (sound : Sound b) : Sound (change b c) := by
  have kept : ∀ outcome : Except Raised Basket, (∀ next, outcome = .ok next → Sound next) →
      Sound (saved b outcome).2 := by
    intro outcome each
    cases outcome with
    | error raised => exact sound
    | ok next => exact each next rfl
  cases c with
  | addItem menuItemId quantity positive answer => exact kept _ fun _ => sound_addItem sound positive
  | updateItem menuItemId quantity => exact kept _ fun _ => sound_updateItem sound
  | removeItem menuItemId => exact kept _ fun _ => sound_updateItem sound
  | clearCart => exact sound_clearCart
  | reorder orders user orderId answers => exact sound_reorder sound

/-- **A change that raises** leaves the cart as it was, ordering again aside. -/
theorem change_of_raised {b : Basket} {c : Change} {raised : Raised} (once : c.savesOnce)
    (failed : (c.outcome b).1 = .error raised) : change b c = b := by
  have unsaved : ∀ outcome : Except Raised Basket, (saved b outcome).1 = .error raised →
      (saved b outcome).2 = b := by
    intro outcome failed
    cases outcome with
    | error raised => rfl
    | ok next => cases failed
  cases c with
  | addItem menuItemId quantity positive answer => exact unsaved _ failed
  | updateItem menuItemId quantity => exact unsaved _ failed
  | removeItem menuItemId => exact unsaved _ failed
  | clearCart => cases failed
  | reorder orders user orderId answers => exact once.elim

/-! ### The view -/

/-- `unit_price * quantity`, as `Decimal` computes it. -/
def CartItemView.inDecimal (line : CartItemView) : CartItemView :=
  { line with lineTotal := toPrecision decimalDigits line.lineTotal }

/-- **The view that a customer gets**: `StoredCart.view`, with amounts of so many digits. -/
def StoredCart.decimalView (sha256 : String → String) (cart : StoredCart) : CartView :=
  let items := (cart.view sha256).items.map CartItemView.inDecimal
  { cart.view sha256 with
    items := items
    subtotal := sumTo decimalDigits (items.map CartItemView.lineTotal) }

/-- What a line of a view shows. -/
def CartItemView.shown (line : CartItemView) : StoredLine where
  menuItemId := line.menuItemId
  name := line.name
  unitPrice := line.unitPrice
  quantity := line.quantity

/-- **Every stored line once, in the order of the ids.** -/
structure Listed (view : CartView) (cart : StoredCart) : Prop where
  lines : (view.items.map CartItemView.shown).Perm cart.items.rows
  order : (view.items.map CartItemView.menuItemId).Pairwise (· < ·)

/-- The amounts of a view, exactly. -/
structure Exactly (view : CartView) : Prop where
  lines : ∀ line ∈ view.items, line.lineTotal = line.unitPrice * line.quantity
  subtotal : view.subtotal = (view.items.map CartItemView.lineTotal).sum

/-- The amounts of a view, to so many digits. -/
structure InDecimal (view : CartView) : Prop where
  lines : ∀ line ∈ view.items,
    line.lineTotal = toPrecision decimalDigits (line.unitPrice * line.quantity)
  subtotal : view.subtotal = sumTo decimalDigits (view.items.map CartItemView.lineTotal)

/-- What the lines of a cart come to, whatever the signs of their prices. -/
def StoredCart.magnitude (cart : StoredCart) : Nat :=
  (cart.items.rows.map fun line => (line.unitPrice * line.quantity).natAbs).sum

section View

variable {sha256 : String → String} {cart : StoredCart}

theorem shown_view (line : StoredLine) : line.view.shown = line := by
  simp [StoredLine.view, CartItemView.shown]

/-- The lines of the view are the stored ones, sorted by their ids. -/
theorem items_view (sha256 : String → String) (cart : StoredCart) :
    (cart.view sha256).items = (cart.items.rows.map StoredLine.view).insertionSort
      fun first second => first.menuItemId ≤ second.menuItemId := by
  rw [StoredCart.view]
  by_cases empty : cart.items.rows = []
  · rw [if_pos empty, empty]
    rfl
  · rw [if_neg empty]

theorem perm_view (sha256 : String → String) (cart : StoredCart) :
    (cart.view sha256).items.Perm (cart.items.rows.map StoredLine.view) := by
  rw [items_view]
  exact List.perm_insertionSort _ _

theorem listed_view (sha256 : String → String) (cart : StoredCart) :
    Listed (cart.view sha256) cart := by
  refine ⟨?_, ?_⟩
  · refine ((perm_view sha256 cart).map CartItemView.shown).trans (List.Perm.of_eq ?_)
    rw [List.map_map, show CartItemView.shown ∘ StoredLine.view = id from funext shown_view, List.map_id]
  · have sorted : ((cart.view sha256).items.map CartItemView.menuItemId).Pairwise (· ≤ ·) := by
      rw [List.pairwise_map, items_view]
      exact List.pairwise_insertionSort _ _
    exact (sorted.and (distinct_view sha256 cart)).imp fun both => lt_of_le_of_ne both.1 both.2

theorem listed_decimalView (sha256 : String → String) (cart : StoredCart) :
    Listed (cart.decimalView sha256) cart := by
  obtain ⟨lines, order⟩ := listed_view sha256 cart
  refine ⟨?_, ?_⟩
  · rw [StoredCart.decimalView, List.map_map]
    exact lines
  · rw [StoredCart.decimalView, List.map_map]
    exact order

theorem inDecimal_decimalView (sha256 : String → String) (cart : StoredCart) :
    InDecimal (cart.decimalView sha256) := by
  refine ⟨fun line listed => ?_, rfl⟩
  obtain ⟨exact_line, shown, rfl⟩ := List.mem_map.mp listed
  exact congrArg (toPrecision decimalDigits) (lineTotal_of_mem_view shown)

/-- **Nothing is rounded** while the lines together have no more digits. -/
theorem exactly_decimalView (short : cart.magnitude < 10 ^ decimalDigits) :
    Exactly (cart.decimalView sha256) := by
  have totals : (((cart.view sha256).items.map CartItemView.lineTotal).map Int.natAbs).sum =
      cart.magnitude := by
    rw [List.map_map, ((perm_view sha256 cart).map _).sum_eq, List.map_map, StoredCart.magnitude]
    congr 1
    refine List.map_congr_left fun line _ => ?_
    simp [StoredLine.view]
  have unrounded : ∀ line ∈ (cart.view sha256).items, line.inDecimal = line := by
    intro line listed
    have small : line.lineTotal.natAbs ≤ cart.magnitude := by
      rw [← totals]
      exact List.single_le_sum (fun _ _ => Nat.zero_le _) _
        (List.mem_map_of_mem (List.mem_map_of_mem listed))
    rw [CartItemView.inDecimal, toPrecision_of_lt (lt_of_le_of_lt small short)]
  have items : (cart.decimalView sha256).items = (cart.view sha256).items := by
    rw [StoredCart.decimalView, List.map_congr_left unrounded, List.map_id']
  refine ⟨fun line listed => ?_, ?_⟩
  · rw [items] at listed
    exact lineTotal_of_mem_view listed
  · rw [(inDecimal_decimalView sha256 cart).subtotal, items]
    exact sumTo_eq_sum (totals ▸ short)

end View

/-! ### Every run -/

/-- **What always holds of a cart.** In every run of changes to a cart, the cart is sound, its view lists
every line with the amounts of decimal arithmetic, which are exact while the lines together have no more
digits than it keeps, and a change that raises leaves the cart as it was, ordering again aside. -/
theorem cart_always (sha256 : String → String) (changes : List Change) :
    Always change
        (fun b => Sound b ∧ Listed (b.cart.decimalView sha256) b.cart ∧
          InDecimal (b.cart.decimalView sha256) ∧
          (b.cart.magnitude < 10 ^ decimalDigits → Exactly (b.cart.decimalView sha256)))
        {} changes ∧
      Throughout change
        (fun b c => ∀ raised, c.savesOnce → (c.outcome b).1 = .error raised →
          (change b c).cart = b.cart)
        {} changes := by
  constructor
  · refine (always_of_step sound_change sound_empty).mono fun b sound => ⟨sound, ?_, ?_, ?_⟩
    · exact listed_decimalView sha256 b.cart
    · exact inDecimal_decimalView sha256 b.cart
    · exact exactly_decimalView
  · refine throughout_of_forall fun b c raised once failed => ?_
    rw [change_of_raised once failed]

/-- Two items of one restaurant, at a paisa each. -/
def manyAndOne : List Change :=
  [.addItem 1 (10 ^ 28) (by decide) (.ok [⟨3, "Sesame seed", 1, true⟩]),
    .addItem 2 1 (by decide) (.ok [⟨3, "Poppy seed", 1, true⟩])]

/-- Of so many seeds that their count has 29 digits, one more makes no difference to the subtotal. -/
theorem not_always_exactly :
    ¬ ∀ (sha256 : String → String) (changes : List Change),
      Always change
          (fun b => Sound b ∧ Listed (b.cart.decimalView sha256) b.cart ∧
            Exactly (b.cart.decimalView sha256)) {} changes ∧
        Throughout change
          (fun b c => ∀ raised, c.savesOnce → (c.outcome b).1 = .error raised →
            (change b c).cart = b.cart) {} changes := by
  intro always
  have last := (always (fun _ => "") manyAndOne).1.last
  exact absurd last.2.2.subtotal (by decide)

end FoodDelivery.Orders
