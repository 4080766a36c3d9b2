/-
**The kitchens a release touches** (`services/restaurants/app/internal.py`, `release_stock`).

validate-order reads only the items of the restaurant in its path. release-stock, its inverse, moves
the stock of whatever items its lines name.

`touchesOnly_iff`: a request changes nothing but the stock of its own restaurant's items if and only
if it is refused or every tracked item that its lines name is on that restaurant's menu.
-/

import FoodDelivery.Restaurants.Internal

set_option autoImplicit false

namespace FoodDelivery.Restaurants

open FoodDelivery.Lib

/-! ### The frame of a stock movement -/

/-- An item before and after, when at most its stock has changed. -/
def SameButStock (before after : MenuItem) : Prop :=
  ∃ stock, after = { before with stockQuantity := stock }

theorem SameButStock.refl (item : MenuItem) : SameButStock item item := ⟨item.stockQuantity, rfl⟩

/-- **Nothing but the stock of one restaurant's items is different**: the other tables are as they
were, and so is every item, its stock excepted where it is on this restaurant's menu. -/
structure TouchesOnly (restaurantId : Nat) (s next : State) : Prop where
  restaurants : next.restaurants = s.restaurants
  openingHours : next.openingHours = s.openingHours
  categories : next.categories = s.categories
  outbox : next.outbox = s.outbox
  appeared : ∀ id, s.items.find? id = none → next.items.find? id = none
  items : ∀ id before, s.items.find? id = some before →
    ∃ after, next.items.find? id = some after ∧ SameButStock before after ∧
      (after ≠ before → before.restaurantId = restaurantId)

theorem TouchesOnly.refl (restaurantId : Nat) (s : State) : TouchesOnly restaurantId s s where
  restaurants := rfl
  openingHours := rfl
  categories := rfl
  outbox := rfl
  appeared := fun _ none_there => none_there
  items := fun _ before found => ⟨before, found, .refl before, fun differs => absurd rfl differs⟩

/-- `_move` touches at most the stock of an item. -/
theorem sameButStock_moveItem (lines : List StockLine) (sign : Int) (item : MenuItem) :
    SameButStock item (moveItem lines sign item) := by
  unfold moveItem
  split
  · exact ⟨_, rfl⟩
  · exact .refl item

/-- **A release changes an item** exactly when the item is tracked and something of it comes back. -/
theorem moveItem_returned_ne (lines : List StockLine) (item : MenuItem) :
    moveItem lines 1 item ≠ item ↔ item.stockQuantity.isSome ∧ 0 < wanted lines item.id := by
  have stock := stockQuantity_returned lines item
  obtain ⟨left, same⟩ := sameButStock_moveItem lines 1 item
  have stays : moveItem lines 1 item = item ↔ left = item.stockQuantity := by
    rw [same]
    exact ⟨fun eq => congrArg MenuItem.stockQuantity eq, fun eq => by rw [eq]⟩
  rw [Ne, stays]
  rw [same] at stock
  change left = _ at stock
  rw [stock]
  cases item.stockQuantity with
  | none => simp
  | some quantity =>
    rw [Option.map_some, Option.some_inj]
    simp only [Option.isSome_some, true_and]
    omega

/-- The lines that come back for an item are there, once their quantities are positive. -/
theorem wanted_pos {lines : List StockLine} (positive : ∀ line ∈ lines, 1 ≤ line.quantity) (id : Nat) :
    0 < wanted lines id ↔ id ∈ lines.map StockLine.menuItemId := by
  constructor
  · intro some_wanted
    by_contra absent
    rw [wanted_eq_zero absent] at some_wanted
    exact Nat.lt_irrefl 0 some_wanted
  · intro named
    obtain ⟨line, member, rfl⟩ := List.mem_map.mp named
    exact Nat.lt_of_lt_of_le (positive line member) (quantity_le_wanted member)

/-! ### The endpoint -/

/-- Every tracked item that the lines name is on the menu of the restaurant. -/
def NamesOnly (restaurantId : Nat) (items : Items) (lines : List OrderLine) : Prop :=
  ∀ line ∈ lines, ∀ item, items.find? line.menuItemId = some item →
    item.stockQuantity.isSome → item.restaurantId = restaurantId

/-- **What release-stock touches**, once it gets to its lines. -/
theorem touchesOnly_restoreOrder (restaurantId : Nat) (s : State) (lines : List OrderLine)
    (valid : lines.all OrderLine.valid = true) :
    TouchesOnly restaurantId s (releaseStock s lines) ↔ NamesOnly restaurantId s.items lines := by
  have positive : ∀ line ∈ lines.map OrderLine.stock, 1 ≤ line.quantity := by
    intro moved member
    obtain ⟨line, among, rfl⟩ := List.mem_map.mp member
    exact of_decide_eq_true (List.all_eq_true.mp valid line among)
  have named : ∀ id, id ∈ (lines.map OrderLine.stock).map StockLine.menuItemId ↔
      ∃ line ∈ lines, line.menuItemId = id := by
    intro id
    simp [OrderLine.stock]
  have moved : ∀ id, (releaseStock s lines).items.find? id =
      (s.items.find? id).map (moveItem (lines.map OrderLine.stock) 1) := fun id =>
    find?_move s _ 1 id
  constructor
  · intro only line member item found tracked
    obtain ⟨after, still, _, own⟩ := only.items line.menuItemId item found
    refine own ?_
    rw [moved, found, Option.map_some, Option.some_inj] at still
    rw [← still, moveItem_returned_ne, wanted_pos positive, Table.key_of_find? found, named]
    exact ⟨tracked, line, member, rfl⟩
  · intro names
    refine ⟨rfl, rfl, rfl, rfl, fun id absent => by rw [moved, absent]; rfl, ?_⟩
    intro id before found
    refine ⟨_, by rw [moved, found]; rfl, sameButStock_moveItem _ 1 before, fun differs => ?_⟩
    obtain ⟨tracked, back⟩ := (moveItem_returned_ne _ before).mp differs
    rw [wanted_pos positive, Table.key_of_find? found, named] at back
    obtain ⟨line, member, rfl⟩ := back
    exact names line member before found tracked

/-- **A release touches its own kitchen only** if and only if it is refused, for its caller or for its
lines, or every tracked item its lines name is on that kitchen's menu. -/
theorem touchesOnly_iff (verify : String → Option Identity) (s : State) (restaurantId : Nat)
    (authorization : Option String) (lines : List OrderLine) :
    TouchesOnly restaurantId s (serveReleaseStock verify s restaurantId authorization lines).2 ↔
      (authenticate verify authorization = none ∨ lines.all OrderLine.valid = false ∨
        NamesOnly restaurantId s.items lines) := by
  unfold serveReleaseStock
  cases authenticate verify authorization with
  | none => simp [TouchesOnly.refl]
  | some caller =>
    dsimp only
    by_cases invalid : lines.all OrderLine.valid = false
    · rw [if_pos invalid]
      simp [TouchesOnly.refl, invalid]
    · rw [if_neg invalid, touchesOnly_restoreOrder _ _ _ (Bool.not_eq_false _ ▸ invalid)]
      simp [invalid]

/-- Two kitchens with one tracked dish each. -/
def twoKitchens : State where
  restaurants :=
    (Table.empty.put { id := 1, ownerId := 7, name := "Spice Route" }).put
      { id := 2, ownerId := 8, name := "Green Bowl" }
  openingHours := .empty
  categories := .empty
  items :=
    (Table.empty.put
      { id := 10, restaurantId := 1, categoryId := 1, name := "Dal", price := 15000,
        stockQuantity := some 4 }).put
      { id := 20, restaurantId := 2, categoryId := 2, name := "Salad", price := 20000,
        stockQuantity := some 1 }
  outbox := []

/-- Any signed-in caller can put portions of another kitchen's dish back. -/
theorem not_touchesOnly :
    ¬ TouchesOnly 1 twoKitchens
      (serveReleaseStock (fun _ => some ⟨5, "customer"⟩) twoKitchens 1 (some "Bearer t")
        [⟨20, 3, 20000⟩]).2 := by
  intro only
  obtain ⟨after, found, _, own⟩ := only.items 20
    { id := 20, restaurantId := 2, categoryId := 2, name := "Salad", price := 20000,
      stockQuantity := some 1 } (by decide)
  have raised : (serveReleaseStock (fun _ => some ⟨5, "customer"⟩) twoKitchens 1 (some "Bearer t")
      [⟨20, 3, 20000⟩]).2.items.find? 20 =
      some { id := 20, restaurantId := 2, categoryId := 2, name := "Salad", price := 20000,
             stockQuantity := some 4 } := by decide
  rw [raised, Option.some_inj] at found
  subst found
  exact absurd (own (by decide)) (by decide)

end FoodDelivery.Restaurants
