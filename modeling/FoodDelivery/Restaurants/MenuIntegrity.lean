/-
**The menu as a customer sees it** (`services/restaurants/app/menu.py`, `list_categories`, `get_menu`).

The menu is read from two tables: the categories in their order, and the items, each put under the category
it names. An item whose category is not among the restaurant's would be left out without a word.

`menu_intact`: whatever the service is asked to do, every item's category is there and is its own
restaurant's; so a menu lists each item of its restaurant once, under its category, and nothing else.
-/

import FoodDelivery.Lib.Sql
import FoodDelivery.Restaurants.Releases
import FoodDelivery.Restaurants.Runs

set_option autoImplicit false

namespace FoodDelivery.Restaurants

open FoodDelivery.Lib

/-! ### Reading the menu -/

/-- `ORDER BY sort_order, id`. -/
def MenuCategory.precedes (first second : MenuCategory) : Bool :=
  first.sortOrder < second.sortOrder ∨ first.sortOrder = second.sortOrder ∧ first.id ≤ second.id

def listCategories (s : State) (restaurantId : Nat) : List MenuCategory :=
  (s.categories.rows.filter fun category => category.restaurantId = restaurantId).mergeSort
    MenuCategory.precedes

/-- The category of a menu with its items. -/
structure MenuCategoryWithItems where
  id : Nat
  name : String
  sortOrder : Int
  items : List MenuItem := []
deriving DecidableEq, Repr

/-- The rows that a menu is read from. -/
def menuItems (s : State) (restaurantId : Nat) (availableOnly : Bool) : List MenuItem :=
  s.items.rows.filter fun item =>
    item.restaurantId = restaurantId ∧ (availableOnly = true → item.isAvailable = true)

/-- Return the menu as categories (ordered) each carrying their items. -/
def getMenu (s : State) (restaurantId : Nat) (availableOnly : Bool := false) :
    List MenuCategoryWithItems :=
  let items := (menuItems s restaurantId availableOnly).mergeSort fun first second =>
    first.id ≤ second.id
  (listCategories s restaurantId).map fun category =>
    { id := category.id
      name := category.name
      sortOrder := category.sortOrder
      items := items.filter fun item => item.categoryId = category.id }

/-! ### Integrity -/

/-- Every item's category is there and is its own restaurant's. -/
def Placed (categories : Table Nat MenuCategory MenuCategory.id) (items : Items) : Prop :=
  ∀ item ∈ items.rows, ∃ category, categories.find? item.categoryId = some category ∧
    category.restaurantId = item.restaurantId

/-- A menu lists each of its restaurant's items (those for sale, where only they are asked for) once, under
its category, and nothing else. -/
structure Shows (s : State) (restaurantId : Nat) (availableOnly : Bool) : Prop where
  once : ((getMenu s restaurantId availableOnly).flatMap MenuCategoryWithItems.items).Perm
    (menuItems s restaurantId availableOnly)
  under : ∀ category ∈ getMenu s restaurantId availableOnly, ∀ item ∈ category.items,
    item.categoryId = category.id

/-- **The menu is intact.** -/
structure Intact (s : State) : Prop where
  placed : Placed s.categories s.items
  shows : ∀ restaurantId availableOnly, Shows s restaurantId availableOnly

variable {s next : State} {categories : Table Nat MenuCategory MenuCategory.id} {items : Items}

/-- **What is placed is shown.** -/
theorem shows_of_placed (placed : Placed s.categories s.items) (restaurantId : Nat)
    (availableOnly : Bool) : Shows s restaurantId availableOnly where
  once := by
    have sorted := List.mergeSort_perm (menuItems s restaurantId availableOnly) fun first second =>
      decide (first.id ≤ second.id)
    have ordered := List.mergeSort_perm
      (s.categories.rows.filter fun category => category.restaurantId = restaurantId)
      MenuCategory.precedes
    rw [getMenu, List.flatMap_map]
    refine List.Perm.trans ?_ sorted
    have grouped := perm_flatMap_filter MenuItem.categoryId
      ((listCategories s restaurantId).map MenuCategory.id)
      ((menuItems s restaurantId availableOnly).mergeSort fun first second => first.id ≤ second.id) ?_ ?_
    · rwa [List.flatMap_map] at grouped
    · refine (ordered.map MenuCategory.id).nodup_iff.mpr ?_
      exact s.categories.unique.sublist (List.filter_sublist.map MenuCategory.id)
    · intro item member
      obtain ⟨stored, owner⟩ := List.mem_filter.mp (sorted.mem_iff.mp member)
      obtain ⟨category, found, same⟩ := placed item stored
      obtain ⟨listed, id⟩ := Table.find?_eq_some.mp found
      refine List.mem_map.mpr ⟨category, ordered.mem_iff.mpr (List.mem_filter.mpr ⟨listed, ?_⟩), id⟩
      exact decide_eq_true (same.trans (of_decide_eq_true owner).1)
  under := by
    intro category listed item member
    obtain ⟨row, -, rfl⟩ := List.mem_map.mp listed
    exact of_decide_eq_true (List.mem_filter.mp member).2

/-! ### What keeps items placed -/

/-- A new category comes beside the others. -/
theorem placed_addCategory {category : MenuCategory} (placed : Placed s.categories s.items)
    (fresh : category.id = s.nextCategoryId) : Placed (s.categories.put category) s.items := by
  intro item stored
  obtain ⟨held, found, same⟩ := placed item stored
  refine ⟨held, ?_, same⟩
  rw [Table.find?_put_other, found]
  rw [fresh]
  intro taken
  obtain ⟨listed, id⟩ := Table.find?_eq_some.mp found
  have used : held.id ∈ s.categories.rows.map MenuCategory.id := List.mem_map_of_mem listed
  rw [id, ← taken] at used
  exact nextId_not_mem _ used

/-- A category that is edited stays whose it is. -/
theorem placed_updateCategory {category edited : MenuCategory} {categoryId : Nat}
    (placed : Placed categories items) (found : categories.find? categoryId = some category)
    (id : edited.id = category.id) (owner : edited.restaurantId = category.restaurantId) :
    Placed (categories.put edited) items := by
  intro item stored
  obtain ⟨held, here, same⟩ := placed item stored
  rw [Table.find?_put]
  by_cases own : edited.id = item.categoryId
  · rw [if_pos own]
    refine ⟨edited, rfl, ?_⟩
    rw [← own, id, Table.key_of_find? found, found] at here
    rw [owner, Option.some.inj here, same]
  · rw [if_neg own]
    exact ⟨held, here, same⟩

/-- A category that no item names can go. -/
theorem placed_deleteCategory {categoryId : Nat} (placed : Placed categories items)
    (empty : ∀ item ∈ items.rows, item.categoryId ≠ categoryId) :
    Placed (categories.filter fun row => row.id ≠ categoryId) items := by
  intro item stored
  obtain ⟨held, found, same⟩ := placed item stored
  refine ⟨held, ?_, same⟩
  rw [Table.find?_filter, found, Option.filter_some, if_pos]
  exact decide_eq_true ((Table.key_of_find? found).symm ▸ empty item stored)

/-- An item is written where it belongs. -/
theorem placed_putItem {item : MenuItem} {category : MenuCategory} (placed : Placed categories items)
    (found : categories.find? item.categoryId = some category)
    (same : category.restaurantId = item.restaurantId) : Placed categories (items.put item) := by
  intro other stored
  rcases Table.mem_put.mp stored with rfl | ⟨stored, -⟩
  · exact ⟨category, found, same⟩
  · exact placed other stored

/-- Moving stock moves no item. -/
theorem placed_move (lines : List StockLine) (sign : Int) (placed : Placed s.categories s.items) :
    Placed (move s lines sign).categories (move s lines sign).items := by
  intro moved stored
  obtain ⟨item, before, rfl⟩ := List.mem_map.mp stored
  obtain ⟨stock, same⟩ := sameButStock_moveItem lines sign item
  rw [same]
  exact placed item before

/-- **Every request keeps the items placed.** -/
theorem placed_step (env : Environment) (s : State) (op : Operation)
    (placed : Placed s.categories s.items) :
    Placed (s.step env op).categories (s.step env op).items := by
  unfold State.step
  split
  · rename_i next outcome
    cases op with
    | registerFromSignup payload =>
      cases outcome
      rcases registerFromSignup_cases env.adminAlertEmail s payload with same | ⟨_, _, -, new⟩
      · rw [same]
        exact placed
      · rw [new]
        exact placed
    | createRestaurant owner data =>
      obtain ⟨_, _, -, rfl⟩ := createRestaurant_ok outcome
      exact placed
    | setApproval restaurantId status reason =>
      obtain ⟨_, _, rest⟩ := bind_eq_ok.mp outcome
      cases rest
      exact placed
    | updateRestaurant restaurantId user data =>
      obtain ⟨_, _, -, -, -, items, categories, -⟩ := updateRestaurant_ok outcome
      rw [items, categories]
      exact placed
    | addCategory user restaurantId data =>
      obtain ⟨category, fresh, rfl⟩ := addCategory_ok outcome
      exact placed_addCategory placed fresh
    | updateCategory user restaurantId categoryId data =>
      obtain ⟨category, edited, found, id, owner, rfl⟩ := updateCategory_ok outcome
      exact placed_updateCategory placed found id owner
    | deleteCategory user restaurantId categoryId =>
      obtain ⟨empty, rfl⟩ := deleteCategory_ok outcome
      exact placed_deleteCategory placed empty
    | addItem user restaurantId data =>
      obtain ⟨item, category, found, same, -, rfl⟩ := addItem_ok outcome
      exact placed_putItem placed found same
    | updateItem user restaurantId itemId data =>
      obtain ⟨item, edited, owned, applied, named, rfl⟩ := updateItem_ok outcome
      obtain ⟨stored, owner⟩ := itemInRestaurant_ok owned
      obtain ⟨-, same, -, ⟨-, kept⟩ | moved⟩ := MenuItemUpdate.apply_ok applied
      · obtain ⟨category, found, held⟩ := placed item (Table.find?_eq_some.mp stored).1
        exact placed_putItem placed (kept.symm ▸ found) (held.trans same.symm)
      · obtain ⟨category, within⟩ := named _ moved
        obtain ⟨_, id, found, held⟩ := categoryInRestaurant_ok within
        obtain rfl := Option.some.inj id
        exact placed_putItem placed found (held.trans (owner.symm.trans same.symm))
    | deleteItem user restaurantId itemId =>
      obtain rfl := deleteItem_ok outcome
      exact fun item stored => placed item (List.mem_of_mem_filter stored)
    | validateOrder restaurantId body clock =>
      rcases validateOrder_ok outcome with rfl | ⟨lines, rfl⟩
      · exact placed
      · exact placed_move lines (-1) placed
    | releaseStock lines =>
      cases outcome
      exact placed_move _ 1 placed
  · exact placed

/-- **The menu stays intact**: from any venues, with no category and no item yet, through any requests by
any callers, those that raise included. -/
theorem menu_intact (env : Environment) (s : State) (ops : List Operation) :
    Always (State.step env) Intact { s with categories := .empty, items := .empty } ops := by
  have start : Placed .empty .empty := fun item stored => absurd stored List.not_mem_nil
  have placed : Always (State.step env) (fun s => Placed s.categories s.items)
      { s with categories := .empty, items := .empty } ops :=
    always_of_step (placed_step env) start
  exact placed.mono fun s placed => ⟨placed, shows_of_placed placed⟩

end FoodDelivery.Restaurants
