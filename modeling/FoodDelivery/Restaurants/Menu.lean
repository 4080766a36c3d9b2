/-
**Menu categories and items** (`services/restaurants/app/menu.py`). Every edit is the owner's own, or
an admin's.
-/

import FoodDelivery.Restaurants.Service

set_option autoImplicit false

namespace FoodDelivery.Restaurants

open FoodDelivery.Lib

/-! ### Categories -/

structure CategoryCreate where
  name : String
  sortOrder : Int := 0
deriving DecidableEq, Repr

/-- Editable category fields; a field that is omitted or null is left alone. -/
structure CategoryUpdate where
  name : Option String := none
  sortOrder : Option Int := none
deriving DecidableEq, Repr

def categoryInRestaurant (s : State) (restaurantId : Nat) (categoryId : Option Nat) :
    Except Raised MenuCategory :=
  match categoryId with
  | none => .error (.app (notFoundException "Category" "None"))
  | some id =>
    match s.categories.find? id with
    | none => .error (.app (notFoundException "Category" (toString id)))
    | some category =>
      if category.restaurantId ≠ restaurantId then
        .error (.app (notFoundException "Category" (toString id)))
      else .ok category

def addCategory (s : State) (user : Identity) (restaurantId : Nat) (data : CategoryCreate) :
    Except Raised State := do
  let _ ← ownedRestaurant s user restaurantId
  return { s with
    categories := s.categories.put
      { id := s.nextCategoryId
        restaurantId := restaurantId
        name := data.name
        sortOrder := data.sortOrder } }

def updateCategory (s : State) (user : Identity) (restaurantId categoryId : Nat)
    (data : CategoryUpdate) : Except Raised State := do
  let _ ← ownedRestaurant s user restaurantId
  let category ← categoryInRestaurant s restaurantId (some categoryId)
  return { s with
    categories := s.categories.put
      { category with
        name := data.name.getD category.name
        sortOrder := data.sortOrder.getD category.sortOrder } }

/-- Delete an empty category. -/
def deleteCategory (s : State) (user : Identity) (restaurantId categoryId : Nat) :
    Except Raised State := do
  let _ ← ownedRestaurant s user restaurantId
  let category ← categoryInRestaurant s restaurantId (some categoryId)
  let held := (s.items.rows.filter fun item => item.categoryId = categoryId).length
  if held ≠ 0 then
    .error (.app (conflictException ("'" ++ category.name ++ "' still has " ++ toString held ++
      " item(s). Move or delete them first.")))
  else return { s with categories := s.categories.filter fun row => row.id ≠ categoryId }

/-! ### Items -/

structure MenuItemCreate where
  categoryId : Nat
  name : String
  description : Option String := none
  price : Price
  isAvailable : Bool := true
  stockQuantity : Option Nat := none
  isVegetarian : Bool := false
deriving DecidableEq, Repr

/-- An explicit null of `stockQuantity` stops tracking stock for the item. -/
structure MenuItemUpdate where
  categoryId : Patch Nat := none
  name : Patch String := none
  description : Patch String := none
  price : Patch Price := none
  isAvailable : Patch Bool := none
  stockQuantity : Patch Nat := none
  isVegetarian : Patch Bool := none
deriving DecidableEq, Repr

def itemInRestaurant (s : State) (restaurantId itemId : Nat) : Except Raised MenuItem :=
  match s.items.find? itemId with
  | none => .error (.app (notFoundException "Menu item" (toString itemId)))
  | some item =>
    if item.restaurantId ≠ restaurantId then
      .error (.app (notFoundException "Menu item" (toString itemId)))
    else .ok item

def addItem (s : State) (user : Identity) (restaurantId : Nat) (data : MenuItemCreate) :
    Except Raised State := do
  let _ ← ownedRestaurant s user restaurantId
  let _ ← categoryInRestaurant s restaurantId (some data.categoryId)
  return { s with
    items := s.items.put
      { id := s.nextItemId
        restaurantId := restaurantId
        categoryId := data.categoryId
        name := data.name
        description := data.description
        price := data.price
        isAvailable := data.isAvailable
        stockQuantity := data.stockQuantity
        isVegetarian := data.isVegetarian } }

def MenuItemUpdate.apply (data : MenuItemUpdate) (item : MenuItem) : Except Raised MenuItem := do
  let categoryId ← setRequired "category_id" item.categoryId data.categoryId
  let name ← setRequired "name" item.name data.name
  let price ← setRequired "price" item.price data.price
  let isAvailable ← setRequired "is_available" item.isAvailable data.isAvailable
  let isVegetarian ← setRequired "is_vegetarian" item.isVegetarian data.isVegetarian
  return { item with
    categoryId := categoryId
    name := name
    description := data.description.getD item.description
    price := price
    isAvailable := isAvailable
    stockQuantity := data.stockQuantity.getD item.stockQuantity
    isVegetarian := isVegetarian }

def updateItem (s : State) (user : Identity) (restaurantId itemId : Nat) (data : MenuItemUpdate) :
    Except Raised State := do
  let _ ← ownedRestaurant s user restaurantId
  let item ← itemInRestaurant s restaurantId itemId
  match data.categoryId with
  | none => pure ()
  | some categoryId =>
    let _ ← categoryInRestaurant s restaurantId categoryId
  let item ← data.apply item
  return { s with items := s.items.put item }

def deleteItem (s : State) (user : Identity) (restaurantId itemId : Nat) : Except Raised State := do
  let _ ← ownedRestaurant s user restaurantId
  let _ ← itemInRestaurant s restaurantId itemId
  return { s with items := s.items.filter fun row => row.id ≠ itemId }

end FoodDelivery.Restaurants
