/-
**Runs of the restaurants service**: every request and message it handles, one at a time.

What raises leaves the database as it was. `State.changed` is the inversion of a step, as far as the
venues go: they are as they were, or one was registered, decided on or edited by its owner.
-/

import FoodDelivery.Lib.Runs
import FoodDelivery.Restaurants.Internal
import FoodDelivery.Restaurants.Menu

set_option autoImplicit false

namespace FoodDelivery.Restaurants

open FoodDelivery.Lib

/-! ### Operations -/

/-- What the service is asked to do. -/
inductive Operation where
  | registerFromSignup (payload : Registration)
  | createRestaurant (owner : Identity) (data : RestaurantCreate)
  | setApproval (restaurantId : Nat) (status : ApprovalStatus) (reason : Option String)
  | updateRestaurant (restaurantId : Nat) (user : Identity) (data : RestaurantUpdate)
  | addCategory (user : Identity) (restaurantId : Nat) (data : CategoryCreate)
  | updateCategory (user : Identity) (restaurantId categoryId : Nat) (data : CategoryUpdate)
  | deleteCategory (user : Identity) (restaurantId categoryId : Nat)
  | addItem (user : Identity) (restaurantId : Nat) (data : MenuItemCreate)
  | updateItem (user : Identity) (restaurantId itemId : Nat) (data : MenuItemUpdate)
  | deleteItem (user : Identity) (restaurantId itemId : Nat)
  | validateOrder (restaurantId : Nat) (body : ValidateOrderRequest) (clock : LocalTime)
  | releaseStock (lines : List OrderLine)

/-- The deployment's settings and what of Python the service uses. -/
structure Environment where
  adminAlertEmail : String
  runtime : Runtime

/-- What an operation leaves, or what it raises. -/
def Operation.outcome (env : Environment) (s : State) : Operation → Except Raised State
  | .registerFromSignup payload => .ok (Restaurants.registerFromSignup env.adminAlertEmail s payload)
  | .createRestaurant owner data => Restaurants.createRestaurant s owner data
  | .setApproval restaurantId status reason => Restaurants.setApproval s restaurantId status reason
  | .updateRestaurant restaurantId user data =>
    Restaurants.updateRestaurant s restaurantId user data
  | .addCategory user restaurantId data => Restaurants.addCategory s user restaurantId data
  | .updateCategory user restaurantId categoryId data =>
    Restaurants.updateCategory s user restaurantId categoryId data
  | .deleteCategory user restaurantId categoryId =>
    Restaurants.deleteCategory s user restaurantId categoryId
  | .addItem user restaurantId data => Restaurants.addItem s user restaurantId data
  | .updateItem user restaurantId itemId data =>
    Restaurants.updateItem s user restaurantId itemId data
  | .deleteItem user restaurantId itemId => Restaurants.deleteItem s user restaurantId itemId
  | .validateOrder restaurantId body clock =>
    (Restaurants.validateOrder env.runtime s restaurantId body clock).map Prod.snd
  | .releaseStock lines => .ok (Restaurants.releaseStock s lines)

/-- One operation; a transaction that raises is rolled back. -/
def State.step (env : Environment) (s : State) (op : Operation) : State :=
  match op.outcome env s with
  | .ok next => next
  | .error _ => s

/-! ### What an owner's edit can do -/

theorem setRequired_ok {α : Type} {column : String} {current value : α} {patch : Patch α} :
    setRequired column current patch = .ok value ↔
      (patch = none ∧ value = current) ∨ patch = some (some value) := by
  rcases patch with _ | _ | patched
  · simp [setRequired, eq_comm]
  · simp [setRequired]
  · simp [setRequired]

/-- **An edit leaves who the venue is and whether it is approved**, and opens it only when its payload
says so. -/
theorem apply_ok {data : RestaurantUpdate} {restaurant edited : Restaurant}
    (applied : data.apply restaurant = .ok edited) :
    edited.id = restaurant.id ∧ edited.ownerId = restaurant.ownerId ∧
      edited.approvalStatus = restaurant.approvalStatus ∧
      (edited.isOpen = restaurant.isOpen ∨ data.isOpen = some (some edited.isOpen)) := by
  unfold RestaurantUpdate.apply at applied
  simp only [bind_eq_ok] at applied
  obtain ⟨name, _, city, _, addressLine, _, phone, _, isOpen, opened, amount, _, food, _, same⟩ :=
    applied
  cases same
  refine ⟨rfl, rfl, rfl, ?_⟩
  rcases setRequired_ok.mp opened with ⟨_, kept⟩ | set
  · exact Or.inl kept
  · exact Or.inr set

theorem getRestaurant_ok {s : State} {restaurantId : Nat} {restaurant : Restaurant} :
    getRestaurant s restaurantId = .ok restaurant ↔
      s.restaurants.find? restaurantId = some restaurant := by
  unfold getRestaurant
  cases s.restaurants.find? restaurantId with
  | none => simp
  | some row => simp

theorem ownedRestaurant_ok {s : State} {user : Identity} {restaurantId : Nat}
    {restaurant : Restaurant} (owned : ownedRestaurant s user restaurantId = .ok restaurant) :
    s.restaurants.find? restaurantId = some restaurant := by
  obtain ⟨row, found, rest⟩ := bind_eq_ok.mp owned
  split at rest
  · cases rest
  · cases rest
    exact getRestaurant_ok.mp found

variable {env : Environment} {s next : State}

/-- **An update of a venue** puts the row it edits back and replaces the week that its payload has, and
touches nothing of the menu. -/
theorem updateRestaurant_ok {restaurantId : Nat} {user : Identity} {data : RestaurantUpdate}
    (outcome : updateRestaurant s restaurantId user data = .ok next) :
    ∃ restaurant edited, ownedRestaurant s user restaurantId = .ok restaurant ∧
      data.apply restaurant = .ok edited ∧ next.restaurants = s.restaurants.put edited ∧
      next.items = s.items ∧ next.categories = s.categories ∧
      (next.openingHours = s.openingHours ∨ ∃ schedule,
        next.openingHours = (replaceOpeningHours s edited.id schedule).openingHours) := by
  obtain ⟨restaurant, owned, rest⟩ := bind_eq_ok.mp outcome
  obtain ⟨edited, applied, rest⟩ := bind_eq_ok.mp rest
  cases rest
  cases data.openingHours with
  | none => exact ⟨restaurant, edited, owned, applied, rfl, rfl, rfl, Or.inl rfl⟩
  | some schedule => exact ⟨restaurant, edited, owned, applied, rfl, rfl, rfl, Or.inr ⟨schedule, rfl⟩⟩

/-! ### What a new venue is -/

/-- A venue from a signup starts closed. -/
theorem registerFromSignup_cases (adminAlertEmail : String) (s : State) (payload : Registration) :
    registerFromSignup adminAlertEmail s payload = s ∨
      ∃ restaurant outbox, restaurant.isOpen = false ∧
        registerFromSignup adminAlertEmail s payload = s.save restaurant outbox := by
  unfold registerFromSignup
  split
  · dsimp only
    split_ifs
    · exact Or.inl rfl
    · exact Or.inl rfl
    · exact Or.inr ⟨_, _, rfl, rfl⟩
  · exact Or.inl rfl

/-- And so does one that its owner registers. -/
theorem createRestaurant_ok {owner : Identity} {data : RestaurantCreate}
    (outcome : createRestaurant s owner data = .ok next) :
    ∃ restaurant outbox, restaurant.isOpen = false ∧ next = s.save restaurant outbox := by
  unfold createRestaurant at outcome
  split at outcome
  · cases outcome
  · cases outcome
    exact ⟨_, _, rfl, rfl⟩

/-! ### What an edit of the menu writes -/

theorem categoryInRestaurant_ok {restaurantId : Nat} {categoryId : Option Nat} {category : MenuCategory}
    (result : categoryInRestaurant s restaurantId categoryId = .ok category) :
    ∃ id, categoryId = some id ∧ s.categories.find? id = some category ∧
      category.restaurantId = restaurantId := by
  unfold categoryInRestaurant at result
  split at result
  · cases result
  · rename_i id
    split at result
    · cases result
    · rename_i row found
      split_ifs at result with other
      cases result
      exact ⟨id, rfl, found, not_not.mp other⟩

theorem itemInRestaurant_ok {restaurantId itemId : Nat} {item : MenuItem}
    (result : itemInRestaurant s restaurantId itemId = .ok item) :
    s.items.find? itemId = some item ∧ item.restaurantId = restaurantId := by
  unfold itemInRestaurant at result
  split at result
  · cases result
  · rename_i row found
    split_ifs at result with other
    cases result
    exact ⟨found, not_not.mp other⟩

theorem addCategory_ok {user : Identity} {restaurantId : Nat} {data : CategoryCreate}
    (outcome : addCategory s user restaurantId data = .ok next) :
    ∃ category, category.id = s.nextCategoryId ∧
      next = { s with categories := s.categories.put category } := by
  obtain ⟨_, _, rest⟩ := bind_eq_ok.mp outcome
  cases rest
  exact ⟨_, rfl, rfl⟩

/-- A rename or a new place leaves which category it is and whose. -/
theorem updateCategory_ok {user : Identity} {restaurantId categoryId : Nat} {data : CategoryUpdate}
    (outcome : updateCategory s user restaurantId categoryId data = .ok next) :
    ∃ category edited, s.categories.find? categoryId = some category ∧ edited.id = category.id ∧
      edited.restaurantId = category.restaurantId ∧
      next = { s with categories := s.categories.put edited } := by
  obtain ⟨_, _, rest⟩ := bind_eq_ok.mp outcome
  obtain ⟨category, found, rest⟩ := bind_eq_ok.mp rest
  obtain ⟨_, same, row, -⟩ := categoryInRestaurant_ok found
  obtain rfl := Option.some.inj same
  cases rest
  exact ⟨category, { category with
    name := data.name.getD category.name
    sortOrder := data.sortOrder.getD category.sortOrder }, row, rfl, rfl, rfl⟩

/-- Only an empty category goes. -/
theorem deleteCategory_ok {user : Identity} {restaurantId categoryId : Nat}
    (outcome : deleteCategory s user restaurantId categoryId = .ok next) :
    (∀ item ∈ s.items.rows, item.categoryId ≠ categoryId) ∧
      next = { s with categories := s.categories.filter fun row => row.id ≠ categoryId } := by
  obtain ⟨_, _, rest⟩ := bind_eq_ok.mp outcome
  obtain ⟨_, _, rest⟩ := bind_eq_ok.mp rest
  dsimp only at rest
  split at rest
  · cases rest
  · rename_i held
    cases rest
    refine ⟨fun item member inside => held ?_, rfl⟩
    exact (List.length_pos_of_mem (List.mem_filter.mpr ⟨member, decide_eq_true inside⟩)).ne'

/-- A new item goes into a category of its own restaurant. -/
theorem addItem_ok {user : Identity} {restaurantId : Nat} {data : MenuItemCreate}
    (outcome : addItem s user restaurantId data = .ok next) :
    ∃ item category, s.categories.find? item.categoryId = some category ∧
      category.restaurantId = item.restaurantId ∧ item.id = s.nextItemId ∧
      next = { s with items := s.items.put item } := by
  obtain ⟨_, _, rest⟩ := bind_eq_ok.mp outcome
  obtain ⟨category, found, rest⟩ := bind_eq_ok.mp rest
  obtain ⟨_, same, row, owner⟩ := categoryInRestaurant_ok found
  obtain rfl := Option.some.inj same
  cases rest
  exact ⟨_, category, row, owner, rfl, rfl⟩

/-- **An edit leaves which item it is and whose**, and moves it only where its payload says so. -/
theorem MenuItemUpdate.apply_ok {data : MenuItemUpdate} {item edited : MenuItem}
    (applied : data.apply item = .ok edited) :
    edited.id = item.id ∧ edited.restaurantId = item.restaurantId ∧
      edited.stockQuantity = data.stockQuantity.getD item.stockQuantity ∧
      (data.categoryId = none ∧ edited.categoryId = item.categoryId ∨
        data.categoryId = some (some edited.categoryId)) := by
  unfold MenuItemUpdate.apply at applied
  simp only [bind_eq_ok] at applied
  obtain ⟨categoryId, moved, _, _, _, _, _, _, _, _, same⟩ := applied
  cases same
  exact ⟨rfl, rfl, rfl, setRequired_ok.mp moved⟩

/-- **An edit of an item**: whatever category it names is one of the restaurant's. -/
theorem updateItem_ok {user : Identity} {restaurantId itemId : Nat} {data : MenuItemUpdate}
    (outcome : updateItem s user restaurantId itemId data = .ok next) :
    ∃ item edited, itemInRestaurant s restaurantId itemId = .ok item ∧
      data.apply item = .ok edited ∧
      (∀ categoryId ∈ data.categoryId, ∃ category,
        categoryInRestaurant s restaurantId categoryId = .ok category) ∧
      next = { s with items := s.items.put edited } := by
  obtain ⟨_, _, rest⟩ := bind_eq_ok.mp outcome
  obtain ⟨item, found, rest⟩ := bind_eq_ok.mp rest
  split at rest
  · rename_i unnamed
    obtain ⟨edited, applied, rest⟩ := bind_eq_ok.mp rest
    cases rest
    refine ⟨item, edited, found, applied, fun categoryId named => ?_, rfl⟩
    cases unnamed.symm.trans named
  · rename_i categoryId named
    obtain ⟨category, held, rest⟩ := bind_eq_ok.mp rest
    obtain ⟨edited, applied, rest⟩ := bind_eq_ok.mp rest
    cases rest
    refine ⟨item, edited, found, applied, fun other same => ⟨category, ?_⟩, rfl⟩
    obtain rfl := Option.some.inj (named.symm.trans same)
    exact held

theorem deleteItem_ok {user : Identity} {restaurantId itemId : Nat}
    (outcome : deleteItem s user restaurantId itemId = .ok next) :
    next = { s with items := s.items.filter fun row => row.id ≠ itemId } := by
  obtain ⟨_, _, rest⟩ := bind_eq_ok.mp outcome
  obtain ⟨_, _, rest⟩ := bind_eq_ok.mp rest
  cases rest
  rfl

/-- A validated order leaves everything, or takes its lines from stock. -/
theorem validateOrder_ok {runtime : Runtime} {restaurantId : Nat} {body : ValidateOrderRequest}
    {clock : LocalTime}
    (outcome : (validateOrder runtime s restaurantId body clock).map Prod.snd = .ok next) :
    next = s ∨ ∃ lines, next = applyOrder s lines := by
  unfold validateOrder at outcome
  split at outcome
  · cases outcome
  · split at outcome
    · cases outcome
      exact Or.inl rfl
    · cases outcome
      dsimp only
      split
      · exact Or.inr ⟨_, rfl⟩
      · exact Or.inl rfl

/-! ### What a step can do to the venues -/

/-- The outcomes of a step for the table of restaurants. -/
inductive Changed (s next : State) : Operation → Prop
  | same (op : Operation) (venues : next.restaurants = s.restaurants) : Changed s next op
  | registered (op : Operation) (restaurant : Restaurant) (pending : restaurant.isOpen = false)
      (venues : next.restaurants = s.restaurants.put restaurant) : Changed s next op
  | decided (restaurantId : Nat) (status : ApprovalStatus) (reason : Option String)
      (restaurant decision : Restaurant)
      (found : s.restaurants.find? restaurantId = some restaurant)
      (id : decision.id = restaurant.id) (sets : decision.approvalStatus = status)
      (closes : decision.isOpen = if status ≠ .approved then false else restaurant.isOpen)
      (venues : next.restaurants = s.restaurants.put decision) :
      Changed s next (.setApproval restaurantId status reason)
  | edited (restaurantId : Nat) (user : Identity) (data : RestaurantUpdate)
      (restaurant edit : Restaurant) (owned : ownedRestaurant s user restaurantId = .ok restaurant)
      (applied : data.apply restaurant = .ok edit)
      (venues : next.restaurants = s.restaurants.put edit) :
      Changed s next (.updateRestaurant restaurantId user data)

/-- **What a step does to the venues.** -/
theorem State.changed (env : Environment) (s : State) (op : Operation) :
    Changed s (s.step env op) op := by
  unfold State.step
  split
  · rename_i next outcome
    cases op with
    | registerFromSignup payload =>
      cases outcome
      rcases registerFromSignup_cases env.adminAlertEmail s payload with same | ⟨_, _, closed, new⟩
      · exact .same _ (congrArg State.restaurants same)
      · exact .registered _ _ closed (congrArg State.restaurants new)
    | createRestaurant owner data =>
      obtain ⟨_, _, closed, rfl⟩ := createRestaurant_ok outcome
      exact .registered _ _ closed rfl
    | setApproval restaurantId status reason =>
      obtain ⟨restaurant, found, rest⟩ := bind_eq_ok.mp outcome
      cases rest
      exact .decided restaurantId status reason restaurant
        { restaurant with
          approvalStatus := status
          rejectionReason := if status = .rejected then reason else none
          isOpen := if status ≠ .approved then false else restaurant.isOpen }
        (getRestaurant_ok.mp found) rfl rfl rfl rfl
    | updateRestaurant restaurantId user data =>
      obtain ⟨restaurant, edited, owned, applied, venues, -⟩ := updateRestaurant_ok outcome
      exact .edited restaurantId user data restaurant edited owned applied venues
    | addCategory user restaurantId data =>
      obtain ⟨_, -, rfl⟩ := addCategory_ok outcome
      exact .same _ rfl
    | updateCategory user restaurantId categoryId data =>
      obtain ⟨_, _, -, -, -, rfl⟩ := updateCategory_ok outcome
      exact .same _ rfl
    | deleteCategory user restaurantId categoryId =>
      obtain ⟨-, rfl⟩ := deleteCategory_ok outcome
      exact .same _ rfl
    | addItem user restaurantId data =>
      obtain ⟨_, _, -, -, -, rfl⟩ := addItem_ok outcome
      exact .same _ rfl
    | updateItem user restaurantId itemId data =>
      obtain ⟨_, _, -, -, -, rfl⟩ := updateItem_ok outcome
      exact .same _ rfl
    | deleteItem user restaurantId itemId =>
      obtain rfl := deleteItem_ok outcome
      exact .same _ rfl
    | validateOrder restaurantId body clock =>
      rcases validateOrder_ok outcome with rfl | ⟨_, rfl⟩
      · exact .same _ rfl
      · exact .same _ rfl
    | releaseStock lines =>
      cases outcome
      exact .same _ rfl
  · exact .same _ rfl

/-! ### What a step does to the hours -/

/-- **A step leaves the hours**, or replaces the week of one venue. -/
theorem State.rescheduled (env : Environment) (s : State) (op : Operation) :
    (s.step env op).openingHours = s.openingHours ∨ ∃ restaurantId schedule,
      (s.step env op).openingHours = (replaceOpeningHours s restaurantId schedule).openingHours := by
  unfold State.step
  split
  · rename_i next outcome
    cases op with
    | registerFromSignup payload =>
      cases outcome
      rcases registerFromSignup_cases env.adminAlertEmail s payload with same | ⟨_, _, _, new⟩
      · exact Or.inl (congrArg State.openingHours same)
      · rw [new]
        exact Or.inl rfl
    | createRestaurant owner data =>
      obtain ⟨_, _, -, rfl⟩ := createRestaurant_ok outcome
      exact Or.inl rfl
    | setApproval restaurantId status reason =>
      obtain ⟨_, _, rest⟩ := bind_eq_ok.mp outcome
      cases rest
      exact Or.inl rfl
    | updateRestaurant restaurantId user data =>
      obtain ⟨_, _, -, -, -, -, -, hours⟩ := updateRestaurant_ok outcome
      exact hours.imp_right fun replaced => ⟨_, replaced⟩
    | addCategory user restaurantId data =>
      obtain ⟨_, -, rfl⟩ := addCategory_ok outcome
      exact Or.inl rfl
    | updateCategory user restaurantId categoryId data =>
      obtain ⟨_, _, -, -, -, rfl⟩ := updateCategory_ok outcome
      exact Or.inl rfl
    | deleteCategory user restaurantId categoryId =>
      obtain ⟨-, rfl⟩ := deleteCategory_ok outcome
      exact Or.inl rfl
    | addItem user restaurantId data =>
      obtain ⟨_, _, -, -, -, rfl⟩ := addItem_ok outcome
      exact Or.inl rfl
    | updateItem user restaurantId itemId data =>
      obtain ⟨_, _, -, -, -, rfl⟩ := updateItem_ok outcome
      exact Or.inl rfl
    | deleteItem user restaurantId itemId =>
      obtain rfl := deleteItem_ok outcome
      exact Or.inl rfl
    | validateOrder restaurantId body clock =>
      rcases validateOrder_ok outcome with rfl | ⟨_, rfl⟩
      · exact Or.inl rfl
      · exact Or.inl rfl
    | releaseStock lines =>
      cases outcome
      exact Or.inl rfl
  · exact Or.inl rfl

/-! ### What a step announces -/

/-- **A step leaves the venues and the outbox**, or writes a venue and announces it. -/
theorem State.announced (env : Environment) (s : State) (op : Operation) :
    ((s.step env op).restaurants = s.restaurants ∧ (s.step env op).outbox = s.outbox) ∨
      ∃ restaurant alerts, (s.step env op).restaurants = s.restaurants.put restaurant ∧
        (s.step env op).outbox = s.outbox ++ publishRestaurant restaurant :: alerts ∧
        alerts.filterMap OutboxEvent.restaurantEvent? = [] := by
  unfold State.step
  split
  · rename_i next outcome
    cases op with
    | registerFromSignup payload =>
      cases outcome
      unfold Restaurants.registerFromSignup
      split
      · dsimp only
        split_ifs
        · exact Or.inl ⟨rfl, rfl⟩
        · exact Or.inl ⟨rfl, rfl⟩
        · refine Or.inr ⟨_, _, rfl, rfl, ?_⟩
          unfold alertAdminOfSubmission
          split <;> rfl
      · exact Or.inl ⟨rfl, rfl⟩
    | createRestaurant owner data =>
      change Restaurants.createRestaurant s owner data = .ok next at outcome
      unfold Restaurants.createRestaurant at outcome
      split at outcome
      · cases outcome
      · cases outcome
        exact Or.inr ⟨_, [], rfl, rfl, rfl⟩
    | setApproval restaurantId status reason =>
      obtain ⟨restaurant, found, rest⟩ := bind_eq_ok.mp outcome
      cases rest
      exact Or.inr ⟨_, [], rfl, rfl, rfl⟩
    | updateRestaurant restaurantId user data =>
      obtain ⟨restaurant, owned, rest⟩ := bind_eq_ok.mp outcome
      obtain ⟨edited, applied, rest⟩ := bind_eq_ok.mp rest
      cases rest
      refine Or.inr ⟨edited, [], ?_, ?_, rfl⟩
      all_goals cases data.openingHours <;> rfl
    | addCategory user restaurantId data =>
      obtain ⟨_, -, rfl⟩ := addCategory_ok outcome
      exact Or.inl ⟨rfl, rfl⟩
    | updateCategory user restaurantId categoryId data =>
      obtain ⟨_, _, -, -, -, rfl⟩ := updateCategory_ok outcome
      exact Or.inl ⟨rfl, rfl⟩
    | deleteCategory user restaurantId categoryId =>
      obtain ⟨-, rfl⟩ := deleteCategory_ok outcome
      exact Or.inl ⟨rfl, rfl⟩
    | addItem user restaurantId data =>
      obtain ⟨_, _, -, -, -, rfl⟩ := addItem_ok outcome
      exact Or.inl ⟨rfl, rfl⟩
    | updateItem user restaurantId itemId data =>
      obtain ⟨_, _, -, -, -, rfl⟩ := updateItem_ok outcome
      exact Or.inl ⟨rfl, rfl⟩
    | deleteItem user restaurantId itemId =>
      obtain rfl := deleteItem_ok outcome
      exact Or.inl ⟨rfl, rfl⟩
    | validateOrder restaurantId body clock =>
      rcases validateOrder_ok outcome with rfl | ⟨_, rfl⟩
      · exact Or.inl ⟨rfl, rfl⟩
      · exact Or.inl ⟨rfl, rfl⟩
    | releaseStock lines =>
      cases outcome
      exact Or.inl ⟨rfl, rfl⟩
  · exact Or.inl ⟨rfl, rfl⟩

end FoodDelivery.Restaurants
