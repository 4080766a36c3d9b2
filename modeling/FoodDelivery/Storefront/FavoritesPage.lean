/-
**The page of saved restaurants** (`frontend/src/api/favorites.ts`, `restaurants.ts`).

The users service says which restaurants a customer has saved, the restaurants service what they are; the
ids travel between them as one text. The page puts the cards back into the order in which they were saved.

`favorites_page`: the page shows the newest fifty of what the customer's own taps have saved, each once and
newest first, without the venues that are not approved.
-/

import FoodDelivery.Restaurants.PublicReads
import FoodDelivery.Users.Favorites

set_option autoImplicit false

namespace FoodDelivery.Storefront

open FoodDelivery.Lib
open FoodDelivery.Restaurants (Card ReviewState LocalTime Restaurant approvedRows plainCards ratedCard
  scheduleOf hourToSchema lookupRestaurants wantedIds looksLikeId unsignedPart mapM_toInt clampId clampId_some
  dropWhile_minus looksLikeId_eq_true exists_mapM_hourToSchema)
open FoodDelivery.Users (Favorites RowId Tap tapped tapsOf)

/-! ### The code -/

/-- `restaurantsApi.lookup`: `ids.join(',')`. -/
def joinedIds (ids : List RowId) : String := ",".intercalate (ids.map fun id => toString id.val)

/-- `favoritesApi.list`: which ones, then what they are, restored to the saved order. -/
def favoritesList (quotient : Int → Nat → Rat) (favorites : Favorites) (userId : Nat) (s : ReviewState)
    (now : LocalTime) : Except Raised (List Card) :=
  let ids := favorites.listMyFavorites userId 50 0
  if ids = [] then .ok []
  else do
    let found ← lookupRestaurants quotient s now (joinedIds ids)
    return ids.filterMap fun id => found.reverse.find? fun card => card.restaurant.id = id.val

/-! ### The ids on their way -/

theorem looksLikeId_toString (n : Nat) : looksLikeId (toString n).toList = true := by
  have decimal : (toString n).toList.all isDecimal = true :=
    List.all_eq_true.mpr fun c member => isDecimal_of_mem_toString member
  have core : unsignedPart (toString n).toList = (toString n).toList := by
    rw [unsignedPart, strip_eq_self fun c member => not_isSpace_of_mem_toString member, dropWhile_minus decimal]
  rw [looksLikeId_eq_true, core]
  exact ⟨toString_ne_nil n, List.all_eq_true.mpr fun c member =>
    isDigit_of_isDecimal (isDecimal_of_mem_toString member)⟩

theorem readInt_rowId (id : RowId) : readInt (toString id.val).toList = some (id.val : Int) := by
  refine readInt_toString ?_
  have short : (toString id.val).toList.length ≤ 10 := by
    rw [Nat.toString_eq_repr, Nat.toList_repr]
    refine (Nat.length_toDigits_le_iff (by decide) (by decide)).mpr ?_
    have range := id.property
    omega
  unfold digitLimit
  omega

/-- **The ids arrive**: what is joined is read back. -/
theorem wantedIds_joinedIds {ids : List RowId} (filled : ids ≠ []) :
    wantedIds (joinedIds ids) = .ok (ids.map fun id => (id.val : Int)) := by
  have parts : (joinedIds ids).toList.splitOn ',' = ids.map fun id => (toString id.val).toList := by
    rw [joinedIds, String.toList_intercalate, List.map_map]
    refine List.splitOn_intercalate ',' ?_ fun none => filled (List.map_eq_nil_iff.mp none)
    intro part member
    obtain ⟨id, -, rfl⟩ := List.mem_map.mp member
    exact sign_not_mem_toString (by decide)
  have values : (ids.map fun id => (toString id.val).toList).filterMap readInt =
      ids.map fun id => (id.val : Int) := by
    rw [List.filterMap_map, ← List.filterMap_eq_map]
    refine List.filterMap_congr fun id _ => ?_
    rw [Function.comp_apply, Function.comp_apply, readInt_rowId]
  have kept : (ids.map fun id => (id.val : Int)).filterMap (fun value => clampId (some value)) =
      ids.map fun id => (id.val : Int) := by
    rw [List.filterMap_map, ← List.filterMap_eq_map]
    refine List.filterMap_congr fun id _ => ?_
    have range := id.property
    rw [Function.comp_apply, clampId_some, if_pos (by omega)]
    rfl
  have looks : (ids.map fun id => (toString id.val).toList).filter looksLikeId =
      ids.map fun id => (toString id.val).toList := by
    refine List.filter_eq_self.mpr fun part member => ?_
    obtain ⟨id, -, rfl⟩ := List.mem_map.mp member
    exact looksLikeId_toString id.val
  unfold wantedIds
  rw [parts, looks, mapM_toInt, values]
  · exact congrArg Except.ok kept
  · intro part member
    obtain ⟨id, -, rfl⟩ := List.mem_map.mp member
    rw [readInt_rowId id]
    rfl

/-! ### The page -/

section Page

variable (quotient : Int → Nat → Rat) (s : ReviewState) (now : LocalTime)

/-- What a card of the page says of a restaurant. -/
def savedCard (restaurant : Restaurant) : Except Raised Card :=
  (ratedCard quotient s restaurant).withHours
    (scheduleOf s.service.openingHours.rows restaurant.id) now

/-- The card of a restaurant, if it is approved. -/
def approvedCard (id : RowId) : Option Card :=
  ((approvedRows s).find? fun restaurant => restaurant.id = id.val).bind fun restaurant =>
    (savedCard quotient s now restaurant).toOption

variable {quotient s now}

theorem savedCard_restaurant {restaurant : Restaurant} {card : Card}
    (shown : savedCard quotient s now restaurant = .ok card) : card.restaurant = restaurant := by
  obtain ⟨days, -, same⟩ := bind_eq_ok.mp shown
  cases same
  rfl

/-- A card is shown where every day of the week is whole. -/
theorem savedCard_ok {restaurant : Restaurant} :
    (∃ card, savedCard quotient s now restaurant = .ok card) ↔
      ∀ row ∈ s.service.openingHours.rows, row.restaurantId = restaurant.id → row.Whole := by
  have shown : (∃ card, savedCard quotient s now restaurant = .ok card) ↔
      ∃ days, (scheduleOf s.service.openingHours.rows restaurant.id).mapM hourToSchema = .ok days := by
    unfold savedCard Card.withHours
    cases (scheduleOf s.service.openingHours.rows restaurant.id).mapM hourToSchema with
    | error raised => exact iff_of_false (fun ⟨_, same⟩ => by cases same) fun ⟨_, same⟩ => by cases same
    | ok days => exact iff_of_true ⟨_, rfl⟩ ⟨_, rfl⟩
  rw [shown, exists_mapM_hourToSchema]

/-- The approved restaurants are a table. -/
theorem approvedCard_eq_some {id : RowId} {card : Card} :
    approvedCard quotient s now id = some card ↔
      ∃ restaurant ∈ approvedRows s, restaurant.id = id.val ∧
        savedCard quotient s now restaurant = .ok card := by
  have lookup : ∀ restaurant : Restaurant,
      (Restaurants.publicPart s).service.restaurants.find? id.val = some restaurant ↔
        restaurant ∈ approvedRows s ∧ restaurant.id = id.val := fun _ => Table.find?_eq_some
  have given : ∀ restaurant : Restaurant, (savedCard quotient s now restaurant).toOption = some card ↔
      savedCard quotient s now restaurant = .ok card := by
    intro restaurant
    cases savedCard quotient s now restaurant <;> simp [Except.toOption]
  rw [approvedCard, Option.bind_eq_some_iff]
  simp only [given]
  constructor
  · rintro ⟨restaurant, found, same⟩
    obtain ⟨approved, own⟩ := (lookup restaurant).mp found
    exact ⟨restaurant, approved, own, same⟩
  · rintro ⟨restaurant, approved, own, same⟩
    exact ⟨restaurant, (lookup restaurant).mpr ⟨approved, own⟩, same⟩

/-- What the lookup reads for some ids. -/
def lookedUp (s : ReviewState) (ids : List RowId) : List Restaurant :=
  (approvedRows s).filter fun restaurant => (restaurant.id : Int) ∈ ids.map fun id => (id.val : Int)

theorem mem_lookedUp {ids : List RowId} {restaurant : Restaurant} :
    restaurant ∈ lookedUp s ids ↔ restaurant ∈ approvedRows s ∧ ∃ id ∈ ids, id.val = restaurant.id := by
  rw [lookedUp, List.mem_filter, decide_eq_true_iff, List.mem_map]
  simp only [Nat.cast_inj]

/-- What the lookup found, by id. -/
theorem find?_found {ids : List RowId} {found : List Card}
    (shown : (lookedUp s ids).mapM (savedCard quotient s now) = .ok found) {id : RowId} (asked : id ∈ ids) :
    found.reverse.find? (fun card => card.restaurant.id = id.val) = approvedCard quotient s now id := by
  have cards := mapM_eq_ok.mp shown
  have member : ∀ card, card ∈ found ↔
      ∃ restaurant ∈ lookedUp s ids, savedCard quotient s now restaurant = .ok card := by
    intro card
    have listed : Except.ok card ∈ found.map (Except.ok : Card → Except Raised Card) ↔ card ∈ found := by
      rw [List.mem_map]
      exact ⟨fun ⟨_, among, same⟩ => Except.ok.inj same ▸ among, fun among => ⟨card, among, rfl⟩⟩
    rw [← listed, ← cards, List.mem_map]
  have restaurants : found.map Card.restaurant = lookedUp s ids := by
    have same := congrArg (List.map fun card : Except Raised Card => card.toOption.map Card.restaurant) cards
    rw [List.map_map, List.map_map] at same
    refine List.map_injective_iff.mpr (Option.some_injective _) ?_
    rw [List.map_map]
    refine same.symm.trans (List.map_congr_left fun restaurant listed => ?_)
    obtain ⟨card, given⟩ := exists_mapM_eq_ok.mp ⟨found, shown⟩ restaurant listed
    rw [Function.comp_apply, given]
    exact congrArg some (savedCard_restaurant given)
  have unique : (found.reverse.map fun card => card.restaurant.id).Nodup := by
    have ids_of : (found.map Card.restaurant).map Restaurant.id = found.map fun card => card.restaurant.id :=
      List.map_map
    rw [List.map_reverse, List.nodup_reverse, ← ids_of, restaurants]
    exact (Restaurants.publicPart s).service.restaurants.unique.sublist (List.filter_sublist.map _)
  let table : Table Nat Card (fun card => card.restaurant.id) := ⟨_, unique⟩
  change table.find? id.val = approvedCard quotient s now id
  refine Option.ext fun card => ?_
  rw [Table.find?_eq_some, approvedCard_eq_some]
  change card ∈ found.reverse ∧ card.restaurant.id = id.val ↔ _
  rw [List.mem_reverse, member]
  constructor
  · rintro ⟨⟨restaurant, listed, given⟩, own⟩
    rw [savedCard_restaurant given] at own
    exact ⟨restaurant, (mem_lookedUp.mp listed).1, own, given⟩
  · rintro ⟨restaurant, approved, own, given⟩
    refine ⟨⟨restaurant, mem_lookedUp.mpr ⟨approved, id, asked, own.symm⟩, given⟩, ?_⟩
    rw [savedCard_restaurant given, own]

/-- What the page asks for, and what it makes of the answer. -/
theorem favoritesList_eq (favorites : Favorites) (userId : Nat) :
    favoritesList quotient favorites userId s now =
      ((lookedUp s (favorites.listMyFavorites userId 50 0)).mapM (savedCard quotient s now)).map fun found =>
        (favorites.listMyFavorites userId 50 0).filterMap fun id =>
          found.reverse.find? fun card => card.restaurant.id = id.val := by
  unfold favoritesList
  dsimp only
  split_ifs with empty
  · have none : lookedUp s (favorites.listMyFavorites userId 50 0) = [] := by
      rw [empty, lookedUp]
      exact List.filter_eq_nil_iff.mpr fun _ _ => by simp
    rw [none, empty]
    rfl
  · unfold lookupRestaurants
    rw [wantedIds_joinedIds empty]
    change (plainCards quotient s now (lookedUp s _) >>= _) = _
    rw [Restaurants.plainCards_eq]
    change ((lookedUp s _).mapM (savedCard quotient s now) >>= _) = _
    cases (lookedUp s (favorites.listMyFavorites userId 50 0)).mapM (savedCard quotient s now) <;> rfl

/-- **The page of saved restaurants.** Whatever all the customers have tapped, and whatever the restaurants
service holds by then, the page shows the newest fifty of what the customer's own taps have saved, each
once and newest first: the card of each that is approved. It fails exactly when one of these has a day that
is neither closed nor has both its times. -/
theorem favorites_page (quotient : Int → Nat → Rat) (s : ReviewState) (now : LocalTime)
    (taps : List (Nat × Tap)) (userId : Nat) :
    ((tapsOf userId taps).foldl tapped []).Nodup ∧
      (∀ cards, favoritesList quotient (run Favorites.step {} taps) userId s now = .ok cards →
        cards = (((tapsOf userId taps).foldl tapped []).take 50).filterMap (approvedCard quotient s now)) ∧
      ((∃ cards, favoritesList quotient (run Favorites.step {} taps) userId s now = .ok cards) ↔
        ∀ restaurant ∈ approvedRows s,
          (∃ id ∈ ((tapsOf userId taps).foldl tapped []).take 50, id.val = restaurant.id) →
            ∀ row ∈ s.service.openingHours.rows, row.restaurantId = restaurant.id → row.Whole) := by
  have ordered : ({} : Favorites).Ordered :=
    ⟨List.Pairwise.nil, fun _ stored => absurd stored List.not_mem_nil⟩
  have saved : (run Favorites.step {} taps).listMyFavorites userId 50 0 =
      ((tapsOf userId taps).foldl tapped []).take 50 := by
    have nothing : ({} : Favorites).restaurantIds userId = [] := by
      rw [ordered.restaurantIds_eq]
      rfl
    rw [Favorites.listMyFavorites, Favorites.restaurantIds_run ordered, nothing, page, List.drop_zero]
  refine ⟨Users.foldl_tapped_nodup _ List.nodup_nil, ?_⟩
  rw [favoritesList_eq, saved]
  generalize ((tapsOf userId taps).foldl tapped []).take 50 = ids
  have fails : (∃ found, (lookedUp s ids).mapM (savedCard quotient s now) = .ok found) ↔
      ∀ restaurant ∈ approvedRows s, (∃ id ∈ ids, id.val = restaurant.id) →
        ∀ row ∈ s.service.openingHours.rows, row.restaurantId = restaurant.id → row.Whole := by
    simp only [exists_mapM_eq_ok, savedCard_ok, mem_lookedUp, and_imp]
  rw [← fails]
  cases shown : (lookedUp s ids).mapM (savedCard quotient s now) with
  | error raised => simp [Except.map]
  | ok found =>
    refine ⟨fun cards same => ?_, iff_of_true ⟨_, rfl⟩ ⟨_, rfl⟩⟩
    cases same
    exact List.filterMap_congr fun id asked => find?_found shown asked

end Page

end FoodDelivery.Storefront
