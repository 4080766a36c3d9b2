/-
**Browsing restaurants** (`services/restaurants/app/discovery.py`, `search`).

One query is put together from the filters that are given, counted, sorted and cut to a page. What the
database decides is an `Engine`: how texts compare and match, what an average is, and, page by page, in
which of the orders that the sort keys allow the rows come.

* `browse_eq`: the joins bring each restaurant once, so `total` counts restaurants;
* `pagedWhole_iff`: the pages of a browse hold every matching restaurant once, whatever orders the database
  chooses, exactly where the page size is not cut and no restaurants that tie in the sort keys are parted by
  the end of a page. No sort has the id as its last key.
-/

import FoodDelivery.Lib.Pages
import FoodDelivery.Lib.Texts
import FoodDelivery.Restaurants.Browsing
import FoodDelivery.Restaurants.Reviews
import Mathlib.Algebra.Order.Ring.Rat
import Mathlib.Data.List.Lex
import Mathlib.Data.Prod.Lex
import Mathlib.Order.WithBot

set_option autoImplicit false

namespace FoodDelivery.Restaurants

open FoodDelivery.Lib (Table Truth groupBy outerJoin page pages Arranged TiesWithin PageWhole strip isSpace)

/-! ### The request -/

/-- What the database decides: the sort key of a text, whether a text matches a pattern whatever the case,
the average of some numbers, and whether a number reaches a floating-point floor. -/
structure Engine (K : Type) where
  collate : String → K
  ilike : String → String → Bool
  avg : List Rat → Rat
  atLeast : Rat → Rat → Bool

/-- The filters; what is omitted does not filter. -/
structure Filters where
  city : Option String := none
  search : Option String := none
  cuisine : Option String := none
  minRating : Option Rat := none
  priceBand : Option Int := none
  vegetarianOnly : Bool := false
  openOnly : Bool := false
deriving DecidableEq, Repr

/-- `SORTS`. -/
inductive Sorting where
  | name
  | rating
  | priceLow
  | priceHigh
deriving DecidableEq, Repr

/-- `MAX_LIMIT`. -/
def maxLimit : Int := 100

/-- `PRICE_BAND_BOUNDS`. -/
def priceBandBounds : List (Int × Money) := [(1, 1000), (2, 2500)]

/-- `VEGETARIAN_FOOD_TYPES`. -/
def vegetarianFoodTypes : List FoodType := [.veg]

/-- `text.strip()` of a text that is given and has more than blanks. -/
def given (text : Option String) : Option String :=
  (text.map fun text => String.ofList (strip isSpace text.toList)).filter fun text => text ≠ ""

/-- The `[lower, upper)` average-price window for a band. -/
def bandRange (band : Int) : Money × Option Money :=
  let uppers := priceBandBounds.map Prod.snd
  if band ≤ 1 then (0, uppers[0]?)
  else if band ≤ uppers.length then (uppers.getD (band.toNat - 2) 0, uppers[band.toNat - 1]?)
  else (uppers.getLastD 0, none)

/-! ### The rows of the query -/

/-- A row of `_rating_aggregate`. -/
structure RatingRow where
  restaurantId : Nat
  avgRating : Rat
  reviewCount : Nat
deriving DecidableEq, Repr

/-- A row of `_price_aggregate`. -/
structure PriceRow where
  restaurantId : Nat
  avgPrice : Rat
deriving DecidableEq, Repr

/-- A restaurant with what is joined to it. -/
structure BrowseRow where
  restaurant : Restaurant
  avgRating : Option Rat
  reviewCount : Option Nat
  avgPrice : Option Rat
deriving DecidableEq, Repr

section Query

variable {K : Type} (e : Engine K) (s : ReviewState)

/-- Average rating and review count per restaurant. -/
def ratingAggregate : List RatingRow :=
  (groupBy Review.restaurantId s.reviews.rows).map fun group =>
    { restaurantId := group.1
      avgRating := e.avg (group.2.map fun review => (review.rating.val : Rat))
      reviewCount := group.2.length }

/-- Average price of the items a customer could actually order. -/
def priceAggregate : List PriceRow :=
  (groupBy MenuItem.restaurantId (s.service.items.rows.filter MenuItem.isAvailable)).map fun group =>
    { restaurantId := group.1
      avgPrice := e.avg (group.2.map fun item => (item.price : Rat)) }

/-- Restaurant ids whose menu has an available item matching the pattern. -/
def dishMatch (pattern : String) : List Nat :=
  ((s.service.items.rows.filter fun item => item.isAvailable && e.ilike item.name pattern).map
    MenuItem.restaurantId).dedup

/-- The two outer joins. -/
def joined : List BrowseRow :=
  (outerJoin
      (outerJoin s.service.restaurants.rows (ratingAggregate e s) fun restaurant rating =>
        rating.restaurantId = restaurant.id)
      (priceAggregate e s) fun left price => price.restaurantId = left.1.id).map fun row =>
    { restaurant := row.1.1
      avgRating := row.1.2.map RatingRow.avgRating
      reviewCount := row.1.2.map RatingRow.reviewCount
      avgPrice := row.2.map PriceRow.avgPrice }

/-! ### The conditions -/

/-- `column.ilike(pattern)`: null where the column is. -/
def ilike (column : Option String) (pattern : String) : Truth :=
  column.map fun text => e.ilike text pattern

/-- `_price_band_clause`. -/
def priceBandClause (avgPrice : Option Rat) (band : Int) : Truth :=
  let range := bandRange band
  let above := Lib.compare (fun average lower => average ≥ lower) avgPrice (some (range.1 : Rat))
  match range.2 with
  | none => above
  | some upper =>
    Truth.all [above, Lib.compare (fun average upper => average < upper) avgPrice (some (upper : Rat))]

/-- A restaurant whose name, whose cuisine or one of whose dishes matches. -/
def searchClause (row : BrowseRow) (term : String) : Truth :=
  let pattern := "%" ++ term ++ "%"
  Truth.any
    [ilike e (some row.restaurant.name) pattern,
      ilike e row.restaurant.cuisine pattern,
      some (decide (row.restaurant.id ∈ dishMatch e s pattern))]

/-- The conditions, the first whatever is asked. -/
def conditions (filters : Filters) (now : LocalTime) (row : BrowseRow) : List Truth :=
  [some (decide (row.restaurant.approvalStatus = .approved))] ++
    (given filters.city).toList.map (fun city =>
      ilike e (some row.restaurant.city) ("%" ++ city ++ "%")) ++
    (given filters.cuisine).toList.map (fun cuisine =>
      ilike e row.restaurant.cuisine ("%" ++ cuisine ++ "%")) ++
    (given filters.search).toList.map (searchClause e s row) ++
    filters.minRating.toList.map (fun floor =>
      row.avgRating.map fun average => e.atLeast average floor) ++
    filters.priceBand.toList.map (priceBandClause row.avgPrice) ++
    (if filters.vegetarianOnly = true then
      [some (decide (row.restaurant.foodType ∈ vegetarianFoodTypes))] else []) ++
    (if filters.openOnly = true then
      [some row.restaurant.isOpen,
        withinScheduleClause s.service.openingHours.rows row.restaurant.id now] else [])

/-- The rows of the query, in the order of the table. -/
def browse (filters : Filters) (now : LocalTime) : List BrowseRow :=
  (joined e s).filter fun row => Truth.all (conditions e s filters now row) = some true

/-! ### Sorting and paging -/

/-- `ASC NULLS LAST`. -/
def nullsLast (value : Option Rat) : WithTop Rat := value.elim ⊤ fun value => (value : WithTop Rat)

/-- `DESC NULLS LAST`. -/
def descNullsLast (value : Option Rat) : WithTop Rat := nullsLast (value.map fun value => -value)

/-- `_apply_sort`: the numbers to sort by, and then the name. -/
def sortKey (sort : Sorting) (row : BrowseRow) : List (WithTop Rat) ×ₗ K :=
  let numbers := match sort with
    | .name => []
    | .rating =>
      [descNullsLast row.avgRating, descNullsLast (row.reviewCount.map fun count : Nat => (count : Rat))]
    | .priceLow => [nullsLast row.avgPrice]
    | .priceHigh => [descNullsLast row.avgPrice]
  toLex (numbers, e.collate row.restaurant.name)

/-- One page of restaurants, plus the size of the whole matching set. -/
structure SearchResult where
  items : List Restaurant
  total : Nat
deriving DecidableEq, Repr

/-- `search`, where the database answers with its rows in this order. -/
def search (filters : Filters) (now : LocalTime) (limit offset : Int) (answer : List BrowseRow) :
    SearchResult where
  items := (page (max 0 offset).toNat (max 1 (min limit maxLimit)).toNat answer).map
    BrowseRow.restaurant
  total := (browse e s filters now).length

end Query

/-! ### One row for each restaurant -/

section Rows

variable {K : Type} (e : Engine K) (s : ReviewState) (filters : Filters) (now : LocalTime)

/-- What is joined to a restaurant. -/
def describe (restaurant : Restaurant) : BrowseRow :=
  let rating := (ratingAggregate e s).find? fun rating => rating.restaurantId = restaurant.id
  let price := (priceAggregate e s).find? fun price => price.restaurantId = restaurant.id
  { restaurant := restaurant
    avgRating := rating.map RatingRow.avgRating
    reviewCount := rating.map RatingRow.reviewCount
    avgPrice := price.map PriceRow.avgPrice }

/-- The restaurants that match every filter. -/
def matching : List Restaurant :=
  s.service.restaurants.rows.filter fun restaurant =>
    Truth.all (conditions e s filters now (describe e s restaurant)) = some true

/-- **The joins bring each restaurant once**: an aggregate has one row for a restaurant. -/
theorem joined_eq : joined e s = s.service.restaurants.rows.map (describe e s) := by
  have ratings : ((ratingAggregate e s).map RatingRow.restaurantId).Nodup := by
    rw [ratingAggregate, List.map_map]
    exact Lib.groupBy_keys Review.restaurantId s.reviews.rows
  have prices : ((priceAggregate e s).map PriceRow.restaurantId).Nodup := by
    rw [priceAggregate, List.map_map]
    exact Lib.groupBy_keys MenuItem.restaurantId _
  have inner := Lib.outerJoin_of_unique s.service.restaurants.rows Restaurant.id ratings
  have outer := Lib.outerJoin_of_unique
    (outerJoin s.service.restaurants.rows (ratingAggregate e s) fun restaurant rating =>
      rating.restaurantId = restaurant.id)
    (fun row : Restaurant × Option RatingRow => row.1.id) prices
  rw [joined, outer, inner, List.map_map, List.map_map]
  rfl

theorem browse_eq : browse e s filters now = (matching e s filters now).map (describe e s) := by
  rw [browse, joined_eq, List.filter_map]
  rfl

theorem browse_nodup : (browse e s filters now).Nodup := by
  rw [browse_eq]
  have restaurants : s.service.restaurants.rows.Nodup := s.service.restaurants.unique.of_map
  refine (restaurants.filter _).map_on fun first _ second _ same => ?_
  exact congrArg BrowseRow.restaurant same

/-- A row of the query is told by its restaurant. -/
theorem describe_restaurant {row : BrowseRow} (listed : row ∈ browse e s filters now) :
    describe e s row.restaurant = row := by
  rw [browse_eq] at listed
  obtain ⟨restaurant, -, rfl⟩ := List.mem_map.mp listed
  rfl

theorem perm_browse_iff {rows : List BrowseRow} (within : ∀ row ∈ rows, row ∈ browse e s filters now) :
    (rows.map BrowseRow.restaurant).Perm (matching e s filters now) ↔
      rows.Perm (browse e s filters now) := by
  have described : (rows.map BrowseRow.restaurant).map (describe e s) = rows := by
    rw [List.map_map]
    exact (List.map_congr_left fun row member =>
      describe_restaurant e s filters now (within row member)).trans (List.map_id rows)
  rw [browse_eq]
  constructor
  · intro perm
    have again := perm.map (describe e s)
    rwa [described] at again
  · intro perm
    have again := perm.map BrowseRow.restaurant
    rw [List.map_map] at again
    exact again.trans (List.Perm.of_eq (List.map_id _))

/-- What is asked for and what is cut. -/
theorem items_flatMap {size : Nat} (positive : 0 < size) (answers : Nat → List BrowseRow) (count : Nat) :
    ((List.range count).flatMap fun n : Nat =>
        (search e s filters now size (n * size) (answers n)).items) =
      (pages size (min size maxLimit.toNat) answers count).map BrowseRow.restaurant := by
  rw [pages, List.map_flatMap]
  refine List.flatMap_congr fun n _ => ?_
  have offset : (max 0 ((n : Int) * size)).toNat = n * size := by
    rw [← Int.natCast_mul]
    omega
  have limit : (max 1 (min (size : Int) maxLimit)).toNat = min size maxLimit.toNat := by
    unfold maxLimit
    omega
  rw [search, offset, limit]

theorem length_browse : (browse e s filters now).length = (matching e s filters now).length := by
  rw [browse_eq, List.length_map]

end Rows

/-! ### The pages of a browse -/

section Paging

variable {K : Type} [LinearOrder K] (e : Engine K) (s : ReviewState) (filters : Filters) (now : LocalTime)
  (sort : Sorting)

/-- **Paging loses and repeats nothing**: whatever orders the database chooses for the pages at 0, `size`,
`2 * size`, …, they hold each matching restaurant once, and every total is the number of them. -/
def PagedWhole (size : Nat) : Prop :=
  ∀ answers : Nat → List BrowseRow,
    (∀ n, Arranged (sortKey e sort) (browse e s filters now) (answers n)) →
      (∀ n : Nat, (search e s filters now size (n * size) (answers n)).total =
        (matching e s filters now).length) ∧
      ∀ count : Nat, (matching e s filters now).length ≤ count * size →
        ((List.range count).flatMap fun n : Nat =>
          (search e s filters now size (n * size) (answers n)).items).Perm (matching e s filters now)

variable {e s filters now sort} {size : Nat}

/-- The restaurants and the rows of the query are paged alike. -/
theorem pagedWhole_iff_pageWhole (positive : 0 < size) :
    PagedWhole e s filters now sort size ↔
      PageWhole (sortKey e sort) (browse e s filters now) size (min size maxLimit.toNat) := by
  have within : ∀ {answers : Nat → List BrowseRow} {count : Nat},
      (∀ n, Arranged (sortKey e sort) (browse e s filters now) (answers n)) →
      ∀ row ∈ pages size (min size maxLimit.toNat) answers count, row ∈ browse e s filters now := by
    intro answers count arranged row member
    obtain ⟨n, -, i, found, -⟩ := Lib.mem_pages.mp member
    exact (arranged n).perm.mem_iff.mp (List.mem_of_getElem? found)
  have length := length_browse e s filters now
  constructor
  · intro whole answers arranged count enough
    have paged := (whole answers arranged).2 count (length ▸ enough)
    rw [items_flatMap e s filters now positive] at paged
    exact (perm_browse_iff e s filters now (within arranged)).mp paged
  · intro whole answers arranged
    refine ⟨fun n => length, fun count enough => ?_⟩
    rw [items_flatMap e s filters now positive]
    exact (perm_browse_iff e s filters now (within arranged)).mpr
      (whole answers arranged count (length.symm ▸ enough))

/-- **Browse paging is whole exactly where its ties lie within the pages**, and no page is cut: the page
size is at most the largest one, or there is no more than the largest page holds. -/
theorem pagedWhole_iff (positive : 0 < size) :
    PagedWhole e s filters now sort size ↔
      ((size : Int) ≤ maxLimit ∨ ((matching e s filters now).length : Int) ≤ maxLimit) ∧
        TiesWithin (sortKey e sort) (browse e s filters now) size := by
  have cast : ∀ n : Nat, (n : Int) ≤ maxLimit ↔ n ≤ maxLimit.toNat := by
    intro n
    unfold maxLimit
    omega
  have unique := browse_nodup e s filters now
  rw [pagedWhole_iff_pageWhole positive, cast, cast, ← length_browse]
  by_cases fits : size ≤ maxLimit.toNat
  · rw [Nat.min_eq_left fits, Lib.pageWhole_iff unique positive]
    exact (and_iff_right (Or.inl fits)).symm
  · rw [Nat.min_eq_right (Nat.le_of_not_le fits), Lib.pageWhole_iff_of_cut unique (by omega)]
    refine ⟨fun short => ⟨Or.inr short, Lib.tiesWithin_of_length_le ?_⟩, fun both => ?_⟩
    · omega
    · exact both.1.resolve_left fits

/-! ### Two restaurants of one name -/

/-- Texts compared by the codes of their letters, nothing matched, and exact averages. -/
def plainEngine : Engine (List Nat) where
  collate := fun text => text.toList.map Char.toNat
  ilike := fun _ _ => false
  avg := fun values => values.sum / values.length
  atLeast := fun average floor => floor ≤ average

/-- A branch of a chain that its owner calls by the chain's name. -/
def branch (id : Nat) (city : String) : Restaurant where
  id := id
  ownerId := id
  name := "Spice Garden"
  city := city
  approvalStatus := .approved

/-- Two branches. -/
def branches : ReviewState :=
  .start { State.empty with restaurants := ⟨[branch 1 "Pune", branch 2 "Delhi"], by decide⟩ }

/-- Their rows of the query: no review and no dish yet. -/
def branchRow (id : Nat) (city : String) : BrowseRow := ⟨branch id city, none, none, none⟩

/-- On pages of one, each query may put either branch first: the first branch comes twice and the other
one never. -/
theorem branches_not_pagedWhole :
    ¬ ∀ (s : ReviewState) (filters : Filters) (now : LocalTime) (sort : Sorting) (size : Nat), 0 < size →
      PagedWhole plainEngine s filters now sort size := by
  intro whole
  have rows : browse plainEngine branches {} ⟨0, Minute.time 720⟩ =
      [branchRow 1 "Pune", branchRow 2 "Delhi"] := by decide
  have tie : ∀ first second, sortKey plainEngine .name (branchRow 1 first) ≤
      sortKey plainEngine .name (branchRow 2 second) := fun _ _ => le_refl _
  have tie' : ∀ first second, sortKey plainEngine .name (branchRow 2 first) ≤
      sortKey plainEngine .name (branchRow 1 second) := fun _ _ => le_refl _
  let answers : Nat → List BrowseRow := fun n =>
    if n = 0 then [branchRow 1 "Pune", branchRow 2 "Delhi"] else [branchRow 2 "Delhi", branchRow 1 "Pune"]
  have arranged : ∀ n, Arranged (sortKey plainEngine .name)
      (browse plainEngine branches {} ⟨0, Minute.time 720⟩) (answers n) := by
    intro n
    rw [rows]
    by_cases first : n = 0
    · rw [show answers n = _ from if_pos first]
      exact ⟨List.Perm.refl _, by simp [tie]⟩
    · rw [show answers n = _ from if_neg first]
      exact ⟨List.Perm.swap _ _ _, by simp [tie']⟩
  have paged := ((whole branches {} ⟨0, Minute.time 720⟩ .name 1 (by decide)) answers arranged).2 2
    (by decide)
  revert paged
  decide

/-- The two branches on one page. -/
theorem pagedWhole_iff_branches :
    PagedWhole plainEngine branches {} ⟨0, Minute.time 720⟩ .name 20 ↔
      (((20 : Nat) : Int) ≤ maxLimit ∨
          ((matching plainEngine branches {} ⟨0, Minute.time 720⟩).length : Int) ≤ maxLimit) ∧
        TiesWithin (sortKey plainEngine .name) (browse plainEngine branches {} ⟨0, Minute.time 720⟩) 20 :=
  pagedWhole_iff (by decide)

end Paging

end FoodDelivery.Restaurants
