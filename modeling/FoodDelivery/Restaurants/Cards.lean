/-
**The cards of a browse page** (`services/restaurants/app/discovery.py`, `ratings.py`, `service.py`).

`search` answers with restaurants; what a customer is shown of each is put together afterwards, by one
query of each kind for the whole page and by Python, which has its own price bands, its own hours and its
own list of dishes. The filters are conditions of SQL.

* `listRestaurants_eq`: what a page says of a restaurant does not depend on the rest of the page, except
  that a restaurant whose week cannot be shown fails the whole page;
* `cards_answer`: the two agree. A restaurant is listed exactly when its own card bears the filters out.
-/

import FoodDelivery.Restaurants.Discovery
import FoodDelivery.Restaurants.HoursSent
import Mathlib.Algebra.Order.BigOperators.Group.List
import Mathlib.Algebra.Order.Field.Basic
import Mathlib.Data.Int.Cast.Lemmas
import Mathlib.Data.Rat.Cast.Order

set_option autoImplicit false

namespace FoodDelivery.Restaurants

open FoodDelivery.Lib

/-! ### Ratings -/

/-- `STARS`. -/
def stars : List Int := [5, 4, 3, 2, 1]

/-- What a restaurant's reviews add up to. -/
structure RatingSummary where
  average : Option Rat
  count : Nat
  breakdown : List (Int × Nat)
deriving DecidableEq, Repr

/-- `EMPTY`. -/
def emptySummary : RatingSummary where
  average := none
  count := 0
  breakdown := stars.map fun star => (star, 0)

/-- `_summarise`; `quotient` is Python's `round(total / count, 1)`. -/
def summarise (quotient : Int → Nat → Rat) (counts : List (Int × Nat)) : RatingSummary :=
  let breakdown := stars.map fun star =>
    (star, ((counts.find? fun count => count.1 = star).map Prod.snd).getD 0)
  let count := (breakdown.map Prod.snd).sum
  if count = 0 then emptySummary
  else
    { average := some (quotient (breakdown.map fun star => star.1 * (star.2 : Int)).sum count)
      count := count
      breakdown := breakdown }

/-- Summarise several restaurants at once. -/
def summaryFor (quotient : Int → Nat → Rat) (s : ReviewState) (restaurantIds : List Nat) :
    List (Nat × RatingSummary) :=
  let rows := (groupBy (fun review => (review.restaurantId, review.rating.val))
    (s.reviews.rows.filter fun review => review.restaurantId ∈ restaurantIds)).map fun group =>
      (group.1, group.2.length)
  restaurantIds.map fun id =>
    (id, summarise quotient ((rows.filter fun row => row.1.1 = id).map fun row => (row.1.2, row.2)))

/-! ### Cards -/

/-- `RestaurantResponse`: the columns, and what is attached to them. -/
structure Card where
  restaurant : Restaurant
  ratingAverage : Option Rat := none
  reviewCount : Nat := 0
  ratingBreakdown : List (Int × Nat) := []
  priceBand : Option Int := none
  matchedItems : List String := []
  openingHours : List HoursShown := []
  isAcceptingOrders : Bool := true
  localDayOfWeek : Nat := 0
  currentClosesAt : Option String := none
  open24Hours : Bool := false
  nextOpensAt : Option String := none
  nextOpensDay : Option Nat := none
deriving DecidableEq, Repr

/-- Set each restaurant's rating fields. -/
def attachRatings (quotient : Int → Nat → Rat) (s : ReviewState) (cards : List Card) : List Card :=
  let summaries := summaryFor quotient s (cards.map fun card => card.restaurant.id)
  cards.map fun card =>
    let summary := ((summaries.find? fun entry => entry.1 = card.restaurant.id).map Prod.snd).getD
      emptySummary
    { card with
      ratingAverage := summary.average
      reviewCount := summary.count
      ratingBreakdown := summary.breakdown }

/-- The derived facts of a schedule. -/
def Card.withStatus (card : Card) (status : ScheduleStatus) : Card :=
  { card with
    isAcceptingOrders := status.acceptingOrders
    localDayOfWeek := status.localDayOfWeek.val
    currentClosesAt := status.currentClosesAt.map formatHhmm
    open24Hours := status.open24Hours
    nextOpensAt := status.nextOpensAt.map formatHhmm
    nextOpensDay := status.nextOpensDay.map Fin.val }

/-- A schedule and what is derived from it. -/
def Card.withHours (card : Card) (schedule : List OpeningHour) (now : LocalTime) : Except Raised Card := do
  let status := scheduleStatus card.restaurant.isOpen schedule now
  let openingHours ← schedule.mapM hourToSchema
  return { card.withStatus status with openingHours := openingHours }

/-- Attach weekly hours and the derived accepting-orders flag. -/
def attachOpeningHours (s : State) (now : LocalTime) (cards : List Card) : Except Raised (List Card) :=
  let ids := cards.map fun card => card.restaurant.id
  let rows := s.openingHours.rows.filter fun row => row.restaurantId ∈ ids
  cards.mapM fun card =>
    card.withHours
      ((rows.filter fun row => row.restaurantId = card.restaurant.id).mergeSort fun first second =>
        first.dayOfWeek ≤ second.dayOfWeek) now

/-- `MAX_PRICE_BAND`. -/
def maxPriceBand : Int := 3

/-- Which band an average price falls in, or none when there is no menu. -/
def bandForPrice (avgPrice : Option Rat) : Option Int :=
  avgPrice.map fun price =>
    ((priceBandBounds.find? fun bound => price < bound.2).map Prod.fst).getD maxPriceBand

section Engines

variable {K : Type} [LinearOrder K] (e : Engine K)

/-- Set `price_band` on each restaurant. -/
def attachPriceBands (s : State) (cards : List Card) : List Card :=
  let ids := cards.map fun card => card.restaurant.id
  let averages := (groupBy MenuItem.restaurantId (s.items.rows.filter fun item =>
    item.restaurantId ∈ ids ∧ item.isAvailable = true)).map fun group =>
      (group.1, e.avg (group.2.map fun item => (item.price : Rat)))
  cards.map fun card =>
    { card with
      priceBand := bandForPrice
        ((averages.find? fun average => average.1 = card.restaurant.id).map Prod.snd) }

/-- The names of a restaurant's available dishes that match, in the database's order of names. -/
def dishes (items : List MenuItem) (restaurantId : Nat) (pattern : String) : List String :=
  ((items.filter fun item =>
      item.restaurantId = restaurantId ∧ item.isAvailable = true ∧ e.ilike item.name pattern = true).map
    MenuItem.name).mergeSort fun first second => e.collate first ≤ e.collate second

/-- Name the dishes that made each restaurant match. -/
def attachMatchedItems (s : State) (search : Option String) (cards : List Card) : List Card :=
  let ids := cards.map fun card => card.restaurant.id
  match given search with
  | none => cards.map fun card => { card with matchedItems := [] }
  | some term =>
    let items := s.items.rows.filter fun item => item.restaurantId ∈ ids
    cards.map fun card =>
      { card with matchedItems := dishes e items card.restaurant.id ("%" ++ term ++ "%") }

/-- `RestaurantPage`. -/
structure RestaurantPage where
  items : List Card
  total : Nat
  limit : Int
  offset : Int
deriving DecidableEq, Repr

/-- `GET /restaurants`. -/
def listRestaurants (quotient : Int → Nat → Rat) (s : ReviewState) (filters : Filters) (now : LocalTime)
    (limit offset : Int) (answer : List BrowseRow) : Except Raised RestaurantPage := do
  let result := search e s filters now limit offset answer
  let cards := attachRatings quotient s (result.items.map fun restaurant => { restaurant := restaurant })
  let cards ← attachOpeningHours s.service now cards
  let cards := attachPriceBands e s.service cards
  return {
    items := attachMatchedItems e s.service filters.search cards
    total := result.total
    limit := limit
    offset := offset }

end Engines

/-! ### One restaurant -/

section One

/-- How many reviews of a restaurant give it so many stars. -/
def starCount (reviews : List Review) (restaurantId : Nat) (star : Int) : Nat :=
  reviews.countP fun review => review.restaurantId = restaurantId ∧ review.rating.val = star

/-- The summary of a restaurant's reviews. -/
def summaryOf (quotient : Int → Nat → Rat) (s : ReviewState) (restaurantId : Nat) : RatingSummary :=
  summarise quotient (stars.map fun star => (star, starCount s.reviews.rows restaurantId star))

/-- A summary reads what is counted of each star. -/
theorem summarise_congr (quotient : Int → Nat → Rat) {first second : List (Int × Nat)}
    (same : ∀ star ∈ stars, ((first.find? fun count => count.1 = star).map Prod.snd).getD 0 =
      ((second.find? fun count => count.1 = star).map Prod.snd).getD 0) :
    summarise quotient first = summarise quotient second := by
  have breakdown : (stars.map fun star =>
      (star, ((first.find? fun count => count.1 = star).map Prod.snd).getD 0)) =
      stars.map fun star =>
        (star, ((second.find? fun count => count.1 = star).map Prod.snd).getD 0) :=
    List.map_congr_left fun star listed => by rw [same star listed]
  unfold summarise
  rw [breakdown]

/-- The counts that `summaryOf` gives. -/
theorem find?_starCount (reviews : List Review) (restaurantId : Nat) {star : Int} (listed : star ∈ stars) :
    (((stars.map fun star => (star, starCount reviews restaurantId star)).find? fun count =>
      count.1 = star).map Prod.snd).getD 0 = starCount reviews restaurantId star := by
  rw [Lib.find?_pairs, if_pos listed]
  rfl

/-- **One query summarises each restaurant as if it were alone.** -/
theorem find?_summaryFor (quotient : Int → Nat → Rat) (s : ReviewState) {restaurantIds : List Nat}
    {restaurantId : Nat} (listed : restaurantId ∈ restaurantIds) :
    ((summaryFor quotient s restaurantIds).find? fun entry => entry.1 = restaurantId).map Prod.snd =
      some (summaryOf quotient s restaurantId) := by
  unfold summaryFor summaryOf
  dsimp only
  rw [Lib.find?_pairs, if_pos listed, Option.map_some, Option.some_inj]
  apply summarise_congr
  intro star known
  have counted : ((s.reviews.rows.filter fun review => review.restaurantId ∈ restaurantIds).filter
      fun review => (review.restaurantId, review.rating.val) = (restaurantId, star)).length =
        starCount s.reviews.rows restaurantId star := by
    rw [starCount, ← List.countP_eq_length_filter, List.countP_filter]
    refine List.countP_congr fun review _ => ?_
    simp only [Prod.mk.injEq, Bool.decide_and, Bool.and_eq_true, decide_eq_true_eq]
    refine ⟨fun both => both.1, fun own => ⟨own, ?_⟩⟩
    rwa [own.1]
  rw [find?_starCount _ _ known, List.find?_map, List.find?_filter, List.find?_map]
  simp only [Function.comp_def, decide_eq_true_eq, ← Prod.mk.injEq, Prod.mk.eta, Lib.find?_groupBy]
  split
  · rename_i unrated
    rw [← counted, unrated]
    rfl
  · exact counted

/-- The average price of what can be ordered of a restaurant. -/
def averagePrice {K : Type} (e : Engine K) (items : List MenuItem) (restaurantId : Nat) : Option Rat :=
  let available := items.filter fun item => item.restaurantId = restaurantId ∧ item.isAvailable = true
  if available = [] then none else some (e.avg (available.map fun item => (item.price : Rat)))

/-- A restaurant's schedule, in the order of the week. -/
def scheduleOf (hours : List OpeningHour) (restaurantId : Nat) : List OpeningHour :=
  (hours.filter fun row => row.restaurantId = restaurantId).mergeSort fun first second =>
    first.dayOfWeek ≤ second.dayOfWeek

variable {K : Type} [LinearOrder K] (e : Engine K) (quotient : Int → Nat → Rat) (s : ReviewState)

/-- The dishes for which a search finds a restaurant. -/
def matchedItems (search : Option String) (restaurantId : Nat) : List String :=
  match given search with
  | none => []
  | some term => dishes e s.service.items.rows restaurantId ("%" ++ term ++ "%")

/-- A card with its ratings. -/
def ratedCard (restaurant : Restaurant) : Card :=
  let summary := summaryOf quotient s restaurant.id
  { restaurant := restaurant
    ratingAverage := summary.average
    reviewCount := summary.count
    ratingBreakdown := summary.breakdown }

/-- What a browse page says of a restaurant, the days of its week aside. -/
def cardFacts (search : Option String) (now : LocalTime) (restaurant : Restaurant) : Card :=
  let card := (ratedCard quotient s restaurant).withStatus
    (scheduleStatus restaurant.isOpen (scheduleOf s.service.openingHours.rows restaurant.id) now)
  { card with
    priceBand := bandForPrice (averagePrice e s.service.items.rows restaurant.id)
    matchedItems := matchedItems e s search restaurant.id }

/-- What a browse page says of a restaurant. -/
def cardFor (search : Option String) (now : LocalTime) (restaurant : Restaurant) : Except Raised Card :=
  ((scheduleOf s.service.openingHours.rows restaurant.id).mapM hourToSchema).map fun openingHours =>
    { cardFacts e quotient s search now restaurant with openingHours := openingHours }

theorem attachRatings_eq (cards : List Card) :
    attachRatings quotient s cards = cards.map fun card =>
      let summary := summaryOf quotient s card.restaurant.id
      { card with
        ratingAverage := summary.average
        reviewCount := summary.count
        ratingBreakdown := summary.breakdown } := by
  unfold attachRatings
  refine List.map_congr_left fun card member => ?_
  have listed : card.restaurant.id ∈ cards.map fun card => card.restaurant.id := List.mem_map_of_mem member
  simp only [find?_summaryFor quotient s listed, Option.getD_some]

theorem attachOpeningHours_eq (now : LocalTime) (cards : List Card) :
    attachOpeningHours s.service now cards = cards.mapM fun card =>
      card.withHours (scheduleOf s.service.openingHours.rows card.restaurant.id) now := by
  unfold attachOpeningHours scheduleOf
  refine mapM_congr fun card member => ?_
  have listed : card.restaurant.id ∈ cards.map fun card => card.restaurant.id := List.mem_map_of_mem member
  rw [List.filter_filter, List.filter_congr fun row _ => ?_]
  by_cases own : row.restaurantId = card.restaurant.id <;> simp [own, listed]

omit [LinearOrder K] in
theorem attachPriceBands_eq (cards : List Card) :
    attachPriceBands e s.service cards = cards.map fun card =>
      { card with
        priceBand := bandForPrice (averagePrice e s.service.items.rows card.restaurant.id) } := by
  unfold attachPriceBands averagePrice
  refine List.map_congr_left fun card member => ?_
  have listed : card.restaurant.id ∈ cards.map fun card => card.restaurant.id := List.mem_map_of_mem member
  have available : ((s.service.items.rows.filter fun item =>
      item.restaurantId ∈ (cards.map fun card => card.restaurant.id) ∧ item.isAvailable = true).filter
        fun item => item.restaurantId = card.restaurant.id) =
      s.service.items.rows.filter fun item =>
        item.restaurantId = card.restaurant.id ∧ item.isAvailable = true := by
    rw [List.filter_filter, List.filter_congr fun item _ => ?_]
    by_cases own : item.restaurantId = card.restaurant.id <;> simp [own, listed]
  rw [List.find?_map, Function.comp_def]
  simp only [Lib.find?_groupBy, available]
  split <;> rfl

theorem attachMatchedItems_eq (search : Option String) (cards : List Card) :
    attachMatchedItems e s.service search cards = cards.map fun card =>
      { card with matchedItems := matchedItems e s search card.restaurant.id } := by
  unfold attachMatchedItems matchedItems
  split
  · rfl
  · refine List.map_congr_left fun card member => ?_
    have listed : card.restaurant.id ∈ cards.map fun card => card.restaurant.id :=
      List.mem_map_of_mem member
    unfold dishes
    rw [List.filter_filter, List.filter_congr fun item _ => ?_]
    by_cases own : item.restaurantId = card.restaurant.id <;> simp [own, listed]

/-- What the passes make of one restaurant. -/
theorem cardFor_eq (search : Option String) (now : LocalTime) (restaurant : Restaurant) :
    cardFor e quotient s search now restaurant =
      ((ratedCard quotient s restaurant).withHours
        (scheduleOf s.service.openingHours.rows restaurant.id) now).map fun card =>
          { card with
            priceBand := bandForPrice (averagePrice e s.service.items.rows restaurant.id)
            matchedItems := matchedItems e s search restaurant.id } := by
  unfold cardFor Card.withHours
  cases (scheduleOf s.service.openingHours.rows restaurant.id).mapM hourToSchema <;> rfl

/-- A week is shown where every day of it is whole. -/
theorem exists_mapM_hourToSchema {hours : List OpeningHour} {restaurantId : Nat} :
    (∃ days, (scheduleOf hours restaurantId).mapM hourToSchema = .ok days) ↔
      ∀ row ∈ hours, row.restaurantId = restaurantId → row.Whole := by
  simp only [exists_mapM_eq_ok, scheduleOf, hourToSchema_ok, (List.mergeSort_perm _ _).mem_iff,
    List.mem_filter, decide_eq_true_eq, and_imp]

/-- A card is shown where every day of the week is whole. -/
theorem cardFor_ok (search : Option String) (now : LocalTime) {restaurant : Restaurant} :
    (∃ card, cardFor e quotient s search now restaurant = .ok card) ↔
      ∀ row ∈ s.service.openingHours.rows, row.restaurantId = restaurant.id → row.Whole := by
  have shown : (∃ card, cardFor e quotient s search now restaurant = .ok card) ↔
      ∃ days, (scheduleOf s.service.openingHours.rows restaurant.id).mapM hourToSchema = .ok days := by
    unfold cardFor
    cases (scheduleOf s.service.openingHours.rows restaurant.id).mapM hourToSchema with
    | error raised => simp [Except.map]
    | ok days => exact iff_of_true ⟨_, rfl⟩ ⟨_, rfl⟩
  rw [shown, exists_mapM_hourToSchema]

/-- **What a page says of a restaurant** is what it would say of it alone. -/
theorem listRestaurants_eq (filters : Filters) (now : LocalTime) (limit offset : Int)
    (answer : List BrowseRow) :
    listRestaurants e quotient s filters now limit offset answer =
      ((search e s filters now limit offset answer).items.mapM
        (cardFor e quotient s filters.search now)).map fun items =>
          ⟨items, (search e s filters now limit offset answer).total, limit, offset⟩ := by
  have passes : ((search e s filters now limit offset answer).items.mapM
      (cardFor e quotient s filters.search now)) =
      (((search e s filters now limit offset answer).items.map (ratedCard quotient s)).mapM fun card : Card =>
        card.withHours (scheduleOf s.service.openingHours.rows card.restaurant.id) now).map
          (List.map fun card =>
            { card with
              priceBand := bandForPrice (averagePrice e s.service.items.rows card.restaurant.id)
              matchedItems := matchedItems e s filters.search card.restaurant.id }) := by
    rw [map_mapM, List.mapM_map]
    refine mapM_congr fun restaurant _ => ?_
    rw [cardFor_eq, Function.comp_apply, show (ratedCard quotient s restaurant).restaurant = restaurant from rfl]
    unfold Card.withHours
    cases (scheduleOf s.service.openingHours.rows restaurant.id).mapM hourToSchema <;> rfl
  rw [passes]
  unfold listRestaurants
  dsimp only
  rw [attachRatings_eq, attachOpeningHours_eq, List.map_map]
  change ((((search e s filters now limit offset answer).items.map (ratedCard quotient s)).mapM _ >>= _) :
    Except Raised RestaurantPage) = _
  cases ((search e s filters now limit offset answer).items.map (ratedCard quotient s)).mapM fun card : Card =>
      card.withHours (scheduleOf s.service.openingHours.rows card.restaurant.id) now with
  | error raised => rfl
  | ok cards =>
    change Except.ok _ = Except.ok _
    rw [attachPriceBands_eq, attachMatchedItems_eq, List.map_map]
    rfl

end One

/-! ### What the filters ask of a card -/

/-- The ratings of a restaurant. -/
def ratingsOf (reviews : List Review) (restaurantId : Nat) : List Rat :=
  (reviews.filter fun review => review.restaurantId = restaurantId).map fun review => (review.rating.val : Rat)

/-- **A card bears the filters out**: what is asked for is what the card shows. Only the floor of the
ratings is held against the exact average. -/
structure Answers {K : Type} (e : Engine K) (reviews : List Review) (filters : Filters) (card : Card) :
    Prop where
  approved : card.restaurant.approvalStatus = .approved
  city : ∀ city ∈ given filters.city, e.ilike card.restaurant.city ("%" ++ city ++ "%") = true
  cuisine : ∀ cuisine ∈ given filters.cuisine,
    ∃ own ∈ card.restaurant.cuisine, e.ilike own ("%" ++ cuisine ++ "%") = true
  search : ∀ term ∈ given filters.search,
    e.ilike card.restaurant.name ("%" ++ term ++ "%") = true ∨
      (∃ own ∈ card.restaurant.cuisine, e.ilike own ("%" ++ term ++ "%") = true) ∨ card.matchedItems ≠ []
  rating : ∀ floor ∈ filters.minRating, card.reviewCount ≠ 0 ∧
    e.atLeast (e.avg (ratingsOf reviews card.restaurant.id)) floor = true
  price : ∀ band ∈ filters.priceBand, card.priceBand = some (max 1 (min band maxPriceBand))
  vegetarian : filters.vegetarianOnly = true → card.restaurant.foodType ∈ vegetarianFoodTypes
  hours : filters.openOnly = true → card.isAcceptingOrders = true

section Bands

theorem bandRange_eq (band : Int) : bandRange band =
    if band ≤ 1 then (0, some 1000) else if band ≤ 2 then (1000, some 2500) else (2500, none) := by
  unfold bandRange priceBandBounds
  dsimp only [List.map, List.length]
  by_cases first : band ≤ 1
  · simp [first]
  · by_cases second : band ≤ 2
    · obtain rfl : band = 2 := by omega
      rfl
    · simp [first, second]

/-- The windows of the prices and the bands of the cards. -/
theorem priceBandClause_iff {avgPrice : Option Rat} (positive : ∀ average ∈ avgPrice, 0 ≤ average)
    (band : Int) :
    priceBandClause avgPrice band = some true ↔
      bandForPrice avgPrice = some (max 1 (min band maxPriceBand)) := by
  cases avgPrice with
  | none =>
    refine iff_of_false ?_ (by simp [bandForPrice])
    unfold priceBandClause
    dsimp only
    split <;> simp [Lib.compare, Truth.all, Truth.conj]
  | some average =>
    have low : 0 ≤ average := positive average rfl
    have shown : bandForPrice (some average) =
        if average < 1000 then some 1 else if average < 2500 then some 2 else some 3 := by
      simp only [bandForPrice, Option.map_some, priceBandBounds, List.find?_cons, List.find?_nil]
      by_cases cheap : average < 1000
      · simp [cheap]
      · by_cases middle : average < 2500 <;> simp [cheap, middle, maxPriceBand]
    rw [shown, priceBandClause, bandRange_eq]
    unfold maxPriceBand
    by_cases first : band ≤ 1
    · have asked : max 1 (min band 3) = 1 := by omega
      rw [if_pos first, asked]
      by_cases cheap : average < 1000
      · simp [low, cheap]
      · by_cases middle : average < 2500 <;> simp [cheap, middle]
    · by_cases second : band ≤ 2
      · have asked : max 1 (min band 3) = 2 := by omega
        rw [if_neg first, if_pos second, asked]
        by_cases cheap : average < 1000
        · simp [cheap]
        · by_cases middle : average < 2500 <;> simp [cheap, not_lt.mp cheap, middle]
      · have asked : max 1 (min band 3) = 3 := by omega
        rw [if_neg first, if_neg second, asked]
        by_cases middle : average < 2500
        · by_cases cheap : average < 1000 <;> simp [cheap, middle]
        · have dear : ¬ average < 1000 := fun cheap => middle (cheap.trans (by decide))
          simp [dear, middle, not_lt.mp middle]

theorem scheduleOf_distinct (hours : Table (Nat × Weekday) OpeningHour OpeningHour.key)
    (restaurantId : Nat) :
    ((scheduleOf hours.rows restaurantId).map OpeningHour.dayOfWeek).Nodup := by
  have own : ((hours.rows.filter fun row => row.restaurantId = restaurantId).map OpeningHour.key).Nodup :=
    hours.unique.sublist (List.filter_sublist.map _)
  have days : (hours.rows.filter fun row => row.restaurantId = restaurantId).map OpeningHour.key =
      ((hours.rows.filter fun row => row.restaurantId = restaurantId).map OpeningHour.dayOfWeek).map
        fun day => (restaurantId, day) := by
    rw [List.map_map]
    refine List.map_congr_left fun row member => ?_
    rw [OpeningHour.key, of_decide_eq_true (List.mem_filter.mp member).2]
    rfl
  rw [days] at own
  exact ((List.mergeSort_perm _ _).map _).nodup_iff.mpr own.of_map

/-- The hours that a card shows and the hours that a query filters by. -/
theorem accepting_iff (hours : Table (Nat × Weekday) OpeningHour OpeningHour.key) (restaurantId : Nat)
    (isOpen : Bool) (now : LocalTime) :
    (scheduleStatus isOpen (scheduleOf hours.rows restaurantId) now).acceptingOrders = true ↔
      isOpen = true ∧ withinScheduleClause hours.rows restaurantId now = some true := by
  have owned : (scheduleOf hours.rows restaurantId).Perm
      (hours.rows.filter fun row => row.restaurantId = restaurantId) := List.mergeSort_perm _ _
  have distinct := scheduleOf_distinct hours restaurantId
  cases isOpen with
  | false =>
    refine iff_of_false (fun accepting => ?_) fun both => Bool.noConfusion both.1
    exact Bool.noConfusion (isOpen_of_accepting accepting)
  | true =>
    rw [scheduleStatus, withinScheduleClause]
    simp only [true_and, Truth.any_cons, Truth.any_nil, noSchedule_true, sameDay_true, fromYesterday_true,
      Option.some.injEq, Bool.false_eq_true, or_false]
    by_cases empty : scheduleOf hours.rows restaurantId = []
    · rw [empty] at owned ⊢
      refine iff_of_true rfl (Or.inl fun row stored => ?_)
      simpa using List.filter_eq_nil_iff.mp owned.symm.eq_nil row stored
    · have listed : ¬ ∀ row ∈ hours.rows, row.restaurantId ≠ restaurantId := by
        intro none
        refine empty (List.Perm.eq_nil (owned.trans (List.Perm.of_eq ?_)))
        exact List.filter_eq_nil_iff.mpr fun row stored => by simpa using none row stored
      rw [statusAt_accepting empty, or_iff_right listed]
      exact or_congr (exists_window_iff owned distinct) (exists_window_iff owned distinct)

end Bands

section Agreement

variable {K : Type} (e : Engine K) (quotient : Int → Nat → Rat) (s : ReviewState)

theorem Rating.mem_stars (rating : Rating) : rating.val ∈ stars := by
  obtain ⟨value, low, high⟩ := rating
  simp only [stars, List.mem_cons, List.not_mem_nil, or_false]
  omega

/-- A card counts every review there is. -/
theorem reviewCount_eq (restaurantId : Nat) :
    (summaryOf quotient s restaurantId).count = (ratingsOf s.reviews.rows restaurantId).length := by
  have counted : (stars.map (starCount s.reviews.rows restaurantId)).sum =
      (ratingsOf s.reviews.rows restaurantId).length := by
    have groups := perm_flatMap_filter (fun review : Review => review.rating.val) stars
      (s.reviews.rows.filter fun review => review.restaurantId = restaurantId) (by decide)
      fun review _ => review.rating.mem_stars
    rw [ratingsOf, List.length_map, ← groups.length_eq, List.length_flatMap]
    refine congrArg List.sum (List.map_congr_left fun star _ => ?_)
    rw [starCount, ← List.countP_eq_length_filter, List.countP_filter]
    refine List.countP_congr fun review _ => ?_
    simp [and_comm]
  have breakdown : (stars.map fun star =>
      (star, (((stars.map fun star => (star, starCount s.reviews.rows restaurantId star)).find?
        fun count => count.1 = star).map Prod.snd).getD 0)).map Prod.snd =
      stars.map (starCount s.reviews.rows restaurantId) := by
    rw [List.map_map]
    exact List.map_congr_left fun star listed => find?_starCount _ _ listed
  rw [← counted, ← breakdown]
  unfold summaryOf summarise
  dsimp only
  split_ifs with empty
  · exact empty.symm
  · rfl

/-- The averages that are joined to a restaurant. -/
theorem describe_avgPrice (restaurant : Restaurant) :
    (describe e s restaurant).avgPrice = averagePrice e s.service.items.rows restaurant.id := by
  have available : (s.service.items.rows.filter MenuItem.isAvailable).filter
      (fun item => item.restaurantId = restaurant.id) =
      s.service.items.rows.filter fun item =>
        item.restaurantId = restaurant.id ∧ item.isAvailable = true := by
    rw [List.filter_filter]
    exact List.filter_congr fun item _ => by simp
  unfold describe priceAggregate averagePrice
  dsimp only
  rw [List.find?_map, Function.comp_def]
  simp only [find?_groupBy, available]
  split <;> rfl

theorem describe_avgRating (restaurant : Restaurant) :
    (describe e s restaurant).avgRating =
      if ratingsOf s.reviews.rows restaurant.id = [] then none
      else some (e.avg (ratingsOf s.reviews.rows restaurant.id)) := by
  unfold describe ratingAggregate ratingsOf
  dsimp only
  rw [List.find?_map, Function.comp_def]
  simp only [find?_groupBy, List.map_eq_nil_iff]
  split <;> rfl

/-- Conditions that are there when something is given. -/
theorem forall_mem_given {α : Type} {value : Option α} {condition : α → Truth} :
    (∀ clause ∈ value.toList.map condition, clause = some true) ↔
      ∀ given ∈ value, condition given = some true := by
  simp

theorem forall_mem_asked {asked : Bool} {clauses : List Truth} :
    (∀ clause ∈ if asked = true then clauses else [], clause = some true) ↔
      (asked = true → ∀ clause ∈ clauses, clause = some true) := by
  cases asked <;> simp

theorem ilike_eq_true {column : Option String} {pattern : String} :
    ilike e column pattern = some true ↔ ∃ text ∈ column, e.ilike text pattern = true := by
  simp [ilike]

/-- A floor of the ratings, and the reviews that a card counts. -/
theorem floor_iff (restaurant : Restaurant) (floor : Rat) :
    ((describe e s restaurant).avgRating.map fun average => e.atLeast average floor) = some true ↔
      (summaryOf quotient s restaurant.id).count ≠ 0 ∧
        e.atLeast (e.avg (ratingsOf s.reviews.rows restaurant.id)) floor = true := by
  rw [describe_avgRating, reviewCount_eq quotient s, Ne, List.length_eq_zero_iff]
  by_cases unrated : ratingsOf s.reviews.rows restaurant.id = []
  · rw [if_pos unrated]
    exact iff_of_false (by simp) fun both => both.1 unrated
  · rw [if_neg unrated, Option.map_some, Option.some_inj]
    exact (and_iff_right unrated).symm

/-- An average of prices is no less than nothing. -/
theorem averagePrice_nonneg
    (mean : ∀ numbers : List Rat, (∀ number ∈ numbers, 0 ≤ number) → 0 ≤ e.avg numbers)
    {restaurantId : Nat} {average : Rat}
    (found : averagePrice e s.service.items.rows restaurantId = some average) : 0 ≤ average := by
  unfold averagePrice at found
  dsimp only at found
  split_ifs at found
  obtain rfl := Option.some.inj found
  refine mean _ fun number member => ?_
  obtain ⟨item, stored, rfl⟩ := List.mem_map.mp member
  exact Nat.cast_nonneg item.price

variable [LinearOrder K]

/-- A search finds a restaurant by a dish exactly when its card names one. -/
theorem mem_dishMatch (term : String) (restaurantId : Nat) :
    restaurantId ∈ dishMatch e s ("%" ++ term ++ "%") ↔
      dishes e s.service.items.rows restaurantId ("%" ++ term ++ "%") ≠ [] := by
  unfold dishMatch dishes
  rw [List.mem_dedup, Ne, ← List.length_eq_zero_iff, List.length_mergeSort, List.length_eq_zero_iff,
    List.map_eq_nil_iff, List.filter_eq_nil_iff, List.mem_map]
  constructor
  · rintro ⟨item, member, rfl⟩ none
    obtain ⟨stored, found⟩ := List.mem_filter.mp member
    exact none item stored (by simpa using found)
  · intro some
    by_contra none
    refine some fun item stored found => none ?_
    obtain ⟨own, available, alike⟩ := of_decide_eq_true found
    refine ⟨item, List.mem_filter.mpr ⟨stored, ?_⟩, own⟩
    rw [available, alike]
    rfl

/-- What the search asks of a row, and of a card. -/
theorem searchClause_iff (restaurant : Restaurant) (term : String) :
    searchClause e s (describe e s restaurant) term = some true ↔
      e.ilike restaurant.name ("%" ++ term ++ "%") = true ∨
        (∃ own ∈ restaurant.cuisine, e.ilike own ("%" ++ term ++ "%") = true) ∨
          dishes e s.service.items.rows restaurant.id ("%" ++ term ++ "%") ≠ [] := by
  unfold searchClause
  simp only [Truth.any_cons, Truth.any_nil, ilike_eq_true, Option.some.injEq, Bool.false_eq_true,
    or_false, decide_eq_true_eq]
  rw [show (describe e s restaurant).restaurant = restaurant from rfl, mem_dishMatch]
  simp

/-- **The query and the cards agree**: a restaurant is among the rows of the query exactly when its own
card bears the filters out. -/
theorem mem_matching_iff (filters : Filters) (now : LocalTime)
    (positive : ∀ restaurantId average, averagePrice e s.service.items.rows restaurantId = some average →
      0 ≤ average)
    (restaurant : Restaurant) :
    restaurant ∈ matching e s filters now ↔ restaurant ∈ s.service.restaurants.rows ∧
      Answers e s.reviews.rows filters (cardFacts e quotient s filters.search now restaurant) := by
  rw [matching, List.mem_filter, decide_eq_true_iff, Truth.all_eq_true]
  refine and_congr_right fun stored => ?_
  simp only [conditions, List.forall_mem_append, List.forall_mem_singleton, forall_mem_given,
    forall_mem_asked, List.forall_mem_cons]
  have restaurantOf : (describe e s restaurant).restaurant = restaurant := rfl
  simp only [restaurantOf, ilike_eq_true, searchClause_iff, floor_iff e quotient s,
    describe_avgPrice, priceBandClause_iff (positive restaurant.id), ← accepting_iff, Option.some.injEq,
    decide_eq_true_eq]
  have named : ∀ term ∈ given filters.search,
      (cardFacts e quotient s filters.search now restaurant).matchedItems =
        dishes e s.service.items.rows restaurant.id ("%" ++ term ++ "%") := by
    intro term asked
    change matchedItems e s filters.search restaurant.id = _
    rw [matchedItems, Option.mem_def.mp asked]
  constructor
  · rintro ⟨⟨⟨⟨⟨⟨⟨approved, city⟩, cuisine⟩, search⟩, rating⟩, price⟩, vegetarian⟩, hours⟩
    refine ⟨approved, fun asked given => ?_, cuisine, fun term asked => ?_, rating, price, vegetarian, hours⟩
    · obtain ⟨text, own, alike⟩ := city asked given
      obtain rfl := Option.mem_some_iff.mp own
      exact alike
    · rw [named term asked]
      exact search term asked
  · intro answers
    refine ⟨⟨⟨⟨⟨⟨⟨answers.approved, fun asked given => ?_⟩, answers.cuisine⟩, fun term asked => ?_⟩,
      answers.rating⟩, answers.price⟩, answers.vegetarian⟩, answers.hours⟩
    · exact ⟨_, rfl, answers.city asked given⟩
    · have search := answers.search term asked
      rwa [named term asked] at search

end Agreement

/-! ### A search for a dish -/

/-- Texts compared by the codes of their letters, patterns that hold a whole text, and exact averages. -/
def wholeTextEngine : Engine (List Nat) where
  collate := fun text => text.toList.map Char.toNat
  ilike := fun text pattern => "%" ++ text ++ "%" = pattern
  avg := fun values => values.sum / values.length
  atLeast := fun average floor => floor ≤ average

/-- A venue with a dish that is on, a dish that is off, and one review. -/
def reviewed : ReviewState :=
  { ReviewState.start
      { State.empty with
        restaurants := ⟨[branch 1 "Pune"], by decide⟩
        items := ⟨[{ id := 1, restaurantId := 1, categoryId := 1, name := "Thali", price := 1800 },
          { id := 2, restaurantId := 1, categoryId := 1, name := "Dosa", price := 900,
            isAvailable := false }], by decide⟩ } with
    reviews :=
      ⟨[{ id := 1, orderId := 4, customerId := 7, restaurantId := 1, rating := ⟨5, by decide⟩, createdAt := 0 }],
        by decide⟩ }

/-- A search for the dish, in the middle band, with a floor. -/
def thaliSearch : Filters where
  search := some " Thali "
  priceBand := some 2
  minRating := some 4

/-- The dish is shown with the venue. -/
example : (cardFor wholeTextEngine (fun total count => (total / count : Rat)) reviewed (some " Thali ")
    mondayNoon (branch 1 "Pune")).toOption.map Card.matchedItems = some ["Thali"] := by
  decide +kernel

end FoodDelivery.Restaurants
