/-
**What the public may read of the restaurants** (`services/restaurants/app/router.py`, `service.py`,
`internal.py`).

Browsing, suggestions, the facets of the search, the page of a restaurant and the cards behind a list of
ids. `publicPart` is the database without the venues that are not approved, and without what belongs to
them: `answer_publicPart` says that every read answers from this part alone.

The categories of a menu and the list of a restaurant's reviews are not among these reads: their routes
answer for any id, whether the venue is approved or not.
-/

import FoodDelivery.Restaurants.Cards
import FoodDelivery.Restaurants.Lookup
import FoodDelivery.Restaurants.MenuIntegrity

set_option autoImplicit false

namespace FoodDelivery.Restaurants

open FoodDelivery.Lib

/-! ### The reads -/

/-- Trimmed payload for typeahead. -/
structure RestaurantSuggestion where
  id : Nat
  name : String
  city : String
  cuisine : Option String
deriving DecidableEq, Repr

/-- `RestaurantDetail`: the card, the menu and, on the card, the breakdown of the stars. -/
structure RestaurantDetail where
  card : Card
  menu : List MenuCategoryWithItems
deriving DecidableEq, Repr

/-- `SUGGEST_MIN_CHARS`. -/
def suggestMinChars : Nat := 2

section Reads

variable {K : Type} [LinearOrder K] (e : Engine K) (quotient : Int → Nat → Rat) (s : ReviewState)

/-- Name-or-cuisine predicate of the suggestions. -/
def matchesTerm (term : String) (restaurant : Restaurant) : Truth :=
  let pattern := "%" ++ term ++ "%"
  Truth.any [ilike e (some restaurant.name) pattern, ilike e restaurant.cuisine pattern]

/-- The restaurants a customer may see, in the order of the table. -/
def approvedRows : List Restaurant :=
  s.service.restaurants.rows.filter fun restaurant => restaurant.approvalStatus = .approved

/-- Typeahead hits for a partial query. Names that compare as equal are in the order of the table. -/
def suggestRestaurants (q : String) (limit : Nat) : List RestaurantSuggestion :=
  let term := String.ofList (strip isSpace q.toList)
  if term.length < suggestMinChars then []
  else
    ((((approvedRows s).filter fun restaurant => matchesTerm e term restaurant = some true).mergeSort
      fun first second => e.collate first.name ≤ e.collate second.name).take limit).map fun restaurant =>
        { id := restaurant.id
          name := restaurant.name
          city := restaurant.city
          cuisine := restaurant.cuisine }

/-- Cuisines by restaurant count, busiest first. -/
def popularCuisines (limit : Nat) : List (String × Nat) :=
  let cuisines := (approvedRows s).filterMap fun restaurant =>
    restaurant.cuisine.filter fun cuisine => cuisine ≠ ""
  (((groupBy id cuisines).map fun group => (group.1, group.2.length)).mergeSort fun first second =>
    second.2 < first.2 ∨ first.2 = second.2 ∧ e.collate first.1 ≤ e.collate second.1).take limit

/-- Cities with at least one approved restaurant, sorted. -/
def listCities : List String :=
  ((approvedRows s).map Restaurant.city).dedup.mergeSort fun first second => first ≤ second

/-- `attach_ratings` and `attach_opening_hours`. -/
def plainCards (now : LocalTime) (restaurants : List Restaurant) : Except Raised (List Card) :=
  attachOpeningHours s.service now
    (attachRatings quotient s (restaurants.map fun restaurant => { restaurant := restaurant }))

/-- An unapproved venue is there for its owner and for an operator. -/
def maySee (caller : Option Identity) (restaurant : Restaurant) : Prop :=
  restaurant.approvalStatus = .approved ∨
    ∃ identity ∈ caller, identity.role = "admin" ∨ identity.userId = restaurant.ownerId

instance (caller : Option Identity) (restaurant : Restaurant) : Decidable (maySee caller restaurant) :=
  inferInstanceAs (Decidable (_ ∨ _))

/-- `GET /restaurants/{restaurant_id}`. -/
def restaurantDetail (now : LocalTime) (caller : Option Identity) (restaurantId : Nat) :
    Except Raised RestaurantDetail := do
  let restaurant ← getRestaurant s.service restaurantId
  if maySee caller restaurant then
    let cards ← plainCards quotient s now [restaurant]
    return {
      card := cards.headD { restaurant := restaurant }
      menu := getMenu s.service restaurantId true }
  else .error (.app (notFoundException "Restaurant" (toString restaurantId)))

/-- `GET /restaurants/lookup`: the cards behind a set of restaurant ids. -/
def lookupRestaurants (now : LocalTime) (ids : String) : Except Raised (List Card) := do
  let wanted ← wantedIds ids
  plainCards quotient s now ((approvedRows s).filter fun restaurant => (restaurant.id : Int) ∈ wanted)

/-- What may be asked without managing a venue. -/
inductive PublicRead where
  | listRestaurants (filters : Filters) (limit offset : Int)
  | suggest (q : String) (limit : Nat)
  | popularCuisines (limit : Nat)
  | getCities
  | getRestaurant (caller : Option Identity) (restaurantId : Nat)
  | lookupRestaurants (ids : String)

/-- What is answered. -/
inductive PublicAnswer where
  | page (page : Except Raised RestaurantPage)
  | suggestions (suggestions : List RestaurantSuggestion)
  | cuisines (counts : List (String × Nat))
  | cities (cities : List String)
  | detail (detail : Except Raised RestaurantDetail)
  | cards (cards : Except Raised (List Card))

/-- The answer to a read; `arrange` puts the rows of a browse in the order that was asked for. -/
def PublicRead.answer (arrange : List BrowseRow → List BrowseRow) (now : LocalTime) :
    PublicRead → PublicAnswer
  | .listRestaurants filters limit offset =>
    .page (Restaurants.listRestaurants e quotient s filters now limit offset
      (arrange (browse e s filters now)))
  | .suggest q limit => .suggestions (suggestRestaurants e s q limit)
  | .popularCuisines limit => .cuisines (Restaurants.popularCuisines e s limit)
  | .getCities => .cities (listCities s)
  | .getRestaurant caller restaurantId => .detail (restaurantDetail quotient s now caller restaurantId)
  | .lookupRestaurants ids => .cards (Restaurants.lookupRestaurants quotient s now ids)

/-! ### The public part -/

/-- There is an approved restaurant with this id. -/
def listed (restaurantId : Nat) : Bool := restaurantId ∈ (approvedRows s).map Restaurant.id

/-- **The database without the venues that are not approved.** -/
def publicPart : ReviewState where
  service :=
    { restaurants := s.service.restaurants.filter fun restaurant => restaurant.approvalStatus = .approved
      openingHours := s.service.openingHours.filter fun row => listed s row.restaurantId
      categories := s.service.categories.filter fun row => listed s row.restaurantId
      items := s.service.items.filter fun row => listed s row.restaurantId
      outbox := [] }
  reviews := s.reviews.filter fun row => listed s row.restaurantId
  snapshots := .empty
  notices := []

end Reads

/-! ### What is read of an approved restaurant -/

section Own

variable {K : Type} [LinearOrder K] (e : Engine K) (quotient : Int → Nat → Rat) {s : ReviewState}

theorem approvedRows_publicPart (s : ReviewState) : approvedRows (publicPart s) = approvedRows s :=
  filter_filter_of_imp fun _ _ approved => approved

theorem listed_of_mem {restaurant : Restaurant} (approved : restaurant ∈ approvedRows s) :
    listed s restaurant.id = true :=
  decide_eq_true (List.mem_map_of_mem approved)

variable {restaurantId : Nat} (own : listed s restaurantId = true)

include own

/-- The rows of an approved restaurant are all there. -/
theorem filter_own {ρ : Type} (owner : ρ → Nat) (rows : List ρ) {condition : ρ → Bool}
    (within : ∀ row, condition row = true → owner row = restaurantId) :
    (rows.filter fun row => listed s (owner row)).filter condition = rows.filter condition :=
  filter_filter_of_imp fun row _ kept => by rw [within row kept, own]

theorem summaryOf_publicPart : summaryOf quotient (publicPart s) restaurantId = summaryOf quotient s restaurantId := by
  unfold summaryOf
  refine congrArg (summarise quotient) (List.map_congr_left fun star _ => ?_)
  unfold starCount
  rw [List.countP_eq_length_filter, List.countP_eq_length_filter]
  refine congrArg (fun rows : List Review => (star, rows.length)) ?_
  exact filter_own own Review.restaurantId s.reviews.rows fun row kept => by simp at kept; exact kept.1

theorem scheduleOf_publicPart : scheduleOf (publicPart s).service.openingHours.rows restaurantId =
    scheduleOf s.service.openingHours.rows restaurantId := by
  unfold scheduleOf
  refine congrArg (fun rows : List OpeningHour => rows.mergeSort _) ?_
  exact filter_own own OpeningHour.restaurantId s.service.openingHours.rows fun row kept => by simpa using kept

omit [LinearOrder K] in
theorem averagePrice_publicPart : averagePrice e (publicPart s).service.items.rows restaurantId =
    averagePrice e s.service.items.rows restaurantId := by
  unfold averagePrice
  have rows := filter_own own MenuItem.restaurantId s.service.items.rows
    fun row (kept : decide (row.restaurantId = restaurantId ∧ row.isAvailable = true) = true) =>
      (of_decide_eq_true kept).1
  exact congrArg (fun available : List MenuItem =>
    if available = [] then none else some (e.avg (available.map fun item => (item.price : Rat)))) rows

theorem dishes_publicPart (pattern : String) :
    dishes e (publicPart s).service.items.rows restaurantId pattern =
      dishes e s.service.items.rows restaurantId pattern := by
  unfold dishes
  refine congrArg (fun items : List MenuItem => (items.map MenuItem.name).mergeSort _) ?_
  exact filter_own own MenuItem.restaurantId s.service.items.rows fun row kept => (of_decide_eq_true kept).1

theorem getMenu_publicPart (availableOnly : Bool) :
    getMenu (publicPart s).service restaurantId availableOnly = getMenu s.service restaurantId availableOnly := by
  have categories : listCategories (publicPart s).service restaurantId =
      listCategories s.service restaurantId := by
    unfold listCategories
    refine congrArg (fun rows : List MenuCategory => rows.mergeSort _) ?_
    exact filter_own own MenuCategory.restaurantId s.service.categories.rows
      fun row kept => of_decide_eq_true kept
  have items : menuItems (publicPart s).service restaurantId availableOnly =
      menuItems s.service restaurantId availableOnly :=
    filter_own own MenuItem.restaurantId s.service.items.rows fun row kept => (of_decide_eq_true kept).1
  unfold getMenu
  rw [categories, items]

theorem cardFor_publicPart (search : Option String) (now : LocalTime) {restaurant : Restaurant}
    (same : restaurant.id = restaurantId) :
    cardFor e quotient (publicPart s) search now restaurant = cardFor e quotient s search now restaurant := by
  subst same
  have matched : matchedItems e (publicPart s) search restaurant.id =
      matchedItems e s search restaurant.id := by
    unfold matchedItems
    split
    · rfl
    · exact dishes_publicPart e own _
  have rated : ratedCard quotient (publicPart s) restaurant = ratedCard quotient s restaurant := by
    unfold ratedCard
    rw [summaryOf_publicPart quotient own]
  rw [cardFor_eq, cardFor_eq, rated, scheduleOf_publicPart own, averagePrice_publicPart e own, matched]

/-! ### What the query sees of an approved restaurant -/

/-- A condition on the hours of one restaurant. -/
theorem existsIn_own {hours : List OpeningHour} {condition : OpeningHour → Truth}
    (within : ∀ hour, condition hour = some true → hour.restaurantId = restaurantId) :
    existsIn (hours.filter fun hour => listed s hour.restaurantId) condition = existsIn hours condition := by
  unfold existsIn
  rw [List.any_filter]
  refine congrArg some (congrArg (List.any hours) (funext fun hour => ?_))
  by_cases met : condition hour = some true
  · rw [within hour met, own, Bool.true_and]
  · rw [decide_eq_false met, Bool.and_false]

theorem withinScheduleClause_publicPart (now : LocalTime) :
    withinScheduleClause (publicPart s).service.openingHours.rows restaurantId now =
      withinScheduleClause s.service.openingHours.rows restaurantId now := by
  have windows : ∀ {day : Weekday} {rest : List Truth} {hour : OpeningHour},
      Truth.all (windowOn restaurantId day hour ++ rest) = some true → hour.restaurantId = restaurantId := by
    intro day rest hour met
    have first := (Truth.all_eq_true.mp met) _ (List.mem_append_left _ List.mem_cons_self)
    exact (compare_some _ _ _).mp first
  unfold withinScheduleClause noSchedule sameDay fromYesterday
  dsimp only
  have hours : (publicPart s).service.openingHours.rows =
      s.service.openingHours.rows.filter fun hour => listed s hour.restaurantId := rfl
  rw [hours, existsIn_own own fun hour met => (compare_some _ _ _).mp met,
    existsIn_own own fun hour met => windows met, existsIn_own own fun hour met => windows met]

omit [LinearOrder K] in
theorem describe_publicPart {restaurant : Restaurant} (same : restaurant.id = restaurantId) :
    describe e (publicPart s) restaurant = describe e s restaurant := by
  subst same
  have reviews := filter_own own Review.restaurantId s.reviews.rows
    fun row (kept : decide (row.restaurantId = restaurant.id) = true) => of_decide_eq_true kept
  have ratings : (ratingAggregate e (publicPart s)).find? (fun row => row.restaurantId = restaurant.id) =
      (ratingAggregate e s).find? fun row => row.restaurantId = restaurant.id := by
    unfold ratingAggregate
    rw [List.find?_map, List.find?_map, Function.comp_def]
    simp only [find?_groupBy]
    rw [show (publicPart s).reviews.rows = s.reviews.rows.filter fun row => listed s row.restaurantId from rfl,
      reviews]
  have available := filter_own own MenuItem.restaurantId s.service.items.rows
    fun row (kept : (decide (row.restaurantId = restaurant.id) && row.isAvailable) = true) =>
      of_decide_eq_true (Bool.and_eq_true_iff.mp kept).1
  have prices : (priceAggregate e (publicPart s)).find? (fun row => row.restaurantId = restaurant.id) =
      (priceAggregate e s).find? fun row => row.restaurantId = restaurant.id := by
    unfold priceAggregate
    rw [List.find?_map, List.find?_map, Function.comp_def]
    simp only [find?_groupBy, List.filter_filter]
    rw [show (publicPart s).service.items.rows =
      s.service.items.rows.filter fun row => listed s row.restaurantId from rfl, available]
  unfold describe
  rw [ratings, prices]

theorem conditions_publicPart (filters : Filters) (now : LocalTime) {restaurant : Restaurant}
    (same : restaurant.id = restaurantId) :
    conditions e (publicPart s) filters now (describe e s restaurant) =
      conditions e s filters now (describe e s restaurant) := by
  subst same
  have restaurantOf : (describe e s restaurant).restaurant = restaurant := rfl
  have found : ∀ term, searchClause e (publicPart s) (describe e s restaurant) term =
      searchClause e s (describe e s restaurant) term := by
    intro term
    unfold searchClause
    simp only [restaurantOf, mem_dishMatch, dishes_publicPart e own]
  have clause : searchClause e (publicPart s) (describe e s restaurant) =
      searchClause e s (describe e s restaurant) := funext found
  unfold conditions
  rw [clause, restaurantOf, withinScheduleClause_publicPart own]

end Own

section Answers

variable {K : Type} [LinearOrder K] (e : Engine K) (quotient : Int → Nat → Rat) (s : ReviewState)

theorem mem_approvedRows {restaurant : Restaurant} :
    restaurant ∈ approvedRows s ↔
      restaurant ∈ s.service.restaurants.rows ∧ restaurant.approvalStatus = .approved := by
  rw [approvedRows, List.mem_filter, decide_eq_true_iff]

/-- Browsing sees the public part. -/
theorem matching_publicPart (filters : Filters) (now : LocalTime) :
    matching e (publicPart s) filters now = matching e s filters now := by
  unfold matching
  rw [show (publicPart s).service.restaurants.rows = approvedRows s from rfl, approvedRows,
    List.filter_filter]
  refine List.filter_congr fun restaurant stored => ?_
  by_cases approved : restaurant.approvalStatus = .approved
  · have own := listed_of_mem ((mem_approvedRows s).mpr ⟨stored, approved⟩)
    rw [describe_publicPart e own rfl, conditions_publicPart e own filters now rfl, decide_eq_true approved,
      Bool.and_true]
  · have hidden : ¬ Truth.all (conditions e s filters now (describe e s restaurant)) = some true := by
      intro all
      refine approved (of_decide_eq_true (Option.some.inj (Truth.all_eq_true.mp all _ ?_)))
      unfold conditions
      simp only [List.append_assoc, List.singleton_append]
      exact List.mem_cons_self
    rw [decide_eq_false approved, Bool.and_false, decide_eq_false hidden]

theorem browse_publicPart (filters : Filters) (now : LocalTime) :
    browse e (publicPart s) filters now = browse e s filters now := by
  rw [browse_eq, browse_eq, matching_publicPart]
  refine List.map_congr_left fun restaurant member => ?_
  rw [← matching_publicPart] at member
  exact describe_publicPart e (listed_of_mem (List.mem_filter.mp member).1) rfl

theorem plainCards_eq (now : LocalTime) (restaurants : List Restaurant) :
    plainCards quotient s now restaurants = restaurants.mapM fun restaurant =>
      (ratedCard quotient s restaurant).withHours
        (scheduleOf s.service.openingHours.rows restaurant.id) now := by
  unfold plainCards
  rw [attachRatings_eq, attachOpeningHours_eq, List.map_map, List.mapM_map]
  rfl

/-- What is attached to an approved restaurant. -/
theorem plainCards_publicPart (now : LocalTime) {restaurants : List Restaurant}
    (own : ∀ restaurant ∈ restaurants, listed s restaurant.id = true) :
    plainCards quotient (publicPart s) now restaurants = plainCards quotient s now restaurants := by
  rw [plainCards_eq, plainCards_eq]
  refine mapM_congr fun restaurant member => ?_
  unfold ratedCard
  rw [summaryOf_publicPart quotient (own restaurant member), scheduleOf_publicPart (own restaurant member)]

/-- Browsing shows the public part. -/
theorem listRestaurants_publicPart (filters : Filters) (now : LocalTime) (limit offset : Int)
    {answer : List BrowseRow} (within : ∀ row ∈ answer, listed s row.restaurant.id = true) :
    listRestaurants e quotient (publicPart s) filters now limit offset answer =
      listRestaurants e quotient s filters now limit offset answer := by
  have items : (search e (publicPart s) filters now limit offset answer).items.mapM
      (cardFor e quotient (publicPart s) filters.search now) =
      (search e s filters now limit offset answer).items.mapM (cardFor e quotient s filters.search now) := by
    refine mapM_congr fun restaurant member => ?_
    obtain ⟨row, shown, rfl⟩ := List.mem_map.mp member
    exact cardFor_publicPart e quotient (within row (page_sublist.subset shown)) filters.search now rfl
  have total : (search e (publicPart s) filters now limit offset answer).total =
      (search e s filters now limit offset answer).total :=
    congrArg List.length (browse_publicPart e s filters now)
  rw [listRestaurants_eq, listRestaurants_eq, items, total]

/-- A caller who is told no more than anybody: not an operator, and not the owner of a venue that is not
approved. -/
def Stranger (caller : Option Identity) : Prop :=
  ∀ restaurant ∈ s.service.restaurants.rows, maySee caller restaurant → restaurant.approvalStatus = .approved

instance (caller : Option Identity) : Decidable (Stranger s caller) :=
  inferInstanceAs (Decidable (∀ _ ∈ _, _ → _))

theorem restaurantDetail_none {now : LocalTime} {caller : Option Identity} {restaurantId : Nat}
    (none : s.service.restaurants.find? restaurantId = none) :
    restaurantDetail quotient s now caller restaurantId =
      .error (.app (notFoundException "Restaurant" (toString restaurantId))) := by
  unfold restaurantDetail getRestaurant
  rw [none]
  rfl

theorem restaurantDetail_some {now : LocalTime} {caller : Option Identity} {restaurantId : Nat}
    {restaurant : Restaurant} (found : s.service.restaurants.find? restaurantId = some restaurant) :
    restaurantDetail quotient s now caller restaurantId =
      if maySee caller restaurant then
        (plainCards quotient s now [restaurant]).map fun cards =>
          ⟨cards.headD { restaurant := restaurant }, getMenu s.service restaurantId true⟩
      else .error (.app (notFoundException "Restaurant" (toString restaurantId))) := by
  unfold restaurantDetail getRestaurant
  rw [found]
  change (if maySee caller restaurant then _ else _) = _
  split_ifs
  · cases plainCards quotient s now [restaurant] <;> rfl
  · rfl

/-- **A stranger who asks for a venue that is not approved** is told that there is none. -/
theorem restaurantDetail_unlisted (now : LocalTime) {caller : Option Identity}
    (stranger : Stranger s caller) {restaurantId : Nat} (unlisted : listed s restaurantId = false) :
    restaurantDetail quotient s now caller restaurantId =
      .error (.app (notFoundException "Restaurant" (toString restaurantId))) := by
  cases found : s.service.restaurants.find? restaurantId with
  | none => exact restaurantDetail_none quotient s found
  | some restaurant =>
    obtain ⟨stored, same⟩ := Table.find?_eq_some.mp found
    have refused : ¬ maySee caller restaurant := by
      intro may
      have own := listed_of_mem ((mem_approvedRows s).mpr ⟨stored, stranger restaurant stored may⟩)
      rw [same, unlisted] at own
      exact Bool.noConfusion own
    rw [restaurantDetail_some quotient s found, if_neg refused]

/-- The page of a restaurant that a stranger may not see is the page of one that is not there. -/
theorem restaurantDetail_publicPart (now : LocalTime) {caller : Option Identity}
    (stranger : Stranger s caller) (restaurantId : Nat) :
    restaurantDetail quotient (publicPart s) now caller restaurantId =
      restaurantDetail quotient s now caller restaurantId := by
  have lookup : (publicPart s).service.restaurants.find? restaurantId =
      (s.service.restaurants.find? restaurantId).filter fun restaurant =>
        restaurant.approvalStatus = .approved := Table.find?_filter _ _ _
  cases found : s.service.restaurants.find? restaurantId with
  | none =>
    rw [found] at lookup
    rw [restaurantDetail_none quotient s found, restaurantDetail_none quotient (publicPart s) lookup]
  | some restaurant =>
    obtain ⟨stored, same⟩ := Table.find?_eq_some.mp found
    rw [found] at lookup
    by_cases approved : restaurant.approvalStatus = .approved
    · have own := listed_of_mem ((mem_approvedRows s).mpr ⟨stored, approved⟩)
      rw [Option.filter_some, if_pos (decide_eq_true approved)] at lookup
      rw [restaurantDetail_some quotient s found, restaurantDetail_some quotient (publicPart s) lookup,
        getMenu_publicPart (same ▸ own), plainCards_publicPart quotient s now fun other member => by
          rwa [List.mem_singleton.mp member]]
    · have unlisted : listed s restaurantId = false := by
        refine decide_eq_false fun member => ?_
        obtain ⟨other, known, key⟩ := List.mem_map.mp member
        obtain ⟨held, fine⟩ := (mem_approvedRows s).mp known
        rw [Table.find?_eq_some.mpr ⟨held, key⟩, Option.some_inj] at found
        exact approved (found ▸ fine)
      rw [Option.filter_some, if_neg (by simpa using approved)] at lookup
      rw [restaurantDetail_unlisted quotient s now stranger unlisted,
        restaurantDetail_none quotient (publicPart s) lookup]

/-- **Every read answers from the public part.** -/
theorem answer_publicPart (arrange : List BrowseRow → List BrowseRow)
    (arranges : ∀ rows, (arrange rows).Perm rows) (now : LocalTime) (read : PublicRead)
    (strangers : ∀ caller restaurantId, read = .getRestaurant caller restaurantId → Stranger s caller) :
    read.answer e quotient (publicPart s) arrange now = read.answer e quotient s arrange now := by
  cases read with
  | listRestaurants filters limit offset =>
    refine congrArg PublicAnswer.page ?_
    rw [browse_publicPart]
    refine listRestaurants_publicPart e quotient s filters now limit offset fun row member => ?_
    have found := (arranges _).mem_iff.mp member
    rw [← browse_publicPart, browse_eq] at found
    obtain ⟨restaurant, matched, rfl⟩ := List.mem_map.mp found
    exact listed_of_mem (List.mem_filter.mp matched).1
  | suggest q limit =>
    refine congrArg PublicAnswer.suggestions ?_
    rw [suggestRestaurants, approvedRows_publicPart]
    rfl
  | popularCuisines limit =>
    refine congrArg PublicAnswer.cuisines ?_
    rw [popularCuisines, approvedRows_publicPart]
    rfl
  | getCities =>
    refine congrArg PublicAnswer.cities ?_
    rw [listCities, approvedRows_publicPart]
    rfl
  | getRestaurant caller restaurantId =>
    exact congrArg PublicAnswer.detail
      (restaurantDetail_publicPart quotient s now (strangers caller restaurantId rfl) restaurantId)
  | lookupRestaurants ids =>
    refine congrArg PublicAnswer.cards ?_
    unfold lookupRestaurants
    refine bind_congr fun wanted => ?_
    rw [approvedRows_publicPart, plainCards_publicPart quotient s now fun restaurant member =>
      listed_of_mem (List.mem_filter.mp member).1]

end Answers

end FoodDelivery.Restaurants
