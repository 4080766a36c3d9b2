/-
**A venue that is not approved is not there.**

An owner registers, edits the profile, the hours and the menu, is reviewed and is turned down; checkout
takes its portions and puts them back. `unvetted_invisible`: as long as none of it is about an approved
venue, and nothing is approved, no public read changes its answer.
-/

import FoodDelivery.Restaurants.Approval
import FoodDelivery.Restaurants.PublicReads

set_option autoImplicit false

namespace FoodDelivery.Restaurants

open FoodDelivery.Lib

/-! ### Steps -/

/-- What the service is asked to do, and the events of orders that it applies. -/
inductive DeskLabel where
  | service (env : Environment) (op : Operation)
  | ask (op : ReviewOperation) (now : Timestamp)
  | apply (payload : OrderPayload)

def ReviewState.handle (s : ReviewState) : DeskLabel → ReviewState
  | .service env op => { s with service := s.service.step env op }
  | .ask op now => s.ask op now
  | .apply payload => applyOrderEvent s payload

/-- The restaurant that a request names. -/
def Operation.restaurantId : Operation → Option Nat
  | .registerFromSignup _ => none
  | .createRestaurant _ _ => none
  | .setApproval restaurantId _ _ => restaurantId
  | .updateRestaurant restaurantId _ _ => restaurantId
  | .addCategory _ restaurantId _ => restaurantId
  | .updateCategory _ restaurantId _ _ => restaurantId
  | .deleteCategory _ restaurantId _ => restaurantId
  | .addItem _ restaurantId _ => restaurantId
  | .updateItem _ restaurantId _ _ => restaurantId
  | .deleteItem _ restaurantId _ => restaurantId
  | .validateOrder restaurantId _ _ => restaurantId
  | .releaseStock _ => none

/-- The items that a request puts portions back to. -/
def Operation.released : Operation → List Nat
  | .releaseStock lines => lines.map OrderLine.menuItemId
  | _ => []

/-- The decision that a request makes. -/
def Operation.decision : Operation → Option ApprovalStatus
  | .setApproval _ status _ => status
  | _ => none

/-- The restaurant that a review operation is about. -/
def ReviewOperation.restaurantId (s : ReviewState) : ReviewOperation → Option Nat
  | .createReview _ orderId _ _ => (s.snapshots.find? orderId).map OrderSnapshot.restaurantId
  | .updateReview _ reviewId _ _ _ => (s.reviews.find? reviewId).map Review.restaurantId
  | .deleteReview _ reviewId => (s.reviews.find? reviewId).map Review.restaurantId
  | .replyToReview _ reviewId _ => (s.reviews.find? reviewId).map Review.restaurantId

/-- **A step that is about no approved venue**, and that approves none. -/
def Unvetted (s : ReviewState) : DeskLabel → Prop
  | .service _ op =>
    (∀ restaurantId ∈ op.restaurantId, listed s restaurantId = false) ∧ op.decision ≠ some .approved ∧
      ∀ itemId ∈ op.released, ∀ item ∈ s.service.items.find? itemId, listed s item.restaurantId = false
  | .ask op _ => ∀ restaurantId ∈ op.restaurantId s, listed s restaurantId = false
  | .apply _ => True

instance (s : ReviewState) : ∀ label, Decidable (Unvetted s label)
  | .service _ _ => inferInstanceAs (Decidable (_ ∧ _ ∧ _))
  | .ask op _ => inferInstanceAs (Decidable (∀ restaurantId ∈ op.restaurantId s, listed s restaurantId = false))
  | .apply _ => .isTrue trivial

/-! ### The same view -/

/-- What is seen of the approved venues is the same. -/
structure SameView (s next : ReviewState) : Prop where
  venues : approvedRows next = approvedRows s
  hours : (next.service.openingHours.rows.filter fun row => listed s row.restaurantId) =
    s.service.openingHours.rows.filter fun row => listed s row.restaurantId
  categories : (next.service.categories.rows.filter fun row => listed s row.restaurantId) =
    s.service.categories.rows.filter fun row => listed s row.restaurantId
  items : (next.service.items.rows.filter fun row => listed s row.restaurantId) =
    s.service.items.rows.filter fun row => listed s row.restaurantId
  reviews : (next.reviews.rows.filter fun row => listed s row.restaurantId) =
    s.reviews.rows.filter fun row => listed s row.restaurantId

theorem SameView.refl (s : ReviewState) : SameView s s := ⟨rfl, rfl, rfl, rfl, rfl⟩

theorem SameView.publicPart_eq {s next : ReviewState} (same : SameView s next) :
    publicPart next = publicPart s := by
  have listed_eq : listed next = listed s := by
    unfold listed
    rw [same.venues]
  have venues : (next.service.restaurants.filter fun row => row.approvalStatus = .approved) =
      s.service.restaurants.filter fun row => row.approvalStatus = .approved := Table.eq_of_rows same.venues
  have hours : (next.service.openingHours.filter fun row => listed s row.restaurantId) =
      s.service.openingHours.filter fun row => listed s row.restaurantId := Table.eq_of_rows same.hours
  have categories : (next.service.categories.filter fun row => listed s row.restaurantId) =
      s.service.categories.filter fun row => listed s row.restaurantId := Table.eq_of_rows same.categories
  have items : (next.service.items.filter fun row => listed s row.restaurantId) =
      s.service.items.filter fun row => listed s row.restaurantId := Table.eq_of_rows same.items
  have reviews : (next.reviews.filter fun row => listed s row.restaurantId) =
      s.reviews.filter fun row => listed s row.restaurantId := Table.eq_of_rows same.reviews
  unfold publicPart
  rw [listed_eq, venues, hours, categories, items, reviews]

/-! ### What a step leaves -/

section Steps

variable {s : ReviewState}

theorem not_approved {restaurantId : Nat} (unlisted : listed s restaurantId = false) {restaurant : Restaurant}
    (stored : restaurant ∈ s.service.restaurants.rows) (same : restaurant.id = restaurantId) :
    restaurant.approvalStatus ≠ .approved := by
  intro approved
  have own := listed_of_mem ((mem_approvedRows s).mpr ⟨stored, approved⟩)
  rw [same, unlisted] at own
  exact Bool.noConfusion own

/-- A venue is written that is not approved, over one that was not. -/
theorem approvedRows_save {restaurant : Restaurant} {outbox : List OutboxEvent}
    (hidden : restaurant.approvalStatus ≠ .approved)
    (before : ∀ other ∈ s.service.restaurants.rows, other.id = restaurant.id →
      other.approvalStatus ≠ .approved) :
    approvedRows { s with service := s.service.save restaurant outbox } = approvedRows s :=
  Table.filter_put_of_unseen (decide_eq_false hidden) fun other stored same =>
    decide_eq_false (before other stored same)

theorem sameView_save {restaurant : Restaurant} {outbox : List OutboxEvent}
    (hidden : restaurant.approvalStatus ≠ .approved)
    (before : ∀ other ∈ s.service.restaurants.rows, other.id = restaurant.id →
      other.approvalStatus ≠ .approved) :
    SameView s { s with service := s.service.save restaurant outbox } :=
  { SameView.refl s with venues := approvedRows_save hidden before }

theorem eq_of_found {ρ : Type} {key : ρ → Nat} {table : Table Nat ρ key} {id : Nat} {row other : ρ}
    (found : table.find? id = some row) (stored : other ∈ table.rows) (same : key other = id) : other = row :=
  Option.some.inj ((Table.find?_eq_some.mpr ⟨stored, same⟩).symm.trans found)

theorem ne_nextId {ρ : Type} {key : ρ → Nat} {rows : List ρ} {row : ρ} (stored : row ∈ rows) :
    key row ≠ nextId (rows.map key) :=
  (lt_nextId (List.mem_map_of_mem stored)).ne

/-- A new venue is pending, and has an id of its own. -/
theorem sameView_saveNew {restaurant : Restaurant} {outbox : List OutboxEvent}
    (pending : restaurant.approvalStatus = .pending) (fresh : restaurant.id = s.service.nextRestaurantId) :
    SameView s { s with service := s.service.save restaurant outbox } := by
  refine sameView_save (by rw [pending]; exact ApprovalStatus.noConfusion) fun other stored same => ?_
  exact absurd (same.trans fresh) (ne_nextId stored)

/-- A week is replaced that no approved venue has. -/
theorem sameView_replaceOpeningHours {restaurantId : Nat} (unlisted : listed s restaurantId = false)
    (schedule : WeekSchedule) :
    SameView s { s with service := replaceOpeningHours s.service restaurantId schedule } := by
  refine { SameView.refl s with hours := ?_ }
  have written : ∀ (days : List OpeningHourDay)
      (hours : Table (Nat × Weekday) OpeningHour OpeningHour.key),
      ((days.foldl (fun hours day => hours.put (day.row restaurantId)) hours).rows.filter fun row =>
          listed s row.restaurantId) = hours.rows.filter fun row => listed s row.restaurantId := by
    intro days
    induction days with
    | nil => exact fun _ => rfl
    | cons day days hyp =>
      intro hours
      rw [List.foldl_cons, hyp]
      refine Table.filter_put_of_unseen unlisted fun other stored same => ?_
      have owner : other.restaurantId = restaurantId := congrArg Prod.fst same
      rw [owner, unlisted]
  refine (written schedule.days _).trans (Table.filter_filter_of_unseen fun row _ gone => ?_)
  have owner : row.restaurantId = restaurantId := by simpa using gone
  rw [owner, unlisted]

theorem sameView_putCategory {category : MenuCategory} (unlisted : listed s category.restaurantId = false)
    (before : ∀ other ∈ s.service.categories.rows, other.id = category.id →
      other.restaurantId = category.restaurantId) :
    SameView s { s with service := { s.service with categories := s.service.categories.put category } } :=
  { SameView.refl s with
    categories := Table.filter_put_of_unseen unlisted fun other stored same => by
      rw [before other stored same, unlisted] }

theorem sameView_putItem {item : MenuItem} (unlisted : listed s item.restaurantId = false)
    (before : ∀ other ∈ s.service.items.rows, other.id = item.id →
      other.restaurantId = item.restaurantId) :
    SameView s { s with service := { s.service with items := s.service.items.put item } } :=
  { SameView.refl s with
    items := Table.filter_put_of_unseen unlisted fun other stored same => by
      rw [before other stored same, unlisted] }

/-- Portions are moved of items that no approved venue has. -/
theorem sameView_move {lines : List StockLine} {sign : Int}
    (unlisted : ∀ line ∈ lines, ∀ item ∈ s.service.items.find? line.menuItemId,
      listed s item.restaurantId = false) :
    SameView s { s with service := move s.service lines sign } := by
  refine { SameView.refl s with items := Table.filter_modify_of_unseen (moveItem_id lines sign) fun item stored => ?_ }
  by_cases named : item.id ∈ lines.map StockLine.menuItemId
  · obtain ⟨line, member, same⟩ := List.mem_map.mp named
    have hidden := unlisted line member item (Table.find?_eq_some.mpr ⟨stored, same.symm⟩)
    have owner : (moveItem lines sign item).restaurantId = item.restaurantId := by
      unfold moveItem
      split <;> rfl
    exact Or.inr ⟨hidden, owner ▸ hidden⟩
  · exact Or.inl (if_neg named)

/-- The lines that pass are about items of the restaurant. -/
theorem own_of_validateLines {items : Items} {restaurantId : Nat} {lines : List OrderLine}
    {validated : List ValidatedLine}
    (passed : validateLines (itemOf items restaurantId) lines = .ok validated) :
    ∀ valid ∈ validated, ∀ item ∈ items.find? valid.menuItemId, item.restaurantId = restaurantId := by
  induction lines generalizing validated with
  | nil =>
    cases passed
    exact fun _ member => absurd member List.not_mem_nil
  | cons line lines hyp =>
    obtain ⟨first, rest, head, tail, rfl⟩ := validateLines_cons.mp passed
    intro valid member item found
    rcases List.mem_cons.mp member with rfl | later
    · obtain ⟨own, held, -, -, -, rfl⟩ := validateLine_ok.mp head
      obtain ⟨row, owner⟩ := Option.filter_eq_some_iff.mp held
      have key := Table.key_of_find? row
      have same : item = own := by
        rw [Option.mem_def, show own.id = line.menuItemId from key, row] at found
        exact (Option.some.inj found).symm
      rw [same]
      exact of_decide_eq_true owner
    · exact hyp tail valid later item found

/-! ### One operation at a time -/

section Operations

variable {next : State} {restaurantId : Nat}

theorem sameView_registerFromSignup (adminAlertEmail : String) (payload : Registration) :
    SameView s { s with service := registerFromSignup adminAlertEmail s.service payload } := by
  unfold registerFromSignup
  split
  · dsimp only
    split_ifs
    · exact SameView.refl s
    · exact SameView.refl s
    · exact sameView_saveNew rfl rfl
  · exact SameView.refl s

theorem sameView_createRestaurant {owner : Identity} {data : RestaurantCreate}
    (outcome : createRestaurant s.service owner data = .ok next) :
    SameView s { s with service := next } := by
  unfold createRestaurant at outcome
  split at outcome
  · cases outcome
  · cases outcome
    exact sameView_saveNew rfl rfl

variable (hidden : listed s restaurantId = false)

include hidden

/-- A decision other than to approve. -/
theorem sameView_setApproval {status : ApprovalStatus} {reason : Option String}
    (other : status ≠ .approved) (outcome : setApproval s.service restaurantId status reason = .ok next) :
    SameView s { s with service := next } := by
  obtain ⟨restaurant, found, rest⟩ := bind_eq_ok.mp outcome
  have id := Table.key_of_find? (getRestaurant_ok.mp found)
  cases rest
  exact sameView_save other fun row stored same => not_approved hidden stored (same.trans id)

theorem sameView_updateRestaurant {user : Identity} {data : RestaurantUpdate}
    (outcome : updateRestaurant s.service restaurantId user data = .ok next) :
    SameView s { s with service := next } := by
  obtain ⟨restaurant, owned, rest⟩ := bind_eq_ok.mp outcome
  obtain ⟨edited, applied, rest⟩ := bind_eq_ok.mp rest
  have key := Table.key_of_find? (ownedRestaurant_ok owned)
  obtain ⟨id, -, approval, -⟩ := apply_ok applied
  have stored := (Table.find?_eq_some.mp (ownedRestaurant_ok owned)).1
  have before : edited.approvalStatus ≠ .approved := by
    rw [approval]
    exact not_approved hidden stored key
  have others : ∀ other ∈ s.service.restaurants.rows, other.id = edited.id →
      other.approvalStatus ≠ .approved :=
    fun other stored same => not_approved hidden stored (same.trans (id.trans key))
  cases rest
  cases data.openingHours with
  | none => exact sameView_save before others
  | some schedule =>
    have replaced := sameView_replaceOpeningHours ((id.trans key).symm ▸ hidden) schedule
    have venues : approvedRows { s with service := s.service.save edited [] } = approvedRows s :=
      approvedRows_save before others
    exact { replaced with venues := venues }

theorem sameView_addCategory {user : Identity} {data : CategoryCreate}
    (outcome : addCategory s.service user restaurantId data = .ok next) :
    SameView s { s with service := next } := by
  obtain ⟨_, _, rest⟩ := bind_eq_ok.mp outcome
  cases rest
  exact sameView_putCategory hidden fun other stored same => absurd same (ne_nextId stored)

theorem sameView_updateCategory {user : Identity} {categoryId : Nat} {data : CategoryUpdate}
    (outcome : updateCategory s.service user restaurantId categoryId data = .ok next) :
    SameView s { s with service := next } := by
  obtain ⟨_, _, rest⟩ := bind_eq_ok.mp outcome
  obtain ⟨category, held, rest⟩ := bind_eq_ok.mp rest
  obtain ⟨id, same, found, owner⟩ := categoryInRestaurant_ok held
  obtain rfl := Option.some.inj same
  have key := Table.key_of_find? found
  cases rest
  refine sameView_putCategory (owner.symm ▸ hidden) fun other stored here => ?_
  rw [eq_of_found found stored (here.trans key)]

theorem sameView_deleteCategory {user : Identity} {categoryId : Nat}
    (outcome : deleteCategory s.service user restaurantId categoryId = .ok next) :
    SameView s { s with service := next } := by
  obtain ⟨_, _, rest⟩ := bind_eq_ok.mp outcome
  obtain ⟨category, held, -⟩ := bind_eq_ok.mp rest
  obtain ⟨-, rfl⟩ := deleteCategory_ok outcome
  obtain ⟨id, same, found, owner⟩ := categoryInRestaurant_ok held
  obtain rfl := Option.some.inj same
  refine { SameView.refl s with categories := Table.filter_filter_of_unseen fun row stored gone => ?_ }
  have key : row.id = categoryId := by simpa using gone
  rw [eq_of_found found stored key, owner, hidden]

theorem sameView_addItem {user : Identity} {data : MenuItemCreate}
    (outcome : addItem s.service user restaurantId data = .ok next) :
    SameView s { s with service := next } := by
  obtain ⟨_, _, rest⟩ := bind_eq_ok.mp outcome
  obtain ⟨_, _, rest⟩ := bind_eq_ok.mp rest
  cases rest
  exact sameView_putItem hidden fun other stored same => absurd same (ne_nextId stored)

theorem sameView_updateItem {user : Identity} {itemId : Nat} {data : MenuItemUpdate}
    (outcome : updateItem s.service user restaurantId itemId data = .ok next) :
    SameView s { s with service := next } := by
  obtain ⟨item, edited, held, applied, -, rfl⟩ := updateItem_ok outcome
  obtain ⟨found, owner⟩ := itemInRestaurant_ok held
  obtain ⟨id, same, -⟩ := MenuItemUpdate.apply_ok applied
  have key := Table.key_of_find? found
  refine sameView_putItem (by rw [same, owner, hidden]) fun other stored here => ?_
  rw [eq_of_found found stored (here.trans (id.trans key)), same]

theorem sameView_deleteItem {user : Identity} {itemId : Nat}
    (outcome : deleteItem s.service user restaurantId itemId = .ok next) :
    SameView s { s with service := next } := by
  obtain ⟨_, _, rest⟩ := bind_eq_ok.mp outcome
  obtain ⟨item, held, -⟩ := bind_eq_ok.mp rest
  obtain rfl := deleteItem_ok outcome
  obtain ⟨found, owner⟩ := itemInRestaurant_ok held
  refine { SameView.refl s with items := Table.filter_filter_of_unseen fun row stored gone => ?_ }
  have key : row.id = itemId := by simpa using gone
  rw [eq_of_found found stored key, owner, hidden]

/-- Portions are taken of the restaurant's own items. -/
theorem sameView_validateOrder {runtime : Runtime} {body : ValidateOrderRequest} {clock : LocalTime}
    (outcome : (validateOrder runtime s.service restaurantId body clock).map Prod.snd = .ok next) :
    SameView s { s with service := next } := by
  unfold validateOrder at outcome
  split at outcome
  · cases outcome
  · split at outcome
    · cases outcome
      exact SameView.refl s
    · rename_i validated judged
      cases outcome
      dsimp only
      split
      · refine sameView_move fun line member item found => ?_
        obtain ⟨valid, passed, rfl⟩ := List.mem_map.mp member
        rw [own_of_validateLines (judge_ok.mp judged).2.2.2.1 valid passed item found, hidden]
      · exact SameView.refl s

end Operations

theorem sameView_releaseStock {lines : List OrderLine}
    (unreleased : ∀ itemId ∈ lines.map OrderLine.menuItemId, ∀ item ∈ s.service.items.find? itemId,
      listed s item.restaurantId = false) :
    SameView s { s with service := releaseStock s.service lines } := by
  refine sameView_move fun line member item found => ?_
  obtain ⟨order, ordered, rfl⟩ := List.mem_map.mp member
  exact unreleased order.menuItemId (List.mem_map_of_mem ordered) item found

/-- **A request about no approved venue** leaves the view. -/
theorem sameView_service (env : Environment) (op : Operation) (unvetted : Unvetted s (.service env op)) :
    SameView s (s.handle (.service env op)) := by
  obtain ⟨unlisted, undecided, unreleased⟩ := unvetted
  change SameView s { s with service := s.service.step env op }
  unfold State.step
  split
  · rename_i next outcome
    cases op with
    | registerFromSignup payload =>
      cases outcome
      exact sameView_registerFromSignup env.adminAlertEmail payload
    | createRestaurant owner data => exact sameView_createRestaurant outcome
    | setApproval restaurantId status reason =>
      exact sameView_setApproval (unlisted _ rfl) (fun approved => undecided (congrArg some approved)) outcome
    | updateRestaurant restaurantId user data => exact sameView_updateRestaurant (unlisted _ rfl) outcome
    | addCategory user restaurantId data => exact sameView_addCategory (unlisted _ rfl) outcome
    | updateCategory user restaurantId categoryId data =>
      exact sameView_updateCategory (unlisted _ rfl) outcome
    | deleteCategory user restaurantId categoryId => exact sameView_deleteCategory (unlisted _ rfl) outcome
    | addItem user restaurantId data => exact sameView_addItem (unlisted _ rfl) outcome
    | updateItem user restaurantId itemId data => exact sameView_updateItem (unlisted _ rfl) outcome
    | deleteItem user restaurantId itemId => exact sameView_deleteItem (unlisted _ rfl) outcome
    | validateOrder restaurantId body clock => exact sameView_validateOrder (unlisted _ rfl) outcome
    | releaseStock lines =>
      cases outcome
      exact sameView_releaseStock unreleased
  · exact SameView.refl s

theorem sameView_reviews {s next : ReviewState} (service : next.service = s.service)
    (reviews : (next.reviews.rows.filter fun row => listed s row.restaurantId) =
      s.reviews.rows.filter fun row => listed s row.restaurantId) : SameView s next where
  venues := by unfold approvedRows; rw [service]
  hours := by rw [service]
  categories := by rw [service]
  items := by rw [service]
  reviews := reviews

/-- **A review of no approved venue** leaves the view. -/
theorem sameView_ask (op : ReviewOperation) (now : Timestamp) (unvetted : Unvetted s (.ask op now)) :
    SameView s (s.handle (.ask op now)) := by
  refine sameView_reviews (s.frame op now).1 ?_
  change ((s.ask op now).reviews.rows.filter fun row => listed s row.restaurantId) = _
  unfold ReviewState.ask
  split
  · rename_i next outcome
    cases op with
    | createReview caller orderId rating comment =>
      simp only [ReviewOperation.outcome, Restaurants.createReview] at outcome
      split at outcome
      · cases outcome
      · rename_i snapshot found
        have hidden := unvetted snapshot.restaurantId (Option.map_eq_some_iff.mpr ⟨snapshot, found, rfl⟩)
        split_ifs at outcome
        split at outcome
        · cases outcome
        · cases outcome
          exact Table.filter_put_of_unseen hidden fun row stored here => absurd here (ne_nextId stored)
    | updateReview caller reviewId rating comment commentSet =>
      obtain ⟨review, got, rest⟩ := bind_eq_ok.mp outcome
      have found := getReview_ok got
      have hidden := unvetted review.restaurantId (Option.map_eq_some_iff.mpr ⟨review, found, rfl⟩)
      have key := Table.key_of_find? found
      by_cases other : review.customerId ≠ caller.userId
      · rw [if_pos other] at rest
        cases rest
      · rw [if_neg other] at rest
        cases rest
        exact Table.filter_put_of_unseen hidden fun row stored here => by
          rw [eq_of_found found stored (here.trans key), hidden]
    | deleteReview caller reviewId =>
      obtain ⟨review, got, rest⟩ := bind_eq_ok.mp outcome
      have found := getReview_ok got
      have hidden := unvetted review.restaurantId (Option.map_eq_some_iff.mpr ⟨review, found, rfl⟩)
      have key := Table.key_of_find? found
      split_ifs at rest
      cases rest
      refine Table.filter_filter_of_unseen fun row stored gone => ?_
      have here : row.id = review.id := by simpa using gone
      rw [eq_of_found found stored (here.trans key), hidden]
    | replyToReview caller reviewId reply =>
      obtain ⟨review, got, rest⟩ := bind_eq_ok.mp outcome
      obtain ⟨_, _, rest⟩ := bind_eq_ok.mp rest
      have found := getReview_ok got
      have hidden := unvetted review.restaurantId (Option.map_eq_some_iff.mpr ⟨review, found, rfl⟩)
      have key := Table.key_of_find? found
      cases rest
      exact Table.filter_put_of_unseen hidden fun row stored here => by
        rw [eq_of_found found stored (here.trans key), hidden]
  · rfl

/-- An event of an order is copied, and nothing of a venue changes. -/
theorem sameView_apply (payload : OrderPayload) : SameView s (s.handle (.apply payload)) := by
  change SameView s (applyOrderEvent s payload)
  unfold applyOrderEvent
  split
  · exact SameView.refl s
  · exact sameView_reviews rfl rfl

/-- **What is about no approved venue** leaves the public part. -/
theorem publicPart_handle {label : DeskLabel} (unvetted : Unvetted s label) :
    publicPart (s.handle label) = publicPart s := by
  cases label with
  | service env op => exact (sameView_service env op unvetted).publicPart_eq
  | ask op now => exact (sameView_ask op now unvetted).publicPart_eq
  | apply payload => exact (sameView_apply payload).publicPart_eq

end Steps

/-! ### Runs -/

/-- An owner registers next to the two branches, puts a dish on the menu, opens and is turned down. -/
def application : List DeskLabel :=
  let owner : Identity := ⟨9, "restaurant"⟩
  [ .createRestaurant owner
      { name := "Spice", city := "Surat", addressLine := "1 Ring Road", phone := "+919876543210" },
    .addCategory owner 3 { name := "Mains" },
    .addItem owner 3 { categoryId := 1, name := "Thali", price := 20000 },
    .updateRestaurant 3 owner { isOpen := some (some true) },
    .setApproval 3 .rejected none ].map (DeskLabel.service plainEnvironment)

end FoodDelivery.Restaurants
