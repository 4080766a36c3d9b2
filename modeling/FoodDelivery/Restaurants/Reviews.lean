/-
**Reviews** (`services/restaurants/app/reviews.py`, and `_apply_order_event` of `consumer.py`).

A customer rates a delivered order, edits or deletes the review, and the owner may answer it. Whether an
order may be reviewed is read from a local copy of it, which the events of the orders service keep.

`Written` says once what an operation on the reviews can do to their table: what is written, over which
row, and on whose behalf.
-/

import FoodDelivery.Restaurants.Runs

set_option autoImplicit false

namespace FoodDelivery.Restaurants

open FoodDelivery.Lib

/-! ### Rows -/

/-- A number of stars: `Field(..., ge=1, le=5)`. -/
abbrev Rating := {stars : Int // 1 ≤ stars ∧ stars ≤ 5}

/-- A customer's rating of a completed order. -/
structure Review where
  id : Nat
  orderId : Nat
  customerId : Nat
  restaurantId : Nat
  rating : Rating
  reviewerName : String := ""
  comment : Option String := none
  ownerReply : Option String := none
  ownerRepliedAt : Option Timestamp := none
  createdAt : Timestamp
  updatedAt : Option Timestamp := none
deriving DecidableEq, Repr

/-- What this service knows about an order. -/
structure OrderSnapshot where
  orderId : Nat
  customerId : Nat
  customerName : String := ""
  restaurantId : Nat
  status : String
deriving DecidableEq, Repr

/-- The payload of a row of `notification-events`. Its key is the order's id. -/
structure ReviewNotice where
  userId : Nat
  type : String
  message : String
  orderId : Nat
deriving DecidableEq, Repr

/-- The service's other tables, the reviews, the copies of orders and what is queued for the customers. -/
structure ReviewState where
  service : State
  reviews : Table Nat Review Review.id
  snapshots : Table Nat OrderSnapshot OrderSnapshot.orderId
  notices : List ReviewNotice

/-- No review and no copy yet. -/
def ReviewState.start (service : State) : ReviewState where
  service := service
  reviews := .empty
  snapshots := .empty
  notices := []

def ReviewState.nextReviewId (s : ReviewState) : Nat := nextId (s.reviews.rows.map Review.id)

/-! ### The copy of an order -/

/-- What the consumer reads of an event of `order-events`. -/
structure OrderPayload where
  orderId : Option Nat
  customerId : Option Nat
  restaurantId : Option Nat
  status : Option String
  customerName : Option String
deriving DecidableEq, Repr

/-- `payload.get("status") or …`. -/
def OrderPayload.statusOr (payload : OrderPayload) (otherwise : String) : String :=
  (payload.status.filter fun status => status ≠ "").getD otherwise

/-- `_apply_order_event`. -/
def applyOrderEvent (s : ReviewState) (payload : OrderPayload) : ReviewState :=
  match payload.orderId with
  | none => s
  | some orderId =>
    let snapshot : OrderSnapshot :=
      match s.snapshots.find? orderId with
      | none =>
        { orderId := orderId
          customerId := payload.customerId.getD 0
          restaurantId := payload.restaurantId.getD 0
          status := payload.statusOr "" }
      | some snapshot => { snapshot with status := payload.statusOr snapshot.status }
    { s with
      snapshots := s.snapshots.put
        { snapshot with
          customerId := payload.customerId.getD snapshot.customerId
          restaurantId := payload.restaurantId.getD snapshot.restaurantId
          customerName := payload.customerName.getD snapshot.customerName } }

/-! ### Operations -/

/-- `REVIEWABLE_STATUSES`. -/
def reviewableStatuses : List String := ["DELIVERED", "COMPLETED"]

/-- `_get`. -/
def getReview (s : ReviewState) (reviewId : Nat) : Except Raised Review :=
  match s.reviews.find? reviewId with
  | none => .error (.app (notFoundException "Review" (toString reviewId)))
  | some review => .ok review

/-- A customer reviews an order. The reviewed restaurant is a foreign key. -/
def createReview (s : ReviewState) (caller : Identity) (orderId : Nat) (rating : Rating)
    (comment : Option String) (now : Timestamp) : Except Raised ReviewState :=
  match s.snapshots.find? orderId with
  | none => .error (.app (notFoundException "Order" (toString orderId)))
  | some snapshot =>
    if snapshot.customerId ≠ caller.userId then
      .error (.app (forbiddenException "Only the order's customer can review it"))
    else if snapshot.status ∉ reviewableStatuses then
      .error (.app (conflictException "You can review an order once it has been delivered"))
    else if (s.reviews.first? fun review => review.orderId = orderId).isSome then
      .error (.app (conflictException "This order has already been reviewed"))
    else
      match s.service.restaurants.find? snapshot.restaurantId with
      | none => .error (.other "IntegrityError" "reviews_restaurant_id_fkey")
      | some restaurant =>
        .ok { s with
          reviews := s.reviews.put
            { id := s.nextReviewId
              orderId := orderId
              customerId := caller.userId
              restaurantId := snapshot.restaurantId
              rating := rating
              comment := comment
              reviewerName := snapshot.customerName
              createdAt := now }
          notices := s.notices ++
            [{ userId := restaurant.ownerId
               type := "review.created"
               message := "New " ++ toString rating.val ++ "★ review on order #" ++ toString orderId ++ "."
               orderId := orderId }] }

/-- Let the author revise their own review. -/
def updateReview (s : ReviewState) (caller : Identity) (reviewId : Nat) (rating : Option Rating)
    (comment : Option String) (commentSet : Bool) (now : Timestamp) : Except Raised ReviewState := do
  let review ← getReview s reviewId
  if review.customerId ≠ caller.userId then
    .error (.app (forbiddenException "Only the review's author can edit it"))
  else
    return { s with
      reviews := s.reviews.put
        { review with
          rating := rating.getD review.rating
          comment := if commentSet = true then comment else review.comment
          updatedAt := some now } }

/-- Remove a review: the author may withdraw theirs, an admin may moderate any. -/
def deleteReview (s : ReviewState) (caller : Identity) (reviewId : Nat) : Except Raised ReviewState := do
  let review ← getReview s reviewId
  if review.customerId ≠ caller.userId ∧ caller.role ≠ "admin" then
    .error (.app (forbiddenException "Only the author or an admin can delete a review"))
  else return { s with reviews := s.reviews.filter fun row => row.id ≠ review.id }

/-- Record the restaurant's public answer to a review. -/
def replyToReview (s : ReviewState) (caller : Identity) (reviewId : Nat) (reply : String)
    (now : Timestamp) : Except Raised ReviewState := do
  let review ← getReview s reviewId
  let _ ← ownedRestaurant s.service caller review.restaurantId
  return { s with
    reviews := s.reviews.put { review with ownerReply := some reply, ownerRepliedAt := some now }
    notices := s.notices ++
      [{ userId := review.customerId
         type := "review.replied"
         message := "The restaurant replied to your review of order #" ++ toString review.orderId ++ "."
         orderId := review.orderId }] }

/-- What is asked of the reviews, and by whom. -/
inductive ReviewOperation where
  | createReview (caller : Identity) (orderId : Nat) (rating : Rating) (comment : Option String)
  | updateReview (caller : Identity) (reviewId : Nat) (rating : Option Rating) (comment : Option String)
    (commentSet : Bool)
  | deleteReview (caller : Identity) (reviewId : Nat)
  | replyToReview (caller : Identity) (reviewId : Nat) (reply : String)

/-- What an operation leaves, or what it raises. -/
def ReviewOperation.outcome (s : ReviewState) (now : Timestamp) :
    ReviewOperation → Except Raised ReviewState
  | .createReview caller orderId rating comment =>
    Restaurants.createReview s caller orderId rating comment now
  | .updateReview caller reviewId rating comment commentSet =>
    Restaurants.updateReview s caller reviewId rating comment commentSet now
  | .deleteReview caller reviewId => Restaurants.deleteReview s caller reviewId
  | .replyToReview caller reviewId reply => Restaurants.replyToReview s caller reviewId reply now

/-- One operation; a transaction that raises is rolled back. -/
def ReviewState.ask (s : ReviewState) (op : ReviewOperation) (now : Timestamp) : ReviewState :=
  match op.outcome s now with
  | .ok next => next
  | .error _ => s

/-! ### What an operation can write -/

/-- **The outcomes of an operation for the table of reviews.** -/
inductive Written (s next : ReviewState) : ReviewOperation → Prop
  | same (op : ReviewOperation) (reviews : next.reviews = s.reviews) : Written s next op
  | created (caller : Identity) (orderId : Nat) (rating : Rating) (comment : Option String)
      (snapshot : OrderSnapshot) (review : Review)
      (found : s.snapshots.find? orderId = some snapshot)
      (own : snapshot.customerId = caller.userId) (earned : snapshot.status ∈ reviewableStatuses)
      (first : ∀ other ∈ s.reviews.rows, other.orderId ≠ orderId)
      (fresh : review.id = s.nextReviewId) (order : review.orderId = orderId)
      (customer : review.customerId = caller.userId)
      (restaurant : review.restaurantId = snapshot.restaurantId)
      (reviews : next.reviews = s.reviews.put review) :
      Written s next (.createReview caller orderId rating comment)
  | edited (op : ReviewOperation) (review edit : Review) (found : s.reviews.find? review.id = some review)
      (id : edit.id = review.id) (order : edit.orderId = review.orderId)
      (customer : edit.customerId = review.customerId)
      (restaurant : edit.restaurantId = review.restaurantId)
      (author : (edit.rating ≠ review.rating ∨ edit.comment ≠ review.comment) →
        ∃ caller rating comment commentSet, caller.userId = review.customerId ∧
          op = .updateReview caller review.id rating comment commentSet)
      (reviews : next.reviews = s.reviews.put edit) : Written s next op
  | deleted (caller : Identity) (review : Review) (found : s.reviews.find? review.id = some review)
      (may : caller.userId = review.customerId ∨ caller.role = "admin")
      (reviews : next.reviews = s.reviews.filter fun row => row.id ≠ review.id) :
      Written s next (.deleteReview caller review.id)

variable {s next : ReviewState} {now : Timestamp}

theorem getReview_ok {reviewId : Nat} {review : Review} (got : getReview s reviewId = .ok review) :
    s.reviews.find? reviewId = some review := by
  unfold getReview at got
  split at got
  · cases got
  · rename_i row found
    cases got
    exact found

theorem createReview_ok {caller : Identity} {orderId : Nat} {rating : Rating} {comment : Option String}
    (outcome : createReview s caller orderId rating comment now = .ok next) :
    Written s next (.createReview caller orderId rating comment) := by
  unfold createReview at outcome
  split at outcome
  · cases outcome
  · rename_i snapshot found
    split_ifs at outcome with other early reviewed
    split at outcome
    · cases outcome
    · cases outcome
      refine .created caller orderId rating comment snapshot _ found (not_not.mp other)
        early (fun row stored same => reviewed ?_) rfl rfl rfl rfl rfl
      exact List.find?_isSome.mpr ⟨row, stored, decide_eq_true same⟩

theorem updateReview_ok {caller : Identity} {reviewId : Nat} {rating : Option Rating}
    {comment : Option String} {commentSet : Bool}
    (outcome : updateReview s caller reviewId rating comment commentSet now = .ok next) :
    Written s next (.updateReview caller reviewId rating comment commentSet) := by
  obtain ⟨review, got, rest⟩ := bind_eq_ok.mp outcome
  have found := getReview_ok got
  obtain rfl := Table.key_of_find? found
  by_cases other : review.customerId ≠ caller.userId
  · rw [if_pos other] at rest
    cases rest
  · rw [if_neg other] at rest
    cases rest
    exact .edited _ review { review with
        rating := rating.getD review.rating
        comment := if commentSet = true then comment else review.comment
        updatedAt := some now } found rfl rfl rfl rfl
      (fun _ => ⟨caller, rating, comment, commentSet, (not_not.mp other).symm, rfl⟩) rfl

theorem deleteReview_ok {caller : Identity} {reviewId : Nat}
    (outcome : deleteReview s caller reviewId = .ok next) :
    Written s next (.deleteReview caller reviewId) := by
  obtain ⟨review, got, rest⟩ := bind_eq_ok.mp outcome
  have found := getReview_ok got
  obtain rfl := Table.key_of_find? found
  split_ifs at rest with stranger
  cases rest
  refine .deleted caller review found ?_ rfl
  by_cases own : review.customerId = caller.userId
  · exact Or.inl own.symm
  · exact Or.inr (by_contra fun other => stranger ⟨own, other⟩)

theorem replyToReview_ok {caller : Identity} {reviewId : Nat} {reply : String}
    (outcome : replyToReview s caller reviewId reply now = .ok next) :
    Written s next (.replyToReview caller reviewId reply) := by
  obtain ⟨review, got, rest⟩ := bind_eq_ok.mp outcome
  obtain ⟨_, _, rest⟩ := bind_eq_ok.mp rest
  have found := getReview_ok got
  obtain rfl := Table.key_of_find? found
  cases rest
  refine .edited _ review { review with ownerReply := some reply, ownerRepliedAt := some now } found
    rfl rfl rfl rfl (fun changed => ?_) rfl
  rcases changed with changed | changed
  · exact absurd rfl changed
  · exact absurd rfl changed

/-- **What an operation does to the reviews.** -/
theorem ReviewState.written (s : ReviewState) (op : ReviewOperation) (now : Timestamp) :
    Written s (s.ask op now) op := by
  unfold ReviewState.ask
  split
  · rename_i next outcome
    cases op with
    | createReview caller orderId rating comment => exact createReview_ok outcome
    | updateReview caller reviewId rating comment commentSet => exact updateReview_ok outcome
    | deleteReview caller reviewId => exact deleteReview_ok outcome
    | replyToReview caller reviewId reply => exact replyToReview_ok outcome
  · exact .same op rfl

/-- **The frame**: an operation on the reviews leaves the other tables. -/
theorem ReviewState.frame (s : ReviewState) (op : ReviewOperation) (now : Timestamp) :
    (s.ask op now).service = s.service ∧ (s.ask op now).snapshots = s.snapshots := by
  unfold ReviewState.ask
  split
  · rename_i next outcome
    cases op with
    | createReview caller orderId rating comment =>
      simp only [ReviewOperation.outcome, Restaurants.createReview] at outcome
      split at outcome
      · cases outcome
      · split_ifs at outcome
        split at outcome
        · cases outcome
        · cases outcome
          exact ⟨rfl, rfl⟩
    | updateReview caller reviewId rating comment commentSet =>
      obtain ⟨review, -, rest⟩ := bind_eq_ok.mp outcome
      by_cases other : review.customerId ≠ caller.userId
      · rw [if_pos other] at rest
        cases rest
      · rw [if_neg other] at rest
        cases rest
        exact ⟨rfl, rfl⟩
    | deleteReview caller reviewId =>
      obtain ⟨review, -, rest⟩ := bind_eq_ok.mp outcome
      split_ifs at rest
      cases rest
      exact ⟨rfl, rfl⟩
    | replyToReview caller reviewId reply =>
      obtain ⟨review, -, rest⟩ := bind_eq_ok.mp outcome
      obtain ⟨_, -, rest⟩ := bind_eq_ok.mp rest
      cases rest
      exact ⟨rfl, rfl⟩
  · exact ⟨rfl, rfl⟩

end FoodDelivery.Restaurants
