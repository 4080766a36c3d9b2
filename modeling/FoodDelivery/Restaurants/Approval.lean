/-
**Only approved venues trade.**

Checkout looks at the owner's open/closed switch and not at the approval, and the decision to reject
closes the venue. But the owner's own edit can set the switch on a venue that is pending or rejected.

`onlyApprovedTrade_of_vetted`: in every run in which no edit opens a venue that is not approved,
validate-order answers ok only for approved venues, in every state of the run.
-/

import FoodDelivery.Restaurants.Runs

set_option autoImplicit false

namespace FoodDelivery.Restaurants

open FoodDelivery.Lib

/-- **Only approved venues trade**: whatever is ordered and whenever, validate-order answers ok only
for a restaurant that is approved. -/
def OnlyApprovedTrade (runtime : Runtime) (s : State) : Prop :=
  ∀ restaurantId body clock answer next,
    validateOrder runtime s restaurantId body clock = .ok (answer, next) → answer.ok = true →
    ∃ restaurant, s.restaurants.find? restaurantId = some restaurant ∧
      restaurant.approvalStatus = .approved

/-- An edit that opens a venue finds it approved. -/
def Vetted (s : State) : Operation → Prop
  | .updateRestaurant restaurantId user data =>
    data.isOpen = some (some true) →
      ∀ restaurant ∈ (ownedRestaurant s user restaurantId).toOption,
        restaurant.approvalStatus = .approved
  | _ => True

instance (s : State) : ∀ op, Decidable (Vetted s op)
  | .updateRestaurant restaurantId user data =>
    inferInstanceAs (Decidable (data.isOpen = some (some true) →
      ∀ restaurant ∈ (ownedRestaurant s user restaurantId).toOption,
        restaurant.approvalStatus = .approved))
  | .registerFromSignup _ | .createRestaurant _ _ | .setApproval _ _ _ | .addCategory _ _ _
  | .updateCategory _ _ _ _ | .deleteCategory _ _ _ | .addItem _ _ _ | .updateItem _ _ _ _
  | .deleteItem _ _ _ | .validateOrder _ _ _ | .releaseStock _ => .isTrue trivial

/-- The invariant: an open venue is an approved one. -/
def OpenAreApproved (s : State) : Prop :=
  ∀ restaurant ∈ s.restaurants.rows, restaurant.isOpen = true →
    restaurant.approvalStatus = .approved

/-- It is kept by a write of a row that has it. -/
theorem openAreApproved_put {s next : State} {written : Restaurant} (inv : OpenAreApproved s)
    (venues : next.restaurants = s.restaurants.put written)
    (own : written.isOpen = true → written.approvalStatus = .approved) : OpenAreApproved next := by
  intro restaurant member opened
  rw [venues, Table.mem_put] at member
  rcases member with rfl | ⟨before, _⟩
  · exact own opened
  · exact inv restaurant before opened

theorem openAreApproved_step (env : Environment) (s : State) (op : Operation)
    (inv : OpenAreApproved s) (vetted : Vetted s op) : OpenAreApproved (s.step env op) := by
  have changed := s.changed env op
  revert changed
  generalize s.step env op = next
  intro changed
  cases changed with
  | same _ venues =>
    unfold OpenAreApproved
    rw [venues]
    exact inv
  | registered _ restaurant pending venues =>
    refine openAreApproved_put inv venues fun opened => ?_
    rw [pending] at opened
    exact Bool.noConfusion opened
  | decided restaurantId status reason restaurant decision found id sets closes venues =>
    refine openAreApproved_put inv venues fun opened => ?_
    rw [closes] at opened
    split at opened
    · exact Bool.noConfusion opened
    · rename_i approved
      rw [sets]
      exact not_not.mp approved
  | edited restaurantId user data restaurant edit owned applied venues =>
    refine openAreApproved_put inv venues fun opened => ?_
    obtain ⟨_, _, approval, switch⟩ := apply_ok applied
    rw [approval]
    rcases switch with kept | set
    · have member := (Table.find?_eq_some.mp (ownedRestaurant_ok owned)).1
      exact inv restaurant member (kept ▸ opened)
    · rw [opened] at set
      refine vetted set restaurant ?_
      rw [owned]
      rfl

/-- Where every open venue is approved, only approved venues trade. -/
theorem onlyApprovedTrade_of_openAreApproved (runtime : Runtime) {s : State}
    (inv : OpenAreApproved s) : OnlyApprovedTrade runtime s := by
  intro restaurantId body clock answer next validated ok
  unfold validateOrder at validated
  split at validated
  · cases validated
  · rename_i restaurant found
    refine ⟨restaurant, found, inv restaurant (Table.find?_eq_some.mp found).1 ?_⟩
    split at validated
    · rename_i refusal refused
      cases validated
      rw [judge_refused refused] at ok
      exact Bool.noConfusion ok
    · rename_i lines passed
      exact (judge_ok.mp passed).1

/-- **When only approved venues trade.** -/
theorem onlyApprovedTrade_of_vetted (env : Environment) (ops : List Operation)
    (vetted : Throughout (State.step env) Vetted State.empty ops) :
    Always (State.step env) (OnlyApprovedTrade env.runtime) State.empty ops := by
  have start : OpenAreApproved State.empty := fun _ member => by cases member
  have always := always_of_throughout (openAreApproved_step env) start vetted
  exact always.mono fun s inv => onlyApprovedTrade_of_openAreApproved env.runtime inv

/-! ### A venue that opens itself -/

/-- One clock and one map for the small runs. -/
def plainEnvironment : Environment where
  adminAlertEmail := ""
  runtime := { distanceKm := fun _ _ => 0, foldCity := id, showKm := fun _ => "" }

/-- An owner registers a venue with one dish. -/
def newVenue : List Operation :=
  let owner : Identity := ⟨9, "restaurant"⟩
  [ .createRestaurant owner
      { name := "Spice", city := "Surat", addressLine := "1 Ring Road", phone := "+919876543210" },
    .addCategory owner 1 { name := "Mains" },
    .addItem owner 1 { categoryId := 1, name := "Thali", price := 20000 } ]

/-- Its owner opens it. -/
def opening : Operation := .updateRestaurant 1 ⟨9, "restaurant"⟩ { isOpen := some (some true) }

/-- The venue is approved before it opens. -/
theorem onlyApprovedTrade_of_vetted_newVenue :
    Always (State.step plainEnvironment) (OnlyApprovedTrade plainEnvironment.runtime) State.empty
      (newVenue ++ [.setApproval 1 .approved none, opening]) :=
  onlyApprovedTrade_of_vetted plainEnvironment
    (newVenue ++ [.setApproval 1 .approved none, opening]) (by decide)

/-- **A pending venue trades.** Its owner opens it before anybody has approved it, and checkout
accepts an order. -/
theorem pendingVenue_trades :
    ¬ ∀ env ops, Always (State.step env) (OnlyApprovedTrade env.runtime) State.empty ops := by
  intro always
  have last := (always plainEnvironment (newVenue ++ [opening])).last
  have pending : ∀ restaurant ∈ (run (State.step plainEnvironment) State.empty
      (newVenue ++ [opening])).restaurants.find? 1, restaurant.approvalStatus = .pending := by decide
  obtain ⟨restaurant, found, approved⟩ := last 1
    { items := [⟨1, 1, 20000⟩], address := { city := "Surat" } } ⟨0, 720⟩ _ _ rfl (by decide)
  rw [pending restaurant found] at approved
  exact ApprovalStatus.noConfusion approved

end FoodDelivery.Restaurants
