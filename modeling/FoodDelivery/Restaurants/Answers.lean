/-
**What an answer reserves** (`services/restaurants/app/internal.py`, `validate_order`).

The checks compare each line with its item's stock; the reservation adds up the lines of an item and
takes their sum, and where the sum is more than the stock it stops at zero. Two lines for one item can
each be covered and not be covered together.

The amounts are `Decimal`s, and no quantity is too large for a body: what has more than 28 significant
digits is rounded.

`reservesExactly_iff`: a request takes exactly what it answers, and answers exactly what was asked, if
and only if it is refused, or its amounts need no rounding and it only probes or asks for no more of any
tracked item than its stock.
-/

import FoodDelivery.Restaurants.Internal

set_option autoImplicit false

namespace FoodDelivery.Restaurants

open FoodDelivery.Lib

/-! ### What has to hold -/

/-- The answer to a line: the item's current name and price, at the quantity asked for. -/
def AnswersLine (items : Items) (restaurantId : Nat) (line : OrderLine) (answered : ValidatedLine) :
    Prop :=
  ∃ item, items.find? line.menuItemId = some item ∧ item.restaurantId = restaurantId ∧
    answered = ⟨line.menuItemId, item.name, item.price, line.quantity, item.price * line.quantity⟩

/-- The request is answered ok and asked for its stock. -/
def Reserved (body : ValidateOrderRequest) (served : Served) : Prop :=
  body.reserve = true ∧ ∃ answer, served.answer = some answer ∧ answer.ok = true

/-- **The endpoint reserves exactly what it answers**, when it leaves `next` of `s`. -/
structure ReservesExactly (s : State) (restaurantId : Nat) (body : ValidateOrderRequest)
    (served : Served) (next : State) : Prop where
  taken : Reserved body served → ∀ id stock, stockOf s.items id = some stock →
    ∃ left, stockOf next.items id = some left ∧
      left + wanted (body.items.map OrderLine.stock) id = stock
  untracked : ∀ id, stockOf s.items id = none → stockOf next.items id = none
  unmoved : ¬ Reserved body served → ∀ id, stockOf next.items id = stockOf s.items id
  lines : ∀ answer, served.answer = some answer → answer.ok = true →
    List.Forall₂ (AnswersLine s.items restaurantId) body.items answer.items
  subtotal : ∀ answer, served.answer = some answer → answer.ok = true →
    answer.subtotal = (answer.items.map ValidatedLine.lineTotal).sum
  minimum : ∀ answer, served.answer = some answer → answer.ok = true →
    ∃ restaurant, s.restaurants.find? restaurantId = some restaurant ∧
      restaurant.minOrderAmount ≤ answer.subtotal

/-- No tracked item is asked for beyond its stock, its lines taken together. -/
def CoveredTogether (items : Items) (lines : List OrderLine) : Prop :=
  ∀ id stock, stockOf items id = some stock → wanted (lines.map OrderLine.stock) id ≤ stock

/-- **The amounts of a body need no rounding**: no line comes to more than 28 significant digits, and adding
them up with so many digits comes to their sum. -/
structure ExactAmounts (lines : List OrderLine) : Prop where
  each : ∀ line ∈ lines, FitsDigits decimalDigits line.amount
  sum : sumTo decimalDigits (lines.map OrderLine.amount) = (lines.map OrderLine.amount).sum

instance (lines : List OrderLine) : Decidable (ExactAmounts lines) :=
  decidable_of_iff ((∀ line ∈ lines, FitsDigits decimalDigits line.amount) ∧
      sumTo decimalDigits (lines.map OrderLine.amount) = (lines.map OrderLine.amount).sum)
    ⟨fun both => ⟨both.1, both.2⟩, fun exact_amounts => ⟨exact_amounts.each, exact_amounts.sum⟩⟩

/-- They need none as long as they come to less than 10^28 hundredths together. -/
theorem exactAmounts_of_lt {lines : List OrderLine}
    (short : (lines.map fun line => line.amount.natAbs).sum < 10 ^ decimalDigits) :
    ExactAmounts lines where
  each := fun line member => by
    have single : line.amount.natAbs ≤ (lines.map fun line => line.amount.natAbs).sum :=
      List.single_le_sum (fun _ _ => Nat.zero_le _) _ (List.mem_map_of_mem member)
    exact toPrecision_eq_self.mp (toPrecision_of_lt (lt_of_le_of_lt single short))
  sum := sumTo_eq_sum (by rwa [List.map_map])

/-- A quantity has no bound: what 10^27 + 1 portions at 150.01 come to has 32 significant digits. -/
example : ¬ ExactAmounts [⟨10, 10 ^ 27 + 1, 15001⟩] := by decide +kernel

/-! ### The lines of an answer -/

/-- A line that passes answers the line of the body exactly when what it comes to needs no rounding. -/
theorem answersLine_iff {items : Items} {restaurantId : Nat} {line : OrderLine}
    {answered : ValidatedLine} (valid : validateLine (itemOf items restaurantId) line = .ok answered) :
    AnswersLine items restaurantId line answered ↔ FitsDigits decimalDigits line.amount := by
  obtain ⟨item, found, _, _, price, rfl⟩ := validateLine_ok.mp valid
  obtain ⟨row, own⟩ := Option.filter_eq_some_iff.mp found
  have id : item.id = line.menuItemId := Table.key_of_find? row
  rw [← toPrecision_eq_self, OrderLine.amount, ← price]
  constructor
  · rintro ⟨other, row', _, same⟩
    obtain rfl : item = other := Option.some_inj.mp (row.symm.trans row')
    exact congrArg ValidatedLine.lineTotal same
  · intro exact_total
    exact ⟨item, row, of_decide_eq_true own, by rw [id, exact_total]⟩

/-- **The lines that pass are the lines of the body**, in their order, when they need no rounding. -/
theorem answersLines_iff {items : Items} {restaurantId : Nat} {lines : List OrderLine}
    {validated : List ValidatedLine}
    (valid : validateLines (itemOf items restaurantId) lines = .ok validated) :
    List.Forall₂ (AnswersLine items restaurantId) lines validated ↔
      ∀ line ∈ lines, FitsDigits decimalDigits line.amount := by
  induction lines generalizing validated with
  | nil =>
    cases valid
    exact iff_of_true .nil fun _ none => absurd none List.not_mem_nil
  | cons line lines ih =>
    obtain ⟨first, rest, head, tail, rfl⟩ := validateLines_cons.mp valid
    rw [List.forall₂_cons, answersLine_iff head, ih tail, List.forall_mem_cons]

/-- **The answer to a body that passes** has its lines and their sum exactly when its amounts need no
rounding. -/
theorem exactAmounts_iff {items : Items} {restaurantId : Nat} {lines : List OrderLine}
    {validated : List ValidatedLine}
    (valid : validateLines (itemOf items restaurantId) lines = .ok validated) :
    List.Forall₂ (AnswersLine items restaurantId) lines validated ∧
        subtotalOf validated = (validated.map ValidatedLine.lineTotal).sum ↔ ExactAmounts lines := by
  have exact_totals (fit : ∀ line ∈ lines, FitsDigits decimalDigits line.amount) :
      validated.map ValidatedLine.lineTotal = lines.map OrderLine.amount :=
    (lineTotals_of_validateLines valid).trans
      (List.map_congr_left fun line member => toPrecision_eq_self.mpr (fit line member))
  unfold subtotalOf
  rw [answersLines_iff valid]
  constructor
  · rintro ⟨fit, sum⟩
    rw [exact_totals fit] at sum
    exact ⟨fit, sum⟩
  · rintro ⟨fit, sum⟩
    rw [exact_totals fit]
    exact ⟨fit, sum⟩

/-! ### The endpoint -/

/-- A request that is not answered ok leaves the database alone and keeps the promise. -/
theorem reservesExactly_of_refused {s : State} {restaurantId : Nat} {body : ValidateOrderRequest}
    {served : Served} (refused : ∀ answer, served.answer = some answer → answer.ok = false) :
    ReservesExactly s restaurantId body served s := by
  have never : ∀ answer, served.answer = some answer → answer.ok ≠ true := fun answer given ok =>
    absurd (refused answer given) (by simp [ok])
  refine ⟨?_, fun _ untracked => untracked, fun _ _ => rfl, ?_, ?_, ?_⟩
  · rintro ⟨_, answer, given, ok⟩
    exact absurd ok (never answer given)
  · exact fun answer given ok => absurd ok (never answer given)
  · exact fun answer given ok => absurd ok (never answer given)
  · exact fun answer given ok => absurd ok (never answer given)

/-- **A request that is answered ok** keeps the promise when its amounts need no rounding and it only probes
or its lines are covered together. -/
theorem reservesExactly_of_accepted {s : State} {restaurantId : Nat} {body : ValidateOrderRequest}
    {restaurant : Restaurant} {validated : List ValidatedLine}
    (found : s.restaurants.find? restaurantId = some restaurant)
    (lines : validateLines (itemOf s.items restaurantId) body.items = .ok validated)
    (enough : restaurant.minOrderAmount ≤ subtotalOf validated) :
    ReservesExactly s restaurantId body ⟨200, some (accept restaurant.id validated)⟩
        (if body.reserve then applyOrder s (body.items.map OrderLine.stock) else s) ↔
      ((body.reserve = true → CoveredTogether s.items body.items) ∧ ExactAmounts body.items) := by
  constructor
  · intro promise
    refine ⟨fun reserves id stock tracked => ?_, (exactAmounts_iff lines).mp
      ⟨promise.lines _ rfl rfl, promise.subtotal _ rfl rfl⟩⟩
    obtain ⟨left, _, adds_up⟩ := promise.taken ⟨reserves, _, rfl, rfl⟩ id stock tracked
    omega
  · rintro ⟨covered, exact_amounts⟩
    obtain ⟨answers, sum⟩ := (exactAmounts_iff lines).mpr exact_amounts
    refine ⟨?_, ?_, ?_, ?_, ?_, ?_⟩
    · rintro ⟨reserves, _⟩ id stock tracked
      have within := covered reserves id stock tracked
      rw [if_pos reserves, stockOf_applyOrder, tracked]
      exact ⟨_, rfl, Nat.sub_add_cancel within⟩
    · intro id untracked
      split
      · rw [stockOf_applyOrder, untracked, Option.map_none]
      · exact untracked
    · intro probes id
      have only_probes : body.reserve ≠ true := fun reserves => probes ⟨reserves, _, rfl, rfl⟩
      rw [if_neg only_probes]
    · rintro _ ⟨rfl⟩ _
      exact answers
    · rintro _ ⟨rfl⟩ _
      exact sum
    · rintro _ ⟨rfl⟩ _
      exact ⟨restaurant, found, enough⟩

/-- **validate-order reserves exactly what it answers** if and only if the request is refused, or its
amounts need no rounding and it only probes or its lines together ask for no more of any tracked item than
its stock. -/
theorem reservesExactly_iff (verify : String → Option Identity) (runtime : Runtime) (s : State)
    (restaurantId : Nat) (authorization : Option String) (body : ValidateOrderRequest)
    (clock : LocalTime) :
    ReservesExactly s restaurantId body
        (serveValidateOrder verify runtime s restaurantId authorization body clock).1
        (serveValidateOrder verify runtime s restaurantId authorization body clock).2 ↔
      (¬ Accepts verify runtime s restaurantId authorization body clock ∨
        ((body.reserve = false ∨ CoveredTogether s.items body.items) ∧ ExactAmounts body.items)) := by
  rcases serveValidateOrder_outcome verify runtime s restaurantId authorization body clock with
    ⟨refuses, served, result, refusal⟩ | ⟨accepts, restaurant, validated, found, _, lines, enough, result⟩
  · have refused : ∀ answer, served.answer = some answer → answer.ok = false := by
      intro answer given
      rcases refusal with ⟨_, absent⟩ | ⟨other, given', refused⟩
      · rw [absent] at given
        cases given
      · rw [given', Option.some_inj] at given
        exact given ▸ refused
    rw [result]
    simp [refuses, reservesExactly_of_refused refused]
  · rw [result, reservesExactly_of_accepted found lines enough]
    cases body.reserve <;> simp [accepts]

/-! ### Two lines for one dish -/

/-- A kitchen that is open, with three portions of one dish. -/
def threePortions : State where
  restaurants := Table.empty.put { id := 1, ownerId := 7, name := "Spice Route", isOpen := true }
  openingHours := .empty
  categories := .empty
  items := Table.empty.put
    { id := 10, restaurantId := 1, categoryId := 1, name := "Dal", price := 15000,
      stockQuantity := some 3 }
  outbox := []

/-- Two portions and two more: each line is covered by the three that are left. -/
def twoAndTwo : ValidateOrderRequest where
  items := [⟨10, 2, 15000⟩, ⟨10, 2, 15000⟩]
  address := { city := "" }

/-- The request is answered with four portions and takes the three there were. -/
theorem not_reservesExactly :
    ¬ ReservesExactly threePortions 1 twoAndTwo
      (serveValidateOrder (fun _ => some ⟨5, "customer"⟩) ⟨fun _ _ => 0, id, fun _ => ""⟩
        threePortions 1 (some "Bearer t") twoAndTwo ⟨0, 720⟩).1
      (serveValidateOrder (fun _ => some ⟨5, "customer"⟩) ⟨fun _ _ => 0, id, fun _ => ""⟩
        threePortions 1 (some "Bearer t") twoAndTwo ⟨0, 720⟩).2 := by
  intro exact_stock
  have reserved : Reserved twoAndTwo
      (serveValidateOrder (fun _ => some ⟨5, "customer"⟩) ⟨fun _ _ => 0, id, fun _ => ""⟩
        threePortions 1 (some "Bearer t") twoAndTwo ⟨0, 720⟩).1 := ⟨rfl, _, rfl, by decide⟩
  obtain ⟨left, _, adds_up⟩ := exact_stock.taken reserved 10 3 (by decide)
  have asked : wanted (twoAndTwo.items.map OrderLine.stock) 10 = 4 := by decide
  omega

end FoodDelivery.Restaurants
