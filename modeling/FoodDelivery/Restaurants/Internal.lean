/-
**The endpoints that other services call** (`services/restaurants/app/internal.py`): validate-order
with its reservation, and release-stock.

The checks of validate-order are `judge`, a function of the rows that were read; a refusal is an
answer with `ok = false`. `validateOrder` reads, judges, reserves and commits with nothing in between.
`judge_ok` says what a body that passes the checks meets.
-/

import FoodDelivery.Lib.Decimals
import FoodDelivery.Lib.Outcomes
import FoodDelivery.Restaurants.Hours
import FoodDelivery.Restaurants.Inventory
import FoodDelivery.Restaurants.Service
import FoodDelivery.Restaurants.Zones
import Mathlib.Algebra.Ring.Rat

set_option autoImplicit false

namespace FoodDelivery.Restaurants

open FoodDelivery.Lib

/-! ### Bodies and answers -/

/-- A line of the body. A price that is not a number of hundredths is no item's price. -/
structure OrderLine where
  menuItemId : Nat
  quantity : Nat
  unitPrice : Money
deriving DecidableEq, Repr

/-- `quantity: int = Field(..., ge=1)`. -/
def OrderLine.valid (line : OrderLine) : Bool := 1 ≤ line.quantity

structure ValidateOrderRequest where
  items : List OrderLine
  address : AddressPoint
  reserve : Bool := true
deriving DecidableEq, Repr

structure ValidatedLine where
  menuItemId : Nat
  name : String
  unitPrice : Money
  quantity : Nat
  lineTotal : Money
deriving DecidableEq, Repr

structure ValidateOrderResponse where
  ok : Bool
  code : Option String := none
  message : Option String := none
  restaurantId : Option Nat := none
  items : List ValidatedLine := []
  subtotal : Money := 0
deriving DecidableEq, Repr

/-- A failed validation is a 200 with ok=false, not an HTTP error. -/
def reject (code message : String) : ValidateOrderResponse where
  ok := false
  code := some code
  message := some message

def OrderLine.stock (line : OrderLine) : StockLine := ⟨line.menuItemId, line.quantity⟩

/-- What a line comes to, at the price that it was shown at. -/
def OrderLine.amount (line : OrderLine) : Money := line.unitPrice * line.quantity

def ValidatedLine.stock (line : ValidatedLine) : StockLine := ⟨line.menuItemId, line.quantity⟩

/-! ### The checks -/

/-- `rows.get(id)`: the restaurant's items among those that were read. -/
def itemOf (items : Table Nat MenuItem MenuItem.id) (restaurantId menuItemId : Nat) :
    Option MenuItem :=
  (items.find? menuItemId).filter fun item => item.restaurantId = restaurantId

/-- `str(item.stock_quantity)` where it is compared. -/
def stockText (item : MenuItem) : String :=
  match item.stockQuantity with
  | none => "None"
  | some stock => toString stock

/-- One turn of the loop over the lines. -/
def validateLine (rows : Nat → Option MenuItem) (line : OrderLine) :
    Except ValidateOrderResponse ValidatedLine :=
  match rows line.menuItemId with
  | none => .error (reject "ITEM_OUT_OF_STOCK" "An item is no longer available.")
  | some item =>
    if item.isAvailable = false then
      .error (reject "ITEM_OUT_OF_STOCK" "An item is no longer available.")
    else if shortfall item line.quantity then
      .error (reject "ITEM_OUT_OF_STOCK"
        ("Only " ++ stockText item ++ " left of '" ++ item.name ++ "'."))
    else if (item.price : Money) ≠ line.unitPrice then
      .error (reject "PRICE_MISMATCH_REFRESH" "Prices changed. Please review your cart.")
    else
      .ok
        { menuItemId := item.id
          name := item.name
          unitPrice := item.price
          quantity := line.quantity
          lineTotal := toPrecision decimalDigits (item.price * line.quantity) }

/-- The loop over the lines: the first that fails decides. -/
def validateLines (rows : Nat → Option MenuItem) :
    List OrderLine → Except ValidateOrderResponse (List ValidatedLine)
  | [] => .ok []
  | line :: lines => do
    let first ← validateLine rows line
    let rest ← validateLines rows lines
    return first :: rest

/-- `subtotal += line_total`, line by line. -/
def subtotalOf (validated : List ValidatedLine) : Money :=
  sumTo decimalDigits (validated.map ValidatedLine.lineTotal)

/-- The checks, in their order, on the rows that were read. -/
def judge (runtime : Runtime) (restaurant : Restaurant) (schedule : List OpeningHour)
    (rows : Nat → Option MenuItem) (body : ValidateOrderRequest) (clock : LocalTime) :
    Except ValidateOrderResponse (List ValidatedLine) :=
  if restaurant.isOpen = false then
    .error (reject "RESTAURANT_CLOSED" "This restaurant is currently closed.")
  else if (scheduleStatus restaurant.isOpen schedule clock).acceptingOrders = false then
    .error (reject "RESTAURANT_CLOSED" "This restaurant is currently closed.")
  else if body.items = [] then .error (reject "EMPTY_CART" "Your cart is empty.")
  else do
    let validated ← validateLines rows body.items
    let verdict := checkZone runtime restaurant body.address
    if verdict.serviceable = false then
      .error (reject "ADDRESS_OUT_OF_ZONE" (rejectionMessage runtime restaurant verdict))
    else if subtotalOf validated < restaurant.minOrderAmount then
      .error (reject "MIN_ORDER_NOT_MET"
        ("Minimum order is " ++ restaurant.minOrderAmount.text ++ ". Add a little more."))
    else return validated

/-- The answer to a body that passed. -/
def accept (restaurantId : Nat) (validated : List ValidatedLine) : ValidateOrderResponse where
  ok := true
  restaurantId := some restaurantId
  items := validated
  subtotal := subtotalOf validated

/-- Validate a proposed order and, if it holds up, reserve the stock. -/
def validateOrder (runtime : Runtime) (s : State) (restaurantId : Nat) (body : ValidateOrderRequest)
    (clock : LocalTime) : Except Raised (ValidateOrderResponse × State) :=
  match s.restaurants.find? restaurantId with
  | none => .error (.app (notFoundException "Restaurant" (toString restaurantId)))
  | some restaurant =>
    match judge runtime restaurant (openingHoursFor s restaurantId) (itemOf s.items restaurantId) body
        clock with
    | .error refusal => .ok (refusal, s)
    | .ok validated =>
      .ok (accept restaurant.id validated,
        if body.reserve then applyOrder s (validated.map ValidatedLine.stock) else s)

/-- Put stock back for a cancelled or rejected order. -/
def releaseStock (s : State) (lines : List OrderLine) : State :=
  restoreOrder s (lines.map OrderLine.stock)

/-! ### Over HTTP -/

/-- What a caller of validate-order gets: a status and, when it is 200, the answer. -/
structure Served where
  statusCode : Nat
  answer : Option ValidateOrderResponse := none
deriving DecidableEq, Repr

/-- `POST /restaurants/{restaurant_id}/validate-order`. -/
def serveValidateOrder (verify : String → Option Identity) (runtime : Runtime) (s : State)
    (restaurantId : Nat) (authorization : Option String) (body : ValidateOrderRequest)
    (clock : LocalTime) : Served × State :=
  match authenticate verify authorization with
  | none => ({ statusCode := 401 }, s)
  | some _ =>
    if body.items.all OrderLine.valid = false then ({ statusCode := 422 }, s)
    else
      match validateOrder runtime s restaurantId body clock with
      | .error _ => ({ statusCode := 404 }, s)
      | .ok (answer, next) => ({ statusCode := 200, answer := some answer }, next)

/-- `POST /restaurants/{restaurant_id}/release-stock`: the status and the database after it. The
handler takes the id of its path and never reads it. -/
def serveReleaseStock (verify : String → Option Identity) (s : State) (_restaurantId : Nat)
    (authorization : Option String) (lines : List OrderLine) : Nat × State :=
  match authenticate verify authorization with
  | none => (401, s)
  | some _ =>
    if lines.all OrderLine.valid = false then (422, s) else (204, releaseStock s lines)

/-! ### What passes the checks -/

/-- **A line that passes**: its item is there, for sale, in stock and at the price shown. -/
theorem validateLine_ok {rows : Nat → Option MenuItem} {line : OrderLine} {valid : ValidatedLine} :
    validateLine rows line = .ok valid ↔
      ∃ item, rows line.menuItemId = some item ∧ item.isAvailable = true ∧
        shortfall item line.quantity = false ∧ item.price = line.unitPrice ∧
        valid = ⟨item.id, item.name, item.price, line.quantity,
          toPrecision decimalDigits (item.price * line.quantity)⟩ := by
  unfold validateLine
  cases rows line.menuItemId with
  | none => simp
  | some item =>
    dsimp only
    split_ifs with unavailable short different
    · simp [unavailable]
    · simp [short]
    · simp [different]
    · rw [Bool.not_eq_false] at unavailable
      rw [Bool.not_eq_true] at short
      rw [not_not] at different
      constructor
      · rintro same
        cases same
        exact ⟨item, rfl, unavailable, short, different, rfl⟩
      · rintro ⟨_, same, _, _, _, rfl⟩
        cases same
        rfl

theorem validateLines_cons {rows : Nat → Option MenuItem} {line : OrderLine}
    {lines : List OrderLine} {validated : List ValidatedLine} :
    validateLines rows (line :: lines) = .ok validated ↔
      ∃ first rest, validateLine rows line = .ok first ∧ validateLines rows lines = .ok rest ∧
        validated = first :: rest := by
  rw [validateLines, bind_eq_ok]
  simp only [bind_eq_ok]
  constructor
  · rintro ⟨first, valid, rest, others, same⟩
    cases same
    exact ⟨first, rest, valid, others, rfl⟩
  · rintro ⟨first, rest, valid, others, rfl⟩
    exact ⟨first, valid, rest, others, rfl⟩

/-- **Lines that pass** come out at the prices they were shown at, and come to what `Decimal` makes of
them. -/
theorem amounts_of_validateLines {rows : Nat → Option MenuItem} {lines : List OrderLine}
    {validated : List ValidatedLine} (valid : validateLines rows lines = .ok validated) :
    (∀ line ∈ lines, 0 ≤ line.unitPrice) ∧
      validated.map (fun line => (line.unitPrice, line.quantity, line.lineTotal)) =
        lines.map fun line =>
          (line.unitPrice, line.quantity, toPrecision decimalDigits line.amount) := by
  induction lines generalizing validated with
  | nil =>
    cases valid
    exact ⟨fun _ none => absurd none List.not_mem_nil, rfl⟩
  | cons line lines ih =>
    obtain ⟨first, rest, head, tail, rfl⟩ := validateLines_cons.mp valid
    obtain ⟨item, _, _, _, price, rfl⟩ := validateLine_ok.mp head
    obtain ⟨nonneg, same⟩ := ih tail
    refine ⟨List.forall_mem_cons.mpr ⟨price ▸ Int.natCast_nonneg item.price, nonneg⟩, ?_⟩
    rw [List.map_cons, List.map_cons, same, OrderLine.amount, ← price]

theorem lineTotals_of_validateLines {rows : Nat → Option MenuItem} {lines : List OrderLine}
    {validated : List ValidatedLine} (valid : validateLines rows lines = .ok validated) :
    validated.map ValidatedLine.lineTotal =
      lines.map fun line => toPrecision decimalDigits line.amount := by
  have same := congrArg (List.map fun shown => shown.2.2) (amounts_of_validateLines valid).2
  rwa [List.map_map, List.map_map] at same

/-- **Lines that pass** come out as they went in, and each is covered by its item's stock. -/
theorem stock_of_validateLines {items : Items} {restaurantId : Nat} {lines : List OrderLine}
    {validated : List ValidatedLine}
    (valid : validateLines (itemOf items restaurantId) lines = .ok validated) :
    validated.map ValidatedLine.stock = lines.map OrderLine.stock ∧
      ∀ line ∈ lines, ∀ stock ∈ stockOf items line.menuItemId, line.quantity ≤ stock := by
  induction lines generalizing validated with
  | nil =>
    cases valid
    exact ⟨rfl, fun _ member => by cases member⟩
  | cons line lines ih =>
    obtain ⟨first, rest, head, tail, rfl⟩ := validateLines_cons.mp valid
    obtain ⟨item, found, _, covered, _, rfl⟩ := validateLine_ok.mp head
    obtain ⟨same, others⟩ := ih tail
    have row : items.find? line.menuItemId = some item := (Option.filter_eq_some_iff.mp found).1
    have own : item.id = line.menuItemId := Table.key_of_find? row
    refine ⟨?_, ?_⟩
    · rw [List.map_cons, List.map_cons, same]
      exact congrArg (fun id => (⟨id, line.quantity⟩ : StockLine) :: _) own
    · intro other member stock tracked
      rcases List.mem_cons.mp member with rfl | later
      · rw [stockOf, row] at tracked
        unfold shortfall at covered
        rw [show item.stockQuantity = some stock from tracked] at covered
        simpa using covered
      · exact others other later stock tracked

/-- A line that fails is answered with a refusal. -/
theorem validateLine_refused {rows : Nat → Option MenuItem} {line : OrderLine}
    {refusal : ValidateOrderResponse} (refused : validateLine rows line = .error refusal) :
    refusal.ok = false := by
  unfold validateLine at refused
  split at refused
  · cases refused
    rfl
  · split_ifs at refused <;> cases refused <;> rfl

theorem validateLines_refused {rows : Nat → Option MenuItem} {lines : List OrderLine}
    {refusal : ValidateOrderResponse} (refused : validateLines rows lines = .error refusal) :
    refusal.ok = false := by
  induction lines with
  | nil => cases refused
  | cons line lines ih =>
    rw [validateLines] at refused
    rcases bind_eq_error.mp refused with first | ⟨valid, _, rest⟩
    · exact validateLine_refused first
    · rcases bind_eq_error.mp rest with others | ⟨_, _, done⟩
      · exact ih others
      · cases done

/-- A body that fails is answered with a refusal. -/
theorem judge_refused {runtime : Runtime} {restaurant : Restaurant} {schedule : List OpeningHour}
    {rows : Nat → Option MenuItem} {body : ValidateOrderRequest} {clock : LocalTime}
    {refusal : ValidateOrderResponse}
    (refused : judge runtime restaurant schedule rows body clock = .error refusal) :
    refusal.ok = false := by
  unfold judge at refused
  split_ifs at refused
  · cases refused
    rfl
  · cases refused
    rfl
  · cases refused
    rfl
  · rcases bind_eq_error.mp refused with lines | ⟨valid, _, rest⟩
    · exact validateLines_refused lines
    · dsimp only at rest
      split_ifs at rest <;> cases rest <;> rfl

/-- **A body that passes**: the restaurant is open and takes orders, and every line passes. -/
theorem judge_ok {runtime : Runtime} {restaurant : Restaurant} {schedule : List OpeningHour}
    {rows : Nat → Option MenuItem} {body : ValidateOrderRequest} {clock : LocalTime}
    {validated : List ValidatedLine} :
    judge runtime restaurant schedule rows body clock = .ok validated ↔
      restaurant.isOpen = true ∧
        (scheduleStatus restaurant.isOpen schedule clock).acceptingOrders = true ∧
        body.items ≠ [] ∧ validateLines rows body.items = .ok validated ∧
        (checkZone runtime restaurant body.address).serviceable = true ∧
        restaurant.minOrderAmount ≤ subtotalOf validated := by
  unfold judge
  split_ifs with closed late empty
  · simp [closed]
  · simp [late]
  · simp [empty]
  · simp only [bind_eq_ok]
    constructor
    · rintro ⟨valid, lines, rest⟩
      split_ifs at rest with far small
      cases rest
      rw [Bool.not_eq_false] at closed late far
      exact ⟨closed, late, empty, lines, far, not_lt.mp small⟩
    · rintro ⟨_, _, _, lines, near, enough⟩
      refine ⟨validated, lines, ?_⟩
      rw [if_neg (by simp [near]), if_neg (not_lt.mpr enough)]
      rfl

/-- The endpoint lets the caller in, its body is well formed and passes the checks. -/
def Accepts (verify : String → Option Identity) (runtime : Runtime) (s : State)
    (restaurantId : Nat) (authorization : Option String) (body : ValidateOrderRequest)
    (clock : LocalTime) : Prop :=
  (authenticate verify authorization).isSome ∧ body.items.all OrderLine.valid = true ∧
    ∃ restaurant, s.restaurants.find? restaurantId = some restaurant ∧
      ∃ validated, judge runtime restaurant (openingHoursFor s restaurantId)
        (itemOf s.items restaurantId) body clock = .ok validated

/-- **The outcomes of the endpoint**: a refusal that changes nothing, or an answer with the lines of
the body, which are taken from stock when the body asks for it. -/
theorem serveValidateOrder_outcome (verify : String → Option Identity) (runtime : Runtime)
    (s : State) (restaurantId : Nat) (authorization : Option String) (body : ValidateOrderRequest)
    (clock : LocalTime) :
    (¬ Accepts verify runtime s restaurantId authorization body clock ∧
      ∃ served, serveValidateOrder verify runtime s restaurantId authorization body clock =
        (served, s) ∧
      (400 ≤ served.statusCode ∧ served.answer = none ∨
        ∃ answer, served.answer = some answer ∧ answer.ok = false)) ∨
    (Accepts verify runtime s restaurantId authorization body clock ∧
      ∃ restaurant validated, s.restaurants.find? restaurantId = some restaurant ∧
      body.items.all OrderLine.valid = true ∧
      validateLines (itemOf s.items restaurantId) body.items = .ok validated ∧
      restaurant.minOrderAmount ≤ subtotalOf validated ∧
      serveValidateOrder verify runtime s restaurantId authorization body clock =
        ({ statusCode := 200, answer := some (accept restaurant.id validated) },
          if body.reserve then applyOrder s (body.items.map OrderLine.stock) else s)) := by
  unfold serveValidateOrder Accepts
  cases authenticate verify authorization with
  | none => exact Or.inl ⟨by simp, _, rfl, Or.inl ⟨by decide, rfl⟩⟩
  | some caller =>
    dsimp only
    by_cases invalid : body.items.all OrderLine.valid = false
    · rw [if_pos invalid]
      exact Or.inl ⟨by simp [invalid], _, rfl, Or.inl ⟨by decide, rfl⟩⟩
    · rw [if_neg invalid]
      rw [Bool.not_eq_false] at invalid
      unfold validateOrder
      cases s.restaurants.find? restaurantId with
      | none => exact Or.inl ⟨by simp, _, rfl, Or.inl (by simp)⟩
      | some restaurant =>
        dsimp only
        cases judged : judge runtime restaurant (openingHoursFor s restaurantId)
            (itemOf s.items restaurantId) body clock with
        | error refusal =>
          refine Or.inl ⟨?_, _, rfl, Or.inr ⟨refusal, rfl, judge_refused judged⟩⟩
          rintro ⟨_, _, _, same, validated, passed⟩
          cases same
          rw [judged] at passed
          cases passed
        | ok validated =>
          obtain ⟨_, _, _, lines, _, enough⟩ := judge_ok.mp judged
          refine Or.inr ⟨⟨rfl, invalid, restaurant, rfl, validated, judged⟩, restaurant,
            validated, rfl, invalid, lines, enough, ?_⟩
          dsimp only
          rw [(stock_of_validateLines lines).1]

/-- The outcomes for a body that reserves. -/
theorem serveValidateOrder_cases (verify : String → Option Identity) (runtime : Runtime) (s : State)
    (restaurantId : Nat) (authorization : Option String) (body : ValidateOrderRequest)
    (clock : LocalTime) (reserves : body.reserve = true) :
    (¬ Accepts verify runtime s restaurantId authorization body clock ∧
      ∃ served, serveValidateOrder verify runtime s restaurantId authorization body clock =
        (served, s) ∧
      (400 ≤ served.statusCode ∨ ∃ answer, served.answer = some answer ∧ answer.ok = false)) ∨
    (Accepts verify runtime s restaurantId authorization body clock ∧
      ∃ id validated, body.items.all OrderLine.valid = true ∧
      validateLines (itemOf s.items restaurantId) body.items = .ok validated ∧
      serveValidateOrder verify runtime s restaurantId authorization body clock =
        ({ statusCode := 200, answer := some (accept id validated) },
          applyOrder s (body.items.map OrderLine.stock))) := by
  rcases serveValidateOrder_outcome verify runtime s restaurantId authorization body clock with
    ⟨refuses, served, result, refusal⟩ | ⟨accepts, restaurant, validated, _, valid, lines, _, result⟩
  · exact Or.inl ⟨refuses, served, result, refusal.imp_left And.left⟩
  · rw [if_pos reserves] at result
    exact Or.inr ⟨accepts, restaurant.id, validated, valid, lines, result⟩

end FoodDelivery.Restaurants
