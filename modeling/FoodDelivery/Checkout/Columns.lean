/-
**What fits the columns of an order** (`services/orders/app/models.py`).

An amount is a `Numeric(10, 2)` and a quantity an `Integer`; the flush of an order raises for what does not
fit them. That is far below the 28 digits at which a `Decimal` is rounded, so what is stored is exact.

* `storable_iff`: whether an order can be stored is told by the lines that were sent;
* `exact_of_fits`: and what can be stored comes back as the lines and their sum.
-/

import FoodDelivery.Checkout.Model

set_option autoImplicit false

namespace FoodDelivery.Checkout

open FoodDelivery.Lib
open FoodDelivery.Orders (OrderItem ValidatedOrder)
open FoodDelivery.Restaurants (MenuItem OrderLine ValidatedLine subtotalOf validateLines
  amounts_of_validateLines lineTotals_of_validateLines)

/-! ### The columns -/

/-- `Numeric(10, 2)`, in hundredths. -/
def FitsNumeric (amount : Money) : Prop := amount.natAbs < 10 ^ 10

/-- `Integer`. -/
def FitsInteger (quantity : Nat) : Prop := quantity < 2 ^ 31

instance (amount : Money) : Decidable (FitsNumeric amount) := inferInstanceAs (Decidable (_ < _))

instance (quantity : Nat) : Decidable (FitsInteger quantity) := inferInstanceAs (Decidable (_ < _))

/-- Every column of the order and of its lines holds its value. -/
def Storable (validated : ValidatedOrder) : Prop :=
  FitsNumeric validated.subtotal ∧ ∀ line ∈ validated.items,
    FitsNumeric line.unitPrice ∧ FitsInteger line.quantity ∧ FitsNumeric line.lineTotal

instance (validated : ValidatedOrder) : Decidable (Storable validated) :=
  inferInstanceAs (Decidable (_ ∧ _))

/-- The flush of an order and its lines. -/
def flushed (validated : ValidatedOrder) : Except Raised Unit :=
  if Storable validated then .ok () else .error (.other "DBAPIError" "numeric field overflow")

/-- What the lines of a call come to, each and together, fits the columns. -/
def FitsColumns (lines : List OrderLine) : Prop :=
  FitsNumeric (lines.map OrderLine.amount).sum ∧ ∀ line ∈ lines,
    FitsNumeric line.unitPrice ∧ FitsInteger line.quantity ∧ FitsNumeric line.amount

instance (lines : List OrderLine) : Decidable (FitsColumns lines) :=
  inferInstanceAs (Decidable (_ ∧ _))

/-! ### From the lines that were sent -/

section

variable {rows : Nat → Option MenuItem} {lines : List OrderLine} {validated : List ValidatedLine}
  (valid : validateLines rows lines = .ok validated)

include valid

theorem amount_nonneg : ∀ amount ∈ lines.map OrderLine.amount, 0 ≤ amount := by
  intro amount member
  obtain ⟨line, sent, rfl⟩ := List.mem_map.mp member
  exact Int.mul_nonneg ((amounts_of_validateLines valid).1 line sent) (Int.natCast_nonneg _)

/-- Amounts of few digits come back as they are. -/
theorem lineTotals_of_fits (fits : ∀ line ∈ lines, FitsNumeric line.amount) :
    validated.map ValidatedLine.lineTotal = lines.map OrderLine.amount := by
  refine (lineTotals_of_validateLines valid).trans (List.map_congr_left fun line sent => ?_)
  exact toPrecision_of_lt ((fits line sent).trans (by decide))

/-- **What fits the columns is exact.** -/
theorem exact_of_fits (fits : FitsColumns lines) :
    validated.map ValidatedLine.lineTotal = lines.map OrderLine.amount ∧
      subtotalOf validated = (lines.map OrderLine.amount).sum := by
  have totals := lineTotals_of_fits valid fun line sent => (fits.2 line sent).2.2
  refine ⟨totals, ?_⟩
  rw [subtotalOf, totals]
  refine sumTo_eq_sum ?_
  rw [sum_natAbs (amount_nonneg valid)]
  exact fits.1.trans (by decide)

/-- **An order can be stored** exactly when what was sent fits its columns. -/
theorem storable_iff (restaurantId addressId : Nat) :
    Storable ⟨restaurantId, addressId, validated.map wireLine, subtotalOf validated⟩ ↔
      FitsColumns lines := by
  have few : ∀ {amount : Money}, FitsNumeric amount → amount.natAbs < 10 ^ decimalDigits :=
    fun fits => fits.trans (by decide)
  have columns : (∀ line ∈ validated.map wireLine, FitsNumeric line.unitPrice ∧
      FitsInteger line.quantity ∧ FitsNumeric line.lineTotal) ↔
        ∀ line ∈ lines, FitsNumeric line.unitPrice ∧ FitsInteger line.quantity ∧
          FitsNumeric (toPrecision decimalDigits line.amount) := by
    let holds (shown : Money × Nat × Money) : Prop :=
      FitsNumeric shown.1 ∧ FitsInteger shown.2.1 ∧ FitsNumeric shown.2.2
    have same := congrArg (fun shown => ∀ columns ∈ shown, holds columns) (amounts_of_validateLines valid).2
    simpa only [List.forall_mem_map, wireLine, Money.resent_eq, eq_iff_iff] using same
  constructor
  · rintro ⟨subtotal, stored⟩
    have each : ∀ line ∈ lines, FitsNumeric line.unitPrice ∧ FitsInteger line.quantity ∧
        FitsNumeric line.amount := by
      intro line sent
      obtain ⟨price, quantity, total⟩ := columns.mp stored line sent
      have short := natAbs_lt_of_toPrecision_lt (by decide) (few total)
      rw [toPrecision_of_lt short] at total
      exact ⟨price, quantity, total⟩
    have totals := lineTotals_of_fits valid fun line sent => (each line sent).2.2
    have shown : subtotalOf validated = sumTo decimalDigits (lines.map OrderLine.amount) := by
      rw [subtotalOf, totals]
    replace subtotal : FitsNumeric (subtotalOf validated) := subtotal
    rw [shown] at subtotal
    refine ⟨?_, each⟩
    rw [← sumTo_eq_sum_of_lt (by decide) (amount_nonneg valid) (few subtotal)]
    exact subtotal
  · intro fits
    obtain ⟨totals, sum⟩ := exact_of_fits valid fits
    refine ⟨sum ▸ fits.1, columns.mpr fun line sent => ?_⟩
    obtain ⟨price, quantity, total⟩ := fits.2 line sent
    rw [toPrecision_of_lt (few total)]
    exact ⟨price, quantity, total⟩

end

end FoodDelivery.Checkout
