/-
**Decimal arithmetic with so many digits.**

An amount is an integer in units of its last decimal place. A decimal number keeps a fixed number of
significant digits: what has more is rounded to the nearest one that has not, a tie to the even one.

* `toPrecision_eq_self`: an amount is kept as it is exactly when the digits that are cut off are zeros;
* `sumTo`: a sum that is rounded after every addition, `sumTo_eq_sum`: which is exact as long as the
  amounts together have no more digits;
* `sumTo_eq_sum_of_lt`: and, where no amount is negative, whenever the sum itself has no more.
-/

import Mathlib.Algebra.Order.Group.Unbundled.Int
import Mathlib.Algebra.Order.BigOperators.Group.List
import Mathlib.Algebra.GroupWithZero.Nat
import Mathlib.Algebra.Ring.Int.Defs

set_option autoImplicit false

namespace FoodDelivery.Lib

/-- The nearest multiple of a unit, a tie to the even one. -/
def roundHalfEven (n unit : Nat) : Nat :=
  let quotient := n / unit
  let remainder := n % unit
  if 2 * remainder < unit ∨ (2 * remainder = unit ∧ quotient % 2 = 0) then quotient * unit
  else (quotient + 1) * unit

/-- **An amount to so many significant digits.** -/
def toPrecision (digits : Nat) (amount : Int) : Int :=
  let excess := (Nat.toDigits 10 amount.natAbs).length - digits
  amount.sign * roundHalfEven amount.natAbs (10 ^ excess)

/-- The amount has no more significant digits: those beyond are zeros. -/
def FitsDigits (digits : Nat) (amount : Int) : Prop :=
  10 ^ ((Nat.toDigits 10 amount.natAbs).length - digits) ∣ amount.natAbs

instance (digits : Nat) (amount : Int) : Decidable (FitsDigits digits amount) :=
  inferInstanceAs (Decidable (_ ∣ _))

/-- The sum of amounts, to so many digits after every addition. -/
def sumTo (digits : Nat) (amounts : List Int) : Int :=
  amounts.foldl (fun sum amount => toPrecision digits (sum + amount)) 0

variable {digits : Nat} {amount : Int} {amounts : List Int}

theorem roundHalfEven_one (n : Nat) : roundHalfEven n 1 = n := by
  simp [roundHalfEven, Nat.mod_one]

theorem roundHalfEven_eq_self {n unit : Nat} (positive : 0 < unit) :
    roundHalfEven n unit = n ↔ unit ∣ n := by
  constructor
  · intro same
    rw [← same]
    unfold roundHalfEven
    dsimp only
    split
    · exact Nat.dvd_mul_left unit _
    · exact Nat.dvd_mul_left unit _
  · intro whole
    rw [roundHalfEven, Nat.mod_eq_zero_of_dvd whole, if_pos (Or.inl (by omega))]
    exact Nat.div_mul_cancel whole

/-- **Nothing is lost** of an amount exactly when it has no more significant digits. -/
theorem toPrecision_eq_self : toPrecision digits amount = amount ↔ FitsDigits digits amount := by
  rw [toPrecision, FitsDigits, ← roundHalfEven_eq_self (Nat.pow_pos (by decide))]
  rcases eq_or_ne amount 0 with rfl | some_amount
  · exact iff_of_true (Int.zero_mul _) (by simp [roundHalfEven])
  · have signed := Int.sign_mul_natAbs amount
    have sign : amount.sign ≠ 0 := fun none => some_amount (Int.sign_eq_zero_iff_zero.mp none)
    constructor
    · intro same
      exact Int.natCast_inj.mp (mul_left_cancel₀ sign (same.trans signed.symm))
    · intro same
      rw [same, signed]

/-- What is rounded keeps its number of digits. -/
theorem le_natAbs_toPrecision (some_digits : 0 < digits) (long : 10 ^ digits ≤ amount.natAbs) :
    10 ^ digits ≤ (toPrecision digits amount).natAbs := by
  let length := (Nat.toDigits 10 amount.natAbs).length
  have some_amount : amount ≠ 0 := by
    rintro rfl
    exact absurd long (Nat.not_le.mpr (Nat.pow_pos (by decide)))
  have more : digits < length := by
    by_contra fits
    exact absurd ((Nat.length_toDigits_le_iff (by decide) some_digits).mp (Nat.not_lt.mp fits))
      (Nat.not_lt.mpr long)
  have first : 10 ^ (length - 1) ≤ amount.natAbs := by
    by_contra small
    have shorter := (Nat.length_toDigits_le_iff (by decide) (by omega : 0 < length - 1)).mpr
      (Nat.not_le.mp small)
    change length ≤ length - 1 at shorter
    omega
  have split : 10 ^ (length - 1) = 10 ^ (digits - 1) * 10 ^ (length - digits) := by
    rw [← Nat.pow_add]
    congr 1
    omega
  have kept : 10 ^ (length - 1) ≤ roundHalfEven amount.natAbs (10 ^ (length - digits)) := by
    have quotient : 10 ^ (digits - 1) ≤ amount.natAbs / 10 ^ (length - digits) := by
      rw [Nat.le_div_iff_mul_le (Nat.pow_pos (by decide)), ← split]
      exact first
    unfold roundHalfEven
    dsimp only
    rw [split]
    split_ifs
    · exact Nat.mul_le_mul_right _ quotient
    · exact Nat.mul_le_mul_right _ (quotient.trans (Nat.le_succ _))
  have sign : amount.sign.natAbs = 1 := Int.natAbs_sign_of_ne_zero some_amount
  rw [toPrecision, Int.natAbs_mul, sign, Nat.one_mul, Int.natAbs_natCast]
  exact (Nat.pow_le_pow_right (by decide) (by omega)).trans kept

theorem toPrecision_nonneg (nonneg : 0 ≤ amount) : 0 ≤ toPrecision digits amount :=
  Int.mul_nonneg (Int.sign_nonneg_iff.mpr nonneg) (Int.natCast_nonneg _)

/-- **Nothing is lost** of an amount that has no more digits. -/
theorem toPrecision_of_lt (short : amount.natAbs < 10 ^ digits) :
    toPrecision digits amount = amount := by
  rw [toPrecision]
  rcases digits.eq_zero_or_pos with rfl | some_digits
  · obtain rfl : amount = 0 := Int.natAbs_eq_zero.mp (Nat.lt_one_iff.mp short)
    rw [Int.sign_zero, zero_mul]
  · have fits : (Nat.toDigits 10 amount.natAbs).length ≤ digits :=
      (Nat.length_toDigits_le_iff (by decide) some_digits).mpr short
    rw [Nat.sub_eq_zero_of_le fits]
    simp only [Nat.pow_zero, roundHalfEven_one]
    exact Int.sign_mul_natAbs amount

/-- **A sum is exact** when the amounts together have no more digits. -/
theorem sumTo_eq_sum (short : (amounts.map Int.natAbs).sum < 10 ^ digits) :
    sumTo digits amounts = amounts.sum := by
  have fold : ∀ start : Int, start.natAbs + (amounts.map Int.natAbs).sum < 10 ^ digits →
      amounts.foldl (fun sum amount => toPrecision digits (sum + amount)) start =
        start + amounts.sum := by
    clear short
    induction amounts with
    | nil => simp
    | cons amount amounts hyp =>
      intro start short
      rw [List.map_cons, List.sum_cons] at short
      have triangle := Int.natAbs_add_le start amount
      rw [List.foldl_cons, toPrecision_of_lt (by omega), hyp _ (by omega), List.sum_cons, add_assoc]
  rw [sumTo, fold 0 (by simpa using short), zero_add]

/-- Amounts of one sign. -/
theorem sum_natAbs (nonneg : ∀ amount ∈ amounts, 0 ≤ amount) :
    (amounts.map Int.natAbs).sum = amounts.sum.natAbs := by
  induction amounts with
  | nil => rfl
  | cons amount amounts hyp =>
    have rest : 0 ≤ amounts.sum := List.sum_nonneg fun other among => nonneg other (.tail _ among)
    have first := nonneg amount List.mem_cons_self
    rw [List.map_cons, List.sum_cons, List.sum_cons, hyp fun other among => nonneg other (.tail _ among)]
    omega

/-- What comes out with no more digits has gone in with no more. -/
theorem natAbs_lt_of_toPrecision_lt (some_digits : 0 < digits)
    (short : (toPrecision digits amount).natAbs < 10 ^ digits) : amount.natAbs < 10 ^ digits := by
  by_contra long
  exact absurd (le_natAbs_toPrecision some_digits (Nat.not_lt.mp long)) (Nat.not_le.mpr short)

/-- **A sum that comes out with no more digits is exact**, when no amount is negative: a partial sum that
was rounded could not become short again. -/
theorem sumTo_eq_sum_of_lt (some_digits : 0 < digits) (nonneg : ∀ amount ∈ amounts, 0 ≤ amount)
    (short : (sumTo digits amounts).natAbs < 10 ^ digits) : sumTo digits amounts = amounts.sum := by
  have fold : ∀ start : Int, 0 ≤ start →
      (amounts.foldl (fun sum amount => toPrecision digits (sum + amount)) start).natAbs < 10 ^ digits →
      start.natAbs + (amounts.map Int.natAbs).sum < 10 ^ digits := by
    clear short
    induction amounts with
    | nil => exact fun start _ short => by simpa using short
    | cons amount amounts hyp =>
      intro start positive short
      have sum_nonneg : 0 ≤ start + amount := Int.add_nonneg positive (nonneg amount List.mem_cons_self)
      rw [List.foldl_cons] at short
      have later := hyp (fun other member => nonneg other (.tail _ member)) _
        (toPrecision_nonneg sum_nonneg) short
      have first : (start + amount).natAbs < 10 ^ digits :=
        natAbs_lt_of_toPrecision_lt some_digits (by omega)
      rw [toPrecision_of_lt first] at later
      rw [List.map_cons, List.sum_cons]
      have own := nonneg amount List.mem_cons_self
      omega
  refine sumTo_eq_sum ?_
  simpa using fold 0 le_rfl short

end FoodDelivery.Lib
