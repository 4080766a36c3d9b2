/-
**Amounts as texts.** Services send an amount as `str(amount)` and read it with `Decimal(text)`, Redis
keeps it as the same text, and the price hash is made of such texts.

`Money.resent_eq`: an amount that is sent is the amount that is read.
-/

import FoodDelivery.Lib.Numerals
import FoodDelivery.Shared.Basic

set_option autoImplicit false

namespace FoodDelivery

open FoodDelivery.Lib

/-- `Decimal(text)`, for the texts of amounts: a sign if it is negative, and two decimals. -/
def Money.ofText (text : String) : Option Money :=
  let chars := text.toList
  if chars.head? = some '-' then (readFixed 2 chars.tail).map fun cents : Nat => -(cents : Int)
  else (readFixed 2 chars).map fun cents : Nat => (cents : Int)

/-- `Decimal(str(amount))`. There is always something to read (`Money.ofText_text`). -/
def Money.resent (amount : Money) : Money := (Money.ofText amount.text).getD 0

example : Money.resent (-705) = -705 := by decide

/-- The characters after the sign. -/
theorem readFixed_cents (cents : Nat) :
    readFixed 2 ((toString (cents / 100)).toList ++ '.' :: ((toString (cents % 100 / 10)).toList ++
      (toString (cents % 10)).toList)) = some cents := by
  have tens : cents % 100 / 10 < 10 := by omega
  have ones : cents % 10 < 10 := by omega
  have point : ∀ n : Nat, '.' ∉ (toString n).toList := not_mem_toString (by decide)
  have single : ∀ {digit : Nat}, digit < 10 → (toString digit).toList.length = 1 := by
    intro digit small
    rw [Nat.toString_eq_repr, Nat.toList_repr, Nat.toDigits_of_lt_base small]
    rfl
  unfold readFixed
  have clear : '.' ∉ (toString (cents % 100 / 10)).toList ++ (toString (cents % 10)).toList := by
    rw [List.mem_append, not_or]
    exact ⟨point _, point _⟩
  rw [splitOn_point (point _) clear]
  dsimp only
  rw [if_pos (by rw [List.length_append, single tens, single ones]), readDigits_toString,
    readDigits_pair tens ones]
  show some (cents / 100 * 10 ^ 2 + (cents % 100 / 10 * 10 + cents % 10)) = some cents
  congr 1
  omega

/-- An amount's text, as its characters. -/
theorem Money.toList_text (amount : Money) :
    amount.text.toList = (if amount < 0 then ['-'] else []) ++
      ((toString (amount.natAbs / 100)).toList ++ '.' ::
        ((toString (amount.natAbs % 100 / 10)).toList ++ (toString (amount.natAbs % 10)).toList)) := by
  unfold Money.text
  split <;> simp

/-- The characters after the sign do not begin with one. -/
theorem head?_digits (n : Nat) (rest : List Char) :
    ((toString n).toList ++ rest).head? ≠ some '-' := by
  have filled : (toString n).toList ≠ [] := by
    rw [Nat.toString_eq_repr, Nat.toList_repr]
    exact Nat.toDigits_ne_nil
  obtain ⟨first, others, spelled⟩ := List.exists_cons_of_ne_nil filled
  rw [spelled, List.cons_append, List.head?_cons]
  intro sign
  refine not_mem_toString (c := '-') (by decide) n ?_
  rw [spelled, Option.some_inj.mp sign]
  exact List.mem_cons_self

/-- **The text of an amount is read as the amount.** -/
theorem Money.ofText_text (amount : Money) : Money.ofText amount.text = some amount := by
  unfold Money.ofText
  rw [Money.toList_text]
  by_cases negative : amount < 0
  · rw [if_pos negative]
    dsimp only
    rw [List.singleton_append, if_pos List.head?_cons, List.tail_cons, readFixed_cents,
      Option.map_some, Option.some_inj]
    exact (Int.eq_neg_natAbs_of_nonpos (Int.le_of_lt negative)).symm
  · rw [if_neg negative, List.nil_append]
    dsimp only
    rw [if_neg (head?_digits _ _), readFixed_cents, Option.map_some, Option.some_inj]
    exact Int.natAbs_of_nonneg (Int.not_lt.mp negative)

@[simp] theorem Money.resent_eq (amount : Money) : amount.resent = amount := by
  rw [Money.resent, Money.ofText_text, Option.getD_some]

/-- Amounts with the same text are the same. -/
theorem Money.text_injective {first second : Money} (same : first.text = second.text) :
    first = second := by
  have read := Money.ofText_text first
  rw [same, Money.ofText_text, Option.some_inj] at read
  exact read.symm

/-- The text of an amount has no character but digits, the point and the sign. -/
theorem Money.not_mem_text {c : Char} (digit : c.isDigit = false) (point : c ≠ '.') (sign : c ≠ '-')
    (amount : Money) : c ∉ amount.text.toList := by
  have other : ∀ n : Nat, c ∉ (toString n).toList := not_mem_toString digit
  rw [Money.toList_text]
  simp only [List.mem_append, List.mem_cons, not_or]
  refine ⟨?_, other _, point, other _, other _⟩
  split <;> simp [sign]

end FoodDelivery
