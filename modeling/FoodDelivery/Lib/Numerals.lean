/-
**Numerals and joined texts.**

`readDigits` reads a run of decimal digits and `readFixed` one with a point and so many digits after it;
what a number is written as is read back as that number (`readDigits_toString`), and contains digits only
(`not_mem_toString`).

`intercalate_inj`: texts that are joined by a character that none of them contains can be told apart.
-/

import Mathlib.Algebra.Group.Nat.Defs
import Mathlib.Data.List.Basic

set_option autoImplicit false

namespace FoodDelivery.Lib

/-! ### Runs of digits -/

/-- The number that a run of digits stands for. -/
def readDigits (chars : List Char) : Option Nat :=
  if chars ≠ [] ∧ chars.all Char.isDigit = true then some (Nat.ofDigitChars 10 chars 0) else none

/-- A number written with `places` digits after the point, in units of the last place. -/
def readFixed (places : Nat) (chars : List Char) : Option Nat :=
  match chars.splitOn '.' with
  | [whole, fraction] =>
    if fraction.length = places then do
      let units ← readDigits whole
      let parts ← readDigits fraction
      return units * 10 ^ places + parts
    else none
  | _ => none

theorem isDigit_of_mem_toString {n : Nat} {c : Char} (member : c ∈ (toString n).toList) :
    c.isDigit = true := by
  rw [Nat.toString_eq_repr, Nat.toList_repr] at member
  exact Nat.isDigit_of_mem_toDigits (by decide) (by decide) member

/-- A numeral contains nothing but digits. -/
theorem not_mem_toString {c : Char} (other : c.isDigit = false) (n : Nat) :
    c ∉ (toString n).toList := by
  intro member
  have digit := isDigit_of_mem_toString member
  rw [other] at digit
  cases digit

/-- **A numeral is read as its number.** -/
@[simp] theorem readDigits_toString (n : Nat) : readDigits (toString n).toList = some n := by
  have filled : (toString n).toList ≠ [] := by
    rw [Nat.toString_eq_repr, Nat.toList_repr]
    exact Nat.toDigits_ne_nil
  have digits : (toString n).toList.all Char.isDigit = true :=
    List.all_eq_true.mpr fun c member => isDigit_of_mem_toString member
  unfold readDigits
  rw [if_pos ⟨filled, digits⟩, Nat.toString_eq_repr, Nat.toList_repr, Nat.ofDigitChars_ten_toDigits]

/-- Numbers written alike are the same. -/
theorem toString_inj {n m : Nat} (same : toString n = toString m) : n = m := by
  have read := readDigits_toString n
  rw [same, readDigits_toString, Option.some_inj] at read
  exact read.symm

/-- Two digits, one after the other. -/
theorem readDigits_pair {tens ones : Nat} (first : tens < 10) (second : ones < 10) :
    readDigits ((toString tens).toList ++ (toString ones).toList) = some (tens * 10 + ones) := by
  have spelled : ∀ {digit : Nat}, digit < 10 → (toString digit).toList = [digit.digitChar] := by
    intro digit small
    rw [Nat.toString_eq_repr, Nat.toList_repr, Nat.toDigits_of_lt_base small]
  rw [spelled first, spelled second]
  unfold readDigits
  rw [if_pos]
  · rw [List.singleton_append, Nat.ofDigitChars_cons_digitChar_of_lt_ten first,
      Nat.ofDigitChars_cons_digitChar_of_lt_ten second, Nat.ofDigitChars_nil]
    congr 1
    omega
  · simp [Nat.isDigit_digitChar, first, second]

/-! ### Joined texts -/

theorem splitOn_point {whole fraction : List Char} (units : '.' ∉ whole) (parts : '.' ∉ fraction) :
    (whole ++ '.' :: fraction).splitOn '.' = [whole, fraction] := by
  have joined : whole ++ '.' :: fraction = ['.'].intercalate [whole, fraction] := by simp
  rw [joined]
  refine List.splitOn_intercalate '.' ?_ (by simp)
  intro part member
  rcases List.mem_pair.mp member with rfl | rfl
  · exact units
  · exact parts

/-- **Joined texts can be told apart** when none of them contains the character between them. -/
theorem intercalate_inj {c : Char} {first second : List String}
    (apart : ∀ text ∈ first, c ∉ text.toList) (apart' : ∀ text ∈ second, c ∉ text.toList)
    (filled : first ≠ []) (filled' : second ≠ [])
    (same : (String.singleton c).intercalate first = (String.singleton c).intercalate second) :
    first = second := by
  have parts : ∀ texts : List String, (∀ text ∈ texts, c ∉ text.toList) → texts ≠ [] →
      ((String.singleton c).intercalate texts).toList.splitOn c = texts.map String.toList := by
    intro texts clear some_text
    rw [String.toList_intercalate, String.toList_singleton]
    refine List.splitOn_intercalate c ?_ (by simpa using some_text)
    intro chars member
    obtain ⟨text, among, rfl⟩ := List.mem_map.mp member
    exact clear text among
  have lists : first.map String.toList = second.map String.toList := by
    rw [← parts first apart filled, same, parts second apart' filled']
  exact (List.map_injective_iff.mpr fun _ _ equal => String.toList_inj.mp equal) lists

end FoodDelivery.Lib
