/-
**The ids of a batch lookup** (`services/restaurants/app/internal.py`, `_wanted_ids`, with
`shared/ids.py`).

The ids come as one comma-separated text. A filter keeps the parts that look like a number, `int` reads
them and `clamp_id` drops what no row can have.

`wantedIds_eq_iff`: the answer is the usable ids, and no part costs the caller another, exactly when
every part that passes the filter is one that `int` reads: no information separator around it, one minus
sign at most, decimal digits only, and not more of them than are read as one number.
-/

import FoodDelivery.Lib.Outcomes
import FoodDelivery.Lib.Texts
import FoodDelivery.Shared.Basic

set_option autoImplicit false

namespace FoodDelivery.Restaurants

open FoodDelivery.Lib

/-! ### The code -/

/-- `INT32_MAX`. -/
def int32Max : Int := 2147483647

/-- `value` if it could identify a row, else none. -/
def clampId (value : Option Int) : Option Int :=
  match value with
  | none => none
  | some value => if value < 1 ∨ value > int32Max then none else some value

/-- `int(part)`. -/
def toInt (part : List Char) : Except Raised Int :=
  match readInt part with
  | some value => .ok value
  | none => .error (.other "ValueError" "invalid literal for int() with base 10")

/-- `part.strip().lstrip("-")`. -/
def unsignedPart (part : List Char) : List Char := (strip isSpace part).dropWhile (· = '-')

/-- `part.strip().lstrip("-").isdigit()`. -/
def looksLikeId (part : List Char) : Bool :=
  unsignedPart part ≠ [] ∧ (unsignedPart part).all isDigit = true

/-- **The usable ids in a comma-separated list.** -/
def wantedIds (ids : String) : Except Raised (List Int) := do
  let parsed ← ((ids.toList.splitOn ',').filter looksLikeId).mapM toInt
  return parsed.filterMap fun value => clampId (some value)

/-! ### What it is for -/

/-- A part that is written as an id: a minus sign or none, and decimal digits. -/
def writtenId (part : List Char) : Option Int :=
  match strip isSpace part with
  | '-' :: digits =>
    if digits ≠ [] ∧ digits.all isDecimal = true then some (-(ofDecimals digits : Int)) else none
  | digits => if digits ≠ [] ∧ digits.all isDecimal = true then some (ofDecimals digits : Int) else none

/-- The ids that are written and that a row can have, in order. -/
def usableIds (ids : String) : List Int :=
  ((ids.toList.splitOn ',').filterMap writtenId).filter fun value => 1 ≤ value ∧ value ≤ 2147483647

/-- A part that looks like a number and is one to `int`. -/
structure Readable (part : List Char) : Prop where
  plain : ∀ c ∈ part, isSeparator c = false
  oneMinus : ((strip isSpace part).takeWhile (· = '-')).length ≤ 1
  decimal : (unsignedPart part).all isDecimal = true
  short : (unsignedPart part).length ≤ digitLimit

/-! ### One part -/

section Part

variable {part : List Char}

/-- Digits that look like a number have no sign and no underscore. -/
theorem not_mem_of_digits {digits : List Char} {c : Char} (digit : digits.all isDigit = true)
    (other : isDigit c = false) : c ∉ digits := by
  intro member
  exact Bool.noConfusion ((List.all_eq_true.mp digit c member).symm.trans other)

theorem readSigned_of_digits {digits : List Char} (digit : digits.all isDigit = true)  :
    readSigned digits = (readUnsigned digits).map fun n : Nat => (n : Int) := by
  have minus := not_mem_of_digits digit (c := '-') (by decide)
  have plus := not_mem_of_digits digit (c := '+') (by decide)
  unfold readSigned
  split
  · exact absurd List.mem_cons_self minus
  · exact absurd List.mem_cons_self plus
  · rfl

theorem looksLikeId_eq_true :
    looksLikeId part = true ↔ unsignedPart part ≠ [] ∧ (unsignedPart part).all isDigit = true := by
  rw [looksLikeId, decide_eq_true_iff]

/-- The minus signs of a stripped part: none, one, or more. -/
theorem signs_cases (part : List Char) :
    (strip isSpace part = unsignedPart part ∧
        (strip isSpace part).takeWhile (· = '-') = []) ∨
      (strip isSpace part = '-' :: unsignedPart part ∧
        (strip isSpace part).takeWhile (· = '-') = ['-']) ∨
      ∃ rest, strip isSpace part = '-' :: '-' :: rest ∧
        2 ≤ ((strip isSpace part).takeWhile (· = '-')).length := by
  have split := List.takeWhile_append_dropWhile (p := (· = '-')) (l := strip isSpace part)
  have signs : ∀ c ∈ (strip isSpace part).takeWhile (· = '-'), c = '-' := fun c member => by
    simpa using List.mem_takeWhile_imp member
  rcases front : (strip isSpace part).takeWhile (· = '-') with _ | ⟨first, _ | ⟨second, rest⟩⟩
  · rw [front, List.nil_append] at split
    exact Or.inl ⟨split.symm, rfl⟩
  · rw [front] at split signs
    obtain rfl := signs first List.mem_cons_self
    exact Or.inr (Or.inl ⟨split.symm, rfl⟩)
  · rw [front] at split signs
    obtain rfl := signs first List.mem_cons_self
    obtain rfl := signs second (List.mem_cons_of_mem _ List.mem_cons_self)
    exact Or.inr (Or.inr ⟨_, split.symm, by simp⟩)

/-- What `int` reads after at most one minus sign. -/
theorem readUnsigned_unsignedPart (looks : looksLikeId part = true) :
    readUnsigned (unsignedPart part) =
      if (unsignedPart part).all isDecimal = true ∧ (unsignedPart part).length ≤ digitLimit
        then some (ofDecimals (unsignedPart part))
      else none := by
  obtain ⟨filled, digit⟩ := looksLikeId_eq_true.mp looks
  rw [readUnsigned_of_digits (not_mem_of_digits digit (by decide))]
  simp only [ne_eq, filled, not_false_eq_true, true_and]

theorem readable_iff_of_oneMinus (looks : looksLikeId part = true)
    (plain : ∀ c ∈ part, isSeparator c = false)
    (oneMinus : ((strip isSpace part).takeWhile (· = '-')).length ≤ 1) :
    Readable part ↔ (readUnsigned (unsignedPart part)).isSome = true := by
  rw [readUnsigned_unsignedPart looks]
  constructor
  · intro readable
    rw [if_pos ⟨readable.decimal, readable.short⟩]
    rfl
  · intro read
    by_contra unreadable
    rw [if_neg fun parts => unreadable ⟨plain, oneMinus, parts.1, parts.2⟩] at read
    exact Bool.noConfusion read

/-- **What `int` accepts** of the parts that look like a number. -/
theorem readable_iff (looks : looksLikeId part = true) :
    Readable part ↔ (readInt part).isSome = true := by
  obtain ⟨-, digit⟩ := looksLikeId_eq_true.mp looks
  by_cases plain : ∀ c ∈ part, isSeparator c = false
  · rw [readInt_eq_readSigned plain]
    obtain ⟨core, signs⟩ | ⟨core, signs⟩ | ⟨rest, core, signs⟩ := signs_cases part
    · rw [readable_iff_of_oneMinus looks plain (by rw [signs]; decide), core,
        readSigned_of_digits digit, Option.isSome_map]
    · rw [readable_iff_of_oneMinus looks plain (by rw [signs]; decide), core, readSigned,
        Option.isSome_map]
    · -- a second minus sign is no digit
      refine iff_of_false (fun readable => ?_) fun read => ?_
      · exact absurd (signs.trans readable.oneMinus) (by decide)
      · rw [core, readSigned, Option.isSome_map, Option.isSome_iff_exists] at read
        obtain ⟨n, read⟩ := read
        exact absurd (chars_of_readUnsigned read '-' List.mem_cons_self) (by decide)
  · refine iff_of_false (fun readable => plain readable.plain) fun read => plain ?_
    obtain ⟨value, read⟩ := Option.isSome_iff_exists.mp read
    exact not_isSeparator_of_readInt read

/-- A readable part is read as it is written. -/
theorem writtenId_eq_readInt (looks : looksLikeId part = true) (readable : Readable part) :
    writtenId part = readInt part := by
  obtain ⟨filled, digit⟩ := looksLikeId_eq_true.mp looks
  rw [readInt_eq_readSigned readable.plain, writtenId]
  obtain ⟨core, -⟩ | ⟨core, -⟩ | ⟨rest, -, signs⟩ := signs_cases part
  · have minus := not_mem_of_digits digit (c := '-') (by decide)
    rw [core, readSigned_of_digits digit, readUnsigned_unsignedPart looks,
      if_pos ⟨readable.decimal, readable.short⟩]
    split
    · rename_i same
      rw [same] at minus
      exact absurd List.mem_cons_self minus
    · rw [if_pos ⟨filled, readable.decimal⟩]
      rfl
  · rw [core, readSigned, readUnsigned_unsignedPart looks,
      if_pos ⟨readable.decimal, readable.short⟩]
    simp only [ne_eq, filled, readable.decimal, not_false_eq_true, true_and, if_true, Option.map_some]
  · exact absurd (signs.trans readable.oneMinus) (by decide)

/-- Decimal digits are their own unsigned part. -/
theorem dropWhile_minus {digits : List Char} (decimal : digits.all isDecimal = true) :
    digits.dropWhile (· = '-') = digits := by
  refine List.dropWhile_eq_self_iff.mpr fun filled same => ?_
  have digit := List.all_eq_true.mp decimal _ (List.getElem_mem filled)
  rw [of_decide_eq_true same] at digit
  exact absurd digit (by decide)

/-- Whatever is written as an id passes the filter. -/
theorem looksLikeId_of_writtenId {value : Int} (written : writtenId part = some value) :
    looksLikeId part = true := by
  have passes : ∀ {digits : List Char}, digits ≠ [] ∧ digits.all isDecimal = true →
      unsignedPart part = digits → looksLikeId part = true := by
    rintro digits ⟨filled, decimal⟩ rfl
    refine looksLikeId_eq_true.mpr ⟨filled, List.all_eq_true.mpr fun c member => ?_⟩
    exact isDigit_of_isDecimal (List.all_eq_true.mp decimal c member)
  unfold writtenId at written
  split at written
  · rename_i digits core
    obtain ⟨parts, -⟩ := Option.ite_none_right_eq_some.mp written
    refine passes parts ?_
    rw [unsignedPart, core, List.dropWhile_cons_of_pos (by decide), dropWhile_minus parts.2]
  · obtain ⟨parts, -⟩ := Option.ite_none_right_eq_some.mp written
    exact passes parts (dropWhile_minus parts.2)

end Part

/-! ### The list -/

theorem toInt_eq_ok {part : List Char} {value : Int} :
    toInt part = .ok value ↔ readInt part = some value := by
  unfold toInt
  cases readInt part with
  | none => simp
  | some read => simp

theorem mapM_toInt {parts : List (List Char)} (read : ∀ part ∈ parts, (readInt part).isSome = true) :
    parts.mapM toInt = .ok (parts.filterMap readInt) := by
  rw [mapM_eq_ok]
  induction parts with
  | nil => rfl
  | cons part parts hyp =>
    obtain ⟨value, first⟩ := Option.isSome_iff_exists.mp (read part List.mem_cons_self)
    rw [List.map_cons, List.filterMap_cons_some first, List.map_cons, toInt_eq_ok.mpr first,
      hyp fun other later => read other (List.mem_cons_of_mem part later)]

theorem clampId_some (value : Int) :
    clampId (some value) = if 1 ≤ value ∧ value ≤ 2147483647 then some value else none := by
  by_cases usable : 1 ≤ value ∧ value ≤ 2147483647
  · rw [if_pos usable]
    exact if_neg (by rw [int32Max]; omega)
  · rw [if_neg usable]
    exact if_pos (by rw [int32Max]; omega)

/-- **The filter and `int` must agree.** For every text, the answer is the usable ids exactly when
every part that looks like a number is one that `int` reads. -/
theorem wantedIds_eq_iff (ids : String) :
    wantedIds ids = .ok (usableIds ids) ↔
      ∀ part ∈ ids.toList.splitOn ',', looksLikeId part = true → Readable part := by
  constructor
  · intro returned part listed looks
    obtain ⟨values, parsed, -⟩ := bind_eq_ok.mp returned
    have among : toInt part ∈ values.map Except.ok := by
      rw [← mapM_eq_ok.mp parsed]
      exact List.mem_map_of_mem (List.mem_filter.mpr ⟨listed, looks⟩)
    obtain ⟨value, -, read⟩ := List.mem_map.mp among
    rw [readable_iff looks, toInt_eq_ok.mp read.symm]
    rfl
  · intro readable
    have read : ∀ part ∈ (ids.toList.splitOn ',').filter looksLikeId,
        (readInt part).isSome = true := by
      intro part kept
      obtain ⟨listed, looks⟩ := List.mem_filter.mp kept
      exact (readable_iff looks).mp (readable part listed looks)
    have written : ∀ part ∈ ids.toList.splitOn ',',
        (if looksLikeId part = true then readInt part else none) = writtenId part := by
      intro part listed
      by_cases looks : looksLikeId part = true
      · rw [if_pos looks, writtenId_eq_readInt looks (readable part listed looks)]
      · rw [if_neg looks, eq_comm, Option.eq_none_iff_forall_ne_some]
        exact fun value written => looks (looksLikeId_of_writtenId written)
    refine bind_eq_ok.mpr ⟨_, mapM_toInt read, congrArg Except.ok ?_⟩
    rw [usableIds, List.filterMap_filter, List.filterMap_congr written, ← List.filterMap_eq_filter]
    refine congrArg (fun clamp => List.filterMap clamp _) (funext fun value => ?_)
    rw [clampId_some]
    simp [Option.guard]

/-- Two minus signs before one id fail the whole list: the other id is lost as well. -/
theorem not_wantedIds_eq : ¬ ∀ ids, wantedIds ids = .ok (usableIds ids) := by
  intro always
  have raised : wantedIds "7,--5" =
      .error (.other "ValueError" "invalid literal for int() with base 10") := by decide
  exact absurd (raised.symm.trans (always "7,--5")) (by decide)

end FoodDelivery.Restaurants
