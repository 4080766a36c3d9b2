/-
**Characters and texts.**

A text is a list of characters. `strip` drops characters from both its ends, `partitionAt` cuts it at the
first separator and `readInt` reads an integer the way `int` does: blanks around it, one sign, decimal
digits of any script with single underscores between them, and at most `digitLimit` digits.

Two classes of characters differ by a little, and programs mix them up: a *digit* need not be *decimal*
(a superscript two is not), and the four information separators are blanks to `strip` but not to
`readInt`.

* `strip_eq_of_agree`, `mem_strip`, `filter_strip`: what stripping keeps;
* `Interspersed.filter_eq`: taking a class of elements out of a text again;
* `readUnsigned_of_digits`, `chars_of_readInt`: what is read as a number, and what such a text is made of;
* `not_isDigit_of_isSpace`: no blank is a digit;
* `readInt_toString`: a numeral is read as its number.
-/

import Mathlib.Data.List.DropRight

set_option autoImplicit false

namespace FoodDelivery.Lib

/-! ### Characters -/

/-- The code of a character lies in one of the ranges. -/
def inRanges (ranges : List (Nat × Nat)) (c : Char) : Bool :=
  ranges.any fun range => range.1 ≤ c.toNat ∧ c.toNat ≤ range.2

/-- `str.isspace`, by code. -/
def spaces : List (Nat × Nat) :=
  [(0x9, 0xD), (0x1C, 0x20), (0x85, 0x85), (0xA0, 0xA0), (0x1680, 0x1680), (0x2000, 0x200A),
    (0x2028, 0x2029), (0x202F, 0x202F), (0x205F, 0x205F), (0x3000, 0x3000)]

/-- The digit zero of every script: nine more digits follow each. -/
def zeros : List Nat :=
  [0x30, 0x660, 0x6F0, 0x7C0, 0x966, 0x9E6, 0xA66, 0xAE6, 0xB66, 0xBE6, 0xC66, 0xCE6, 0xD66, 0xDE6,
    0xE50, 0xED0, 0xF20, 0x1040, 0x1090, 0x17E0, 0x1810, 0x1946, 0x19D0, 0x1A80, 0x1A90, 0x1B50,
    0x1BB0, 0x1C40, 0x1C50, 0xA620, 0xA8D0, 0xA900, 0xA9D0, 0xA9F0, 0xAA50, 0xABF0, 0xFF10, 0x104A0,
    0x10D30, 0x11066, 0x110F0, 0x11136, 0x111D0, 0x112F0, 0x11450, 0x114D0, 0x11650, 0x116C0,
    0x11730, 0x118E0, 0x11950, 0x11C50, 0x11D50, 0x11DA0, 0x16A60, 0x16AC0, 0x16B50, 0x1D7CE,
    0x1D7D8, 0x1D7E2, 0x1D7EC, 0x1D7F6, 0x1E140, 0x1E2F0, 0x1E950, 0x1FBF0]

/-- The digits that are not decimal: superscripts, subscripts, circled digits and the like. -/
def otherDigits : List (Nat × Nat) :=
  [(0xB2, 0xB3), (0xB9, 0xB9), (0x1369, 0x1371), (0x19DA, 0x19DA), (0x2070, 0x2070),
    (0x2074, 0x2079), (0x2080, 0x2089), (0x2460, 0x2468), (0x2474, 0x247C), (0x2488, 0x2490),
    (0x24EA, 0x24EA), (0x24F5, 0x24FD), (0x24FF, 0x24FF), (0x2776, 0x277E), (0x2780, 0x2788),
    (0x278A, 0x2792), (0x10A40, 0x10A43), (0x10E60, 0x10E68), (0x11052, 0x1105A),
    (0x1F100, 0x1F10A)]

/-- `str.isspace`. -/
def isSpace (c : Char) : Bool := inRanges spaces c

/-- The information separators U+001C to U+001F. -/
def isSeparator (c : Char) : Bool := inRanges [(0x1C, 0x1F)] c

/-- The value of a decimal digit. -/
def decimalValue (c : Char) : Option Nat :=
  (zeros.find? fun first => first ≤ c.toNat ∧ c.toNat < first + 10).map (c.toNat - ·)

/-- The character is a decimal digit of some script. -/
def isDecimal (c : Char) : Bool := (decimalValue c).isSome

/-- `str.isdigit`. -/
def isDigit (c : Char) : Bool := isDecimal c || inRanges otherDigits c

/-- The character is one of the first 128. -/
def isAscii (c : Char) : Bool := c.toNat < 128

theorem inRanges_eq_true {ranges : List (Nat × Nat)} {c : Char} :
    inRanges ranges c = true ↔ ∃ range ∈ ranges, range.1 ≤ c.toNat ∧ c.toNat ≤ range.2 := by
  simp [inRanges]

theorem isDecimal_eq_true {c : Char} :
    isDecimal c = true ↔ ∃ first ∈ zeros, first ≤ c.toNat ∧ c.toNat < first + 10 := by
  simp [isDecimal, decimalValue]

/-- Two lists of ranges no two of which overlap. -/
theorem not_inRanges_of_apart {ranges others : List (Nat × Nat)} {c : Char}
    (apart : ∀ range ∈ ranges, ∀ other ∈ others, range.2 < other.1 ∨ other.2 < range.1)
    (inside : inRanges ranges c = true) : inRanges others c = false := by
  rw [Bool.eq_false_iff]
  intro within
  obtain ⟨range, listed, low, high⟩ := inRanges_eq_true.mp inside
  obtain ⟨other, listed', low', high'⟩ := inRanges_eq_true.mp within
  rcases apart range listed other listed' with below | above
  · omega
  · omega

/-- Decimal digits as ranges of ten. -/
theorem isDecimal_eq_inRanges (c : Char) :
    isDecimal c = inRanges (zeros.map fun first => (first, first + 9)) c := by
  rw [Bool.eq_iff_iff, isDecimal_eq_true, inRanges_eq_true]
  constructor
  · rintro ⟨first, listed, low, high⟩
    exact ⟨_, List.mem_map_of_mem listed, low, Nat.le_of_lt_succ high⟩
  · rintro ⟨range, listed, low, high⟩
    obtain ⟨first, within, rfl⟩ := List.mem_map.mp listed
    exact ⟨first, within, low, Nat.lt_succ_of_le high⟩

/-- **No blank is a digit.** -/
theorem not_isDigit_of_isSpace {c : Char} (blank : isSpace c = true) : isDigit c = false := by
  rw [isDigit, isDecimal_eq_inRanges, Bool.or_eq_false_iff]
  exact ⟨not_inRanges_of_apart (by decide) blank, not_inRanges_of_apart (by decide) blank⟩

theorem isSpace_of_isSeparator {c : Char} (separator : isSeparator c = true) : isSpace c = true := by
  obtain ⟨range, listed, low, high⟩ := inRanges_eq_true.mp separator
  obtain rfl := List.mem_singleton.mp listed
  exact inRanges_eq_true.mpr ⟨(0x1C, 0x20), by decide, low, high.trans (by decide)⟩

theorem isDigit_of_isDecimal {c : Char} (decimal : isDecimal c = true) : isDigit c = true := by
  rw [isDigit, decimal, Bool.true_or]

/-! ### Cutting texts -/

section Strip

variable {α : Type} {p q : α → Bool} {text : List α} {x : α}

/-- Drop the elements that meet a condition from both ends. -/
def strip (p : α → Bool) (text : List α) : List α := (text.dropWhile p).rdropWhile p

/-- Cut at the first separator, which belongs to neither side. -/
def partitionAt [DecidableEq α] (separator : α) (text : List α) : List α × List α :=
  (text.takeWhile (· ≠ separator), (text.dropWhile (· ≠ separator)).drop 1)

/-- Dropping a run of one element from the front keeps every other. -/
theorem mem_dropWhile_of_not (kept : p x = false) : x ∈ text.dropWhile p ↔ x ∈ text := by
  refine ⟨fun member => (List.dropWhile_suffix p).subset member, fun member => ?_⟩
  rw [← List.takeWhile_append_dropWhile (p := p) (l := text), List.mem_append] at member
  refine member.resolve_left fun dropped => ?_
  exact Bool.noConfusion (kept.symm.trans (List.mem_takeWhile_imp dropped))

/-- **What stripping keeps**: at least every element that does not meet the condition. -/
theorem mem_strip (member : x ∈ text) (kept : p x = false) : x ∈ strip p text := by
  have front : x ∈ text.dropWhile p := (mem_dropWhile_of_not kept).mpr member
  rw [← List.rdropWhile_append_rtakeWhile (p := p) (l := text.dropWhile p), List.mem_append] at front
  refine front.resolve_right fun dropped => ?_
  exact Bool.noConfusion (kept.symm.trans (List.mem_rtakeWhile_imp dropped))

/-- Two conditions that agree on a text strip it alike. -/
theorem strip_eq_of_agree (agree : ∀ x ∈ text, p x = q x) : strip p text = strip q text := by
  have front : text.dropWhile p = text.dropWhile q := by
    induction text with
    | nil => rfl
    | cons x text hyp =>
      rw [List.dropWhile_cons, List.dropWhile_cons, agree x List.mem_cons_self,
        hyp fun y later => agree y (List.mem_cons_of_mem x later)]
  have back : ∀ rest : List α, (∀ x ∈ rest, p x = q x) → rest.rdropWhile p = rest.rdropWhile q := by
    intro rest alike
    induction rest using List.reverseRecOn with
    | nil => rfl
    | append_singleton rest x hyp =>
      rw [List.rdropWhile_concat, List.rdropWhile_concat, alike x (by simp),
        hyp fun y earlier => alike y (List.mem_append_left _ earlier)]
  rw [strip, strip, front]
  exact back _ fun x member => agree x ((List.dropWhile_suffix q).subset member)

/-- A text without blanks is stripped already. -/
theorem strip_eq_self (plain : ∀ x ∈ text, p x = false) :
    strip p text = text := by
  have front : text.dropWhile p = text := by
    cases text with
    | nil => rfl
    | cons x text => exact List.dropWhile_cons_of_neg (by simp [plain x List.mem_cons_self])
  have back : text.reverse.dropWhile p = text.reverse := by
    cases reversed : text.reverse with
    | nil => rfl
    | cons x rest =>
      have member : x ∈ text := List.mem_reverse.mp (reversed ▸ List.mem_cons_self)
      exact List.dropWhile_cons_of_neg (by simp [plain x member])
  rw [strip, front, List.rdropWhile, back, List.reverse_reverse]

/-- Stripping and keeping commute where what is stripped is not kept. -/
theorem filter_strip (dropped : ∀ x, p x = true → q x = false) :
    (strip p text).filter q = text.filter q := by
  have nothing : ∀ {run : List α}, (∀ x ∈ run, p x = true) → run.filter q = [] := by
    intro run met
    exact List.filter_eq_nil_iff.mpr fun x member => by rw [dropped x (met x member)]; decide
  have back := List.rdropWhile_append_rtakeWhile (p := p) (l := text.dropWhile p)
  have front := List.takeWhile_append_dropWhile (p := p) (l := text)
  calc (strip p text).filter q
      = (text.dropWhile p).filter q := by
        conv_rhs => rw [← back]
        rw [List.filter_append, nothing fun x member => List.mem_rtakeWhile_imp member,
          List.append_nil, strip]
    _ = text.filter q := by
        conv_rhs => rw [← front]
        rw [List.filter_append, nothing fun x member => List.mem_takeWhile_imp member,
          List.nil_append]

end Strip

/-- A text with elements of a class put anywhere into it. -/
inductive Interspersed {α : Type} (p : α → Prop) : List α → List α → Prop
  | nil : Interspersed p [] []
  | keep {text mixed : List α} (x : α) : Interspersed p text mixed → Interspersed p (x :: text) (x :: mixed)
  | put {text mixed : List α} {x : α} : p x → Interspersed p text mixed → Interspersed p text (x :: mixed)

/-- **Taking the class out again gives the text**, if the text had none of it. -/
theorem Interspersed.filter_eq {α : Type} {p : α → Bool} {text mixed : List α}
    (interspersed : Interspersed (fun x => p x = true) text mixed) (plain : ∀ x ∈ text, p x = false) :
    (mixed.filter fun x => !p x) = text := by
  induction interspersed with
  | nil => rfl
  | keep x _ hyp =>
    rw [List.filter_cons_of_pos (by rw [plain x List.mem_cons_self]; rfl),
      hyp fun y later => plain y (List.mem_cons_of_mem x later)]
  | put met _ hyp => rw [List.filter_cons_of_neg (by rw [met]; decide), hyp plain]

/-! ### Integers -/

/-- The most digits that are read as one number. -/
def digitLimit : Nat := 4300

/-- A blank around a number: the information separators are none. -/
def isIntSpace (c : Char) : Bool := isSpace c && !isSeparator c

/-- The number that decimal digits stand for. -/
def ofDecimals (digits : List Char) : Nat :=
  digits.foldl (fun n c => 10 * n + (decimalValue c).getD 0) 0

/-- Groups of decimal digits with single underscores between them. -/
def readUnsigned (text : List Char) : Option Nat :=
  let groups := text.splitOn '_'
  if (∀ group ∈ groups, group ≠ [] ∧ group.all isDecimal = true) ∧ groups.flatten.length ≤ digitLimit
    then some (ofDecimals groups.flatten)
  else none

/-- A number with one sign or none. -/
def readSigned : List Char → Option Int
  | '-' :: digits => (readUnsigned digits).map fun n : Nat => -(n : Int)
  | '+' :: digits => (readUnsigned digits).map fun n : Nat => (n : Int)
  | digits => (readUnsigned digits).map fun n : Nat => (n : Int)

/-- **`int`** of a text: nothing where it raises. -/
def readInt (text : List Char) : Option Int := readSigned (strip isIntSpace text)

theorem readUnsigned_of_digits {digits : List Char} (plain : '_' ∉ digits) :
    readUnsigned digits =
      if digits ≠ [] ∧ digits.all isDecimal = true ∧ digits.length ≤ digitLimit
        then some (ofDecimals digits)
      else none := by
  rw [readUnsigned, List.splitOn_eq_singleton plain]
  simp only [List.forall_mem_singleton, List.flatten_singleton, and_assoc]

/-- Splitting loses nothing but the separators. -/
theorem mem_splitOn_of_ne {separator c : Char} {text : List Char} (member : c ∈ text)
    (other : c ≠ separator) : ∃ group ∈ text.splitOn separator, c ∈ group := by
  induction text with
  | nil => cases member
  | cons head text hyp =>
    rw [List.splitOn_cons_eq_if_modifyHead]
    obtain ⟨group, groups, parts⟩ := List.exists_cons_of_ne_nil (List.splitOn_ne_nil separator text)
    rw [parts] at hyp ⊢
    by_cases cut : head = separator
    · rw [if_pos (beq_iff_eq.mpr cut)]
      rcases List.mem_cons.mp member with rfl | later
      · exact absurd cut other
      · obtain ⟨found, listed, inside⟩ := hyp later
        exact ⟨found, List.mem_cons_of_mem _ listed, inside⟩
    · rw [if_neg (by simpa using cut), List.modifyHead_cons]
      rcases List.mem_cons.mp member with rfl | later
      · exact ⟨c :: group, List.mem_cons_self, List.mem_cons_self⟩
      · obtain ⟨found, listed, inside⟩ := hyp later
        rcases List.mem_cons.mp listed with rfl | among
        · exact ⟨head :: found, List.mem_cons_self, List.mem_cons_of_mem _ inside⟩
        · exact ⟨found, List.mem_cons_of_mem _ among, inside⟩

theorem chars_of_readUnsigned {text : List Char} {n : Nat} (read : readUnsigned text = some n) :
    ∀ c ∈ text, c = '_' ∨ isDecimal c = true := by
  intro c member
  rw [readUnsigned, Option.ite_none_right_eq_some] at read
  refine or_iff_not_imp_left.mpr fun other => ?_
  obtain ⟨group, listed, inside⟩ := mem_splitOn_of_ne member other
  exact List.all_eq_true.mp (read.1.1 group listed).2 c inside

/-- **What a number is made of**: signs, underscores and decimal digits. -/
theorem chars_of_readSigned {text : List Char} {value : Int} (read : readSigned text = some value) :
    ∀ c ∈ text, c = '-' ∨ c = '+' ∨ c = '_' ∨ isDecimal c = true := by
  have within : ∀ {digits : List Char} {sign : Nat → Int}, (readUnsigned digits).map sign = some value →
      ∀ c ∈ digits, c = '-' ∨ c = '+' ∨ c = '_' ∨ isDecimal c = true := by
    intro digits sign read c member
    obtain ⟨n, read, -⟩ := Option.map_eq_some_iff.mp read
    exact Or.inr (Or.inr (chars_of_readUnsigned read c member))
  intro c member
  unfold readSigned at read
  split at read
  · rcases List.mem_cons.mp member with same | later
    · exact Or.inl same
    · exact within read c later
  · rcases List.mem_cons.mp member with same | later
    · exact Or.inr (Or.inl same)
    · exact within read c later
  · exact within read c member

/-- A text that is read as an integer has no information separator. -/
theorem not_isSeparator_of_readInt {text : List Char} {value : Int} (read : readInt text = some value) :
    ∀ c ∈ text, isSeparator c = false := by
  intro c member
  by_contra separator
  rw [Bool.not_eq_false] at separator
  have kept : isIntSpace c = false := by rw [isIntSpace, separator, Bool.not_true, Bool.and_false]
  have blank := isSpace_of_isSeparator separator
  obtain rfl | rfl | rfl | decimal := chars_of_readSigned read c (mem_strip member kept)
  · exact absurd blank (by decide)
  · exact absurd blank (by decide)
  · exact absurd blank (by decide)
  · exact Bool.noConfusion ((not_isDigit_of_isSpace blank).symm.trans (isDigit_of_isDecimal decimal))

/-- Without one, `int` strips what `str.strip` does. -/
theorem readInt_eq_readSigned {text : List Char} (plain : ∀ c ∈ text, isSeparator c = false) :
    readInt text = readSigned (strip isSpace text) := by
  rw [readInt, strip_eq_of_agree (q := isSpace)]
  intro c member
  rw [isIntSpace, plain c member, Bool.not_false, Bool.and_true]

/-! ### Numerals -/

/-- The digits that numerals are written with. -/
theorem decimalValue_digitChar {digit : Nat} (small : digit < 10) :
    decimalValue digit.digitChar = some digit := by
  revert digit
  decide

theorem ofDecimals_append_singleton (digits : List Char) (c : Char) :
    ofDecimals (digits ++ [c]) = 10 * ofDecimals digits + (decimalValue c).getD 0 := by
  rw [ofDecimals, List.foldl_append]
  rfl

theorem ofDecimals_toDigits (n : Nat) : ofDecimals (Nat.toDigits 10 n) = n := by
  induction n using Nat.strongRecOn with
  | ind n hyp =>
    by_cases small : n < 10
    · rw [Nat.toDigits_of_lt_base small]
      simp [ofDecimals, decimalValue_digitChar small]
    · rw [Nat.toDigits_of_base_le (by decide) (by omega), ofDecimals_append_singleton,
        hyp (n / 10) (by omega), decimalValue_digitChar (Nat.mod_lt _ (by decide)), Option.getD_some]
      omega

theorem digit_of_mem_toString {n : Nat} {c : Char} (member : c ∈ (toString n).toList) :
    ∃ digit < 10, c = digit.digitChar := by
  rw [Nat.toString_eq_repr, Nat.toList_repr] at member
  induction n using Nat.strongRecOn with
  | ind n hyp =>
    by_cases small : n < 10
    · rw [Nat.toDigits_of_lt_base small] at member
      exact ⟨n, small, List.mem_singleton.mp member⟩
    · rw [Nat.toDigits_of_base_le (by decide) (by omega)] at member
      rcases List.mem_append.mp member with earlier | last
      · exact hyp (n / 10) (by omega) earlier
      · exact ⟨n % 10, Nat.mod_lt _ (by decide), List.mem_singleton.mp last⟩

theorem isDecimal_of_mem_toString {n : Nat} {c : Char} (member : c ∈ (toString n).toList) :
    isDecimal c = true := by
  obtain ⟨digit, small, rfl⟩ := digit_of_mem_toString member
  rw [isDecimal, decimalValue_digitChar small]
  rfl

theorem not_isSpace_of_mem_toString {n : Nat} {c : Char} (member : c ∈ (toString n).toList) :
    isSpace c = false := by
  by_contra blank
  have digit := isDigit_of_isDecimal (isDecimal_of_mem_toString member)
  rw [not_isDigit_of_isSpace (Bool.not_eq_false _ ▸ blank)] at digit
  exact Bool.noConfusion digit

theorem toString_ne_nil (n : Nat) : (toString n).toList ≠ [] := by
  rw [Nat.toString_eq_repr, Nat.toList_repr]
  exact Nat.toDigits_ne_nil

/-- A numeral has no other character. -/
theorem sign_not_mem_toString {n : Nat} {sign : Char} (other : isDecimal sign = false) :
    sign ∉ (toString n).toList := by
  intro member
  rw [isDecimal_of_mem_toString member] at other
  exact Bool.noConfusion other

/-- **A numeral is read as its number**, if it is not too long. -/
theorem readInt_toString {n : Nat} (short : (toString n).toList.length ≤ digitLimit) :
    readInt (toString n).toList = some (n : Int) := by
  have spaceless : ∀ c ∈ (toString n).toList, isIntSpace c = false := by
    intro c member
    rw [isIntSpace, not_isSpace_of_mem_toString member]
    rfl
  have decimal : (toString n).toList.all isDecimal = true :=
    List.all_eq_true.mpr fun c member => isDecimal_of_mem_toString member
  have unsigned : readUnsigned (toString n).toList = some n := by
    rw [readUnsigned_of_digits (sign_not_mem_toString (by decide)),
      if_pos ⟨toString_ne_nil n, decimal, short⟩, Nat.toString_eq_repr, Nat.toList_repr, ofDecimals_toDigits]
  have minus : '-' ∉ (toString n).toList := sign_not_mem_toString (by decide)
  have plus : '+' ∉ (toString n).toList := sign_not_mem_toString (by decide)
  rw [readInt, strip_eq_self spaceless]
  unfold readSigned
  split
  · rename_i digits same
    rw [same] at minus
    exact absurd List.mem_cons_self minus
  · rename_i digits same
    rw [same] at plus
    exact absurd List.mem_cons_self plus
  · rw [unsigned]
    rfl

end FoodDelivery.Lib
