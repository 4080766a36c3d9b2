/-
**Phone numbers in one form.**

`normalizePhone` of `shared.phone`: separators are removed, the dialling prefix `00` becomes `+`, a number
with `+` is kept if it has 8 to 15 digits, and any other number is taken as an Indian one, with or without
its trunk zeros and its country code. What `\d` takes for a digit is a decimal digit of any script.

* `normalizePhone_ok`: what is returned is `+` and 8 to 15 decimal digits, and is returned unchanged;
* `normalizePhone_canonical`: they are the digits of E.164, `0` to `9`, exactly where the text has no
  decimal digit of another script;
* `normalizePhone_spelling`: every spelling of one Indian number has one form, which no other number has.
-/

import FoodDelivery.Lib.Texts

set_option autoImplicit false

namespace FoodDelivery.Shared

open FoodDelivery.Lib

/-- What the function raises. -/
structure ValueError where
  message : String
  deriving DecidableEq

/-- `ERROR_MESSAGE`. -/
def phoneErrorMessage : String :=
  "must be a valid phone number — 10 digits for India, or +<country code> followed by the national number"

/-- `DEFAULT_COUNTRY_CODE`. -/
def defaultCountryCode : List Char := ['9', '1']

/-- `_MIN_DIGITS`. -/
def minDigits : Nat := 8

/-- `_MAX_DIGITS`. -/
def maxDigits : Nat := 15

/-- `_NATIONAL_DIGITS`. -/
def nationalDigits : Nat := 10

/-- `_SEPARATORS`: `\s` is `str.isspace`. -/
def isPhoneSeparator (c : Char) : Bool := isSpace c || decide (c ∈ ['(', ')', '-', '.', '/'])

/-- `_DIGITS.fullmatch`: one decimal digit or more. -/
def isDigits (text : List Char) : Bool := decide (text ≠ []) && text.all isDecimal

/-- `compact`: the text without its separators. -/
def compactPhone (value : List Char) : List Char :=
  (strip isSpace value).filter fun c => !isPhoneSeparator c

/-- The branch of a number with its country code. -/
def internationalPhone (digits : List Char) : Except ValueError (List Char) :=
  if isDigits digits = true ∧ minDigits ≤ digits.length ∧ digits.length ≤ maxDigits then
    .ok ('+' :: digits)
  else .error ⟨phoneErrorMessage⟩

/-- The branch of a number without `+`. -/
def nationalPhone (compact : List Char) : Except ValueError (List Char) :=
  if isDigits compact = true then
    let national := compact.dropWhile fun c => c == '0'
    if defaultCountryCode <+: national ∧
        national.length = defaultCountryCode.length + nationalDigits then .ok ('+' :: national)
    else if national.length ≠ nationalDigits then .error ⟨phoneErrorMessage⟩
    else .ok ('+' :: (defaultCountryCode ++ national))
  else .error ⟨phoneErrorMessage⟩

/-- The number after its separators are gone. -/
def dialledPhone (compact : List Char) : Except ValueError (List Char) :=
  let compact := if ['0', '0'] <+: compact then '+' :: compact.drop 2 else compact
  if ['+'] <+: compact then internationalPhone (compact.drop 1) else nationalPhone compact

/-- `normalize_phone`. -/
def normalizePhone (value : List Char) : Except ValueError (List Char) :=
  dialledPhone (compactPhone value)

/-! ### What is returned -/

section Returned

variable {value compact digits number : List Char} {c : Char}

/-- The digits `0` to `9`. -/
def isAsciiDigit (c : Char) : Bool := decide ('0' ≤ c ∧ c ≤ '9')

/-- E.164: `+`, the country code and the national number, 8 to 15 digits together. -/
def E164 (number : List Char) : Prop :=
  ∃ digits, number = '+' :: digits ∧ minDigits ≤ digits.length ∧ digits.length ≤ maxDigits ∧
    ∀ c ∈ digits, isAsciiDigit c = true

/-- Digits as the function counts them: those of any script. -/
def Dialable (digits : List Char) : Prop :=
  (∀ c ∈ digits, isDecimal c = true) ∧ minDigits ≤ digits.length ∧ digits.length ≤ maxDigits

theorem isDigits_eq_true :
    isDigits digits = true ↔ digits ≠ [] ∧ ∀ c ∈ digits, isDecimal c = true := by
  simp [isDigits]

theorem isDigits_of_dialable (dialable : Dialable digits) : isDigits digits = true := by
  refine isDigits_eq_true.mpr ⟨fun none => ?_, dialable.1⟩
  have enough := dialable.2.1
  rw [none] at enough
  exact absurd enough (by decide)

/-- The one decimal block among the first 128 characters is `0` to `9`. -/
theorem isAsciiDigit_iff (decimal : isDecimal c = true) : isAsciiDigit c = isAscii c := by
  obtain ⟨first, listed, low, high⟩ := isDecimal_eq_true.mp decimal
  have block : ∀ first ∈ zeros, first = 48 ∨ 128 ≤ first := by decide
  have bounds : ('0' ≤ c ∧ c ≤ '9') ↔ 48 ≤ c.toNat ∧ c.toNat ≤ 57 := Iff.rfl
  rw [Bool.eq_iff_iff, isAsciiDigit, isAscii, decide_eq_true_iff, decide_eq_true_iff, bounds]
  rcases block first listed with rfl | beyond
  · omega
  · omega

theorem country_isDecimal : ∀ c ∈ defaultCountryCode, isDecimal c = true :=
  List.all_eq_true.mp (by decide)

theorem country_isAscii : ∀ c ∈ defaultCountryCode, isAscii c = true :=
  List.all_eq_true.mp (by decide)

theorem internationalPhone_eq_ok :
    internationalPhone digits = .ok number ↔ Dialable digits ∧ number = '+' :: digits := by
  by_cases dialable : Dialable digits
  · rw [internationalPhone, if_pos ⟨isDigits_of_dialable dialable, dialable.2⟩]
    simp [dialable, eq_comm]
  · rw [internationalPhone, if_neg fun met => dialable ⟨(isDigits_eq_true.mp met.1).2, met.2⟩]
    simp [dialable]

/-- What a number without `+` becomes: its digits keep every character but trunk zeros. -/
theorem nationalPhone_ok (returned : nationalPhone compact = .ok number) :
    ∃ digits, number = '+' :: digits ∧ Dialable digits ∧
      ∀ c, isAscii c = false → (c ∈ digits ↔ c ∈ compact) := by
  have kept : ∀ c, isAscii c = false → (c ∈ compact.dropWhile (fun c => c == '0') ↔ c ∈ compact) := by
    intro c foreign
    refine mem_dropWhile_of_not (beq_eq_false_iff_ne.mpr ?_)
    rintro rfl
    exact absurd foreign (by decide)
  rw [nationalPhone] at returned
  by_cases digits : isDigits compact = true
  · rw [if_pos digits] at returned
    have decimal : ∀ c ∈ compact.dropWhile (fun c => c == '0'), isDecimal c = true := fun c member =>
      (isDigits_eq_true.mp digits).2 c ((List.dropWhile_suffix _).subset member)
    by_cases coded : defaultCountryCode <+: compact.dropWhile (fun c => c == '0') ∧
        (compact.dropWhile fun c => c == '0').length = defaultCountryCode.length + nationalDigits
    · rw [if_pos coded] at returned
      obtain rfl := (Except.ok.inj returned).symm
      refine ⟨_, rfl, ⟨decimal, ?_, ?_⟩, kept⟩
      · rw [coded.2]; decide
      · rw [coded.2]; decide
    · rw [if_neg coded] at returned
      by_cases short : (compact.dropWhile fun c => c == '0').length = nationalDigits
      · rw [if_neg (not_not.mpr short)] at returned
        obtain rfl := (Except.ok.inj returned).symm
        refine ⟨_, rfl, ⟨?_, ?_, ?_⟩, ?_⟩
        · intro c member
          rcases List.mem_append.mp member with code | later
          · exact country_isDecimal c code
          · exact decimal c later
        · rw [List.length_append, short]; decide
        · rw [List.length_append, short]; decide
        · intro c foreign
          rw [List.mem_append, kept c foreign]
          refine or_iff_right fun code => ?_
          exact Bool.noConfusion
            (foreign.symm.trans (country_isAscii c code))
      · rw [if_pos short] at returned
        cases returned
  · rw [if_neg digits] at returned
    cases returned

/-- The three ways a number is dialled. -/
theorem dialledPhone_zeros (rest : List Char) :
    dialledPhone ('0' :: '0' :: rest) = internationalPhone rest := by
  have zeros : ['0', '0'] <+: '0' :: '0' :: rest := List.prefix_append _ _
  simp [dialledPhone, zeros]

theorem dialledPhone_plus (rest : List Char) : dialledPhone ('+' :: rest) = internationalPhone rest := by
  simp [dialledPhone]

theorem dialledPhone_other (zeros : ¬ ['0', '0'] <+: compact) (plus : ¬ ['+'] <+: compact) :
    dialledPhone compact = nationalPhone compact := by
  simp only [dialledPhone, if_neg zeros, if_neg plus]

/-- Which of them it is. -/
theorem dialled_cases (compact : List Char) :
    (∃ rest, compact = '0' :: '0' :: rest) ∨ (∃ rest, compact = '+' :: rest) ∨
      ¬ ['0', '0'] <+: compact ∧ ¬ ['+'] <+: compact := by
  by_cases zeros : ['0', '0'] <+: compact
  · obtain ⟨rest, rfl⟩ := zeros
    exact Or.inl ⟨rest, rfl⟩
  · by_cases plus : ['+'] <+: compact
    · obtain ⟨rest, rfl⟩ := plus
      exact Or.inr (Or.inl ⟨rest, rfl⟩)
    · exact Or.inr (Or.inr ⟨zeros, plus⟩)

theorem dialledPhone_ok (returned : dialledPhone compact = .ok number) :
    ∃ digits, number = '+' :: digits ∧ Dialable digits ∧
      ∀ c, isAscii c = false → (c ∈ digits ↔ c ∈ compact) := by
  have other : ∀ {c d : Char} {rest : List Char}, isAscii d = true → isAscii c = false →
      (c ∈ rest ↔ c ∈ d :: rest) := by
    intro c d rest plain foreign
    rw [List.mem_cons]
    refine (or_iff_right ?_).symm
    rintro rfl
    exact Bool.noConfusion (foreign.symm.trans plain)
  obtain ⟨rest, rfl⟩ | ⟨rest, rfl⟩ | ⟨zeros, plus⟩ := dialled_cases compact
  · rw [dialledPhone_zeros] at returned
    obtain ⟨dialable, rfl⟩ := internationalPhone_eq_ok.mp returned
    refine ⟨_, rfl, dialable, fun c foreign => ?_⟩
    exact (other (by decide) foreign).trans (other (by decide) foreign)
  · rw [dialledPhone_plus] at returned
    obtain ⟨dialable, rfl⟩ := internationalPhone_eq_ok.mp returned
    exact ⟨_, rfl, dialable, fun c foreign => other (by decide) foreign⟩
  · rw [dialledPhone_other zeros plus] at returned
    exact nationalPhone_ok returned

theorem not_isPhoneSeparator_of_isDecimal (decimal : isDecimal c = true) :
    isPhoneSeparator c = false := by
  rw [isPhoneSeparator, Bool.or_eq_false_iff, decide_eq_false_iff_not]
  constructor
  · by_contra blank
    rw [Bool.not_eq_false] at blank
    exact Bool.noConfusion ((not_isDigit_of_isSpace blank).symm.trans (isDigit_of_isDecimal decimal))
  · intro listed
    have apart : ['(', ')', '-', '.', '/'].all (fun c => !isDecimal c) = true := by decide
    have none := List.all_eq_true.mp apart c listed
    rw [decimal] at none
    cases none

/-- Stripping first changes nothing: a blank is a separator. -/
theorem compactPhone_eq : compactPhone value = value.filter fun c => !isPhoneSeparator c :=
  filter_strip fun c blank => by rw [isPhoneSeparator, blank, Bool.true_or, Bool.not_true]

/-- **What is returned**: `+` and 8 to 15 decimal digits, the foreign ones those of the text. -/
theorem normalizePhone_ok (returned : normalizePhone value = .ok number) :
    ∃ digits, number = '+' :: digits ∧ Dialable digits ∧
      ∀ c, isDecimal c = true → isAscii c = false → (c ∈ digits ↔ c ∈ value) := by
  obtain ⟨digits, shape, dialable, foreign⟩ := dialledPhone_ok returned
  refine ⟨digits, shape, dialable, fun c decimal other => ?_⟩
  rw [foreign c other, compactPhone_eq, List.mem_filter, not_isPhoneSeparator_of_isDecimal decimal]
  exact and_iff_left rfl

/-- A number in the form that is returned is returned unchanged. -/
theorem normalizePhone_of_dialable (dialable : Dialable digits) :
    normalizePhone ('+' :: digits) = .ok ('+' :: digits) := by
  have kept : compactPhone ('+' :: digits) = '+' :: digits := by
    rw [compactPhone_eq, List.filter_eq_self]
    intro c member
    rcases List.mem_cons.mp member with rfl | later
    · decide
    · rw [not_isPhoneSeparator_of_isDecimal (dialable.1 c later), Bool.not_false]
  rw [normalizePhone, kept, dialledPhone_plus]
  exact internationalPhone_eq_ok.mpr ⟨dialable, rfl⟩

theorem internationalPhone_error {error : ValueError}
    (raised : internationalPhone digits = .error error) : error = ⟨phoneErrorMessage⟩ := by
  rw [internationalPhone] at raised
  split_ifs at raised
  exact (Except.error.inj raised).symm

theorem nationalPhone_error {error : ValueError} (raised : nationalPhone compact = .error error) :
    error = ⟨phoneErrorMessage⟩ := by
  rw [nationalPhone] at raised
  dsimp only at raised
  split_ifs at raised
  · exact (Except.error.inj raised).symm
  · exact (Except.error.inj raised).symm

/-- There is one thing it raises. -/
theorem normalizePhone_error {error : ValueError} (raised : normalizePhone value = .error error) :
    error = ⟨phoneErrorMessage⟩ := by
  rw [normalizePhone] at raised
  obtain ⟨rest, shape⟩ | ⟨rest, shape⟩ | ⟨zeros, plus⟩ := dialled_cases (compactPhone value)
  · rw [shape, dialledPhone_zeros] at raised
    exact internationalPhone_error raised
  · rw [shape, dialledPhone_plus] at raised
    exact internationalPhone_error raised
  · rw [dialledPhone_other zeros plus] at raised
    exact nationalPhone_error raised

end Returned

/-! ### Canonical form -/

/-- A text has a decimal digit that is not one of `0` to `9`. -/
def ForeignDigits (value : List Char) : Prop := ∃ c ∈ value, isDecimal c = true ∧ isAscii c = false

/-- The form of a text is canonical: nothing but the one error is raised, and what is returned is E.164 and
is returned again. -/
def Canonical (value : List Char) : Prop :=
  (∀ error, normalizePhone value = .error error → error = ⟨phoneErrorMessage⟩) ∧
    ∀ number, normalizePhone value = .ok number → E164 number ∧ normalizePhone number = .ok number

/-- **The form is canonical where every digit of the text is one of `0` to `9`.** A text that is refused is
refused with the one error, and what is returned is always returned again; but a decimal digit of another
script is kept, and then the number is not E.164. -/
theorem normalizePhone_canonical (value : List Char) :
    (∀ error, normalizePhone value = .error error → Canonical value) ∧
      ∀ number, normalizePhone value = .ok number →
        normalizePhone number = .ok number ∧ (Canonical value ↔ ¬ ForeignDigits value) := by
  refine ⟨fun error refused => ⟨fun _ raised => normalizePhone_error raised, fun number returned => ?_⟩,
    fun number returned => ?_⟩
  · cases refused.symm.trans returned
  · obtain ⟨digits, rfl, dialable, foreign⟩ := normalizePhone_ok returned
    have again := normalizePhone_of_dialable dialable
    refine ⟨again, ?_, ?_⟩
    · rintro ⟨-, canonical⟩ ⟨c, member, decimal, other⟩
      obtain ⟨⟨written, same, -, -, ascii⟩, -⟩ := canonical _ returned
      obtain rfl := (List.cons.inj same).2
      have digit := ascii c ((foreign c decimal other).mpr member)
      rw [isAsciiDigit_iff decimal, other] at digit
      cases digit
    · intro plain
      refine ⟨fun _ raised => normalizePhone_error raised, fun number same => ?_⟩
      obtain rfl := Except.ok.inj (returned.symm.trans same)
      refine ⟨⟨digits, rfl, dialable.2.1, dialable.2.2, fun c member => ?_⟩, again⟩
      have decimal := dialable.1 c member
      rw [isAsciiDigit_iff decimal]
      by_contra other
      rw [Bool.not_eq_true] at other
      exact plain ⟨c, (foreign c decimal other).mp member, decimal, other⟩

/-- Eight Devanagari digits with `+` before them are stored as they are. -/
theorem devanagari_not_canonical : ¬ ∀ value, Canonical value := by
  intro canonical
  obtain ⟨⟨digits, shape, -, -, ascii⟩, -⟩ :=
    (canonical ['+', '९', '८', '७', '६', '५', '४', '३', '२']).2
      ['+', '९', '८', '७', '६', '५', '४', '३', '२'] (by decide)
  obtain rfl := (List.cons.inj shape).2
  exact absurd (ascii '९' (by decide)) (by decide)

/-! ### The spellings of one Indian number -/

/-- A national number: ten digits, the first of which is no trunk zero. -/
structure NationalNumber where
  digits : List Char
  ascii : ∀ c ∈ digits, isAsciiDigit c = true
  length_eq : digits.length = nationalDigits
  head_ne : digits.head? ≠ some '0'

/-- The ways a national number is written. -/
def spellings (number : NationalNumber) : List (List Char) :=
  [number.digits, '0' :: number.digits, '9' :: '1' :: number.digits,
    '+' :: '9' :: '1' :: number.digits, '0' :: '0' :: '9' :: '1' :: number.digits]

/-- A text that writes the number: a spelling with separators put anywhere into it. -/
def Writes (number : NationalNumber) (value : List Char) : Prop :=
  ∃ spelling ∈ spellings number, Interspersed (fun c => isPhoneSeparator c = true) spelling value

/-- The stored form. -/
def storedForm (number : NationalNumber) : List Char := '+' :: (defaultCountryCode ++ number.digits)

section Spellings

variable {number : NationalNumber} {value spelling : List Char}

theorem isDecimal_of_isAsciiDigit {c : Char} (digit : isAsciiDigit c = true) : isDecimal c = true := by
  obtain ⟨low, high⟩ := of_decide_eq_true digit
  have above : 48 ≤ c.toNat := low
  have below : c.toNat ≤ 57 := high
  exact isDecimal_eq_true.mpr ⟨48, by decide, above, by omega⟩

theorem NationalNumber.decimal (number : NationalNumber) : ∀ c ∈ number.digits, isDecimal c = true :=
  fun c member => isDecimal_of_isAsciiDigit (number.ascii c member)

/-- The digits of a national number, the first apart. -/
theorem NationalNumber.exists_cons (number : NationalNumber) :
    ∃ first rest, number.digits = first :: rest ∧ first ≠ '0' := by
  obtain ⟨first, rest, shape⟩ := List.exists_cons_of_length_eq_add_one number.length_eq
  refine ⟨first, rest, shape, ?_⟩
  rintro rfl
  exact number.head_ne (by rw [shape]; rfl)

theorem NationalNumber.dropWhile_eq (number : NationalNumber) :
    number.digits.dropWhile (fun c => c == '0') = number.digits := by
  obtain ⟨first, rest, shape, kept⟩ := number.exists_cons
  rw [shape, List.dropWhile_cons_of_neg (by simpa using kept)]

/-- Its digits with the country code before them can be dialled. -/
theorem dialable_coded (number : NationalNumber) : Dialable (defaultCountryCode ++ number.digits) := by
  refine ⟨fun c member => ?_, ?_, ?_⟩
  · rcases List.mem_append.mp member with code | digit
    · exact country_isDecimal c code
    · exact number.decimal c digit
  · rw [List.length_append, number.length_eq]; decide
  · rw [List.length_append, number.length_eq]; decide

/-- Without `+`, trunk zeros are dropped and the country code is put where it is missing. -/
theorem nationalPhone_of_digits {compact : List Char} (digits : isDigits compact = true)
    (national : compact.dropWhile (fun c => c == '0') = number.digits ∨
      compact.dropWhile (fun c => c == '0') = defaultCountryCode ++ number.digits) :
    nationalPhone compact = .ok (storedForm number) := by
  rw [nationalPhone, if_pos digits]
  rcases national with plain | coded
  · dsimp only
    rw [plain, if_neg fun both => ?_, if_neg (not_not.mpr number.length_eq)]
    · rfl
    · exact absurd (number.length_eq.symm.trans both.2) (by decide)
  · dsimp only
    rw [coded, if_pos ⟨List.prefix_append _ _, by rw [List.length_append, number.length_eq]⟩]
    rfl

/-- Every spelling is dialled alike. -/
theorem dialledPhone_spelling (listed : spelling ∈ spellings number) :
    dialledPhone spelling = .ok (storedForm number) := by
  obtain ⟨first, rest, shape, kept⟩ := number.exists_cons
  have digit : isDecimal first = true := number.decimal first (by rw [shape]; exact List.mem_cons_self)
  have signless : first ≠ '+' := by
    rintro rfl
    exact absurd digit (by decide)
  have international := internationalPhone_eq_ok.mpr ⟨dialable_coded number, rfl⟩
  simp only [spellings, List.mem_cons, List.not_mem_nil, or_false] at listed
  rcases listed with rfl | rfl | rfl | rfl | rfl
  · rw [dialledPhone_other (by simp [shape, Ne.symm kept]) (by simp [shape, Ne.symm signless])]
    refine nationalPhone_of_digits (isDigits_eq_true.mpr ⟨by simp [shape], number.decimal⟩) (Or.inl ?_)
    exact number.dropWhile_eq
  · rw [dialledPhone_other (by simp [shape, Ne.symm kept]) (by simp)]
    refine nationalPhone_of_digits (isDigits_eq_true.mpr ⟨by simp, ?_⟩) (Or.inl ?_)
    · exact List.forall_mem_cons.mpr ⟨by decide, number.decimal⟩
    · exact (List.dropWhile_cons_of_pos (by decide)).trans number.dropWhile_eq
  · rw [dialledPhone_other (by simp) (by simp)]
    refine nationalPhone_of_digits (isDigits_of_dialable (dialable_coded number)) (Or.inr ?_)
    exact List.dropWhile_cons_of_neg (by decide)
  · exact (dialledPhone_plus _).trans international
  · exact (dialledPhone_zeros _).trans international

theorem plain_of_spelling (listed : spelling ∈ spellings number) :
    ∀ c ∈ spelling, isPhoneSeparator c = false := by
  have plain : ∀ c ∈ number.digits, isPhoneSeparator c = false := fun c member =>
    not_isPhoneSeparator_of_isDecimal (number.decimal c member)
  have plus : isPhoneSeparator '+' = false := by decide
  have zero : isPhoneSeparator '0' = false := by decide
  have nine : isPhoneSeparator '9' = false := by decide
  have one : isPhoneSeparator '1' = false := by decide
  simp only [spellings, List.mem_cons, List.not_mem_nil, or_false] at listed
  rcases listed with rfl | rfl | rfl | rfl | rfl
  · exact plain
  · exact List.forall_mem_cons.mpr ⟨zero, plain⟩
  · exact List.forall_mem_cons.mpr ⟨nine, List.forall_mem_cons.mpr ⟨one, plain⟩⟩
  · exact List.forall_mem_cons.mpr ⟨plus, List.forall_mem_cons.mpr ⟨nine, List.forall_mem_cons.mpr ⟨one, plain⟩⟩⟩
  · exact List.forall_mem_cons.mpr ⟨zero, List.forall_mem_cons.mpr ⟨zero,
      List.forall_mem_cons.mpr ⟨nine, List.forall_mem_cons.mpr ⟨one, plain⟩⟩⟩⟩

end Spellings

/-- **All spellings of one Indian number agree**, with any separators anywhere in them; and two numbers
that are stored alike through any of their spellings are one number. -/
theorem normalizePhone_spelling :
    (∀ number value, Writes number value → normalizePhone value = .ok (storedForm number)) ∧
      ∀ number other value value', Writes number value → Writes other value' →
        normalizePhone value = normalizePhone value' → number.digits = other.digits := by
  have stored : ∀ number value, Writes number value →
      normalizePhone value = .ok (storedForm number) := by
    rintro number value ⟨spelling, listed, interspersed⟩
    rw [normalizePhone, compactPhone_eq, interspersed.filter_eq (plain_of_spelling listed)]
    exact dialledPhone_spelling listed
  refine ⟨stored, fun number other value value' writes writes' alike => ?_⟩
  have same : storedForm number = storedForm other :=
    Except.ok.inj ((stored number value writes).symm.trans (alike.trans (stored other value' writes')))
  exact List.append_cancel_left (List.cons.inj same).2

end FoodDelivery.Shared
