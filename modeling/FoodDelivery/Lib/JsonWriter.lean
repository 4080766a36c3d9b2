/-
**JSON texts, as they are written, and that they are read back.**

`dumps` writes a value as Python's `json.dumps` does with its defaults: everything but printable ASCII is
escaped, and a comma and a colon have a blank after them. `Json.Writable` says what the reader gives
back: strings of Unicode scalar values, different names in an object, integers that are not too long, and
floats as a number or one of the three words is written.

`loads_dumps`: **a value that is written is read as itself**, within the recursion limit.
-/

import FoodDelivery.Lib.Json

set_option autoImplicit false

namespace FoodDelivery.Lib

/-! ### The writer -/

/-- `\u` and four hexadecimal digits. -/
def writeUnit (unit : Nat) : List Char :=
  ['\\', 'u', (unit / 4096).digitChar, (unit / 256 % 16).digitChar, (unit / 16 % 16).digitChar,
    (unit % 16).digitChar]

/-- One code point of a string; one beyond the first plane is a surrogate pair. -/
def writePoint (point : Nat) : List Char :=
  if point = 0x22 then ['\\', '"']
  else if point = 0x5C then ['\\', '\\']
  else if point = 0x08 then ['\\', 'b']
  else if point = 0x0C then ['\\', 'f']
  else if point = 0x0A then ['\\', 'n']
  else if point = 0x0D then ['\\', 'r']
  else if point = 0x09 then ['\\', 't']
  else if 0x20 ≤ point ∧ point ≤ 0x7E then [Char.ofNat point]
  else if point < 0x10000 then writeUnit point
  else
    writeUnit (0xD800 + (point - 0x10000) / 0x400) ++ writeUnit (0xDC00 + (point - 0x10000) % 0x400)

def writeString (points : List Nat) : List Char := '"' :: (points.flatMap writePoint ++ ['"'])

def writeInt (value : Int) : List Char :=
  (if value < 0 then ['-'] else []) ++ Nat.toDigits 10 value.natAbs

/-- What stands between two items or members. -/
def separator (first : Bool) : List Char := if first then [] else [',', ' ']

mutual

/-- `json.dumps`. -/
def dumps : Json → List Char
  | .null => ['n', 'u', 'l', 'l']
  | .bool true => ['t', 'r', 'u', 'e']
  | .bool false => ['f', 'a', 'l', 's', 'e']
  | .int value => writeInt value
  | .float literal => literal
  | .str points => writeString points
  | .arr items => '[' :: (dumpsItems true items ++ [']'])
  | .obj members => '{' :: (dumpsMembers true members ++ ['}'])

def dumpsItems (first : Bool) : List Json → List Char
  | [] => []
  | item :: items => separator first ++ dumps item ++ dumpsItems false items

def dumpsMembers (first : Bool) : List (List Nat × Json) → List Char
  | [] => []
  | (name, value) :: members =>
    separator first ++ writeString name ++ [':', ' '] ++ dumps value ++ dumpsMembers false members

end

/-! ### What can be read back -/

/-- A Unicode scalar value: no half of a surrogate pair. -/
def IsScalar (point : Nat) : Prop := point < 0xD800 ∨ (0xDFFF < point ∧ point < 0x110000)

/-- Where a number stands after its first character. -/
def Numeral.first (c : Char) : Option Numeral :=
  if c = '-' then some .sign
  else if c = '0' then some .zero
  else if c.isDigit then some .whole
  else none

/-- Where a number stands after some characters. -/
def scanNumber : List Char → Option Numeral
  | [] => none
  | c :: rest => do
    let numeral ← Numeral.first c
    rest.foldlM Numeral.next numeral

/-- How a float is written. -/
def IsFloat (literal : List Char) : Prop :=
  scanNumber literal = some .fraction ∨ scanNumber literal = some .power ∨
    literal = "NaN".toList ∨ literal = "Infinity".toList ∨ literal = "-Infinity".toList

mutual

/-- How many arrays and objects are open at once. -/
def Json.depth : Json → Nat
  | .arr items => depthItems items + 1
  | .obj members => depthMembers members + 1
  | _ => 0

def depthItems : List Json → Nat
  | [] => 0
  | item :: items => max item.depth (depthItems items)

def depthMembers : List (List Nat × Json) → Nat
  | [] => 0
  | (_, value) :: members => max value.depth (depthMembers members)

end

mutual

/-- A value that is read back as it was written. -/
def Json.Writable : Json → Prop
  | .null | .bool _ => True
  | .int value => (Nat.toDigits 10 value.natAbs).length ≤ intMaxStrDigits
  | .float literal => IsFloat literal
  | .str points => ∀ point ∈ points, IsScalar point
  | .arr items => WritableItems items
  | .obj members => WritableMembers members ∧ (members.map Prod.fst).Nodup

def WritableItems : List Json → Prop
  | [] => True
  | item :: items => item.Writable ∧ WritableItems items

def WritableMembers : List (List Nat × Json) → Prop
  | [] => True
  | (name, value) :: members =>
    (∀ point ∈ name, IsScalar point) ∧ value.Writable ∧ WritableMembers members

end

/-! ### Reading characters -/

variable {limit : Option Nat} {s t u : Scanner} {stack : List Frame} {chars more : List Char}

/-- Some characters take the scanner from one state to another. -/
def Feeds (limit : Option Nat) (s : Scanner) (chars : List Char) (t : Scanner) : Prop :=
  chars.foldlM (Scanner.feed limit) s = .ok t

theorem Feeds.nil (limit : Option Nat) (s : Scanner) : Feeds limit s [] s := rfl

theorem Feeds.cons {c : Char} (first : s.feed limit c = .ok t) (rest : Feeds limit t chars u) :
    Feeds limit s (c :: chars) u := by
  rw [Feeds, List.foldlM_cons, first]
  exact rest

theorem Feeds.one {c : Char} (first : s.feed limit c = .ok t) : Feeds limit s [c] t :=
  .cons first (.nil limit t)

theorem Feeds.append (first : Feeds limit s chars t) (rest : Feeds limit t more u) :
    Feeds limit s (chars ++ more) u := by
  rw [Feeds, List.foldlM_append, show chars.foldlM (Scanner.feed limit) s = .ok t from first]
  exact rest

/-! ### Strings -/

/-- The string that is being read, at its end so far. -/
def inString (isName : Bool) (points : List Nat) (stack : List Frame) : Scanner where
  mode := .quoted isName points .none
  stack := stack

/-- A string is read on. -/
theorem feed_quoted (isName : Bool) (points : List Nat) (escape : Escape) (stack : List Frame) (c : Char) :
    Scanner.feed limit { mode := .quoted isName points escape, stack := stack } c =
      Scanner.feedQuoted { mode := .quoted isName points escape, stack := stack } isName points escape c :=
  rfl

theorem hexDigit_digitChar {digit : Nat} (small : digit < 16) : hexDigit digit.digitChar = some digit := by
  revert digit
  decide

/-- A `\u` escape adds its unit. -/
theorem feeds_writeUnit (isName : Bool) (points : List Nat) {unit : Nat} (small : unit < 0x10000) :
    Feeds limit (inString isName points stack) (writeUnit unit)
      (inString isName (appendUnit points unit) stack) := by
  have feed : ∀ digits value digit, digit < 16 →
      Scanner.feed limit { mode := .quoted isName points (.hex digits value), stack := stack }
        digit.digitChar =
      if digits = 3 then .ok (inString isName (appendUnit points (value * 16 + digit)) stack)
      else .ok { mode := .quoted isName points (.hex (digits + 1) (value * 16 + digit)), stack := stack } := by
    intro digits value digit small
    simp only [feed_quoted, Scanner.feedQuoted, hexDigit_digitChar small]
    rfl
  refine .cons (t := { mode := .quoted isName points .backslash, stack := stack }) rfl ?_
  refine .cons (t := { mode := .quoted isName points (.hex 0 0), stack := stack }) rfl ?_
  refine .cons ((feed 0 0 _ (by omega)).trans (if_neg (by decide))) ?_
  refine .cons ((feed 1 _ _ (by omega)).trans (if_neg (by decide))) ?_
  refine .cons ((feed 2 _ _ (by omega)).trans (if_neg (by decide))) ?_
  refine .one ((feed 3 _ _ (by omega)).trans ((if_pos rfl).trans ?_))
  congr 3
  omega

theorem appendUnit_of_not_low {points : List Nat} {unit : Nat} (whole : unit < 0xDC00 ∨ 0xDFFF < unit) :
    appendUnit points unit = points ++ [unit] := by
  unfold appendUnit
  cases last : points.getLast? with
  | none =>
    rw [List.getLast?_eq_none_iff.mp last]
    rfl
  | some high =>
    dsimp only
    rw [if_neg (by omega)]

theorem appendUnit_pair (points : List Nat) {high low : Nat} (first : 0xD800 ≤ high ∧ high ≤ 0xDBFF)
    (second : 0xDC00 ≤ low ∧ low ≤ 0xDFFF) :
    appendUnit (points ++ [high]) low =
      points ++ [0x10000 + (high - 0xD800) * 0x400 + (low - 0xDC00)] := by
  unfold appendUnit
  rw [List.getLast?_concat]
  dsimp only
  rw [if_pos ⟨first.1, first.2, second.1, second.2⟩, List.dropLast_concat]

/-- A character after a backslash adds what it stands for. -/
theorem feeds_escape (isName : Bool) (points : List Nat) {c : Char} {point : Nat} (plain : c ≠ 'u')
    (stands : simpleEscape c = some point) :
    Feeds limit (inString isName points stack) ['\\', c] (inString isName (points ++ [point]) stack) := by
  refine .cons (t := { mode := .quoted isName points .backslash, stack := stack }) rfl (.one ?_)
  simp only [feed_quoted, Scanner.feedQuoted, if_neg plain, stands]
  rfl

/-- A printable character stands for itself. -/
theorem feeds_printable (isName : Bool) (points : List Nat) {point : Nat} (quote : point ≠ 0x22)
    (backslash : point ≠ 0x5C) (printable : 0x20 ≤ point ∧ point ≤ 0x7E) :
    Feeds limit (inString isName points stack) [Char.ofNat point]
      (inString isName (points ++ [point]) stack) := by
  have code : (Char.ofNat point).toNat = point := by
    rw [Char.ofNat, dif_pos (Or.inl (by omega))]
    rfl
  have different : ∀ c : Char, point ≠ c.toNat → Char.ofNat point ≠ c := by
    rintro c other rfl
    exact other code.symm
  refine .one ?_
  simp only [inString, feed_quoted, Scanner.feedQuoted, if_neg (different '"' quote),
    if_neg (different '\\' backslash), code]
  rw [if_neg (by omega)]

/-- A code point beyond the first plane is a pair of escapes. -/
theorem feeds_surrogates (isName : Bool) (points : List Nat) {point : Nat} (large : 0x10000 ≤ point)
    (bound : point < 0x110000) :
    Feeds limit (inString isName points stack)
      (writeUnit (0xD800 + (point - 0x10000) / 0x400) ++ writeUnit (0xDC00 + (point - 0x10000) % 0x400))
      (inString isName (points ++ [point]) stack) := by
  have first : Feeds limit (inString isName points stack) _ _ := feeds_writeUnit isName points
    (show 0xD800 + (point - 0x10000) / 0x400 < 0x10000 by omega)
  rw [appendUnit_of_not_low (by omega)] at first
  refine first.append ?_
  have second : Feeds limit (inString isName _ stack) _ _ :=
    feeds_writeUnit isName (points ++ [0xD800 + (point - 0x10000) / 0x400])
      (show 0xDC00 + (point - 0x10000) % 0x400 < 0x10000 by omega)
  rw [appendUnit_pair points (by omega) (by omega)] at second
  rwa [show 0x10000 + (0xD800 + (point - 0x10000) / 0x400 - 0xD800) * 0x400 +
    (0xDC00 + (point - 0x10000) % 0x400 - 0xDC00) = point by omega] at second

/-- **One code point.** -/
theorem feeds_writePoint (isName : Bool) (points : List Nat) {point : Nat} (scalar : IsScalar point) :
    Feeds limit (inString isName points stack) (writePoint point)
      (inString isName (points ++ [point]) stack) := by
  unfold IsScalar at scalar
  unfold writePoint
  by_cases quote : point = 0x22
  · rw [if_pos quote, quote]
    exact feeds_escape isName points (by decide) rfl
  rw [if_neg quote]
  by_cases backslash : point = 0x5C
  · rw [if_pos backslash, backslash]
    exact feeds_escape isName points (by decide) rfl
  rw [if_neg backslash]
  by_cases backspace : point = 0x08
  · rw [if_pos backspace, backspace]
    exact feeds_escape isName points (by decide) rfl
  rw [if_neg backspace]
  by_cases formFeed : point = 0x0C
  · rw [if_pos formFeed, formFeed]
    exact feeds_escape isName points (by decide) rfl
  rw [if_neg formFeed]
  by_cases newline : point = 0x0A
  · rw [if_pos newline, newline]
    exact feeds_escape isName points (by decide) rfl
  rw [if_neg newline]
  by_cases return_ : point = 0x0D
  · rw [if_pos return_, return_]
    exact feeds_escape isName points (by decide) rfl
  rw [if_neg return_]
  by_cases tab : point = 0x09
  · rw [if_pos tab, tab]
    exact feeds_escape isName points (by decide) rfl
  rw [if_neg tab]
  by_cases printable : 0x20 ≤ point ∧ point ≤ 0x7E
  · rw [if_pos printable]
    exact feeds_printable isName points quote backslash printable
  rw [if_neg printable]
  by_cases small : point < 0x10000
  · rw [if_pos small, ← appendUnit_of_not_low (by omega)]
    exact feeds_writeUnit isName points small
  · rw [if_neg small]
    exact feeds_surrogates isName points (by omega) (by omega)

/-- **A string up to its closing quote.** -/
theorem feeds_points (isName : Bool) (read points : List Nat) (scalar : ∀ point ∈ points, IsScalar point) :
    Feeds limit (inString isName read stack) (points.flatMap writePoint)
      (inString isName (read ++ points) stack) := by
  induction points generalizing read with
  | nil =>
    rw [List.append_nil]
    exact .nil limit _
  | cons point points ih =>
    rw [List.flatMap_cons, List.append_cons]
    exact (feeds_writePoint isName read (scalar point List.mem_cons_self)).append
      (ih _ fun other member => scalar other (List.mem_cons_of_mem _ member))

/-! ### Values -/

/-- The scanner has read a value into what is open: it goes on as after it, and ends with it where
nothing is open. A number may go on, but not with a comma or a closing bracket. -/
structure Reads (limit : Option Nat) (stack : List Frame) (value : Json) (s : Scanner) : Prop where
  goes_on : ∀ c ∈ [',', ']', '}'], s.feed limit c = (Scanner.deliver stack value).feedAfter c
  ends : stack = [] → s.finish = .ok value

/-- Where a value may begin. -/
def atValue (closable : Bool) (stack : List Frame) : Scanner where
  mode := .value closable
  stack := stack

theorem feed_deliver (stack : List Frame) (value : Json) (c : Char) :
    (Scanner.deliver stack value).feed limit c = (Scanner.deliver stack value).feedAfter c := by
  cases stack with
  | nil => rfl
  | cons frame stack => cases frame <;> rfl

theorem reads_deliver (stack : List Frame) (value : Json) :
    Reads limit stack value (.deliver stack value) where
  goes_on c _ := feed_deliver stack value c
  ends empty := by rw [empty]; rfl

/-- A number is read on. -/
theorem feed_number (numeral : Numeral) (literal : List Char) (stack : List Frame) (c : Char) :
    Scanner.feed limit { mode := .number numeral literal, stack := stack } c =
      Scanner.feedNumber { mode := .number numeral literal, stack := stack } numeral literal c :=
  rfl

/-- The rest of a number. -/
theorem feeds_numeral (chars read : List Char) {numeral last : Numeral}
    (scanned : chars.foldlM Numeral.next numeral = some last) :
    Feeds limit { mode := .number numeral read, stack := stack } chars
      { mode := .number last (read ++ chars), stack := stack } := by
  induction chars generalizing read numeral with
  | nil =>
    cases scanned
    rw [List.append_nil]
    exact .nil limit _
  | cons c chars ih =>
    rw [List.foldlM_cons] at scanned
    cases next : numeral.next c with
    | none =>
      rw [next] at scanned
      cases scanned
    | some longer =>
      rw [next] at scanned
      have more := ih (read ++ [c]) scanned
      rw [List.append_assoc] at more
      refine .cons (t := { mode := .number longer (read ++ [c]), stack := stack }) ?_ more
      simp only [feed_number, Scanner.feedNumber, next]

/-- The first character of a number is taken for one. -/
theorem feed_first (closable : Bool) {c : Char} {numeral : Numeral}
    (first : Numeral.first c = some numeral) :
    (atValue closable stack).feed limit c = .ok { mode := .number numeral [c], stack := stack } := by
  unfold Numeral.first at first
  by_cases sign : c = '-'
  · subst c
    cases first
    rfl
  by_cases zero : c = '0'
  · subst c
    cases first
    rfl
  by_cases digit : c.isDigit = true
  · rw [if_neg sign, if_neg zero, if_pos digit] at first
    cases first
    have different : ∀ other : Char, other.isDigit = false → c ≠ other := by
      rintro other plain rfl
      rw [digit] at plain
      cases plain
    have space : isJsonSpace c = false := by
      simp [isJsonSpace, different]
    show Scanner.feedValue limit (atValue closable stack) closable c = _
    simp only [atValue, Scanner.feedValue, space, Bool.false_eq_true, if_false,
      different '"' (by decide), different '[' (by decide), different '\x7b' (by decide),
      different 'n' (by decide), different 't' (by decide), different 'f' (by decide),
      different 'N' (by decide), different 'I' (by decide), sign, zero, digit, if_true]
  · rw [if_neg sign, if_neg zero, if_neg digit] at first
    cases first

/-- **A number**, which ends with whatever comes next. -/
theorem feeds_number (closable : Bool) {literal : List Char} {numeral : Numeral}
    (scanned : scanNumber literal = some numeral) : Feeds limit (atValue closable stack) literal
      { mode := .number numeral literal, stack := stack } := by
  cases literal with
  | nil => cases scanned
  | cons c chars =>
    cases first : Numeral.first c with
    | none =>
      rw [scanNumber, first] at scanned
      cases scanned
    | some begun =>
      rw [scanNumber, first] at scanned
      exact .cons (feed_first closable first) (feeds_numeral chars [c] scanned)

theorem reads_number {numeral : Numeral} {literal : List Char} {value : Json}
    (ended : numeral.value literal = .ok value) :
    Reads limit stack value { mode := .number numeral literal, stack := stack } where
  goes_on c listed := by
    have no_more : numeral.next c = none := by
      rcases List.mem_cons.mp listed with rfl | listed
      · cases numeral <;> rfl
      rcases List.mem_cons.mp listed with rfl | listed
      · cases numeral <;> rfl
      · obtain rfl := List.mem_singleton.mp listed
        cases numeral <;> rfl
    have not_sign : ¬ (numeral = .sign ∧ c = 'I') := by
      rintro ⟨rfl, _⟩
      cases ended
    simp only [feed_number, Scanner.feedNumber, no_more, if_neg not_sign, ended]
    rfl
  ends empty := by
    subst empty
    exact ended

/-- Digits go on with a whole number. -/
theorem foldlM_whole {digits : List Char} (all : ∀ c ∈ digits, c.isDigit = true) :
    digits.foldlM Numeral.next .whole = some .whole := by
  induction digits with
  | nil => rfl
  | cons c digits ih =>
    have digit := all c List.mem_cons_self
    rw [List.foldlM_cons, show Numeral.next .whole c = some .whole from if_pos digit]
    exact ih fun other member => all other (List.mem_cons_of_mem _ member)

/-- The first digit of a number is a zero only where it is the only one. -/
theorem toDigits_cons {n : Nat} (positive : 0 < n) : ∃ c rest, Nat.toDigits 10 n = c :: rest ∧ c ≠ '0' := by
  induction n using Nat.strongRecOn with
  | ind n ih =>
    rw [Nat.toDigits_eq_if (by decide)]
    by_cases small : n < 10
    · rw [if_pos small]
      exact ⟨_, [], rfl, fun zero => by
        rw [Nat.digitChar_eq_zero] at zero
        omega⟩
    · rw [if_neg small]
      obtain ⟨c, rest, digits, notZero⟩ := ih (n / 10) (by omega) (by omega)
      exact ⟨c, rest ++ [(n % 10).digitChar], by rw [digits]; rfl, notZero⟩

/-- Where the digits of a number end, from its beginning or from its sign. -/
theorem scan_toDigits (n : Nat) : ∃ numeral, (numeral = .zero ∨ numeral = .whole) ∧
    scanNumber (Nat.toDigits 10 n) = some numeral ∧
    (Nat.toDigits 10 n).foldlM Numeral.next .sign = some numeral := by
  rcases Nat.eq_zero_or_pos n with rfl | positive
  · exact ⟨.zero, Or.inl rfl, rfl, rfl⟩
  · obtain ⟨c, rest, digits, notZero⟩ := toDigits_cons positive
    have all : ∀ other ∈ c :: rest, other.isDigit = true := fun other member =>
      Nat.isDigit_of_mem_toDigits (by decide) (by decide) (digits ▸ member)
    have digit := all c List.mem_cons_self
    have notSign : c ≠ '-' := by
      rintro rfl
      cases digit
    have more := foldlM_whole fun other member => all other (List.mem_cons_of_mem _ member)
    refine ⟨.whole, Or.inr rfl, ?_, ?_⟩
    · rw [digits]
      simp only [scanNumber, Numeral.first, if_neg notSign, if_neg notZero, digit, if_true]
      exact more
    · rw [digits, List.foldlM_cons, show Numeral.next .sign c = some .whole by
        simp only [Numeral.next, if_neg notZero, digit, if_true]]
      exact more

theorem filter_toDigits (n : Nat) : (Nat.toDigits 10 n).filter Char.isDigit = Nat.toDigits 10 n :=
  List.filter_eq_self.mpr fun _ member => Nat.isDigit_of_mem_toDigits (by decide) (by decide) member

/-- **An integer** is scanned to its end, and is its value. -/
theorem scan_writeInt {value : Int} (short : (Nat.toDigits 10 value.natAbs).length ≤ intMaxStrDigits) :
    ∃ numeral, scanNumber (writeInt value) = some numeral ∧
      numeral.value (writeInt value) = .ok (.int value) := by
  obtain ⟨numeral, plain, scanned, signed⟩ := scan_toDigits value.natAbs
  have digits : (writeInt value).filter Char.isDigit = Nat.toDigits 10 value.natAbs := by
    unfold writeInt
    split
    · exact filter_toDigits _
    · exact filter_toDigits _
  have head : (writeInt value).head? = some '-' ↔ value < 0 := by
    unfold writeInt
    by_cases negative : value < 0
    · rw [if_pos negative]
      exact iff_of_true rfl negative
    · rw [if_neg negative, List.nil_append]
      refine iff_of_false (fun sign => ?_) negative
      have digit := Nat.isDigit_of_mem_toDigits (b := 10) (n := value.natAbs) (c := '-') (by decide)
        (by decide) (List.mem_of_mem_head? sign)
      cases digit
  refine ⟨numeral, ?_, ?_⟩
  · unfold writeInt
    by_cases negative : value < 0
    · rw [if_pos negative]
      exact signed
    · rw [if_neg negative]
      exact scanned
  · have read : numeral.value (writeInt value) =
        if intMaxStrDigits < (Nat.toDigits 10 value.natAbs).length then .error .valueError
        else .ok (.int (if (writeInt value).head? = some '-' then -(value.natAbs : Int)
          else value.natAbs)) := by
      rcases plain with rfl | rfl
      · simp only [Numeral.value, digits, Nat.ofDigitChars_ten_toDigits]
      · simp only [Numeral.value, digits, Nat.ofDigitChars_ten_toDigits]
    rw [read, if_neg (Nat.not_lt.mpr short)]
    by_cases negative : value < 0
    · rw [if_pos (head.mpr negative), show -(value.natAbs : Int) = value by omega]
    · rw [if_neg fun sign => negative (head.mp sign), show (value.natAbs : Int) = value by omega]

/-- **A float** is scanned to its end. -/
theorem feeds_float (closable : Bool) {literal : List Char} (written : IsFloat literal) :
    ∃ s, Feeds limit (atValue closable stack) literal s ∧ Reads limit stack (.float literal) s := by
  rcases written with scanned | scanned | rfl | rfl | rfl
  · exact ⟨_, feeds_number closable scanned, reads_number rfl⟩
  · exact ⟨_, feeds_number closable scanned, reads_number rfl⟩
  · exact ⟨_, rfl, reads_deliver stack _⟩
  · exact ⟨_, rfl, reads_deliver stack _⟩
  · exact ⟨_, rfl, reads_deliver stack _⟩

/-! ### Arrays and objects -/

/-- Where so many arrays and objects are open, there is room for that many more. -/
def Room (limit : Option Nat) (height depth : Nat) : Prop := ∀ n, limit = some n → height + depth ≤ n

theorem Room.mono {height depth depth' : Nat} (room : Room limit height depth) (less : depth' ≤ depth) :
    Room limit height depth' := fun n bound => by
  have := room n bound
  omega

theorem Room.inner {height depth : Nat} (room : Room limit height (depth + 1)) :
    Room limit (height + 1) depth := fun n bound => by
  have := room n bound
  omega

theorem enter_eq {depth : Nat} (room : Room limit stack.length (depth + 1)) (frame : Frame) (mode : Mode) :
    Scanner.enter limit stack frame mode = .ok { mode := mode, stack := frame :: stack } := by
  refine if_neg ?_
  cases bounded : limit with
  | none => simp
  | some n =>
    have := room n bounded
    simp only [Option.any_some, decide_eq_true_eq]
    omega

theorem setItem_new {members : List (List Nat × Json)} {name : List Nat} (fresh : name ∉ members.map Prod.fst)
    (value : Json) : setItem members name value = members ++ [(name, value)] :=
  if_neg fresh

/-- **The name of a member**, after what stands before it, with its colon. -/
theorem feeds_name (closable : Bool) (members : List (List Nat × Json)) (last name : List Nat)
    (scalar : ∀ point ∈ name, IsScalar point) :
    Feeds limit { mode := .name closable, stack := .object members last :: stack }
      (writeString name ++ [':', ' ']) (atValue false (.object members name :: stack)) := by
  refine Feeds.append (t := { mode := .colon, stack := .object members name :: stack }) ?_ ?_
  · refine .cons (t := inString true [] (.object members last :: stack)) rfl ?_
    refine (feeds_points true [] name scalar).append (.one ?_)
    rw [List.nil_append]
    rfl
  · exact .cons (t := atValue false (.object members name :: stack)) rfl (.one rfl)

mutual

/-- **A value that is written is read.** -/
theorem feeds_dumps (value : Json) (writable : value.Writable) (closable : Bool) (stack : List Frame)
    (room : Room limit stack.length value.depth) :
    ∃ s, Feeds limit (atValue closable stack) (dumps value) s ∧ Reads limit stack value s :=
  match value with
  | .null => ⟨_, rfl, reads_deliver stack _⟩
  | .bool true => ⟨_, rfl, reads_deliver stack _⟩
  | .bool false => ⟨_, rfl, reads_deliver stack _⟩
  | .int value => by
    obtain ⟨numeral, scanned, ended⟩ := scan_writeInt writable
    exact ⟨_, feeds_number closable scanned, reads_number ended⟩
  | .float literal => feeds_float closable writable
  | .str points => by
    refine ⟨_, ?_, reads_deliver stack _⟩
    refine .cons (t := inString false [] stack) rfl ?_
    refine (feeds_points false [] points writable).append (.one ?_)
    rw [List.nil_append]
    rfl
  | .arr [] => by
    refine ⟨_, ?_, reads_deliver stack _⟩
    exact .cons (enter_eq room _ _) (.one rfl)
  | .arr (item :: items) => by
    obtain ⟨first, others⟩ := writable
    have room : Room limit stack.length (max item.depth (depthItems items) + 1) := room
    obtain ⟨s, read, reads⟩ := feeds_dumps item first true (.array [] :: stack)
      (room.inner.mono (Nat.le_max_left _ _))
    refine ⟨_, .cons (enter_eq room _ _) ?_, reads_deliver stack _⟩
    rw [dumpsItems, separator, if_pos rfl, List.nil_append, List.append_assoc]
    exact read.append (feeds_dumpsItems items others [item] stack s
      (room.inner.mono (Nat.le_max_right _ _)) reads.goes_on)
  | .obj [] => by
    refine ⟨_, ?_, reads_deliver stack _⟩
    exact .cons (enter_eq room _ _) (.one rfl)
  | .obj ((name, value) :: members) => by
    obtain ⟨⟨named, first, others⟩, distinct⟩ := writable
    have room : Room limit stack.length (max value.depth (depthMembers members) + 1) := room
    obtain ⟨s, read, reads⟩ := feeds_dumps value first false (.object [] name :: stack)
      (room.inner.mono (Nat.le_max_left _ _))
    refine ⟨_, .cons (enter_eq room _ _) ?_, reads_deliver stack _⟩
    rw [dumpsMembers, separator, if_pos rfl, List.nil_append, List.append_assoc, List.append_assoc]
    refine (feeds_name true [] [] name named).append (read.append ?_)
    exact feeds_dumpsMembers members others [(name, value)] name stack s
      (room.inner.mono (Nat.le_max_right _ _)) (by simpa using distinct) reads.goes_on

/-- The items after some that have been read, up to the bracket. -/
theorem feeds_dumpsItems (items : List Json) (writable : WritableItems items) (before : List Json)
    (stack : List Frame) (s : Scanner) (room : Room limit (stack.length + 1) (depthItems items))
    (goes_on : ∀ c ∈ [',', ']', '}'], s.feed limit c =
      Scanner.feedAfter { mode := .after, stack := .array before :: stack } c) :
    Feeds limit s (dumpsItems false items ++ [']']) (.deliver stack (.arr (before ++ items))) :=
  match items with
  | [] => by
    rw [List.append_nil]
    exact .one (goes_on ']' (by simp))
  | item :: items => by
    obtain ⟨first, others⟩ := writable
    obtain ⟨s', read, reads⟩ := feeds_dumps item first false (.array before :: stack)
      (room.mono (Nat.le_max_left _ _))
    rw [dumpsItems, List.append_assoc, List.append_assoc, List.append_cons before]
    refine .cons (goes_on ',' (by simp)) (.cons rfl (read.append ?_))
    exact feeds_dumpsItems items others (before ++ [item]) stack s'
      (room.mono (Nat.le_max_right _ _)) reads.goes_on

/-- The members after some that have been read, up to the brace. -/
theorem feeds_dumpsMembers (members : List (List Nat × Json)) (writable : WritableMembers members)
    (before : List (List Nat × Json)) (last : List Nat) (stack : List Frame) (s : Scanner)
    (room : Room limit (stack.length + 1) (depthMembers members))
    (distinct : ((before ++ members).map Prod.fst).Nodup)
    (goes_on : ∀ c ∈ [',', ']', '}'], s.feed limit c =
      Scanner.feedAfter { mode := .after, stack := .object before last :: stack } c) :
    Feeds limit s (dumpsMembers false members ++ ['}']) (.deliver stack (.obj (before ++ members))) :=
  match members with
  | [] => by
    rw [List.append_nil]
    exact .one (goes_on '}' (by simp))
  | (name, value) :: members => by
    obtain ⟨named, first, others⟩ := writable
    obtain ⟨s', read, reads⟩ := feeds_dumps value first false (.object before name :: stack)
      (room.mono (Nat.le_max_left _ _))
    have fresh : name ∉ before.map Prod.fst := by
      rw [List.map_append, List.map_cons] at distinct
      intro member
      exact (List.nodup_append.mp distinct).2.2 name member name List.mem_cons_self rfl
    rw [List.append_cons] at distinct
    rw [dumpsMembers, List.append_assoc, List.append_assoc, List.append_assoc, List.append_assoc,
      List.append_cons before]
    refine .cons (goes_on ',' (by simp)) (.cons rfl ?_)
    rw [← List.append_assoc (writeString name)]
    refine (feeds_name false before last name named).append (read.append ?_)
    refine feeds_dumpsMembers members others (before ++ [(name, value)]) name stack s'
      (room.mono (Nat.le_max_right _ _)) distinct ?_
    rw [← setItem_new fresh value]
    exact reads.goes_on

end

/-- **What is written is read as itself**, within the recursion limit. -/
theorem loads_dumps {value : Json} (writable : value.Writable)
    (within : ∀ n, limit = some n → value.depth ≤ n) : loads limit (dumps value) = .ok value := by
  obtain ⟨s, read, reads⟩ := feeds_dumps value writable false []
    (fun n bound => Nat.le_trans (Nat.le_of_eq (Nat.zero_add _)) (within n bound))
  unfold loads
  rw [show (dumps value).foldlM (Scanner.feed limit) .start = .ok s from read]
  exact reads.ends rfl

end FoodDelivery.Lib
