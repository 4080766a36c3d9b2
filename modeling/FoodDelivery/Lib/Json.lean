/-
**JSON texts, as a scanner reads them from left to right.**

The scanner is a machine with a stack: it takes one character after the other, and the stack holds the
arrays and objects that are open. It reads what RFC 8259 allows and, as Python's `json` does, `NaN`,
`Infinity` and `-Infinity`; a string may hold half of a surrogate pair, so it is a list of code points,
and a number with a point or an exponent stands as it is written. A text is refused where it breaks the
syntax or where an integer has more than `intMaxStrDigits` digits; both are a `ValueError`. Where more
arrays and objects are open than the recursion limit allows, reading ends with a `RecursionError`.

* `loads limit text` is the value of a text, `setItem` the later of two members with one name;
* `loads_eq_of_ne`: a limit that is not exceeded makes no difference.
-/

import Mathlib.Data.List.Basic

set_option autoImplicit false

namespace FoodDelivery.Lib

/-! ### Values -/

/-- The code points of a text. -/
def codePoints (text : String) : List Nat := text.toList.map Char.toNat

theorem codePoints_injective : Function.Injective codePoints := by
  intro first second same
  have letters : Function.Injective Char.toNat := fun _ _ equal => Char.toNat_inj.mp equal
  exact String.toList_inj.mp (letters.list_map same)

/-- A value. A float stands as it is written. -/
inductive Json where
  | null
  | bool (value : Bool)
  | int (value : Int)
  | float (literal : List Char)
  | str (points : List Nat)
  | arr (items : List Json)
  | obj (members : List (List Nat × Json))

/-- `members[name] = value`, where a name keeps its place. -/
def setItem (members : List (List Nat × Json)) (name : List Nat) (value : Json) :
    List (List Nat × Json) :=
  if name ∈ members.map Prod.fst then
    members.map fun member => if member.1 = name then (name, value) else member
  else members ++ [(name, value)]

/-- The value is an object. -/
def Json.isObject : Json → Bool
  | .obj _ => true
  | _ => false

/-! ### The scanner -/

/-- Why a text is not read. -/
inductive ScanError where
  | valueError
  | recursionError
deriving DecidableEq, Repr

/-- `sys.get_int_max_str_digits()`. -/
def intMaxStrDigits : Nat := 4300

/-- An array or an object that is open, with what is in it so far; an object with the name of the member
that is being read. -/
inductive Frame where
  | array (items : List Json)
  | object (members : List (List Nat × Json)) (name : List Nat)

/-- What of a number has been read. -/
inductive Numeral where
  | sign
  | zero
  | whole
  | point
  | fraction
  | exponent
  | exponentSign
  | power
deriving DecidableEq, Repr

/-- Where in an escape a string stands; of a `\u`, how many digits and what they make. -/
inductive Escape where
  | none
  | backslash
  | hex (digits value : Nat)
deriving DecidableEq, Repr

/-- What the scanner expects next. Just after an opening bracket it may be the closing one. -/
inductive Mode where
  | value (closable : Bool)
  | name (closable : Bool)
  | colon
  | quoted (isName : Bool) (points : List Nat) (escape : Escape)
  | word (rest : List Char) (value : Json)
  | number (numeral : Numeral) (literal : List Char)
  | after
  | finished (value : Json)

structure Scanner where
  mode : Mode
  stack : List Frame

def isJsonSpace (c : Char) : Bool := c = ' ' || c = '\t' || c = '\n' || c = '\r'

/-- A value has been read: it goes into what is open, or it is the whole text. -/
def Scanner.deliver (stack : List Frame) (value : Json) : Scanner :=
  match stack with
  | [] => { mode := .finished value, stack := [] }
  | .array items :: outer => { mode := .after, stack := .array (items ++ [value]) :: outer }
  | .object members name :: outer =>
    { mode := .after, stack := .object (setItem members name value) name :: outer }

/-- One more array or object is open. -/
def Scanner.enter (limit : Option Nat) (stack : List Frame) (frame : Frame) (mode : Mode) :
    Except ScanError Scanner :=
  if limit.any (· ≤ stack.length) then .error .recursionError
  else .ok { mode := mode, stack := frame :: stack }

/-- A character after a value. -/
def Scanner.feedAfter (s : Scanner) (c : Char) : Except ScanError Scanner :=
  if isJsonSpace c then .ok s
  else
    match s.stack with
    | [] => .error .valueError
    | .array items :: outer =>
      if c = ',' then .ok { s with mode := .value false }
      else if c = ']' then .ok (.deliver outer (.arr items))
      else .error .valueError
    | .object members _ :: outer =>
      if c = ',' then .ok { s with mode := .name false }
      else if c = '}' then .ok (.deliver outer (.obj members))
      else .error .valueError

/-- A character where a value begins. -/
def Scanner.feedValue (limit : Option Nat) (s : Scanner) (closable : Bool) (c : Char) :
    Except ScanError Scanner :=
  if isJsonSpace c then .ok s
  else if c = '"' then .ok { s with mode := .quoted false [] .none }
  else if c = '[' then Scanner.enter limit s.stack (.array []) (.value true)
  else if c = '{' then Scanner.enter limit s.stack (.object [] []) (.name true)
  else if c = 'n' then .ok { s with mode := .word ['u', 'l', 'l'] .null }
  else if c = 't' then .ok { s with mode := .word ['r', 'u', 'e'] (.bool true) }
  else if c = 'f' then .ok { s with mode := .word ['a', 'l', 's', 'e'] (.bool false) }
  else if c = 'N' then .ok { s with mode := .word ['a', 'N'] (.float "NaN".toList) }
  else if c = 'I' then
    .ok { s with mode := .word ['n', 'f', 'i', 'n', 'i', 't', 'y'] (.float "Infinity".toList) }
  else if c = '-' then .ok { s with mode := .number .sign ['-'] }
  else if c = '0' then .ok { s with mode := .number .zero ['0'] }
  else if c.isDigit then .ok { s with mode := .number .whole [c] }
  else if closable && c = ']' then
    match s.stack with
    | .array items :: outer => .ok (.deliver outer (.arr items))
    | _ => .error .valueError
  else .error .valueError

/-- A character where the name of a member begins. -/
def Scanner.feedName (s : Scanner) (closable : Bool) (c : Char) : Except ScanError Scanner :=
  if isJsonSpace c then .ok s
  else if c = '"' then .ok { s with mode := .quoted true [] .none }
  else if closable && c = '}' then
    match s.stack with
    | .object members _ :: outer => .ok (.deliver outer (.obj members))
    | _ => .error .valueError
  else .error .valueError

/-! ### Strings -/

/-- One more unit of a string: the second half of a surrogate pair joins the first. -/
def appendUnit (points : List Nat) (unit : Nat) : List Nat :=
  match points.getLast? with
  | some high =>
    if 0xD800 ≤ high ∧ high ≤ 0xDBFF ∧ 0xDC00 ≤ unit ∧ unit ≤ 0xDFFF then
      points.dropLast ++ [0x10000 + (high - 0xD800) * 0x400 + (unit - 0xDC00)]
    else points ++ [unit]
  | none => [unit]

/-- What a character after a backslash stands for. -/
def simpleEscape (c : Char) : Option Nat :=
  if c = '"' then some 0x22
  else if c = '\\' then some 0x5C
  else if c = '/' then some 0x2F
  else if c = 'b' then some 0x08
  else if c = 'f' then some 0x0C
  else if c = 'n' then some 0x0A
  else if c = 'r' then some 0x0D
  else if c = 't' then some 0x09
  else none

def hexDigit (c : Char) : Option Nat :=
  if c.isDigit then some (c.toNat - '0'.toNat)
  else if 'a' ≤ c ∧ c ≤ 'f' then some (c.toNat - 'a'.toNat + 10)
  else if 'A' ≤ c ∧ c ≤ 'F' then some (c.toNat - 'A'.toNat + 10)
  else none

/-- A string has ended: it is the name of a member, or a value. -/
def Scanner.endQuoted (s : Scanner) (isName : Bool) (points : List Nat) : Except ScanError Scanner :=
  if isName then
    match s.stack with
    | .object members _ :: outer => .ok { mode := .colon, stack := .object members points :: outer }
    | _ => .error .valueError
  else .ok (.deliver s.stack (.str points))

/-- A character in a string; control characters are refused. -/
def Scanner.feedQuoted (s : Scanner) (isName : Bool) (points : List Nat) (escape : Escape) (c : Char) :
    Except ScanError Scanner :=
  match escape with
  | .none =>
    if c = '"' then s.endQuoted isName points
    else if c = '\\' then .ok { s with mode := .quoted isName points .backslash }
    else if c.toNat ≤ 0x1F then .error .valueError
    else .ok { s with mode := .quoted isName (points ++ [c.toNat]) .none }
  | .backslash =>
    if c = 'u' then .ok { s with mode := .quoted isName points (.hex 0 0) }
    else
      match simpleEscape c with
      | some point => .ok { s with mode := .quoted isName (points ++ [point]) .none }
      | none => .error .valueError
  | .hex digits value =>
    match hexDigit c with
    | none => .error .valueError
    | some digit =>
      if digits = 3 then
        .ok { s with mode := .quoted isName (appendUnit points (value * 16 + digit)) .none }
      else .ok { s with mode := .quoted isName points (.hex (digits + 1) (value * 16 + digit)) }

/-! ### Numbers -/

/-- The number goes on with the character. -/
def Numeral.next (numeral : Numeral) (c : Char) : Option Numeral :=
  match numeral with
  | .sign => if c = '0' then some .zero else if c.isDigit then some .whole else none
  | .zero => if c = '.' then some .point else if c = 'e' ∨ c = 'E' then some .exponent else none
  | .whole =>
    if c.isDigit then some .whole
    else if c = '.' then some .point
    else if c = 'e' ∨ c = 'E' then some .exponent
    else none
  | .point => if c.isDigit then some .fraction else none
  | .fraction =>
    if c.isDigit then some .fraction else if c = 'e' ∨ c = 'E' then some .exponent else none
  | .exponent =>
    if c.isDigit then some .power else if c = '+' ∨ c = '-' then some .exponentSign else none
  | .exponentSign => if c.isDigit then some .power else none
  | .power => if c.isDigit then some .power else none

/-- The value of a number that may end here. -/
def Numeral.value (numeral : Numeral) (literal : List Char) : Except ScanError Json :=
  match numeral with
  | .zero | .whole =>
    let digits := literal.filter Char.isDigit
    if intMaxStrDigits < digits.length then .error .valueError
    else
      let size : Int := Nat.ofDigitChars 10 digits 0
      .ok (.int (if literal.head? = some '-' then -size else size))
  | .fraction | .power => .ok (.float literal)
  | _ => .error .valueError

/-- A character after the beginning of a number. -/
def Scanner.feedNumber (s : Scanner) (numeral : Numeral) (literal : List Char) (c : Char) :
    Except ScanError Scanner :=
  match numeral.next c with
  | some longer => .ok { s with mode := .number longer (literal ++ [c]) }
  | none =>
    if numeral = .sign ∧ c = 'I' then
      .ok { s with mode := .word ['n', 'f', 'i', 'n', 'i', 't', 'y'] (.float "-Infinity".toList) }
    else do
      let value ← numeral.value literal
      (Scanner.deliver s.stack value).feedAfter c

/-! ### Texts -/

/-- One more character. -/
def Scanner.feed (limit : Option Nat) (s : Scanner) (c : Char) : Except ScanError Scanner :=
  match s.mode with
  | .value closable => s.feedValue limit closable c
  | .name closable => s.feedName closable c
  | .colon =>
    if isJsonSpace c then .ok s
    else if c = ':' then .ok { s with mode := .value false }
    else .error .valueError
  | .quoted isName points escape => s.feedQuoted isName points escape c
  | .word [] value => (Scanner.deliver s.stack value).feedAfter c
  | .word [last] value => if c = last then .ok (.deliver s.stack value) else .error .valueError
  | .word (next :: rest) value =>
    if c = next then .ok { s with mode := .word rest value } else .error .valueError
  | .number numeral literal => s.feedNumber numeral literal c
  | .after => s.feedAfter c
  | .finished _ => s.feedAfter c

/-- The end of the text. -/
def Scanner.finish (s : Scanner) : Except ScanError Json :=
  match s.mode, s.stack with
  | .finished value, _ => .ok value
  | .number numeral literal, [] => numeral.value literal
  | _, _ => .error .valueError

def Scanner.start : Scanner where
  mode := .value false
  stack := []

/-- `json.loads`. -/
def loads (limit : Option Nat) (text : List Char) : Except ScanError Json := do
  let s ← text.foldlM (Scanner.feed limit) .start
  s.finish

/-! ### The limit -/

variable {limit : Option Nat} {s : Scanner} {c : Char}

/-- One character is read the same without a limit, or it goes beyond the limit. -/
theorem Scanner.feed_eq_or (limit : Option Nat) (s : Scanner) (c : Char) :
    s.feed limit c = s.feed none c ∨ s.feed limit c = .error .recursionError := by
  have enter : ∀ frame mode, Scanner.enter limit s.stack frame mode = Scanner.enter none s.stack frame mode ∨
      Scanner.enter limit s.stack frame mode = .error .recursionError := by
    intro frame mode
    by_cases full : limit.any (· ≤ s.stack.length) = true
    · exact Or.inr (if_pos full)
    · exact Or.inl (if_neg full)
  obtain ⟨mode, stack⟩ := s
  cases mode with
  | value closable =>
    dsimp only [Scanner.feed, Scanner.feedValue]
    by_cases array : c = '['
    · subst array
      exact enter _ _
    · by_cases object : c = '{'
      · subst object
        exact enter _ _
      · left
        simp only [array, object, if_false]
  | word rest value =>
    left
    cases rest with
    | nil => rfl
    | cons next rest => cases rest <;> rfl
  | name | colon | quoted | number | after | finished => exact Or.inl rfl

/-- **A limit that is not exceeded makes no difference.** -/
theorem loads_eq_of_ne {text : List Char} (within : loads limit text ≠ .error .recursionError) :
    loads limit text = loads none text := by
  have rest : ∀ s : Scanner, text.foldlM (Scanner.feed limit) s ≠ .error .recursionError →
      text.foldlM (Scanner.feed limit) s = text.foldlM (Scanner.feed none) s := by
    clear within
    induction text with
    | nil => exact fun _ _ => rfl
    | cons c text ih =>
      intro s within
      rw [List.foldlM_cons] at within ⊢
      rw [List.foldlM_cons]
      rcases s.feed_eq_or limit c with same | beyond
      · rw [same] at within ⊢
        cases next : s.feed none c with
        | error raised => rfl
        | ok s' =>
          rw [next] at within
          exact ih s' within
      · rw [beyond] at within
        exact absurd rfl within
  unfold loads at within ⊢
  rw [rest .start fun beyond => within (by rw [beyond]; rfl)]

end FoodDelivery.Lib
