/-
**The signature of a webhook** (`services/payments/app/webhook.py`, `verify_signature` and `_parse`).

The endpoint is public, so the header is whatever a stranger writes. Its comma-separated parts carry
timestamps (`t`) and signatures (`v1`), and one of the signatures has to be the HMAC of the last
timestamp and the payload. The HMAC is any function that answers in ASCII, and comparing it with a text
that has another character raises.

* `parse_eq`, `parse_of_unread`: what is read from a header;
* `anyMatches_eq`: the comparison stops at the first signature that matches or cannot be compared;
* `verifySignature_iff`: a payload is accepted exactly when it is genuine and refused with a 400
  otherwise, provided that no signature which cannot be compared comes before every one that matches.
-/

import FoodDelivery.Lib.Outcomes
import FoodDelivery.Lib.Texts
import FoodDelivery.Shared.Basic
import Mathlib.Algebra.Order.Group.Unbundled.Int

set_option autoImplicit false

namespace FoodDelivery.Payments

open FoodDelivery.Lib

/-! ### The code -/

/-- The request could not be trusted. Always a 400. -/
def webhookError (message : String) : Raised := .app { message := message, statusCode := 400 }

/-- `hmac.new(key, message, hashlib.sha256).hexdigest()`. -/
structure Hmac where
  hexdigest : List UInt8 → List UInt8 → List Char
  ascii : ∀ key message, (hexdigest key message).all isAscii = true

/-- `text.encode("utf-8")`. -/
def utf8 (text : String) : List UInt8 := text.toUTF8.toList

/-- `hmac.compare_digest` of two texts. -/
def compareDigest (a b : List Char) : Except Raised Bool :=
  if a.all isAscii = true ∧ b.all isAscii = true then .ok (a = b)
  else .error (.other "TypeError" "comparing strings with non-ASCII characters is not supported")

/-- `part.strip().partition("=")`, without the separator. -/
def keyValue (part : List Char) : List Char × List Char := partitionAt '=' (strip isSpace part)

/-- One turn of the loop in `_parse`: nothing where it returns early. -/
def parsePart (parsed : Option Int × List (List Char)) (part : List Char) :
    Option (Option Int × List (List Char)) :=
  let key := (keyValue part).1
  let value := (keyValue part).2
  if key = "t".toList then (readInt value).map fun timestamp => (some timestamp, parsed.2)
  else if key = "v1".toList then some (parsed.1, parsed.2 ++ [value])
  else some parsed

/-- The timestamp and the signatures of a header. -/
def parse (header : String) : Option Int × List (List Char) :=
  ((header.toList.splitOn ',').foldlM parsePart (none, [])).getD (none, [])

/-- `any(hmac.compare_digest(expected, candidate) for candidate in signatures)`. -/
def anyMatches (expected : List Char) : List (List Char) → Except Raised Bool
  | [] => .ok false
  | candidate :: rest => do
    if ← compareDigest expected candidate then return true
    else anyMatches expected rest

/-- The signature that a payload should carry. -/
def expectedSignature (hmac : Hmac) (secret : String) (timestamp : Int) (payload : List UInt8) :
    List Char :=
  hmac.hexdigest (utf8 secret) (utf8 (toString timestamp ++ ".") ++ payload)

/-- **Raise `WebhookError` unless the header is a valid signature for the payload.** `now` is
`int(now.timestamp())`. -/
def verifySignature (hmac : Hmac) (payload : List UInt8) (header secret : Option String) (now : Int)
    (toleranceSeconds : Int := 300) : Except Raised Unit :=
  match secret.filter (· ≠ "") with
  | none => .error (webhookError "Webhook signing secret is not configured")
  | some secret =>
    match header.filter (· ≠ "") with
    | none => .error (webhookError "Missing signature header")
    | some header =>
      match parse header with
      | (none, _) => .error (webhookError "Malformed signature header")
      | (some timestamp, signatures) =>
        if signatures = [] then .error (webhookError "Malformed signature header")
        else if |now - timestamp| > toleranceSeconds then
          .error (webhookError "Signature timestamp outside the tolerance window")
        else do
          if ← anyMatches (expectedSignature hmac secret timestamp payload) signatures then return ()
          else throw (webhookError "Signature mismatch")

/-! ### What it is for -/

/-- The values of the parts with a key, in order. -/
def valuesOf (key : String) (parts : List (List Char)) : List (List Char) :=
  (parts.filter fun part => (keyValue part).1 = key.toList).map fun part => (keyValue part).2

/-- The values of a header's parts with a key. -/
def valuesIn (header key : String) : List (List Char) := valuesOf key (header.toList.splitOn ',')

/-- Everything but the signature is in order: there is a secret and a header, every timestamp in it is an
integer, and the last one is within the tolerance. -/
structure InOrder (header secret : Option String) (now toleranceSeconds : Int) (key text : String)
    (timestamp : Int) : Prop where
  secret : secret = some key ∧ key ≠ ""
  header : header = some text ∧ text ≠ ""
  timestamps : ∃ stamps : List Int, (valuesIn text "t").map readInt = stamps.map some ∧
    stamps.getLast? = some timestamp
  recent : |now - timestamp| ≤ toleranceSeconds

/-- **The payload is the one that was signed**: one of the signatures is the one expected. -/
def Genuine (hmac : Hmac) (payload : List UInt8) (header secret : Option String)
    (now toleranceSeconds : Int) : Prop :=
  ∃ key text timestamp, InOrder header secret now toleranceSeconds key text timestamp ∧
    expectedSignature hmac key timestamp payload ∈ valuesIn text "v1"

/-- No signature that cannot be compared comes before every one that matches. -/
def Comparable (expected : List Char) (signatures : List (List Char)) : Prop :=
  ∀ before candidate after, signatures = before ++ candidate :: after →
    candidate.all isAscii = false → expected ∈ before

/-! ### Reading a header -/

section Parse

variable {part : List Char} {parts : List (List Char)}

theorem valuesOf_cons (key : String) (part : List Char) (parts : List (List Char)) :
    valuesOf key (part :: parts) =
      if (keyValue part).1 = key.toList then (keyValue part).2 :: valuesOf key parts
      else valuesOf key parts := by
  by_cases same : (keyValue part).1 = key.toList
  · simp [valuesOf, same]
  · simp [valuesOf, same]

theorem not_signature_of_timestamp (timestamp : (keyValue part).1 = "t".toList) :
    (keyValue part).1 ≠ "v1".toList := by
  rw [timestamp]
  decide

/-- The loop over parts whose timestamps can all be read. -/
theorem foldlM_parsePart {stamps : List Int}
    (read : (valuesOf "t" parts).map readInt = stamps.map some) (first : Option Int)
    (signatures : List (List Char)) :
    parts.foldlM parsePart (first, signatures) =
      some (stamps.getLast?.or first, signatures ++ valuesOf "v1" parts) := by
  induction parts generalizing first signatures stamps with
  | nil =>
    obtain rfl : stamps = [] := List.map_eq_nil_iff.mp read.symm
    rw [List.foldlM_nil, valuesOf, List.filter_nil, List.map_nil, List.append_nil,
      List.getLast?_nil, Option.none_or]
    rfl
  | cons part parts hyp =>
    rw [valuesOf_cons] at read
    rw [List.foldlM_cons, valuesOf_cons]
    by_cases timestamp : (keyValue part).1 = "t".toList
    · rw [if_pos timestamp, List.map_cons] at read
      cases stamps with
      | nil => exact absurd read (List.cons_ne_nil _ _)
      | cons stamp stamps =>
        rw [List.map_cons, List.cons_eq_cons] at read
        rw [if_neg (not_signature_of_timestamp timestamp), parsePart, if_pos timestamp, read.1,
          Option.map_some, Option.bind_eq_bind, Option.bind_some, hyp read.2, List.getLast?_cons]
        cases stamps.getLast? with
        | none => rfl
        | some last => rfl
    · rw [if_neg timestamp] at read
      by_cases signature : (keyValue part).1 = "v1".toList
      · rw [if_pos signature, parsePart, if_neg timestamp, if_pos signature, Option.bind_eq_bind,
          Option.bind_some, hyp read, List.append_assoc, List.singleton_append]
      · rw [if_neg signature, parsePart, if_neg timestamp, if_neg signature, Option.bind_eq_bind,
          Option.bind_some, hyp read]

/-- The loop stops at a timestamp that cannot be read. -/
theorem foldlM_parsePart_none (unread : ∃ value ∈ valuesOf "t" parts, readInt value = none)
    (parsed : Option Int × List (List Char)) : parts.foldlM parsePart parsed = none := by
  induction parts generalizing parsed with
  | nil =>
    obtain ⟨value, listed, -⟩ := unread
    exact absurd listed List.not_mem_nil
  | cons part parts hyp =>
    rw [List.foldlM_cons, Option.bind_eq_bind, Option.bind_eq_none_iff]
    intro next turned
    refine hyp ?_ next
    obtain ⟨value, listed, missing⟩ := unread
    rw [valuesOf_cons] at listed
    by_cases timestamp : (keyValue part).1 = "t".toList
    · rw [if_pos timestamp] at listed
      rcases List.mem_cons.mp listed with rfl | later
      · rw [parsePart, if_pos timestamp, missing] at turned
        exact absurd turned.symm (Option.some_ne_none next)
      · exact ⟨value, later, missing⟩
    · rw [if_neg timestamp] at listed
      exact ⟨value, listed, missing⟩

/-- **What a header says**: its last timestamp and its signatures. -/
theorem parse_eq {header : String} {stamps : List Int}
    (read : (valuesIn header "t").map readInt = stamps.map some) :
    parse header = (stamps.getLast?, valuesIn header "v1") := by
  rw [parse, foldlM_parsePart read, Option.getD_some, Option.or_none, List.nil_append, valuesIn]

theorem parse_of_unread {header : String}
    (unread : ∃ value ∈ valuesIn header "t", readInt value = none) : parse header = (none, []) := by
  rw [parse, foldlM_parsePart_none unread, Option.getD_none]

/-- Either every text of a list is read, or one is not. -/
theorem read_or_unread (texts : List (List Char)) :
    (∃ stamps : List Int, texts.map readInt = stamps.map some) ∨
      ∃ value ∈ texts, readInt value = none := by
  induction texts with
  | nil => exact Or.inl ⟨[], rfl⟩
  | cons text texts hyp =>
    cases read : readInt text with
    | none => exact Or.inr ⟨text, List.mem_cons_self, read⟩
    | some stamp =>
      rcases hyp with ⟨stamps, others⟩ | ⟨value, listed, missing⟩
      · exact Or.inl ⟨stamp :: stamps, by rw [List.map_cons, List.map_cons, read, others]⟩
      · exact Or.inr ⟨value, List.mem_cons_of_mem text listed, missing⟩

end Parse

/-! ### Comparing -/

section Compare

variable {expected : List Char} {signatures : List (List Char)}

theorem compareDigest_eq (ascii : expected.all isAscii = true) (candidate : List Char) :
    compareDigest expected candidate =
      if candidate.all isAscii = true then .ok (expected = candidate)
      else .error (.other "TypeError" "comparing strings with non-ASCII characters is not supported") := by
  simp only [compareDigest, ascii, true_and]

theorem comparable_nil : Comparable expected [] := by
  intro before candidate after same
  exact absurd same.symm (by simp)

theorem comparable_cons (ascii : expected.all isAscii = true) {candidate : List Char} :
    Comparable expected (candidate :: signatures) ↔
      expected = candidate ∨ (candidate.all isAscii = true ∧ Comparable expected signatures) := by
  constructor
  · intro comparable
    refine or_iff_not_imp_left.mpr fun other => ⟨?_, fun before next after same strange => ?_⟩
    · by_contra strange
      exact List.not_mem_nil (comparable [] candidate signatures rfl (Bool.not_eq_true _ ▸ strange))
    · have earlier := comparable (candidate :: before) next after (by rw [same, List.cons_append]) strange
      exact (List.mem_cons.mp earlier).resolve_left other
  · intro first before next after same strange
    cases before with
    | nil =>
      obtain ⟨rfl, -⟩ := List.cons_eq_cons.mp same
      rcases first with rfl | ⟨plain, -⟩
      · exact Bool.noConfusion (ascii.symm.trans strange)
      · exact Bool.noConfusion (plain.symm.trans strange)
    | cons head before =>
      obtain ⟨rfl, rest⟩ := List.cons_eq_cons.mp same
      rcases first with rfl | ⟨-, comparable⟩
      · exact List.mem_cons_self
      · exact List.mem_cons_of_mem _ (comparable before next after rest strange)

/-- **The comparison finds a match** when no signature stops it. -/
theorem anyMatches_of_comparable (ascii : expected.all isAscii = true)
    (comparable : Comparable expected signatures) :
    anyMatches expected signatures = .ok (expected ∈ signatures) := by
  induction signatures with
  | nil => simp [anyMatches]
  | cons candidate signatures hyp =>
    rw [anyMatches, compareDigest_eq ascii]
    obtain rfl | ⟨plain, rest⟩ := (comparable_cons ascii).mp comparable
    · rw [if_pos ascii]
      simp [bind, Except.bind, pure, Except.pure]
    · rw [if_pos plain]
      by_cases same : expected = candidate
      · simp [bind, Except.bind, pure, Except.pure, same]
      · simp [bind, Except.bind, same, hyp rest]

/-- **The comparison raises** otherwise. -/
theorem anyMatches_of_not_comparable (ascii : expected.all isAscii = true)
    (incomparable : ¬ Comparable expected signatures) :
    anyMatches expected signatures =
      .error (.other "TypeError" "comparing strings with non-ASCII characters is not supported") := by
  induction signatures with
  | nil => exact absurd comparable_nil incomparable
  | cons candidate signatures hyp =>
    rw [comparable_cons ascii, not_or, not_and] at incomparable
    rw [anyMatches, compareDigest_eq ascii]
    by_cases plain : candidate.all isAscii = true
    · rw [if_pos plain]
      simp [bind, Except.bind, incomparable.1, hyp (incomparable.2 plain)]
    · rw [if_neg plain]
      rfl

end Compare

/-! ### Verifying -/

section Verify

variable {hmac : Hmac} {payload : List UInt8} {header secret : Option String} {now tolerance : Int}

/-- A setting or a header that is there. -/
theorem filter_eq_some {text : Option String} {value : String} :
    text.filter (· ≠ "") = some value ↔ text = some value ∧ value ≠ "" := by
  rw [Option.filter_eq_some_iff, decide_eq_true_iff]

/-- With everything else in order, the signatures decide. -/
theorem verifySignature_of_inOrder {key text : String} {timestamp : Int}
    (inOrder : InOrder header secret now tolerance key text timestamp)
    (signed : valuesIn text "v1" ≠ []) :
    verifySignature hmac payload header secret now tolerance = (do
      if ← anyMatches (expectedSignature hmac key timestamp payload) (valuesIn text "v1") then return ()
      else throw (webhookError "Signature mismatch")) := by
  obtain ⟨known, written, ⟨stamps, read, last⟩, recent⟩ := inOrder
  simp only [verifySignature, filter_eq_some.mpr known, filter_eq_some.mpr written, parse_eq read,
    last]
  rw [if_neg signed, if_neg (not_lt.mpr recent)]

/-- Without, the answer is a `WebhookError`. -/
theorem verifySignature_of_not_inOrder (hmac : Hmac) (payload : List UInt8)
    (disorder : ¬ ∃ key text timestamp, InOrder header secret now tolerance key text timestamp ∧
      valuesIn text "v1" ≠ []) :
    ∃ message, verifySignature hmac payload header secret now tolerance =
      .error (webhookError message) := by
  unfold verifySignature
  cases known : secret.filter (· ≠ "") with
  | none => exact ⟨_, rfl⟩
  | some key =>
    cases written : header.filter (· ≠ "") with
    | none => exact ⟨_, rfl⟩
    | some text =>
      rcases read_or_unread (valuesIn text "t") with ⟨stamps, read⟩ | unread
      · simp only [parse_eq read]
        cases last : stamps.getLast? with
        | none => exact ⟨_, rfl⟩
        | some timestamp =>
          by_cases signed : valuesIn text "v1" = []
          · exact ⟨_, if_pos signed⟩
          · by_cases late : |now - timestamp| > tolerance
            · exact ⟨_, (if_neg signed).trans (if_pos late)⟩
            · exact absurd ⟨key, text, timestamp, ⟨filter_eq_some.mp known,
                filter_eq_some.mp written, ⟨stamps, read, last⟩, not_lt.mp late⟩, signed⟩ disorder
      · simp only [parse_of_unread unread]
        exact ⟨_, rfl⟩

/-- Everything that is in order, but for the signatures, is told by the header and the settings. -/
theorem InOrder.unique {key text key' text' : String} {timestamp timestamp' : Int}
    (inOrder : InOrder header secret now tolerance key text timestamp)
    (inOrder' : InOrder header secret now tolerance key' text' timestamp') :
    key = key' ∧ text = text' ∧ timestamp = timestamp' := by
  obtain ⟨⟨rfl, -⟩, ⟨rfl, -⟩, ⟨stamps, read, last⟩, -⟩ := inOrder
  obtain ⟨⟨known, -⟩, ⟨written, -⟩, ⟨stamps', read', last'⟩, -⟩ := inOrder'
  obtain rfl := Option.some_inj.mp known
  obtain rfl := Option.some_inj.mp written
  obtain rfl : stamps = stamps' :=
    List.map_injective_iff.mpr (Option.some_injective Int) (read.symm.trans read')
  exact ⟨rfl, rfl, Option.some_inj.mp (last.symm.trans last')⟩

theorem InOrder.genuine_iff {key text : String} {timestamp : Int}
    (inOrder : InOrder header secret now tolerance key text timestamp) :
    Genuine hmac payload header secret now tolerance ↔
      expectedSignature hmac key timestamp payload ∈ valuesIn text "v1" := by
  constructor
  · rintro ⟨key', text', timestamp', inOrder', listed⟩
    obtain ⟨rfl, rfl, rfl⟩ := inOrder.unique inOrder'
    exact listed
  · exact fun listed => ⟨key, text, timestamp, inOrder, listed⟩

theorem InOrder.comparable_iff {key text : String} {timestamp : Int}
    (inOrder : InOrder header secret now tolerance key text timestamp) :
    (∀ key text timestamp, InOrder header secret now tolerance key text timestamp →
        Comparable (expectedSignature hmac key timestamp payload) (valuesIn text "v1")) ↔
      Comparable (expectedSignature hmac key timestamp payload) (valuesIn text "v1") := by
  constructor
  · exact fun all => all key text timestamp inOrder
  · intro comparable key' text' timestamp' inOrder'
    obtain ⟨rfl, rfl, rfl⟩ := inOrder.unique inOrder'
    exact comparable

/-- **When the signature check is sound.** Whatever the payload, the header, the secret, the time and the
tolerance: the check either returns or raises a `WebhookError`, and returns exactly for a genuine payload,
if and only if no signature that cannot be compared comes before every one that matches, once everything
else is in order. -/
theorem verifySignature_iff (hmac : Hmac) (payload : List UInt8) (header secret : Option String)
    (now tolerance : Int) :
    ((verifySignature hmac payload header secret now tolerance = .ok () ∨
          ∃ message, verifySignature hmac payload header secret now tolerance =
            .error (webhookError message)) ∧
        (verifySignature hmac payload header secret now tolerance = .ok () ↔
          Genuine hmac payload header secret now tolerance)) ↔
      ∀ key text timestamp, InOrder header secret now tolerance key text timestamp →
        Comparable (expectedSignature hmac key timestamp payload) (valuesIn text "v1") := by
  by_cases inOrder : ∃ key text timestamp,
      InOrder header secret now tolerance key text timestamp ∧ valuesIn text "v1" ≠ []
  · obtain ⟨key, text, timestamp, inOrder, signed⟩ := inOrder
    have ascii : (expectedSignature hmac key timestamp payload).all isAscii = true := hmac.ascii _ _
    rw [inOrder.genuine_iff, inOrder.comparable_iff, verifySignature_of_inOrder inOrder signed]
    by_cases comparable :
        Comparable (expectedSignature hmac key timestamp payload) (valuesIn text "v1")
    · refine iff_of_true ?_ comparable
      rw [anyMatches_of_comparable ascii comparable]
      by_cases listed : expectedSignature hmac key timestamp payload ∈ valuesIn text "v1"
      · simp [listed, bind, Except.bind, pure, Except.pure]
      · simp [listed, bind, Except.bind, throw, throwThe, MonadExceptOf.throw]
    · refine iff_of_false ?_ comparable
      rw [anyMatches_of_not_comparable ascii comparable]
      simp [bind, Except.bind, webhookError]
  · obtain ⟨message, raised⟩ := verifySignature_of_not_inOrder hmac payload inOrder
    refine iff_of_true ⟨Or.inr ⟨message, raised⟩, iff_of_false ?_ ?_⟩ ?_
    · rw [raised]
      exact fun same => by cases same
    · rintro ⟨key, text, timestamp, inOrder', listed⟩
      exact inOrder ⟨key, text, timestamp, inOrder', List.ne_nil_of_mem listed⟩
    · intro key text timestamp inOrder'
      have unsigned : valuesIn text "v1" = [] := by
        by_contra signed
        exact inOrder ⟨key, text, timestamp, inOrder', signed⟩
      rw [unsigned]
      exact comparable_nil

/-- A signature with an accented letter is not refused with a 400: the comparison raises. -/
theorem not_verifySignature_sound :
    ¬ ∀ (hmac : Hmac) (payload : List UInt8) (header secret : Option String) (now tolerance : Int),
      verifySignature hmac payload header secret now tolerance = .ok () ∨
        ∃ message, verifySignature hmac payload header secret now tolerance =
          .error (webhookError message) := by
  intro always
  have raised : verifySignature ⟨fun _ _ => ['0'], fun _ _ => by decide⟩ [] (some "t=0,v1=é")
      (some "whsec") 0 300 =
        .error (.other "TypeError" "comparing strings with non-ASCII characters is not supported") := by
    decide
  rcases always ⟨fun _ _ => ['0'], fun _ _ => by decide⟩ [] (some "t=0,v1=é") (some "whsec") 0 300 with
    returned | ⟨message, refused⟩
  · cases raised.symm.trans returned
  · cases raised.symm.trans refused

end Verify

end FoodDelivery.Payments
