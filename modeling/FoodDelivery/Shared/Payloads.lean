/-
**What becomes of one message** (`shared/messaging.py`, `unwrap`, `EventConsumer._dispatch` and
`EventConsumer._handle`; `_HANDLERS` of every service).

A message that is no JSON is acknowledged and skipped. JSON that is not an object is handed to the handler,
which takes it for a dict and raises, so the message is redelivered; and a text that nests too deeply ends
in a `RecursionError`, which `_handle` does not catch. What a handler does with an object is a parameter,
and so is whether the event loop ends the call in time.

* `handle_iff`: a message that no redelivery can mend is acknowledged exactly when it is neither of the
  two; what is flat and what is in an envelope reaches the handler as the same dict.
-/

import FoodDelivery.Lib.JsonWriter
import FoodDelivery.Shared.Basic

set_option autoImplicit false

namespace FoodDelivery.Shared

open FoodDelivery.Lib

/-! ### The payload of a message -/

/-- The members of an object. -/
abbrev Members := List (List Nat × Json)

/-- `unwrap`. -/
def unwrap (value : Json) : Json :=
  match value with
  | .obj members =>
    match members.lookup (codePoints "data") with
    | some (.obj data) => .obj data
    | _ => value
  | _ => value

/-- `raw.decode("utf-8")`. -/
def decode (raw : ByteArray) : Option (List Char) := (String.fromUTF8? raw).map String.toList

/-- `unwrap(json.loads(raw.decode("utf-8")))`; a `UnicodeDecodeError` is a `ValueError`. -/
def received (limit : Nat) (raw : ByteArray) : Except ScanError Json :=
  match decode raw with
  | none => .error .valueError
  | some text => (loads (some limit) text).map unwrap

/-! ### The handlers -/

inductive Service where
  | admin
  | delivery
  | notifications
  | orders
  | payments
  | restaurants
  | users
deriving DecidableEq, Repr

/-- What a handler does first with its payload: `payload.get(..)`, or `OrderStatusEvent(**payload)`. -/
inductive FirstUse where
  | get
  | unpack
deriving DecidableEq, Repr

/-- `_HANDLERS`. -/
def Service.handlers : Service → List (String × FirstUse)
  | .admin =>
    [("order-events", .get), ("user-events", .get), ("user-contact-events", .get),
      ("restaurant-events", .get)]
  | .delivery => [("order-events", .get), ("user-events", .get), ("restaurant-events", .get)]
  | .notifications =>
    [("order-events", .unpack), ("notification-events", .get), ("user-contact-events", .get),
      ("restaurant-events", .get)]
  | .orders =>
    [("payment-events", .get), ("delivery-events", .get), ("address-events", .get),
      ("restaurant-events", .get), ("user-events", .get)]
  | .payments => [("order-events", .get), ("payment-commands", .get)]
  | .restaurants => [("order-events", .get), ("user-events", .get), ("restaurant-registrations", .get)]
  | .users => [("restaurant-events", .get)]

/-- `type(value).__name__`. -/
def typeName : Json → String
  | .null => "NoneType"
  | .bool _ => "bool"
  | .int _ => "int"
  | .float _ => "float"
  | .str _ => "str"
  | .arr _ => "list"
  | .obj _ => "dict"

/-- What the first use of something other than a dict raises. -/
def FirstUse.raised (use : FirstUse) (payload : Json) : Raised :=
  match use with
  | .get => .other "AttributeError" ("'" ++ typeName payload ++ "' object has no attribute 'get'")
  | .unpack =>
    .other "TypeError" ("app.schemas.OrderStatusEvent() argument after ** must be a mapping, not " ++
      typeName payload)

/-- How the handlers end with a payload that is a dict. -/
abbrev Endings := Service → String → Members → Except Raised Unit

/-- `EventConsumer._dispatch`. -/
def dispatch (endings : Endings) (service : Service) (topic : String) (payload : Json) :
    Except Raised Unit :=
  match service.handlers.lookup topic with
  | none => .ok ()
  | some use =>
    match payload with
    | .obj members => endings service topic members
    | _ => .error (use.raised payload)

/-- `EventConsumer._handle`: True is "acknowledge", False "redeliver". `limit` is how many arrays and
objects `json.loads` may open, and `interrupted` what the call raises where the event loop is closed or
takes longer than the timeout. -/
def handle (limit : Nat) (endings : Endings) (interrupted : Option Raised) (service : Service)
    (topic : String) (raw : ByteArray) : Except ScanError Bool :=
  match received limit raw with
  | .error .valueError => .ok true
  | .error .recursionError => .error .recursionError
  | .ok payload =>
    match interrupted, dispatch endings service topic payload with
    | none, .ok () => .ok true
    | _, _ => .ok false

/-! ### The publishers -/

/-- `json.dumps(value).encode("utf-8")`. -/
def encode (value : Json) : ByteArray := (String.ofList (dumps value)).toUTF8

/-- `{id, event_type, data}`. -/
def envelope (id eventType : Json) (payload : Members) : Json :=
  .obj [(codePoints "id", id), (codePoints "event_type", eventType), (codePoints "data", .obj payload)]

/-- What is recorded for publication: the topic, and the names of the payload. -/
def publications : List (String × List String) :=
  [ ("order-events", ["order_id", "status", "customer_id", "customer_name", "restaurant_id",
      "restaurant_name", "total", "payment_method", "payment_status", "destination_latitude",
      "destination_longitude"]),
    ("payment-commands", ["order_id", "action", "amount"]),
    ("payment-events", ["order_id", "payment_status", "provider", "amount"]),
    ("delivery-events", ["order_id", "status", "driver_id"]),
    ("restaurant-events", ["restaurant_id", "owner_id", "name", "is_open", "approval_status"]),
    ("restaurant-registrations", ["owner_id", "name", "city", "address_line", "phone", "cuisine",
      "description", "food_type"]),
    ("user-events", ["user_id", "role", "first_name", "last_name", "is_active"]),
    ("user-contact-events", ["user_id", "email", "phone"]),
    ("address-events", ["address_id", "user_id", "city", "latitude", "longitude"]),
    ("notification-events", ["user_id", "type", "message", "order_id"]),
    ("notification-events", ["user_id", "type", "channel", "to", "subject", "message"]),
    ("notification-events", ["channel", "to", "type", "subject", "message"]) ]

/-- The dict is one that a service publishes. -/
def Published (payload : Members) : Prop :=
  ∃ publication ∈ publications, payload.map Prod.fst = publication.2.map codePoints

/-- The dict has no `data` that is a dict. -/
def Flat (payload : Members) : Prop :=
  ∀ data, payload.lookup (codePoints "data") ≠ some (.obj data)

/-- The message is the value, as JSON. -/
def Carries (limit : Nat) (raw : ByteArray) (value : Json) : Prop :=
  ∃ text, decode raw = some text ∧ loads (some limit) text = .ok value

/-! ### What has to hold -/

/-- No redelivery of the message can ever be handled. -/
inductive Hopeless (raw : ByteArray) : Prop where
  | notText (undecodable : decode raw = none)
  | notJson {text : List Char} (decoded : decode raw = some text)
      (unread : ∀ value, loads none text ≠ .ok value)
  | notObject {text : List Char} {value : Json} (decoded : decode raw = some text)
      (read : loads none text = .ok value)
      (other : value.isObject = false ∨ (unwrap value).isObject = false)

/-- The message does not nest deeper than the limit, unless it is an object; and if it is JSON but no object,
no handler takes it and the call ends in time. -/
def Harmless (limit : Nat) (interrupted : Option Raised) (service : Service) (topic : String)
    (raw : ByteArray) : Prop :=
  ∀ text, decode raw = some text →
    (loads (some limit) text = .error .recursionError →
      ∃ members, loads none text = .ok (.obj members)) ∧
    ∀ value, loads none text = .ok value → value.isObject = false →
      service.handlers.lookup topic = none ∧ interrupted = none

/-! ### Envelopes -/

section Envelopes

variable {payload : Members} {limit : Nat} {value : Json} {raw : ByteArray} {text : List Char}

theorem unwrap_flat (flat : Flat payload) : unwrap (.obj payload) = .obj payload := by
  unfold unwrap
  cases found : payload.lookup (codePoints "data") with
  | none => simp only [found]
  | some value =>
    cases value with
    | obj data => exact absurd found (flat data)
    | _ => simp only [found]

theorem unwrap_envelope (id eventType : Json) (payload : Members) :
    unwrap (envelope id eventType payload) = .obj payload := rfl

/-- What is unwrapped is an object when it was one before. -/
theorem isObject_unwrap (value : Json) : (unwrap value).isObject = value.isObject := by
  cases value with
  | obj members =>
    dsimp only [unwrap]
    split
    · rfl
    · rfl
  | _ => rfl

theorem unwrap_other (other : value.isObject = false) : unwrap value = value := by
  cases value with
  | obj members => cases other
  | _ => rfl

theorem names_ne_data :
    ∀ publication ∈ publications, codePoints "data" ∉ publication.2.map codePoints := by
  have own : ∀ publication ∈ publications, "data" ∉ publication.2 := by decide
  intro publication member listed
  exact own publication member ((List.mem_map_of_injective codePoints_injective).mp listed)

/-- No publisher has a `data` of its own. -/
theorem Published.flat (published : Published payload) : Flat payload := by
  obtain ⟨publication, member, names⟩ := published
  intro data found
  obtain ⟨front, back, rfl, -⟩ := List.lookup_eq_some_iff.mp found
  have named : codePoints "data" ∈ publication.2.map codePoints := by
    rw [← names, List.map_append, List.map_cons]
    exact List.mem_append_right _ List.mem_cons_self
  exact names_ne_data publication member named

theorem decode_encode (value : Json) : decode (encode value) = some (dumps value) := by
  have read : String.fromUTF8? (String.ofList (dumps value)).toUTF8 = some (String.ofList (dumps value)) := by
    unfold String.fromUTF8?
    rw [String.toUTF8_eq_toByteArray, dif_pos (String.ofList (dumps value)).isValidUTF8]
    rfl
  unfold decode encode
  rw [read, Option.map_some, String.toList_ofList]

/-- A value that is written is in the message, within the limit. -/
theorem carries_encode (writable : value.Writable) (within : value.depth ≤ limit) :
    Carries limit (encode value) value :=
  ⟨dumps value, decode_encode value, loads_dumps writable fun n bound => by
    obtain rfl := Option.some_inj.mp bound
    exact within⟩

theorem received_eq (decoded : decode raw = some text) :
    received limit raw = (loads (some limit) text).map unwrap := by
  unfold received
  rw [decoded]

theorem Carries.received_eq (carries : Carries limit raw value) :
    received limit raw = .ok (unwrap value) := by
  obtain ⟨text, decoded, read⟩ := carries
  rw [Shared.received_eq decoded, read]
  rfl

end Envelopes

/-! ### Messages that cannot be handled -/

section Messages

variable {limit : Nat} {endings : Endings} {interrupted : Option Raised} {service : Service}
  {topic : String} {raw : ByteArray} {text : List Char} {value : Json}

/-- A text is hopeless when it is not an object, however much may be open. -/
theorem hopeless_iff (decoded : decode raw = some text) :
    Hopeless raw ↔ ∀ members, loads none text ≠ .ok (.obj members) := by
  constructor
  · rintro hopeless members read
    cases hopeless with
    | notText undecodable => rw [decoded] at undecodable; cases undecodable
    | notJson decoded' unread =>
      obtain rfl := Option.some_inj.mp (decoded.symm.trans decoded')
      exact unread _ read
    | notObject decoded' read' other =>
      obtain rfl := Option.some_inj.mp (decoded.symm.trans decoded')
      obtain rfl := Except.ok.inj (read.symm.trans read')
      rw [isObject_unwrap, or_self] at other
      cases other
  · intro noObject
    by_cases unread : ∀ value, loads none text ≠ .ok value
    · exact .notJson decoded unread
    · obtain ⟨value, read⟩ := not_forall_not.mp unread
      refine .notObject decoded read (Or.inl ?_)
      cases value with
      | obj members => exact absurd read (noObject members)
      | _ => rfl

/-- Something other than an object is acknowledged where no handler gets it. -/
theorem handle_other (decoded : decode raw = some text) (read : loads (some limit) text = .ok value)
    (other : value.isObject = false) :
    handle limit endings interrupted service topic raw = .ok true ↔
      service.handlers.lookup topic = none ∧ interrupted = none := by
  unfold handle
  rw [received_eq decoded, read]
  dsimp only [Except.map]
  rw [unwrap_other other]
  cases interrupted with
  | some raised => simp
  | none =>
    cases handler : service.handlers.lookup topic with
    | none => simp [dispatch, handler]
    | some use =>
      have refused : dispatch endings service topic value = .error (use.raised value) := by
        unfold dispatch
        rw [handler]
        cases value with
        | obj members => cases other
        | _ => rfl
      simp [refused]

/-- What cannot be parsed is skipped. -/
theorem handle_valueError (unread : received limit raw = .error .valueError) :
    handle limit endings interrupted service topic raw = .ok true := by
  unfold handle
  rw [unread]

/-- What nests too deeply ends the consumer. -/
theorem handle_recursionError (deep : received limit raw = .error .recursionError) :
    handle limit endings interrupted service topic raw = .error .recursionError := by
  unfold handle
  rw [deep]

theorem harmless_iff (decoded : decode raw = some text) :
    Harmless limit interrupted service topic raw ↔
      (loads (some limit) text = .error .recursionError →
        ∃ members, loads none text = .ok (.obj members)) ∧
      ∀ value, loads none text = .ok value → value.isObject = false →
        service.handlers.lookup topic = none ∧ interrupted = none := by
  constructor
  · exact fun harmless => harmless text decoded
  · intro harmless text' decoded'
    obtain rfl := Option.some_inj.mp (decoded.symm.trans decoded')
    exact harmless

/-- A text that nests too deeply does no harm when it is an object in the end. -/
theorem hopeless_iff_of_deep (decoded : decode raw = some text)
    (deep : loads (some limit) text = .error .recursionError) :
    (Hopeless raw → handle limit endings interrupted service topic raw = .ok true) ↔
      Harmless limit interrupted service topic raw := by
  have ends : handle limit endings interrupted service topic raw = .error .recursionError :=
    handle_recursionError (by rw [received_eq decoded, deep]; rfl)
  rw [hopeless_iff decoded, harmless_iff decoded, ends]
  constructor
  · intro impossible
    obtain ⟨members, object⟩ : ∃ members, loads none text = .ok (.obj members) := by
      by_contra noObject
      exact absurd (impossible fun members object => noObject ⟨members, object⟩) (by simp)
    refine ⟨fun _ => ⟨members, object⟩, fun value read other => ?_⟩
    obtain rfl := Except.ok.inj (object.symm.trans read)
    cases other
  · rintro ⟨object, -⟩ noObject
    obtain ⟨members, read⟩ := object deep
    exact absurd read (noObject members)

/-- A text that is read does no harm when it is an object or nothing takes it. -/
theorem hopeless_iff_of_read (decoded : decode raw = some text)
    (read : loads (some limit) text = .ok value) :
    (Hopeless raw → handle limit endings interrupted service topic raw = .ok true) ↔
      Harmless limit interrupted service topic raw := by
  have unlimited : loads none text = .ok value :=
    (loads_eq_of_ne (by rw [read]; simp)).symm.trans read
  rw [hopeless_iff decoded, harmless_iff decoded, read, unlimited]
  cases kind : value.isObject with
  | true =>
    cases value with
    | obj members =>
      refine iff_of_true (fun noObject => absurd rfl (noObject members)) ⟨by simp, ?_⟩
      intro value' same other
      obtain rfl := Except.ok.inj same
      cases other
    | _ => cases kind
  | false =>
    have noObject : ∀ members, (Except.ok value : Except ScanError Json) ≠ .ok (.obj members) := by
      intro members object
      obtain rfl := Except.ok.inj object
      cases kind
    rw [forall_prop_of_true noObject, handle_other decoded read kind]
    constructor
    · intro unhandled
      exact ⟨by simp, fun _ _ _ => unhandled⟩
    · rintro ⟨-, unhandled⟩
      exact unhandled value rfl kind

/-- **One message.** One that is hopeless is acknowledged exactly when it is harmless. -/
theorem handle_hopeless_iff (limit : Nat) (endings : Endings) (interrupted : Option Raised)
    (service : Service) (topic : String) (raw : ByteArray) :
    (Hopeless raw → handle limit endings interrupted service topic raw = .ok true) ↔
      Harmless limit interrupted service topic raw := by
  cases decoded : decode raw with
  | none =>
    refine iff_of_true (fun _ => handle_valueError ?_) fun text decoded' => ?_
    · unfold received
      rw [decoded]
    · rw [decoded] at decoded'
      cases decoded'
  | some text =>
    cases read : loads (some limit) text with
    | error raised =>
      cases raised with
      | valueError =>
        have unlimited : loads none text = .error .valueError :=
          (loads_eq_of_ne (by rw [read]; simp)).symm.trans read
        refine iff_of_true (fun _ => handle_valueError (by rw [received_eq decoded, read]; rfl)) ?_
        rw [harmless_iff decoded, read, unlimited]
        exact ⟨by simp, by simp⟩
      | recursionError => exact hopeless_iff_of_deep decoded read
    | ok value => exact hopeless_iff_of_read decoded read

end Messages

/-- **A message that no redelivery can mend is acknowledged** exactly when it does not nest too deeply and,
where it is JSON, no handler takes it; and **an envelope makes no difference**. -/
theorem handle_iff (limit : Nat) (endings : Endings) (interrupted : Option Raised) (service : Service)
    (topic : String) (raw : ByteArray) :
    ((Hopeless raw → handle limit endings interrupted service topic raw = .ok true) ↔
      Harmless limit interrupted service topic raw) ∧
    (∀ payload, Flat payload → unwrap (.obj payload) = .obj payload) ∧
    (∀ payload, Published payload → Flat payload) ∧
    (∀ value : Json, value.Writable → value.depth ≤ limit → Carries limit (encode value) value) ∧
    ∀ (payload : Members) (id eventType : Json) (flat wrapped : ByteArray),
      Flat payload → Carries limit flat (.obj payload) →
      Carries limit wrapped (envelope id eventType payload) →
      received limit flat = .ok (.obj payload) ∧ received limit wrapped = .ok (.obj payload) := by
  refine ⟨handle_hopeless_iff limit endings interrupted service topic raw, fun _ => unwrap_flat,
    fun _ => Published.flat, fun _ => carries_encode, ?_⟩
  intro payload id eventType flat wrapped alone plain enveloped
  have first := plain.received_eq
  have second := enveloped.received_eq
  rw [unwrap_flat alone] at first
  rw [unwrap_envelope] at second
  exact ⟨first, second⟩

/-- **A message that blocks its topic**: an empty list. -/
theorem emptyList_redelivered : ¬ ∀ (limit : Nat) (endings : Endings) (interrupted : Option Raised)
    (service : Service) (topic : String) (raw : ByteArray), Hopeless raw →
      handle limit endings interrupted service topic raw = .ok true := by
  intro acknowledged
  have decoded : decode (encode (.arr [])) = some ['[', ']'] := decode_encode _
  have hopeless : Hopeless (encode (.arr [])) := .notObject decoded rfl (Or.inl rfl)
  have done := acknowledged 1000 (fun _ _ _ => .ok ()) none .users "restaurant-events" _ hopeless
  rw [handle_other decoded rfl rfl] at done
  exact absurd done.1 (by decide)

end FoodDelivery.Shared
