/-
**How to reach a user** (`services/notifications/app/consumer.py`, `models.py`): the contacts that the
notifications service keeps from `user-contact-events`.
-/

import FoodDelivery.Lib.Table

set_option autoImplicit false

namespace FoodDelivery.Notifications

open FoodDelivery.Lib (Table)

structure Contact where
  userId : Nat
  email : Option String := none
  phone : Option String := none
deriving DecidableEq, Repr

/-- The payload of `user-contact-events`; a key that is missing or null is `none`. -/
structure ContactEvent where
  userId : Option Nat
  email : Option String := none
  phone : Option String := none
deriving DecidableEq, Repr

/-- `_handle_contact`: keep the contacts read-model current. -/
def handleContact (contacts : Table Nat Contact Contact.userId) (payload : ContactEvent) :
    Table Nat Contact Contact.userId :=
  match payload.userId with
  | none => contacts
  | some userId =>
    let contact := (contacts.find? userId).getD { userId := userId }
    contacts.put
      { contact with
        email := payload.email.or contact.email
        phone := payload.phone.or contact.phone }

/-- **An event with both details** writes exactly these. -/
theorem handleContact_full (contacts : Table Nat Contact Contact.userId) (userId : Nat)
    (email phone : String) :
    handleContact contacts { userId := some userId, email := some email, phone := some phone } =
      contacts.put { userId := userId, email := some email, phone := some phone } := by
  unfold handleContact
  dsimp only
  congr 1
  cases found : contacts.find? userId with
  | none => rfl
  | some contact => simp [Table.key_of_find? found]

end FoodDelivery.Notifications
