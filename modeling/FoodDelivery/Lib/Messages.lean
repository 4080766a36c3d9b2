/-
**Messages on a topic, by key.**

What a consumer sees of one key is the messages with that key, in their order, from its position on.
`none_next`: where everything that was sent has one key, and that has been read, nothing is next for any.
-/

import Mathlib.Data.List.Basic

set_option autoImplicit false

namespace FoodDelivery.Lib

/-- Among messages that are all about one key, there is a next one about that key or none. -/
theorem none_next {α : Type} {key : α → Nat} {messages : List α} {read : Nat → Nat} (only : Nat)
    (own : ∀ message ∈ messages, key message = only)
    (here : (messages.filter fun message => key message = only)[read only]? = none)
    (other : Nat) : (messages.filter fun message => key message = other)[read other]? = none := by
  by_cases same : other = only
  · rw [same]
    exact here
  · have none_own : (messages.filter fun message => key message = other) = [] := by
      refine List.filter_eq_nil_iff.mpr fun message member => ?_
      rw [own message member]
      simpa using Ne.symm same
    rw [none_own]
    rfl

end FoodDelivery.Lib
