/-
**Values with a lifetime.**

A cell holds a value for ever or until a time, from which on it reads as absent; a keyspace is a cell for
every key. The commands are those of Redis: each is one atomic step.

* `Cell.incr` counts on from what can be read and keeps its lifetime, `Cell.expireAt` gives it one;
* `Keyspace.setEx` stores under a key with a lifetime, `Keyspace.getDel` reads a key and deletes it,
  `Keyspace.del` deletes it.
-/

import Mathlib.Logic.Function.Basic
import Mathlib.Order.Lattice

set_option autoImplicit false

namespace FoodDelivery.Lib

/-! ### Cells -/

/-- A value, and the time at which it is gone. -/
structure Lasting (α T : Type) where
  value : α
  expires : Option T
deriving DecidableEq

abbrev Cell (α T : Type) := Option (Lasting α T)

section Cell

variable {α T : Type} [LT T] [DecidableLT T]

/-- The value is still there. -/
def Lasting.alive (kept : Lasting α T) (now : T) : Bool := kept.expires.all fun expires => now < expires

/-- What there is of a cell now. -/
def Cell.read (cell : Cell α T) (now : T) : Cell α T := cell.filter fun kept => kept.alive now

/-- `INCR`: the new count, and the cell with it. -/
def Cell.incr (cell : Cell Nat T) (now : T) : Nat × Cell Nat T :=
  match cell.read now with
  | none => (1, some { value := 1, expires := none })
  | some kept => (kept.value + 1, some { kept with value := kept.value + 1 })

/-- `EXPIRE`, by the time it sets. -/
def Cell.expireAt (cell : Cell α T) (now expires : T) : Cell α T :=
  (cell.read now).map fun kept => { kept with expires := some expires }

end Cell

/-! ### Keys -/

abbrev Keyspace (κ α T : Type) := κ → Cell α T

section Get

variable {κ α T : Type} [LT T] [DecidableLT T] {keys : Keyspace κ α T} {key : κ} {value : α} {now : T}

/-- `GET`. -/
def Keyspace.get (keys : Keyspace κ α T) (key : κ) (now : T) : Option α :=
  ((keys key).read now).map Lasting.value

/-- What is read from a key is kept there and has not expired. -/
theorem Keyspace.get_eq_some : keys.get key now = some value ↔
    ∃ kept, keys key = some kept ∧ kept.alive now = true ∧ kept.value = value := by
  unfold Keyspace.get Cell.read
  simp only [Option.map_eq_some_iff, Option.filter_eq_some_iff, and_assoc]

end Get

section Set

variable {κ α T : Type} [DecidableEq κ] {keys : Keyspace κ α T} {key other : κ} {value : α}
  {now expires : T}

/-- `SET key value EX`. -/
def Keyspace.setEx (keys : Keyspace κ α T) (key : κ) (value : α) (expires : T) : Keyspace κ α T :=
  Function.update keys key (some { value := value, expires := some expires })

/-- `DEL`. -/
def Keyspace.del (keys : Keyspace κ α T) (key : κ) : Keyspace κ α T := Function.update keys key none

variable [LT T] [DecidableLT T]

/-- `GETDEL`. -/
def Keyspace.getDel (keys : Keyspace κ α T) (key : κ) (now : T) : Option α × Keyspace κ α T :=
  (keys.get key now, Function.update keys key none)

/-- The key that is set is read until it expires. -/
theorem Keyspace.get_setEx_self :
    (keys.setEx key value expires).get key now = if now < expires then some value else none := by
  unfold Keyspace.get Keyspace.setEx Cell.read
  rw [Function.update_self]
  by_cases alive : now < expires
  · rw [if_pos alive, Option.filter_some_pos (by simpa [Lasting.alive] using alive)]
    rfl
  · rw [if_neg alive, Option.filter_some_neg (by simpa [Lasting.alive] using alive)]
    rfl

theorem Keyspace.get_setEx_of_ne (different : other ≠ key) :
    (keys.setEx key value expires).get other now = keys.get other now := by
  unfold Keyspace.get Keyspace.setEx
  rw [Function.update_of_ne different]

theorem Keyspace.get_del_self : (keys.del key).get key now = none := by
  unfold Keyspace.get Keyspace.del
  rw [Function.update_self]
  rfl

theorem Keyspace.get_del_of_ne (different : other ≠ key) :
    (keys.del key).get other now = keys.get other now := by
  unfold Keyspace.get Keyspace.del
  rw [Function.update_of_ne different]

theorem Keyspace.get_getDel_self : (keys.getDel key now).2.get key now = none := by
  show ((Function.update keys key none key).read now).map Lasting.value = none
  rw [Function.update_self]
  rfl

theorem Keyspace.get_getDel_of_ne (different : other ≠ key) :
    (keys.getDel key now).2.get other now = keys.get other now := by
  show ((Function.update keys key none other).read now).map Lasting.value = _
  rw [Function.update_of_ne different]
  rfl

end Set

section Order

variable {κ α T : Type} [LinearOrder T] {keys : Keyspace κ α T} {key : κ} {value : α} {now later : T}

/-- What can be read later can be read now, if nothing is written. -/
theorem Keyspace.get_of_later (onward : now ≤ later) (found : keys.get key later = some value) :
    keys.get key now = some value := by
  obtain ⟨kept, stored, alive, same⟩ := Keyspace.get_eq_some.mp found
  refine Keyspace.get_eq_some.mpr ⟨kept, stored, ?_, same⟩
  unfold Lasting.alive at alive ⊢
  cases expires : kept.expires with
  | none => rfl
  | some time =>
    rw [expires] at alive
    exact decide_eq_true (lt_of_le_of_lt onward (of_decide_eq_true alive))

end Order

end FoodDelivery.Lib
