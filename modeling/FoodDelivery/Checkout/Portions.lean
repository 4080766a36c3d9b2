/-
**The portions in a cart.**

What Redis holds is a quantity for each item. To say what becomes of the food that was put into a cart,
every portion gets a number of its own when it is put in. A `Content` is what Redis holds with the portions
it stands for, as many of each item as the cart says (`counted`); the cart of a `Content` is changed by the
code's own functions, and the portions follow.
-/

import FoodDelivery.Orders.Cart

set_option autoImplicit false

namespace FoodDelivery.Checkout

open FoodDelivery.Orders (MenuRow StoredCart)

/-- One portion of a dish. -/
structure Portion where
  id : Nat
  menuItemId : Nat
deriving DecidableEq, Repr

/-- How many of the portions are of an item. -/
def portionsOf (portions : List Portion) (menuItemId : Nat) : Nat :=
  (portions.filter fun portion => portion.menuItemId = menuItemId).length

/-- Portions of an item, numbered from `first` on. -/
def newPortions (first menuItemId count : Nat) : List Portion :=
  (List.range count).map fun k => { id := first + k, menuItemId := menuItemId }

/-- The portions when an item's are set to a quantity: the others, as many of the item's as are left, and
new ones when there are more. -/
def resized (portions : List Portion) (first menuItemId quantity : Nat) : List Portion :=
  (portions.filter fun portion => portion.menuItemId ≠ menuItemId) ++
    ((portions.filter fun portion => portion.menuItemId = menuItemId).take quantity ++
      newPortions first menuItemId (quantity - portionsOf portions menuItemId))

/-! ### Counting -/

variable {portions : List Portion} {first menuItemId quantity id : Nat}

theorem portionsOf_append (portions more : List Portion) (id : Nat) :
    portionsOf (portions ++ more) id = portionsOf portions id + portionsOf more id := by
  simp [portionsOf]

theorem mem_newPortions {portion : Portion} (member : portion ∈ newPortions first menuItemId quantity) :
    portion.menuItemId = menuItemId ∧ first ≤ portion.id ∧ portion.id < first + quantity := by
  obtain ⟨k, small, rfl⟩ := List.mem_map.mp member
  have bound := List.mem_range.mp small
  exact ⟨rfl, Nat.le_add_right first k, Nat.add_lt_add_left bound first⟩

theorem nodup_newPortions (first menuItemId quantity : Nat) :
    (newPortions first menuItemId quantity).Nodup := by
  refine List.Nodup.map ?_ List.nodup_range
  intro k j same
  have ids : first + k = first + j := congrArg Portion.id same
  omega

/-- Portions of one item count for that item only. -/
theorem portionsOf_of_forall (all : ∀ portion ∈ portions, portion.menuItemId = menuItemId) (id : Nat) :
    portionsOf portions id = if id = menuItemId then portions.length else 0 := by
  unfold portionsOf
  by_cases same : id = menuItemId
  · rw [if_pos same, List.filter_eq_self.mpr]
    intro portion member
    simp [all portion member, same]
  · rw [if_neg same, List.filter_eq_nil_iff.mpr]
    · rfl
    · intro portion member
      have other : menuItemId ≠ id := fun equal => same equal.symm
      simp [all portion member, other]

theorem portionsOf_newPortions (first menuItemId quantity id : Nat) :
    portionsOf (newPortions first menuItemId quantity) id = if id = menuItemId then quantity else 0 := by
  rw [portionsOf_of_forall fun portion member => (mem_newPortions member).1]
  simp [newPortions]

theorem portionsOf_resized (portions : List Portion) (first menuItemId quantity id : Nat) :
    portionsOf (resized portions first menuItemId quantity) id =
      if id = menuItemId then quantity else portionsOf portions id := by
  have kept : portionsOf ((portions.filter fun portion => portion.menuItemId = menuItemId).take
      quantity) id = if id = menuItemId then min quantity (portionsOf portions menuItemId) else 0 := by
    rw [portionsOf_of_forall fun portion member => by
      simpa using (List.mem_filter.mp (List.mem_of_mem_take member)).2]
    rw [List.length_take]
    rfl
  unfold resized
  rw [portionsOf_append, portionsOf_append, kept, portionsOf_newPortions]
  by_cases same : id = menuItemId
  · subst same
    have gone : portionsOf (portions.filter fun portion => portion.menuItemId ≠ id) id = 0 := by
      simp [portionsOf, List.filter_filter]
    simp only [if_true, gone]
    omega
  · have stays : portionsOf (portions.filter fun portion => portion.menuItemId ≠ menuItemId) id =
        portionsOf portions id := by
      unfold portionsOf
      rw [List.filter_filter]
      congr 1
      apply List.filter_congr
      intro portion _
      by_cases own : portion.menuItemId = id
      · simp [own, same]
      · simp [own]
    rw [stays, if_neg same, if_neg same, if_neg same]
    rfl

/-! ### No portion twice -/

theorem nodup_append_new (nodup : portions.Nodup) (old : ∀ portion ∈ portions, portion.id < first) :
    (portions ++ newPortions first menuItemId quantity).Nodup := by
  refine List.nodup_append.mpr ⟨nodup, nodup_newPortions _ _ _, fun before member after fresh => ?_⟩
  rintro rfl
  have small := old before member
  have large := (mem_newPortions fresh).2.1
  omega

theorem nodup_resized (nodup : portions.Nodup) (old : ∀ portion ∈ portions, portion.id < first) :
    (resized portions first menuItemId quantity).Nodup := by
  unfold resized
  rw [← List.append_assoc]
  refine nodup_append_new (List.nodup_append.mpr ⟨nodup.filter _, ?_, ?_⟩) ?_
  · exact (nodup.filter _).sublist (List.take_sublist _ _)
  · intro other elsewhere own here
    rintro rfl
    have not_own := (List.mem_filter.mp elsewhere).2
    have is_own := (List.mem_filter.mp (List.mem_of_mem_take here)).2
    simp only [decide_eq_true_eq] at not_own is_own
    exact not_own is_own
  · intro portion member
    rcases List.mem_append.mp member with elsewhere | here
    · exact old portion (List.mem_filter.mp elsewhere).1
    · exact old portion (List.mem_filter.mp (List.mem_of_mem_take here)).1

theorem mem_resized {portion : Portion}
    (member : portion ∈ resized portions first menuItemId quantity) :
    portion ∈ portions ∨ portion ∈ newPortions first menuItemId quantity := by
  unfold resized at member
  rcases List.mem_append.mp member with elsewhere | rest
  · exact Or.inl (List.mem_filter.mp elsewhere).1
  · rcases List.mem_append.mp rest with here | new
    · exact Or.inl (List.mem_filter.mp (List.mem_of_mem_take here)).1
    · obtain ⟨k, small, rfl⟩ := List.mem_map.mp new
      have bound := List.mem_range.mp small
      exact Or.inr (List.mem_map.mpr ⟨k, List.mem_range.mpr (by omega), rfl⟩)

/-! ### What Redis holds -/

/-- A cart with the portions it stands for. -/
structure Content where
  cart : StoredCart
  portions : List Portion
  counted : ∀ id, portionsOf portions id = cart.quantity id

/-- No key. -/
def Content.empty : Content := ⟨{}, [], fun _ => rfl⟩

/-- `add_item`, with new portions numbered from `first` on. -/
def Content.addItem (content : Content) (first menuItemId quantity : Nat) (item : MenuRow) :
    Except Raised Content :=
  match outcome : Orders.addItem content.cart menuItemId quantity item with
  | .error raised => .error raised
  | .ok cart =>
    .ok
      { cart := cart
        portions := content.portions ++ newPortions first menuItemId quantity
        counted := fun id => by
          rw [portionsOf_append, portionsOf_newPortions, content.counted,
            Orders.quantity_addItem outcome] }

/-- `update_item`. -/
def Content.updateItem (content : Content) (first menuItemId quantity : Nat) :
    Except Raised Content :=
  match outcome : Orders.updateItem content.cart menuItemId quantity with
  | .error raised => .error raised
  | .ok cart =>
    .ok
      { cart := cart
        portions := resized content.portions first menuItemId quantity
        counted := fun id => by
          rw [portionsOf_resized, Orders.quantity_updateItem outcome, content.counted] }

variable {content next : Content}

theorem Content.addItem_ok {item : MenuRow}
    (outcome : content.addItem first menuItemId quantity item = .ok next) :
    Orders.addItem content.cart menuItemId quantity item = .ok next.cart ∧
      next.portions = content.portions ++ newPortions first menuItemId quantity := by
  unfold Content.addItem at outcome
  split at outcome
  · cases outcome
  · rename_i cart saved
    cases outcome
    exact ⟨saved, rfl⟩

theorem Content.updateItem_ok (outcome : content.updateItem first menuItemId quantity = .ok next) :
    Orders.updateItem content.cart menuItemId quantity = .ok next.cart ∧
      next.portions = resized content.portions first menuItemId quantity := by
  unfold Content.updateItem at outcome
  split at outcome
  · cases outcome
  · rename_i cart saved
    cases outcome
    exact ⟨saved, rfl⟩

end FoodDelivery.Checkout
