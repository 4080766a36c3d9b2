/-
**A customer's saved restaurants** (`services/users/app/favorites.py`).

A row is a customer and a restaurant, each pair once. `add` does not look whether the pair is there: it
inserts, and the unique constraint turns a second tap into nothing, though its id is spent. What is saved
is read newest first, by the ids.

`restaurantIds_run`: whatever all the customers did, one customer's list is what their own saves and
removals make of it.
-/

import FoodDelivery.Lib.Pages
import FoodDelivery.Lib.Runs
import FoodDelivery.Lib.Table
import FoodDelivery.Shared.Basic

set_option autoImplicit false

namespace FoodDelivery.Users

open FoodDelivery.Lib

/-! ### The table -/

/-- An id that a request can carry: `BodyId`, `EntityId`. -/
abbrev RowId := { id : Nat // 1 ≤ id ∧ id ≤ 2147483647 }

/-- One row per (user, restaurant) pair. -/
structure Favorite where
  id : Nat
  userId : Nat
  restaurantId : RowId
deriving DecidableEq

/-- `uq_favorite_user_restaurant`. -/
def Favorite.pair (favorite : Favorite) : Nat × RowId := (favorite.userId, favorite.restaurantId)

/-- The rows, and what the sequence of the ids gives next. -/
structure Favorites where
  rows : Table (Nat × RowId) Favorite Favorite.pair := .empty
  nextId : Nat := 1

/-! ### The code -/

/-- Favourite a restaurant: the insert is rolled back when the pair is there. -/
def Favorites.add (s : Favorites) (userId : Nat) (restaurantId : RowId) : Favorites :=
  match s.rows.find? (userId, restaurantId) with
  | some _ => { s with nextId := s.nextId + 1 }
  | none =>
    { rows := s.rows.put { id := s.nextId, userId := userId, restaurantId := restaurantId }
      nextId := s.nextId + 1 }

/-- Unfavourite, and whether anything was removed. -/
def Favorites.remove (s : Favorites) (userId : Nat) (restaurantId : RowId) : Bool × Favorites :=
  ((s.rows.find? (userId, restaurantId)).isSome,
    { s with rows := s.rows.filter fun row => row.pair ≠ (userId, restaurantId) })

/-- The saved restaurant ids, most recently saved first. -/
def Favorites.restaurantIds (s : Favorites) (userId : Nat) : List RowId :=
  ((s.rows.rows.filter fun row => row.userId = userId).mergeSort fun first second =>
    second.id ≤ first.id).map Favorite.restaurantId

/-- `GET /favorites`: saved restaurant ids, paged. -/
def Favorites.listMyFavorites (s : Favorites) (userId limit offset : Nat) : List RowId :=
  page offset limit (s.restaurantIds userId)

/-- `DELETE /favorites/{restaurant_id}`. -/
def Favorites.removeFavorite (s : Favorites) (userId : Nat) (restaurantId : RowId) :
    Except AppException Favorites :=
  match s.remove userId restaurantId with
  | (true, next) => .ok next
  | (false, _) => .error (notFoundException "Favorite" (toString restaurantId.val))

/-- What a customer taps. -/
inductive Tap where
  | save (restaurantId : RowId)
  | unsave (restaurantId : RowId)

/-- A tap of a customer. -/
def Favorites.step (s : Favorites) (tap : Nat × Tap) : Favorites :=
  match tap.2 with
  | .save restaurantId => s.add tap.1 restaurantId
  | .unsave restaurantId => (s.remove tap.1 restaurantId).2

/-! ### What it is for -/

/-- A list of what is saved, newest first: a second save changes nothing, also not the place. -/
def tapped (saved : List RowId) : Tap → List RowId
  | .save restaurantId => if restaurantId ∈ saved then saved else restaurantId :: saved
  | .unsave restaurantId => saved.filter fun other => other ≠ restaurantId

/-- The taps of one customer. -/
def tapsOf (userId : Nat) (taps : List (Nat × Tap)) : List Tap :=
  (taps.filter fun tap => tap.1 = userId).map Prod.snd

/-! ### The rows stand in the order of their ids -/

/-- The rows are older than those after them. -/
structure Favorites.Ordered (s : Favorites) : Prop where
  rows : s.rows.rows.Pairwise fun earlier later => earlier.id < later.id
  next : ∀ row ∈ s.rows.rows, row.id < s.nextId

/-- One customer's rows. -/
def Favorites.own (s : Favorites) (userId : Nat) : List RowId :=
  (s.rows.rows.filter fun row => row.userId = userId).map Favorite.restaurantId

variable {s : Favorites}

/-- What came one after the other, sorted newest first. -/
theorem mergeSort_newest {α : Type} {age : α → Nat} {rows : List α}
    (ordered : rows.Pairwise fun earlier later => age earlier < age later) :
    rows.mergeSort (fun first second => age second ≤ age first) = rows.reverse := by
  have sorted : (rows.mergeSort fun first second => age second ≤ age first).Pairwise
      fun first second => decide (age second ≤ age first) = true := by
    refine List.pairwise_mergeSort (fun first second third => ?_) (fun first second => ?_) rows
    · simp only [decide_eq_true_eq]
      exact fun newer newer' => newer'.trans newer
    · simpa using Nat.le_total (age second) (age first)
  have reversed : rows.reverse.Pairwise fun first second => decide (age second ≤ age first) = true :=
    List.pairwise_reverse.mpr (ordered.imp fun earlier => decide_eq_true earlier.le)
  have distinct : (rows.map age).Nodup :=
    List.Pairwise.map age (fun _ _ earlier => earlier.ne) ordered
  refine ((List.mergeSort_perm _ _).trans (List.reverse_perm rows).symm).eq_of_pairwise
    (fun first second member member' older newer => ?_) sorted reversed
  have same : age first = age second :=
    Nat.le_antisymm (of_decide_eq_true newer) (of_decide_eq_true older)
  exact List.inj_on_of_nodup_map distinct (List.mem_mergeSort.mp member) (List.mem_reverse.mp member') same

theorem Favorites.Ordered.restaurantIds_eq (ordered : s.Ordered) (userId : Nat) :
    s.restaurantIds userId = (s.own userId).reverse := by
  rw [restaurantIds, own, mergeSort_newest (ordered.rows.sublist List.filter_sublist), List.map_reverse]

/-! ### A tap -/

theorem Favorites.find?_eq_none_iff {userId : Nat} {restaurantId : RowId} :
    s.rows.find? (userId, restaurantId) = none ↔ restaurantId ∉ s.own userId := by
  rw [Table.find?_eq_none, own, List.mem_map]
  constructor
  · rintro none ⟨row, member, rfl⟩
    obtain ⟨stored, same⟩ := List.mem_filter.mp member
    exact none row stored (Prod.ext (of_decide_eq_true same) rfl)
  · intro none row stored same
    obtain ⟨rfl, rfl⟩ := Prod.mk.inj same
    exact none ⟨row, List.mem_filter.mpr ⟨stored, decide_eq_true rfl⟩, rfl⟩

/-- A new pair goes to the end. -/
theorem Favorites.rows_add {userId : Nat} {restaurantId : RowId}
    (fresh : s.rows.find? (userId, restaurantId) = none) :
    (s.rows.put { id := s.nextId, userId := userId, restaurantId := restaurantId }).rows =
      s.rows.rows ++ [{ id := s.nextId, userId := userId, restaurantId := restaurantId }] := by
  have absent : Favorite.pair { id := s.nextId, userId := userId, restaurantId := restaurantId } ∉
      s.rows.rows.map Favorite.pair := by
    intro present
    obtain ⟨row, stored, same⟩ := List.mem_map.mp present
    exact Table.find?_eq_none.mp fresh row stored same
  rw [Table.put, dif_neg absent]

/-- **A tap keeps the rows in order.** -/
theorem Favorites.Ordered.step (ordered : s.Ordered) (tap : Nat × Tap) : (s.step tap).Ordered := by
  obtain ⟨userId, tap⟩ := tap
  cases tap with
  | save restaurantId =>
    change (s.add userId restaurantId).Ordered
    unfold add
    split
    · exact ⟨ordered.rows, fun row stored => (ordered.next row stored).trans (Nat.lt_succ_self _)⟩
    · rename_i fresh
      refine ⟨?_, fun row stored => ?_⟩
      · rw [rows_add fresh]
        refine List.pairwise_append.mpr ⟨ordered.rows, List.pairwise_singleton _ _, ?_⟩
        intro row stored new same
        rw [List.mem_singleton.mp same]
        exact ordered.next row stored
      · rcases Table.mem_put.mp stored with rfl | ⟨before, -⟩
        · exact Nat.lt_succ_self _
        · exact (ordered.next row before).trans (Nat.lt_succ_self _)
  | unsave restaurantId =>
    exact ⟨ordered.rows.sublist List.filter_sublist,
      fun row stored => ordered.next row (List.mem_filter.mp stored).1⟩

theorem Favorites.own_add (caller userId : Nat) (restaurantId : RowId) :
    (s.add caller restaurantId).own userId =
      if caller = userId ∧ restaurantId ∉ s.own userId then s.own userId ++ [restaurantId]
      else s.own userId := by
  unfold add
  split
  · rename_i row found
    have saved : caller = userId → restaurantId ∈ s.own userId := by
      rintro rfl
      by_contra unsaved
      rw [find?_eq_none_iff.mpr unsaved] at found
      cases found
    rw [if_neg fun both => both.2 (saved both.1)]
    rfl
  · rename_i fresh
    have rows := rows_add fresh
    rw [own, rows, List.filter_append, List.map_append]
    by_cases here : caller = userId
    · subst here
      rw [if_pos ⟨rfl, find?_eq_none_iff.mp fresh⟩]
      simp [own]
    · simp [own, here]

theorem Favorites.own_remove (caller userId : Nat) (restaurantId : RowId) :
    (s.remove caller restaurantId).2.own userId =
      if caller = userId then (s.own userId).filter fun other => other ≠ restaurantId
      else s.own userId := by
  change (((s.rows.rows.filter fun row => row.pair ≠ (caller, restaurantId)).filter
    fun row => row.userId = userId).map Favorite.restaurantId) = _
  unfold own
  rw [List.filter_filter]
  by_cases here : caller = userId
  · subst here
    rw [if_pos rfl, List.filter_map, List.filter_filter]
    refine congrArg (List.map _) (List.filter_congr fun row _ => ?_)
    by_cases same : row.userId = caller <;> simp [Favorite.pair, same]
  · rw [if_neg here]
    refine congrArg (List.map _) (List.filter_congr fun row _ => ?_)
    by_cases same : row.userId = userId
    · simp [Favorite.pair, same, Ne.symm here]
    · simp [same]

/-- **What a tap does to a list**: the customer's own changes as it should, and no other. -/
theorem Favorites.restaurantIds_step (ordered : s.Ordered) (tap : Nat × Tap) (userId : Nat) :
    (s.step tap).restaurantIds userId =
      if tap.1 = userId then tapped (s.restaurantIds userId) tap.2 else s.restaurantIds userId := by
  rw [(ordered.step tap).restaurantIds_eq, ordered.restaurantIds_eq]
  obtain ⟨caller, tap⟩ := tap
  cases tap with
  | save restaurantId =>
    change ((s.add caller restaurantId).own userId).reverse = _
    rw [own_add, tapped]
    by_cases here : caller = userId
    · by_cases saved : restaurantId ∈ s.own userId <;> simp [here, saved]
    · simp [here]
  | unsave restaurantId =>
    change ((s.remove caller restaurantId).2.own userId).reverse = _
    rw [own_remove, tapped]
    by_cases here : caller = userId
    · simp only [here, if_true, List.filter_reverse]
    · simp only [here, if_false]

/-! ### Runs -/

/-- **A customer's list is what their own taps make of it**, in every run of everybody's. -/
theorem Favorites.restaurantIds_run (ordered : s.Ordered) (taps : List (Nat × Tap)) (userId : Nat) :
    (run Favorites.step s taps).restaurantIds userId =
      (tapsOf userId taps).foldl tapped (s.restaurantIds userId) := by
  induction taps generalizing s with
  | nil => rfl
  | cons tap taps hyp =>
    rw [run, List.foldl_cons]
    refine (hyp (ordered.step tap)).trans ?_
    rw [restaurantIds_step ordered, tapsOf, tapsOf]
    by_cases own : tap.1 = userId <;> simp [own]

/-- What is saved is saved once. -/
theorem tapped_nodup {saved : List RowId} (once : saved.Nodup) (tap : Tap) : (tapped saved tap).Nodup := by
  cases tap with
  | save restaurantId =>
    simp only [tapped]
    split
    · exact once
    · rename_i unsaved
      exact List.nodup_cons.mpr ⟨unsaved, once⟩
  | unsave restaurantId => exact once.filter _

theorem foldl_tapped_nodup (taps : List Tap) {saved : List RowId} (once : saved.Nodup) :
    (taps.foldl tapped saved).Nodup := by
  induction taps generalizing saved with
  | nil => exact once
  | cons tap taps hyp => exact hyp (tapped_nodup once tap)

end FoodDelivery.Users
