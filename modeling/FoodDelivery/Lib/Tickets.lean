/-
**Tickets that are redeemed at most once.**

A ticket is a token that is issued to a holder for a time. The store keeps the holder under a key made of
the token; redeeming reads the key and deletes it in one step, and any token may be presented. Beside the
store stand the lists of what was issued and what was redeemed, which no operation reads.

`Office.Sound` is what holds of any sequence of operations whose issued tokens are new, when different
tokens have different keys:

* `Office.Sound.once`, `Office.Sound.inTime`: no token is redeemed twice, and only what was issued is
  redeemed, for the holder it was issued to and in time;
* `Office.Sound.valid_issue`, `Office.valid_redeem`: issuing or redeeming a ticket changes nothing about any
  other.
-/

import FoodDelivery.Lib.Expiring
import Mathlib.Data.List.Nodup

set_option autoImplicit false

namespace FoodDelivery.Lib

variable {τ α T ι κ : Type}

structure Ticket (τ α T : Type) where
  token : τ
  holder : α
  expires : T
deriving DecidableEq

/-- What was redeemed, when, and by whom. -/
structure Redemption (τ α T ι : Type) where
  token : τ
  holder : α
  time : T
  claimant : ι
deriving DecidableEq

structure Office (τ α T ι κ : Type) where
  keys : Keyspace κ α T
  issued : List (Ticket τ α T)
  redeemed : List (Redemption τ α T ι)

/-- Nothing has been issued. -/
def Office.start : Office τ α T ι κ where
  keys := fun _ => none
  issued := []
  redeemed := []

/-! ### The operations -/

section Operations

variable [DecidableEq κ] (keyOf : τ → κ)

def Office.issue (office : Office τ α T ι κ) (ticket : Ticket τ α T) : Office τ α T ι κ :=
  { office with
    keys := office.keys.setEx (keyOf ticket.token) ticket.holder ticket.expires
    issued := office.issued ++ [ticket] }

variable [LT T] [DecidableLT T]

/-- A token is presented: its holder, if it is valid. -/
def Office.redeem (office : Office τ α T ι κ) (token : τ) (now : T) (claimant : ι) :
    Option (Redemption τ α T ι) × Office τ α T ι κ :=
  let (found, keys) := office.keys.getDel (keyOf token) now
  let redemption := found.map fun holder =>
    { token := token, holder := holder, time := now, claimant := claimant }
  (redemption, { office with keys := keys, redeemed := office.redeemed ++ redemption.toList })

variable {keyOf} {office : Office τ α T ι κ} {token : τ} {now : T} {claimant : ι}

/-- Nobody holds what is presented. -/
theorem Office.redeem_of_none (found : office.keys.get (keyOf token) now = none) :
    office.redeem keyOf token now claimant =
      (none, { office with keys := Function.update office.keys (keyOf token) none }) := by
  simp [Office.redeem, Keyspace.getDel, found]

/-- Somebody does. -/
theorem Office.redeem_of_some {holder : α} (found : office.keys.get (keyOf token) now = some holder) :
    let redemption := { token := token, holder := holder, time := now, claimant := claimant }
    office.redeem keyOf token now claimant =
      (some redemption,
        { office with
          keys := Function.update office.keys (keyOf token) none
          redeemed := office.redeemed ++ [redemption] }) := by
  simp [Office.redeem, Keyspace.getDel, found]

end Operations

section Spec

variable [LT T] (keyOf : τ → κ)

/-- The token is one that the holder could redeem now. -/
def Office.Valid [DecidableLT T] (office : Office τ α T ι κ) (now : T) (token : τ) (holder : α) : Prop :=
  office.keys.get (keyOf token) now = some holder

/-- The store holds tickets that were issued and not redeemed; a redemption is of a ticket that was issued,
in its time; and no token is redeemed twice. -/
structure Office.Sound (office : Office τ α T ι κ) : Prop where
  stored : ∀ key kept, office.keys key = some kept → ∃ ticket ∈ office.issued,
    keyOf ticket.token = key ∧ kept = { value := ticket.holder, expires := some ticket.expires } ∧
      ticket.token ∉ office.redeemed.map Redemption.token
  inTime : ∀ redemption ∈ office.redeemed, ∃ ticket ∈ office.issued,
    ticket.token = redemption.token ∧ ticket.holder = redemption.holder ∧
      redemption.time < ticket.expires
  once : (office.redeemed.map Redemption.token).Nodup

end Spec

/-! ### What they keep -/

section Sound

variable [LT T] {keyOf : τ → κ} {office : Office τ α T ι κ} {ticket : Ticket τ α T} {token : τ}
  {holder : α} {now : T}

theorem Office.sound_start : (Office.start : Office τ α T ι κ).Sound keyOf where
  stored _ _ found := by cases found
  inTime _ member := by cases member
  once := List.nodup_nil

theorem Office.Sound.issued_of_redeemed (sound : office.Sound keyOf)
    (redeemed : token ∈ office.redeemed.map Redemption.token) :
    token ∈ office.issued.map Ticket.token := by
  obtain ⟨redemption, member, rfl⟩ := List.mem_map.mp redeemed
  obtain ⟨ticket, there, same, -⟩ := sound.inTime redemption member
  exact List.mem_map.mpr ⟨ticket, there, same⟩

/-- **A new ticket.** -/
theorem Office.Sound.issue [DecidableEq κ] (sound : office.Sound keyOf)
    (fresh : ticket.token ∉ office.issued.map Ticket.token) :
    (office.issue keyOf ticket).Sound keyOf where
  stored key kept found := by
    have found : Function.update office.keys (keyOf ticket.token)
        (some { value := ticket.holder, expires := some ticket.expires }) key = some kept := found
    by_cases own : key = keyOf ticket.token
    · subst own
      rw [Function.update_self] at found
      cases found
      exact ⟨ticket, List.mem_append_right _ (List.mem_singleton_self _), rfl, rfl,
        fun spent => fresh (sound.issued_of_redeemed spent)⟩
    · rw [Function.update_of_ne own] at found
      obtain ⟨other, member, rest⟩ := sound.stored key kept found
      exact ⟨other, List.mem_append_left _ member, rest⟩
  inTime redemption member := by
    obtain ⟨other, there, rest⟩ := sound.inTime redemption member
    exact ⟨other, List.mem_append_left _ there, rest⟩
  once := sound.once

variable [DecidableLT T]

/-- A key is for one ticket: the one whose token it is made of. -/
theorem Office.Sound.of_get (sound : office.Sound keyOf) (injective : Function.Injective keyOf)
    (found : office.keys.get (keyOf token) now = some holder) :
    token ∉ office.redeemed.map Redemption.token ∧
      ∃ ticket ∈ office.issued, ticket.token = token ∧ ticket.holder = holder ∧ now < ticket.expires := by
  obtain ⟨kept, there, alive, rfl⟩ := Keyspace.get_eq_some.mp found
  obtain ⟨ticket, member, same, rfl, unspent⟩ := sound.stored _ _ there
  obtain rfl := injective same
  exact ⟨unspent, ticket, member, rfl, rfl, by simpa [Lasting.alive] using alive⟩

variable [DecidableEq κ]

/-- **A token is presented**, whatever it is. -/
theorem Office.Sound.redeem (sound : office.Sound keyOf) (injective : Function.Injective keyOf)
    (token : τ) (now : T) (claimant : ι) : (office.redeem keyOf token now claimant).2.Sound keyOf := by
  have kept_before : ∀ key kept, Function.update office.keys (keyOf token) none key = some kept →
      key ≠ keyOf token ∧ office.keys key = some kept := by
    intro key kept found
    by_cases own : key = keyOf token
    · rw [own, Function.update_self] at found
      cases found
    · rw [Function.update_of_ne own] at found
      exact ⟨own, found⟩
  cases found : office.keys.get (keyOf token) now with
  | none =>
    rw [Office.redeem_of_none found]
    refine ⟨fun key kept there => ?_, sound.inTime, sound.once⟩
    exact sound.stored key kept (kept_before key kept there).2
  | some holder =>
    obtain ⟨unspent, ticket, member, same, own, time⟩ := sound.of_get injective found
    rw [Office.redeem_of_some found]
    refine ⟨fun key kept there => ?_, fun redemption listed => ?_, ?_⟩
    · obtain ⟨other, before⟩ := kept_before key kept there
      obtain ⟨ticket', member', rfl, rest, unspent'⟩ := sound.stored key kept before
      refine ⟨ticket', member', rfl, rest, ?_⟩
      rw [List.map_append, List.mem_append, List.map_singleton, List.mem_singleton]
      rintro (spent | now_spent)
      · exact unspent' spent
      · exact other (congrArg keyOf now_spent)
    · rcases List.mem_append.mp listed with earlier | new
      · exact sound.inTime redemption earlier
      · obtain rfl := List.mem_singleton.mp new
        exact ⟨ticket, member, same, own, time⟩
    · rw [List.map_append, List.map_singleton, ← List.concat_eq_append, List.nodup_concat]
      exact ⟨unspent, sound.once⟩

/-! ### The other tickets -/

/-- **Issuing a ticket** changes nothing for any other token or holder. -/
theorem Office.Sound.valid_issue (sound : office.Sound keyOf) (injective : Function.Injective keyOf)
    (fresh : ticket.token ∉ office.issued.map Ticket.token)
    (other : token = ticket.token → holder ≠ ticket.holder) :
    (office.issue keyOf ticket).Valid keyOf now token holder ↔ office.Valid keyOf now token holder := by
  unfold Office.Valid Office.issue
  by_cases same : token = ticket.token
  · subst same
    rw [Keyspace.get_setEx_self]
    constructor
    · intro found
      split at found
      · exact absurd (Option.some_inj.mp found).symm (other rfl)
      · cases found
    · intro found
      obtain ⟨-, earlier, member, same, -⟩ := sound.of_get injective found
      exact absurd (List.mem_map.mpr ⟨earlier, member, same⟩) fresh
  · rw [Keyspace.get_setEx_of_ne fun key => same (injective key)]

/-- **Presenting a token** changes nothing but for that token and the holder it is redeemed for. -/
theorem Office.valid_redeem (injective : Function.Injective keyOf) {presented : τ} {claimant : ι}
    (other : token = presented → office.keys.get (keyOf presented) now ≠ some holder) :
    (office.redeem keyOf presented now claimant).2.Valid keyOf now token holder ↔
      office.Valid keyOf now token holder := by
  show (office.keys.getDel (keyOf presented) now).2.get (keyOf token) now = some holder ↔
    office.keys.get (keyOf token) now = some holder
  by_cases same : token = presented
  · subst same
    rw [Keyspace.get_getDel_self]
    exact iff_of_false (Option.some_ne_none holder).symm (other rfl)
  · rw [Keyspace.get_getDel_of_ne fun key => same (injective key)]

end Sound

end FoodDelivery.Lib
