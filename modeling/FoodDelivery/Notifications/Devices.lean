/-
**Push devices and their cap** (`services/notifications/app/preferences.py`).

A token is registered by a user, moves to the next user who registers it, and is dropped when it is
unregistered or when its user registers a new one beyond the cap. A run keeps, besides the table, what the
calls did: who registered or unregistered which token, and which tokens a registration evicted.

`deviceCap_iff`: at every moment a token is held by the user who registered it last, and has neither
unregistered it nor lost it to the cap; what a registration evicts are the caller's, and older than all
that the caller keeps; and nobody ever has more devices than the cap if and only if no registration moves
a token to a user who is at the cap. `movedDevice_over_cap`: such a move leaves one too many.
-/

import FoodDelivery.Lib.Histories
import FoodDelivery.Lib.Ranks
import FoodDelivery.Lib.Table

set_option autoImplicit false

namespace FoodDelivery.Notifications

open FoodDelivery.Lib

/-! ### The table -/

/-- `MAX_DEVICES_PER_USER`. -/
def maxDevicesPerUser : Nat := 10

structure DeviceToken where
  id : Nat
  userId : Nat
  token : String
  platform : String := "web"
deriving DecidableEq, Repr

/-- `device_tokens`, where a token is unique, and the last id the sequence has handed out. -/
structure Devices where
  table : Table String DeviceToken DeviceToken.token
  lastId : Nat

/-- The rows of a user. -/
def Devices.of (s : Devices) (user : Nat) : List DeviceToken :=
  s.table.rows.filter fun device => device.userId = user

/-- The ids that `_evict_oldest_beyond_cap` selects: newest first, from one less than the cap on. -/
def Devices.stale (s : Devices) (user : Nat) : List Nat :=
  beyond (maxDevicesPerUser - 1) ((s.of user).map DeviceToken.id)

/-- `_evict_oldest_beyond_cap`. -/
def Devices.evictOldestBeyondCap (s : Devices) (user : Nat) : Devices :=
  { s with table := s.table.filter fun device => device.id ∉ s.stale user }

/-- Register (or re-point) a push token for a user. -/
def Devices.registerDevice (s : Devices) (user : Nat) (token platform : String) : Devices :=
  match s.table.find? token with
  | some existing =>
    { s with table := s.table.put { existing with userId := user, platform := platform } }
  | none =>
    { table := (s.evictOldestBeyondCap user).table.put
        { id := s.lastId + 1, userId := user, token := token, platform := platform }
      lastId := s.lastId + 1 }

/-- Remove one of the user's tokens, scoped to the caller. -/
def Devices.unregisterDevice (s : Devices) (user : Nat) (token : String) : Devices :=
  { s with table := s.table.filter fun device => !(device.userId = user && device.token = token) }

/-! ### Runs -/

inductive DeviceOperation where
  | registerDevice (user : Nat) (token platform : String)
  | unregisterDevice (user : Nat) (token : String)
deriving DecidableEq, Repr

/-- What a call did. -/
inductive DeviceEntry where
  | registered (user : Nat) (token : String) (evicted : List String)
  | unregistered (user : Nat) (token : String)
deriving DecidableEq, Repr

/-- The table, and what the calls did, in order. -/
structure DeviceRun where
  devices : Devices
  history : List DeviceEntry

/-- The tokens that a registration evicts: none when the token is already there. -/
def Devices.evicted (s : Devices) (user : Nat) (token : String) : List String :=
  match s.table.find? token with
  | some _ => []
  | none => (s.table.rows.filter fun device => device.id ∈ s.stale user).map DeviceToken.token

def DeviceRun.step (r : DeviceRun) : DeviceOperation → DeviceRun
  | .registerDevice user token platform =>
    { devices := r.devices.registerDevice user token platform
      history := r.history ++ [.registered user token (r.devices.evicted user token)] }
  | .unregisterDevice user token =>
    { devices := r.devices.unregisterDevice user token
      history := r.history ++ [.unregistered user token] }

def DeviceRun.start : DeviceRun where
  devices := { table := .empty, lastId := 0 }
  history := []

/-! ### What has to hold -/

/-- Nobody has more devices than the cap. -/
def Capped (r : DeviceRun) : Prop := ∀ user, (r.devices.of user).length ≤ maxDevicesPerUser

def DeviceEntry.Registers (user : Nat) (token : String) : DeviceEntry → Prop
  | .registered user' token' _ => user' = user ∧ token' = token
  | .unregistered _ _ => False

/-- The user loses the token: to another user, to the cap, or by unregistering it. -/
def DeviceEntry.Loses (user : Nat) (token : String) : DeviceEntry → Prop
  | .registered user' token' evicted =>
    (token' = token ∧ user' ≠ user) ∨ (user' = user ∧ token ∈ evicted)
  | .unregistered user' token' => user' = user ∧ token' = token

/-- **A token's user** is the one who has registered it and has not lost it since. -/
def Held (r : DeviceRun) : Prop := ∀ user token,
  (r.devices.table.find? token).map DeviceToken.userId = some user ↔
    Since (fun _ entry => entry.Registers user token) (fun _ entry => entry.Loses user token) r.history

/-- **A registration removes only the caller's devices**, each older than all that the caller keeps. -/
def EvictsOldest (r : DeviceRun) : DeviceOperation → Prop
  | .registerDevice user token platform => ∀ device ∈ r.devices.table.rows,
    (r.devices.registerDevice user token platform).table.find? device.token = none →
      device.userId = user ∧
      ∀ kept ∈ (r.devices.registerDevice user token platform).of user, device.id < kept.id
  | .unregisterDevice _ _ => True

/-- A registration that takes a token from another user comes from a user who is below the cap. -/
def BelowCap (r : DeviceRun) : DeviceOperation → Prop
  | .registerDevice user token _ => ∀ device, r.devices.table.find? token = some device →
    device.userId ≠ user → (r.devices.of user).length < maxDevicesPerUser
  | .unregisterDevice _ _ => True

/-! ### The ids -/

variable {s : Devices} {r : DeviceRun} {user other : Nat} {token platform : String} {device : DeviceToken}

/-- An id is one device's, and was handed out. -/
structure Devices.Numbered (s : Devices) : Prop where
  distinct : ∀ device ∈ s.table.rows, ∀ other ∈ s.table.rows, device.id = other.id → device = other
  bounded : ∀ device ∈ s.table.rows, device.id ≤ s.lastId

theorem mem_of : device ∈ s.of user ↔ device ∈ s.table.rows ∧ device.userId = user := by
  simp [Devices.of]

/-- Deleting rows keeps the ids. -/
theorem Devices.Numbered.filter (numbered : s.Numbered) (keep : DeviceToken → Bool) :
    Devices.Numbered { s with table := s.table.filter keep } where
  distinct device member other member' :=
    numbered.distinct device (List.mem_filter.mp member).1 other (List.mem_filter.mp member').1
  bounded device member := numbered.bounded device (List.mem_filter.mp member).1

theorem Devices.Numbered.registerDevice (numbered : s.Numbered) (user : Nat) (token platform : String) :
    (s.registerDevice user token platform).Numbered := by
  unfold Devices.registerDevice
  cases found : s.table.find? token with
  | some existing =>
    obtain ⟨present, key⟩ := Table.find?_eq_some.mp found
    have alone : ∀ device ∈ s.table.rows, device.token ≠ existing.token → existing.id ≠ device.id :=
      fun device member different same =>
        different (congrArg DeviceToken.token (numbered.distinct existing present device member same)).symm
    constructor
    · intro device member other member' same
      rcases Table.mem_put.mp member with rfl | ⟨old, different⟩
      · rcases Table.mem_put.mp member' with rfl | ⟨old', different'⟩
        · rfl
        · exact absurd same (alone other old' different')
      · rcases Table.mem_put.mp member' with rfl | ⟨old', _⟩
        · exact absurd same.symm (alone device old different)
        · exact numbered.distinct device old other old' same
    · intro device member
      rcases Table.mem_put.mp member with rfl | ⟨old, _⟩
      · exact numbered.bounded existing present
      · exact numbered.bounded device old
  | none =>
    have kept : (s.evictOldestBeyondCap user).Numbered := numbered.filter _
    constructor
    · intro device member other member' same
      rcases Table.mem_put.mp member with rfl | ⟨old, _⟩
      · rcases Table.mem_put.mp member' with rfl | ⟨old', _⟩
        · rfl
        · exact absurd (kept.bounded other old') (by rw [← same]; exact Nat.not_succ_le_self _)
      · rcases Table.mem_put.mp member' with rfl | ⟨old', _⟩
        · exact absurd (kept.bounded device old) (by rw [same]; exact Nat.not_succ_le_self _)
        · exact kept.distinct device old other old' same
    · intro device member
      rcases Table.mem_put.mp member with rfl | ⟨old, _⟩
      · exact Nat.le_refl _
      · exact Nat.le_succ_of_le (kept.bounded device old)

theorem numbered_step (numbered : r.devices.Numbered) (operation : DeviceOperation) :
    (r.step operation).devices.Numbered := by
  cases operation with
  | registerDevice user token platform => exact numbered.registerDevice user token platform
  | unregisterDevice user token => exact numbered.filter _

theorem numbered_start : DeviceRun.start.devices.Numbered where
  distinct _ member := by cases member
  bounded _ member := by cases member

/-! ### Evictions -/

/-- A stale device is the caller's. -/
theorem of_stale (numbered : s.Numbered) (member : device ∈ s.table.rows)
    (stale : device.id ∈ s.stale user) : device.userId = user := by
  obtain ⟨other, listed, same⟩ := List.mem_map.mp (mem_of_mem_beyond stale)
  obtain ⟨present, owner⟩ := mem_of.mp listed
  rw [← numbered.distinct other present device member same]
  exact owner

/-- **What is evicted** is the caller's and older than what the caller keeps. -/
theorem evictsOldest (numbered : r.devices.Numbered) (operation : DeviceOperation) :
    EvictsOldest r operation := by
  cases operation with
  | unregisterDevice user token => trivial
  | registerDevice user token platform =>
    obtain ⟨s, history⟩ := r
    intro device member gone
    have present : s.table.find? device.token = some device := Table.find?_eq_some.mpr ⟨member, rfl⟩
    dsimp only [Devices.registerDevice] at gone ⊢
    cases found : s.table.find? token with
    | some existing =>
      -- a token that is already there moves, and nothing is evicted
      rw [found] at gone
      dsimp only at gone
      rw [Table.find?_put, present] at gone
      split at gone
      · cases gone
      · cases gone
    | none =>
      rw [found] at gone
      dsimp only at gone ⊢
      have different : token ≠ device.token := by
        rintro rfl
        rw [present] at found
        cases found
      rw [Table.find?_put_other _ different] at gone
      have stale : device.id ∈ s.stale user := by
        by_contra kept
        have still : (s.evictOldestBeyondCap user).table.find? device.token = some device :=
          Table.find?_eq_some.mpr ⟨List.mem_filter.mpr ⟨member, decide_eq_true kept⟩, rfl⟩
        rw [still] at gone
        cases gone
      refine ⟨of_stale numbered member stale, fun kept listed => ?_⟩
      obtain ⟨inside, owner⟩ := mem_of.mp listed
      rcases Table.mem_put.mp inside with rfl | ⟨old, _⟩
      · exact Nat.lt_succ_of_le (numbered.bounded device member)
      · obtain ⟨before, unstale⟩ := List.mem_filter.mp old
        exact beyond_lt stale (List.mem_map_of_mem (mem_of.mpr ⟨before, owner⟩)) (of_decide_eq_true unstale)

/-! ### The cap -/

theorem length_of : (s.of user).length = s.table.rows.countP fun device => device.userId = user :=
  List.countP_eq_length_filter.symm

/-- **A new token stays within the cap**, however many devices there were. -/
theorem length_of_evict (s : Devices) (user : Nat) :
    ((s.evictOldestBeyondCap user).of user).length ≤ maxDevicesPerUser - 1 := by
  have few := countP_not_beyond (maxDevicesPerUser - 1) ((s.of user).map DeviceToken.id)
  rw [List.countP_map, List.countP_eq_length_filter] at few
  refine Nat.le_trans (Nat.le_of_eq ?_) few
  show ((s.table.rows.filter _).filter _).length = ((s.table.rows.filter _).filter _).length
  rw [List.filter_filter, List.filter_filter]
  refine congrArg List.length (List.filter_congr fun device _ => ?_)
  exact Bool.and_comm _ _

theorem length_of_filter_le (keep : DeviceToken → Bool) :
    (Devices.of { s with table := s.table.filter keep } user).length ≤ (s.of user).length :=
  (List.filter_sublist.filter _).length_le

/-- A new token is one more device of its user, after the eviction. -/
theorem length_of_new (absent : s.table.find? token = none) :
    ((s.registerDevice user token platform).of other).length =
      ((s.evictOldestBeyondCap user).of other).length + if user = other then 1 else 0 := by
  have next : s.registerDevice user token platform =
      { table := (s.evictOldestBeyondCap user).table.put
          { id := s.lastId + 1, userId := user, token := token, platform := platform }
        lastId := s.lastId + 1 } := by
    simp only [Devices.registerDevice, absent]
  have missing : (s.evictOldestBeyondCap user).table.find? token = none := by
    show (s.table.filter _).find? token = none
    rw [Table.find?_filter, absent]
    rfl
  have count := (s.evictOldestBeyondCap user).table.countP_put
    { id := s.lastId + 1, userId := user, token := token, platform := platform }
    (fun device => device.userId = other)
  rw [missing] at count
  rw [next, length_of, length_of]
  simpa only [Option.toList_none, List.countP_nil, Nat.add_zero, List.countP_singleton,
    decide_eq_true_eq] using count

/-- A token that moves is one device less for the one and one more for the other. -/
theorem length_of_moved (user other : Nat) (platform : String) {existing : DeviceToken}
    (found : s.table.find? token = some existing) :
    ((s.registerDevice user token platform).of other).length +
        (if existing.userId = other then 1 else 0) =
      (s.of other).length + if user = other then 1 else 0 := by
  have next : s.registerDevice user token platform =
      { s with table := s.table.put { existing with userId := user, platform := platform } } := by
    simp only [Devices.registerDevice, found]
  have count := s.table.countP_put { existing with userId := user, platform := platform }
    (fun device => device.userId = other)
  rw [show s.table.find? _ = some existing from Table.key_of_find? found ▸ found] at count
  rw [next, length_of, length_of]
  simpa only [Option.toList_some, List.countP_singleton, decide_eq_true_eq] using count

/-- A registration keeps the cap if and only if it takes no token from another user for one at the
cap. -/
theorem capped_step (capped : Capped r) (operation : DeviceOperation) :
    Capped (r.step operation) ↔ BelowCap r operation := by
  cases operation with
  | unregisterDevice user token =>
    exact iff_of_true (fun other => Nat.le_trans (length_of_filter_le _) (capped other)) trivial
  | registerDevice user token platform =>
    show (∀ other, ((r.devices.registerDevice user token platform).of other).length ≤ _) ↔
      ∀ device, r.devices.table.find? token = some device → _
    cases found : r.devices.table.find? token with
    | none =>
      refine iff_of_true (fun other => ?_) (fun device none => by cases none)
      rw [length_of_new found]
      by_cases own : user = other
      · rw [if_pos own, ← own]
        exact Nat.succ_le_of_lt (Nat.lt_of_le_of_lt (length_of_evict r.devices user) (by decide))
      · rw [if_neg own]
        exact Nat.le_trans (length_of_filter_le _) (capped other)
    | some existing =>
      constructor
      · rintro after device same different
        cases same
        have bound := after user
        have counted := length_of_moved user user platform found
        rw [if_neg different, if_pos rfl] at counted
        omega
      · intro room other
        have bound := capped other
        have counted := length_of_moved user other platform found
        by_cases own : user = other
        · rw [if_pos own] at counted
          by_cases same : existing.userId = other
          · rw [if_pos same] at counted
            omega
          · have below := room existing rfl fun equal => same (equal.trans own)
            rw [own] at below
            rw [if_neg same] at counted
            omega
        · rw [if_neg own] at counted
          omega

/-! ### Who holds a token -/

/-- A token is evicted when it belongs to a device that is. -/
theorem mem_evicted (user : Nat) (lost : String) (absent : s.table.find? token = none) :
    lost ∈ s.evicted user token ↔
      ∃ device, s.table.find? lost = some device ∧ device.id ∈ s.stale user := by
  simp only [Devices.evicted, absent, List.mem_map, List.mem_filter, decide_eq_true_eq]
  constructor
  · rintro ⟨device, ⟨member, stale⟩, key⟩
    exact ⟨device, Table.find?_eq_some.mpr ⟨member, key⟩, stale⟩
  · rintro ⟨device, found, stale⟩
    obtain ⟨member, key⟩ := Table.find?_eq_some.mp found
    exact ⟨device, ⟨member, stale⟩, key⟩

/-- The holder after a token has been unregistered. -/
theorem holder_unregisterDevice (s : Devices) (user holder : Nat) (gone token : String) :
    ((s.unregisterDevice user gone).table.find? token).map DeviceToken.userId = some holder ↔
      (s.table.find? token).map DeviceToken.userId = some holder ∧ ¬ (user = holder ∧ gone = token) := by
  rw [Devices.unregisterDevice, Table.find?_filter]
  cases found : s.table.find? token with
  | none => simp
  | some device =>
    have key := Table.key_of_find? found
    by_cases own : device.userId = holder
    · by_cases hit : user = holder ∧ gone = token
      · simp [Option.filter, key, own, hit]
      · have kept : ¬ (holder = user ∧ token = gone) := fun both => hit ⟨both.1.symm, both.2.symm⟩
        simp [Option.filter, key, own, hit, kept]
    · simp [Option.filter, own]

/-- Whether a token outlives a registration that evicts. -/
theorem holder_evictOldestBeyondCap (numbered : s.Numbered) (user holder : Nat) (lost : String)
    (absent : s.table.find? token = none) :
    ((s.evictOldestBeyondCap user).table.find? lost).map DeviceToken.userId = some holder ↔
      (s.table.find? lost).map DeviceToken.userId = some holder ∧
        ¬ (user = holder ∧ lost ∈ s.evicted user token) := by
  have gone := mem_evicted user lost absent
  rw [Devices.evictOldestBeyondCap, Table.find?_filter]
  cases found : s.table.find? lost with
  | none => simp
  | some device =>
    rw [found] at gone
    by_cases stale : device.id ∈ s.stale user
    · have owner := of_stale numbered (Table.find?_eq_some.mp found).1 stale
      have listed : lost ∈ s.evicted user token := gone.mpr ⟨device, rfl, stale⟩
      simp [Option.filter, stale, listed, owner]
    · have kept : lost ∉ s.evicted user token := by
        intro inside
        obtain ⟨other, same, bad⟩ := gone.mp inside
        cases same
        exact stale bad
      simp [Option.filter, stale, kept]

/-- The holder after a registration. -/
theorem holder_registerDevice (numbered : s.Numbered) (user holder : Nat)
    (registered platform token : String) :
    ((s.registerDevice user registered platform).table.find? token).map DeviceToken.userId = some holder ↔
      (user = holder ∧ registered = token) ∨
      ((s.table.find? token).map DeviceToken.userId = some holder ∧
        ¬ ((registered = token ∧ user ≠ holder) ∨
          (user = holder ∧ token ∈ s.evicted user registered))) := by
  cases absent : s.table.find? registered with
  | some existing =>
    have key := Table.key_of_find? absent
    simp only [Devices.registerDevice, Devices.evicted, absent, Table.find?_put, key]
    by_cases same : registered = token
    · by_cases own : user = holder <;> simp [same, own]
    · simp [same]
  | none =>
    have rest := holder_evictOldestBeyondCap numbered user holder token absent
    simp only [Devices.registerDevice, absent, Table.find?_put]
    by_cases same : registered = token
    · subst same
      by_cases own : user = holder <;> simp [own, absent]
    · rw [if_neg same, rest]
      simp [same]

/-- **What one call changes about who holds a token.** -/
theorem held_step (held : Held r) (numbered : r.devices.Numbered) (operation : DeviceOperation) :
    Held (r.step operation) := by
  intro holder token
  have before := held holder token
  cases operation with
  | unregisterDevice user gone =>
    show ((r.devices.unregisterDevice user gone).table.find? token).map DeviceToken.userId = some holder ↔
      Since _ _ (r.history ++ [.unregistered user gone])
    rw [since_append_singleton, ← before, holder_unregisterDevice]
    exact (or_iff_right not_false).symm
  | registerDevice user registered platform =>
    show ((r.devices.registerDevice user registered platform).table.find? token).map _ = some holder ↔
      Since _ _ (r.history ++ [.registered user registered (r.devices.evicted user registered)])
    rw [since_append_singleton, ← before]
    exact holder_registerDevice numbered user holder registered platform token

/-- **The devices of every run.** A token is held by the user who registered it last and has not lost it
since; a registration evicts the caller's oldest; and nobody is ever over the cap, exactly when no
registration takes another user's token for a user who is at the cap. -/
theorem deviceCap_iff (operations : List DeviceOperation) :
    Always DeviceRun.step Held .start operations ∧
    Throughout DeviceRun.step EvictsOldest .start operations ∧
    (Always DeviceRun.step Capped .start operations ↔
      Throughout DeviceRun.step BelowCap .start operations) := by
  refine ⟨?_, ?_, ?_⟩
  · have both : Always DeviceRun.step (fun r => Held r ∧ r.devices.Numbered) .start operations := by
      refine always_of_step (fun r operation both => ?_) ⟨fun user token => ?_, numbered_start⟩
      · exact ⟨held_step both.1 both.2 operation, numbered_step both.2 operation⟩
      · exact iff_of_false (Option.some_ne_none user).symm since_nil
    exact both.mono fun r both => both.1
  · exact throughout_of_step (fun r operation numbered => numbered_step numbered operation)
      (fun r operation numbered => evictsOldest numbered operation) numbered_start
  · exact always_iff_throughout (Q := Capped)
      (fun r operation capped below => (capped_step capped operation).mpr below) (fun r capped => capped)
      (fun r operation capped missed after => missed ((capped_step capped operation).mp after))
      (fun user => Nat.zero_le _)

/-- Ten devices of one user, one of another, and the first user takes it over. -/
def movedDevice : List DeviceOperation :=
  ["token-00", "token-01", "token-02", "token-03", "token-04", "token-05", "token-06", "token-07",
    "token-08", "token-09"].map (fun token => .registerDevice 1 token "web") ++
  [.registerDevice 2 "token-10" "web", .registerDevice 1 "token-10" "web"]

/-- **An eleventh device.** -/
theorem movedDevice_over_cap : ¬ ∀ operations : List DeviceOperation,
    Always DeviceRun.step Capped .start operations ∧ Always DeviceRun.step Held .start operations ∧
    Throughout DeviceRun.step EvictsOldest .start operations := by
  intro all
  have last := (all movedDevice).1.last 1
  revert last
  decide

end FoodDelivery.Notifications
