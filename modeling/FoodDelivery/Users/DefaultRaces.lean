/-
**Whether a user has at most one default address** (`services/users/app/profile.py`).

Calls of `add_address`, `update_address` and `delete_address`, of any users, that overlap under READ
COMMITTED. A call reads the address it edits, then the defaults that it clears, asks the geocoder, sends
its statements row by row in the order of their keys, each with the lock of its row, and commits. A
statement waits for whoever has the lock; only the columns that differ from what was read are written.

`oneDefault_iff`: a user never has two default addresses if and only if no commit makes an address the
default while another one is the default that the call has not read in `_clear_default`.
`overlappingDefaults_collide`: two calls that read the defaults before either commits leave two.
`add_alone`, `update_alone`, `delete_alone`: a call that nothing interrupts leaves the database that the
operation of `Profile` leaves.
-/

import FoodDelivery.Lib.Runs
import FoodDelivery.Lib.Slots
import FoodDelivery.Users.Profile
import Mathlib.Data.List.Sort

set_option autoImplicit false

namespace FoodDelivery.Users

open FoodDelivery.Lib

/-! ### What a transaction writes -/

/-- The query of `_clear_default`. -/
def State.defaults (s : State) (user : Nat) : List Address :=
  s.addresses.rows.filter fun address => address.userId = user && address.isDefault

/-- The address of a request, at the point the geocoder found. -/
def AddressCreate.address (data : AddressCreate) (user : Nat) (point : Option Coordinate) (id : Nat) :
    Address where
  id := id
  userId := user
  label := data.label
  line1 := data.line1
  line2 := data.line2
  city := data.city
  postalCode := data.postalCode
  isDefault := data.isDefault
  latitude := point.map Coordinate.latitude
  longitude := point.map Coordinate.longitude

/-- The `UPDATE` of an address, on the row as it is then: a column that still has the value that was
read is not in its `SET`. -/
def overwriteAddress (read new row : Address) : Address :=
  { row with
    label := if new.label = read.label then row.label else new.label
    line1 := if new.line1 = read.line1 then row.line1 else new.line1
    line2 := if new.line2 = read.line2 then row.line2 else new.line2
    city := if new.city = read.city then row.city else new.city
    postalCode := if new.postalCode = read.postalCode then row.postalCode else new.postalCode
    isDefault := if new.isDefault = read.isDefault then row.isDefault else new.isDefault
    latitude := if new.latitude = read.latitude then row.latitude else new.latitude
    longitude := if new.longitude = read.longitude then row.longitude else new.longitude }

/-- What a transaction does to the address it is about. -/
inductive OwnWrite where
  | insert (address : Address)
  | update (read new : Address)
  | delete (address : Address)

/-- What a transaction writes: `is_default = false` on the rows that `_clear_default` found, other than
its own, and its own row. -/
structure UnitOfWork where
  cleared : List Nat
  own : OwnWrite

/-- The rows that it updates or deletes, in the order of the statements. A row with no column changed has
no statement. -/
def UnitOfWork.statements (work : UnitOfWork) : List Nat :=
  match work.own with
  | .insert _ => work.cleared.insertionSort (· ≤ ·)
  | .update read new =>
    (work.cleared ++ if new = read then [] else [read.id]).insertionSort (· ≤ ·)
  | .delete address => [address.id]

/-- A row that is to be updated and is not there is a `StaleDataError`; for a `DELETE` it is a warning. -/
def UnitOfWork.updates (work : UnitOfWork) : Bool :=
  match work.own with
  | .delete _ => false
  | _ => true

/-- `UPDATE addresses SET is_default = false`, for some keys. -/
def clearRows (addresses : Table Nat Address Address.id) (ids : List Nat) :
    Table Nat Address Address.id :=
  addresses.modify
    (fun address => if address.id ∈ ids then { address with isDefault := false } else address)
    (fun address => by split <;> rfl)

def overwriteRow (addresses : Table Nat Address Address.id) (read new : Address) :
    Table Nat Address Address.id :=
  addresses.modify
    (fun address => if address.id = read.id then overwriteAddress read new address else address)
    (fun address => by split <;> rfl)

def OwnWrite.apply (own : OwnWrite) (addresses : Table Nat Address Address.id) :
    Table Nat Address Address.id :=
  match own with
  | .insert address => addresses.put address
  | .update read new => overwriteRow addresses read new
  | .delete address => addresses.filter fun other => other.id ≠ address.id

/-- The outbox row of `publish_address`. -/
def OwnWrite.announced : OwnWrite → List OutboxEvent
  | .insert address => [publishAddress address]
  | .update _ new => [publishAddress new]
  | .delete _ => []

def UnitOfWork.commit (work : UnitOfWork) (s : State) : State :=
  { s with
    addresses := work.own.apply (clearRows s.addresses work.cleared)
    outbox := s.outbox ++ work.own.announced }

/-! ### The calls -/

inductive AddressRequest where
  | add (data : AddressCreate)
  | update (addressId : Nat) (data : AddressUpdate)
  | delete (addressId : Nat)

/-- Where a call stands. `left` are the rows whose statements are still to come and `locked` the rows whose
locks it has; after `flushed` only the commit is left. -/
inductive AddressPhase where
  | waiting
  | fetched (address : Address)
  | writing (work : UnitOfWork) (left locked : List Nat)
  | flushed (work : UnitOfWork) (locked : List Nat)
  | returned
  | refused (raised : Raised)

def AddressPhase.locks : AddressPhase → List Nat
  | .writing _ _ locked => locked
  | .flushed _ locked => locked
  | _ => []

/-- A call, of a user, with the answers of the geocoder to it. -/
structure AddressCall where
  user : Nat
  request : AddressRequest
  geocode : Geocoder
  phase : AddressPhase := .waiting

/-- What is committed, and the calls. -/
structure AddressBook where
  db : State
  calls : List AddressCall

/-- What happens next: a step of a call, or it fails and is rolled back. -/
inductive AddressStep where
  | call (i : Nat)
  | cutOff (i : Nat) (raised : Raised)

def writing (cleared : List Nat) (own : OwnWrite) : AddressPhase :=
  .writing { cleared := cleared, own := own } (UnitOfWork.statements { cleared := cleared, own := own }) []

/-- The steps that only read: `_owned_address`, and `_clear_default` with the geocoder after it. The id
of a new address comes with its `INSERT`. -/
def AddressCall.read (call : AddressCall) (s : State) : Except Raised AddressPhase :=
  match call.request, call.phase with
  | .add data, .waiting => do
    let cleared := if data.isDefault then (s.defaults call.user).map Address.id else []
    let point ← call.geocode data.line1 data.city data.postalCode
    return writing cleared (.insert (data.address call.user point 0))
  | .update addressId _, .waiting => do
    let address ← ownedAddress s call.user addressId
    return .fetched address
  | .update _ data, .fetched address => do
    let defaults := if data.isDefault = some true then s.defaults call.user else []
    let cleared := (defaults.map Address.id).filter fun id => id ≠ address.id
    let placed ← data.relocate call.geocode address (data.apply address)
    return writing cleared (.update address placed)
  | .delete addressId, .waiting => do
    let address ← ownedAddress s call.user addressId
    return writing [] (.delete address)
  | _, phase => .ok phase

def AddressBook.moved (b : AddressBook) (i : Nat) (call : AddressCall) (phase : AddressPhase) :
    AddressBook :=
  { b with calls := b.calls.set i { call with phase := phase } }

/-- Another call has the lock of the row. -/
def AddressBook.held (b : AddressBook) (i id : Nat) : Bool :=
  (b.calls.eraseIdx i).any fun call => decide (id ∈ call.phase.locks)

/-- The last statement is the `INSERT`, which draws the id. -/
def AddressBook.flush (b : AddressBook) (i : Nat) (call : AddressCall) (work : UnitOfWork)
    (locked : List Nat) : AddressBook :=
  match work.own with
  | .insert address =>
    let id := b.db.lastAddressId + 1
    let inserted : UnitOfWork := { work with own := .insert { address with id := id } }
    { b with db := { b.db with lastAddressId := id } }.moved i call (.flushed inserted locked)
  | _ => b.moved i call (.flushed work locked)

/-- The next step of a call; one that has to wait for a lock stays where it is. -/
def AddressBook.advance (b : AddressBook) (i : Nat) (call : AddressCall) : AddressBook :=
  match call.phase with
  | .writing work (id :: left) locked =>
    if b.held i id then b
    else if work.updates && (b.db.addresses.find? id).isNone then
      b.moved i call (.refused (.other "StaleDataError" "0 were matched."))
    else b.moved i call (.writing work left (id :: locked))
  | .writing work [] locked => b.flush i call work locked
  | .flushed work _ => { b with db := work.commit b.db }.moved i call .returned
  | _ =>
    match call.read b.db with
    | .ok phase => b.moved i call phase
    | .error raised => b.moved i call (.refused raised)

def AddressBook.step (b : AddressBook) : AddressStep → AddressBook
  | .call i =>
    match b.calls[i]? with
    | none => b
    | some call => b.advance i call
  | .cutOff i raised =>
    match b.calls[i]? with
    | none => b
    | some call => b.moved i call (.refused raised)

/-- A database, and calls that have not begun. -/
def AddressBook.start (s : State) (requests : List (Nat × AddressRequest × Geocoder)) : AddressBook where
  db := s
  calls := requests.map fun request =>
    { user := request.1, request := request.2.1, geocode := request.2.2 }

/-! ### What has to hold -/

/-- **At most one of the user's addresses is the default.** -/
def OneDefault (user : Nat) (s : State) : Prop := (s.defaults user).length ≤ 1

/-- The address that becomes the default with a commit: a new one, or one whose flag the call turns on. -/
def OwnWrite.promoted (own : OwnWrite) (s : State) : Option Address :=
  match own with
  | .insert address => if address.isDefault then some address else none
  | .update read new =>
    if new.isDefault && !read.isDefault then s.addresses.find? read.id else none
  | .delete _ => none

/-- A commit that makes an address of the user the default finds no other default than those the call
has read in `_clear_default`. -/
def ReadAll (user : Nat) (b : AddressBook) : AddressStep → Prop
  | .call i => ∀ call work locked, b.calls[i]? = some call → call.phase = .flushed work locked →
    ∀ address, work.own.promoted b.db = some address → address.userId = user →
      ∀ other ∈ b.db.defaults user, other.id ≠ address.id → other.id ∈ work.cleared
  | .cutOff _ _ => True

/-! ### The defaults after a commit -/

variable {user : Nat} {s : State} {row other address : Address} {work : UnitOfWork}

theorem mem_defaults :
    row ∈ s.defaults user ↔ row ∈ s.addresses.rows ∧ row.userId = user ∧ row.isDefault = true := by
  simp [State.defaults]

/-- One default, told by the keys. -/
theorem oneDefault_iff_ids :
    OneDefault user s ↔ ∀ row ∈ s.defaults user, ∀ other ∈ s.defaults user, row.id = other.id := by
  have distinct : ((s.defaults user).map Address.id).Nodup :=
    s.addresses.unique.sublist (List.filter_sublist.map Address.id)
  unfold OneDefault
  constructor
  · intro short row member other member'
    obtain ⟨i, small, rfl⟩ := List.getElem_of_mem member
    obtain ⟨j, small', rfl⟩ := List.getElem_of_mem member'
    have same : i = j := by omega
    subst same
    rfl
  · intro same
    match found : s.defaults user with
    | [] => exact Nat.zero_le 1
    | [_] => exact Nat.le_refl 1
    | first :: second :: _ =>
      rw [found] at same distinct
      have apart := (List.nodup_cons.mp distinct).1
      rw [same first List.mem_cons_self second (List.mem_cons_of_mem _ List.mem_cons_self)] at apart
      exact absurd List.mem_cons_self apart

theorem mem_clearRows {addresses : Table Nat Address Address.id} {ids : List Nat} :
    row ∈ (clearRows addresses ids).rows ↔
      ∃ old ∈ addresses.rows,
        (if old.id ∈ ids then { old with isDefault := false } else old) = row :=
  List.mem_map

/-- A row that is a default after the clearing was one before, and is not among the cleared. -/
theorem default_of_clearRows {ids : List Nat} (member : row ∈ (clearRows s.addresses ids).rows)
    (owner : row.userId = user) (flag : row.isDefault = true) : row ∈ s.defaults user ∧ row.id ∉ ids := by
  obtain ⟨old, present, rfl⟩ := mem_clearRows.mp member
  by_cases cleared : old.id ∈ ids
  · rw [if_pos cleared] at flag
    cases flag
  · rw [if_neg cleared] at owner flag ⊢
    exact ⟨mem_defaults.mpr ⟨present, owner, flag⟩, cleared⟩

/-- A row that is not among the cleared stays as it is. -/
theorem clearRows_keeps {addresses : Table Nat Address Address.id} {ids : List Nat}
    (member : row ∈ addresses.rows) (kept : row.id ∉ ids) : row ∈ (clearRows addresses ids).rows :=
  mem_clearRows.mpr ⟨row, member, if_neg kept⟩

/-- Clearing keeps every row, its key and its owner. -/
theorem clearRows_covers {addresses : Table Nat Address Address.id} (ids : List Nat)
    (member : row ∈ addresses.rows) :
    ∃ next ∈ (clearRows addresses ids).rows, next.id = row.id ∧ next.userId = row.userId := by
  refine ⟨_, mem_clearRows.mpr ⟨row, member, rfl⟩, ?_, ?_⟩
  · split <;> rfl
  · split <;> rfl

/-- **Where a default comes from**: the commit made it one, or it was one and is not cleared. -/
theorem default_of_commit (member : row ∈ (work.commit s).defaults user) :
    (∃ address, work.own.promoted s = some address ∧ address.userId = user ∧ row.id = address.id) ∨
    (row.id ∉ work.cleared ∧ ∃ old ∈ s.defaults user, old.id = row.id) := by
  obtain ⟨present, owner, flag⟩ := mem_defaults.mp member
  obtain ⟨cleared, own⟩ := work
  have before : row ∈ (clearRows s.addresses cleared).rows →
      row.id ∉ cleared ∧ ∃ old ∈ s.defaults user, old.id = row.id := fun earlier =>
    have both := default_of_clearRows earlier owner flag
    ⟨both.2, row, both.1, rfl⟩
  cases own with
  | insert address =>
    rcases Table.mem_put.mp present with rfl | ⟨earlier, _⟩
    · exact Or.inl ⟨row, if_pos flag, owner, rfl⟩
    · exact Or.inr (before earlier)
  | delete address => exact Or.inr (before (List.mem_filter.mp present).1)
  | update read new =>
    obtain ⟨between, earlier, rfl⟩ := List.mem_map.mp present
    by_cases target : between.id = read.id
    · rw [if_pos target] at owner flag ⊢
      by_cases unchanged : new.isDefault = read.isDefault
      · have kept : between.isDefault = true := by simpa [overwriteAddress, unchanged] using flag
        have both := default_of_clearRows earlier owner kept
        exact Or.inr ⟨both.2, between, both.1, rfl⟩
      · have turned : new.isDefault = true := by simpa [overwriteAddress, unchanged] using flag
        obtain ⟨old, oldPresent, same⟩ := mem_clearRows.mp earlier
        have sameId : old.id = between.id := by rw [← same]; split <;> rfl
        have sameUser : old.userId = between.userId := by rw [← same]; split <;> rfl
        refine Or.inl ⟨old, ?_, sameUser.trans owner, sameId.symm⟩
        have condition : (new.isDefault && !read.isDefault) = true := by
          rw [turned] at unchanged ⊢
          simpa using unchanged
        show (if new.isDefault && !read.isDefault then s.addresses.find? read.id else none) = some old
        rw [if_pos condition]
        exact Table.find?_eq_some.mpr ⟨oldPresent, sameId.trans target⟩
    · rw [if_neg target] at owner flag ⊢
      have both := default_of_clearRows earlier owner flag
      exact Or.inr ⟨both.2, between, both.1, rfl⟩

/-- **A promoted address is a default after the commit**, and so is every other default that is not
cleared. -/
theorem defaults_of_promoted (promoted : work.own.promoted s = some address)
    (owner : address.userId = user) :
    (∃ row ∈ (work.commit s).defaults user, row.id = address.id) ∧
    ∀ other ∈ s.defaults user, other.id ≠ address.id → other.id ∉ work.cleared →
      other ∈ (work.commit s).defaults user := by
  obtain ⟨cleared, own⟩ := work
  cases own with
  | delete deleted => cases promoted
  | insert inserted =>
    obtain ⟨flag, same⟩ := Option.ite_none_right_eq_some.mp promoted
    cases same
    refine ⟨⟨address, mem_defaults.mpr ⟨Table.mem_put.mpr (Or.inl rfl), owner, flag⟩, rfl⟩, ?_⟩
    intro other member different kept
    obtain ⟨present, owns, default⟩ := mem_defaults.mp member
    exact mem_defaults.mpr
      ⟨Table.mem_put.mpr (Or.inr ⟨clearRows_keeps present kept, different⟩), owns, default⟩
  | update read new =>
    obtain ⟨turned, found⟩ := Option.ite_none_right_eq_some.mp promoted
    obtain ⟨present, key⟩ := Table.find?_eq_some.mp found
    constructor
    · obtain ⟨between, earlier, id, owns⟩ := clearRows_covers cleared present
      refine ⟨overwriteAddress read new between, mem_defaults.mpr ⟨?_, owns.trans owner, ?_⟩, id⟩
      · exact List.mem_map.mpr ⟨between, earlier, if_pos (id.trans key)⟩
      · have both : new.isDefault = true ∧ read.isDefault = false := by simpa using turned
        simp [overwriteAddress, both]
    · intro other member different kept
      obtain ⟨otherPresent, owns, default⟩ := mem_defaults.mp member
      refine mem_defaults.mpr ⟨List.mem_map.mpr ⟨other, clearRows_keeps otherPresent kept, ?_⟩, owns, default⟩
      exact if_neg fun same => different (same.trans key.symm)

/-- **One commit keeps one default** if and only if the call has read every other one. -/
theorem oneDefault_commit (one : OneDefault user s) : OneDefault user (work.commit s) ↔
    ∀ address, work.own.promoted s = some address → address.userId = user →
      ∀ other ∈ s.defaults user, other.id ≠ address.id → other.id ∈ work.cleared := by
  rw [oneDefault_iff_ids] at one ⊢
  constructor
  · intro same address promoted owner other member different
    by_contra kept
    obtain ⟨⟨row, made, id⟩, others⟩ := defaults_of_promoted promoted owner
    exact different ((same _ (others other member different kept) row made).trans id)
  · intro read row member row' member'
    have apart : ∀ {first second : Address},
        (∃ address, work.own.promoted s = some address ∧ address.userId = user ∧
          first.id = address.id) →
        (second.id ∉ work.cleared ∧ ∃ old ∈ s.defaults user, old.id = second.id) →
        first.id = second.id := by
      rintro first second ⟨address, promoted, owner, id⟩ ⟨kept, old, present, same⟩
      by_contra different
      refine kept ?_
      rw [← same]
      exact read address promoted owner old present fun equal => different (by omega)
    rcases default_of_commit member with made | before
    · rcases default_of_commit member' with made' | before'
      · obtain ⟨address, promoted, _, id⟩ := made
        obtain ⟨address', promoted', _, id'⟩ := made'
        rw [promoted] at promoted'
        cases promoted'
        exact id.trans id'.symm
      · exact apart made before'
    · rcases default_of_commit member' with made' | before'
      · exact (apart made' before).symm
      · obtain ⟨_, old, present, id⟩ := before
        obtain ⟨_, old', present', id'⟩ := before'
        exact id.symm.trans ((one old present old' present').trans id')

/-! ### One step -/

variable {b : AddressBook}

/-- **Only a commit changes the addresses.** -/
theorem AddressBook.step_addresses (b : AddressBook) (step : AddressStep) :
    (b.step step).db.addresses = b.db.addresses ∨
    ∃ i call work locked, step = .call i ∧ b.calls[i]? = some call ∧
      call.phase = .flushed work locked ∧ (b.step step).db = work.commit b.db := by
  cases step with
  | cutOff i raised =>
    left
    dsimp only [AddressBook.step]
    split <;> rfl
  | call i =>
    dsimp only [AddressBook.step]
    cases found : b.calls[i]? with
    | none => exact Or.inl rfl
    | some call =>
      have reads : (match call.read b.db with
          | .ok phase => b.moved i call phase
          | .error raised => b.moved i call (.refused raised)).db = b.db := by
        split <;> rfl
      dsimp only [AddressBook.advance]
      cases phase : call.phase with
      | flushed work locked => exact Or.inr ⟨i, call, work, locked, rfl, found, phase, rfl⟩
      | waiting | fetched | returned | refused => exact Or.inl (congrArg State.addresses reads)
      | writing work remaining locked =>
        left
        cases remaining with
        | nil =>
          dsimp only [AddressBook.flush]
          split <;> rfl
        | cons id remaining =>
          dsimp only
          split
          · rfl
          · split <;> rfl

/-- A step keeps one default if and only if it is no commit that misses another one. -/
theorem oneDefault_step (one : OneDefault user b.db) (step : AddressStep) :
    OneDefault user (b.step step).db ↔ ReadAll user b step := by
  cases step with
  | cutOff i raised =>
    rcases b.step_addresses (.cutOff i raised) with same | ⟨_, _, _, _, other, _⟩
    · simp only [ReadAll, iff_true]
      unfold OneDefault State.defaults at one ⊢
      rwa [same]
    · cases other
  | call i =>
    by_cases commits : ∃ call work locked, b.calls[i]? = some call ∧ call.phase = .flushed work locked
    · obtain ⟨call, work, locked, found, phase⟩ := commits
      have next : (b.step (.call i)).db = work.commit b.db := by
        simp only [AddressBook.step, found, AddressBook.advance, phase]
        rfl
      rw [next, oneDefault_commit one]
      constructor
      · intro read call' work' locked' found' phase'
        rw [found] at found'
        cases found'
        rw [phase] at phase'
        cases phase'
        exact read
      · exact fun read => read call work locked found phase
    · have idle : ReadAll user b (.call i) := fun call work locked found phase =>
        absurd ⟨call, work, locked, found, phase⟩ commits
      rcases b.step_addresses (.call i) with same | ⟨_, call, work, locked, own, found, phase, _⟩
      · simp only [idle, iff_true]
        unfold OneDefault State.defaults at one ⊢
        rwa [same]
      · cases own
        exact absurd ⟨call, work, locked, found, phase⟩ commits

/-- **One default in every committed state**, exactly when every commit that makes an address the default
comes from a call that has read, in `_clear_default`, whatever other default there is. -/
theorem oneDefault_iff (user : Nat) (s : State) (requests : List (Nat × AddressRequest × Geocoder))
    (steps : List AddressStep) (one : OneDefault user s) :
    Always AddressBook.step (fun b => OneDefault user b.db) (.start s requests) steps ↔
      Throughout AddressBook.step (ReadAll user) (.start s requests) steps :=
  always_iff_throughout (Q := fun b => OneDefault user b.db)
    (fun _ step one read => (oneDefault_step one step).mpr read) (fun _ one => one)
    (fun _ step one missed after => missed ((oneDefault_step one step).mp after)) one

/-- Home and work, both to be the default. -/
def homeAndWork : List (Nat × AddressRequest × Geocoder) :=
  [ (1, .add { line1 := "1 Main St", city := "Boston", postalCode := "02134", isDefault := true },
      fun _ _ _ => .ok none),
    (1, .add { label := "work", line1 := "2 Side St", city := "Boston", postalCode := "02135",
               isDefault := true }, fun _ _ _ => .ok none) ]

/-- Both calls read the defaults before either commits. -/
def overlappingDefaults : List AddressStep :=
  [.call 0, .call 1, .call 0, .call 0, .call 1, .call 1]

/-- **Two default addresses.** -/
theorem overlappingDefaults_collide : ¬ ∀ (user : Nat) (s : State)
    (requests : List (Nat × AddressRequest × Geocoder)) (steps : List AddressStep), OneDefault user s →
    Always AddressBook.step (fun b => OneDefault user b.db) (.start s requests) steps := by
  intro always
  have last := (always 1 .empty homeAndWork overlappingDefaults (by unfold OneDefault; decide)).last
  unfold OneDefault at last
  revert last
  decide

/-- The calls one after the other keep one default. -/
theorem oneDefault_iff_homeAndWork : OneDefault 1 .empty ∧
    (Always AddressBook.step (fun b => OneDefault 1 b.db) (.start .empty homeAndWork)
        [.call 0, .call 0, .call 0, .call 1, .call 1, .call 1, .call 1] ↔
      Throughout AddressBook.step (ReadAll 1) (.start .empty homeAndWork)
        [.call 0, .call 0, .call 0, .call 1, .call 1, .call 1, .call 1]) :=
  have one : OneDefault 1 .empty := by unfold OneDefault; decide
  ⟨one, oneDefault_iff 1 .empty homeAndWork _ one⟩

/-! ### A call that nothing interrupts -/

variable {geocode : Geocoder} {data : AddressUpdate}

theorem clearRows_nil (addresses : Table Nat Address Address.id) : clearRows addresses [] = addresses := by
  apply Table.eq_of_rows
  simp [clearRows, Table.modify]

/-- Clearing what the query found is `_clear_default`. -/
theorem clearRows_defaults (s : State) (user : Nat) :
    clearRows s.addresses ((s.defaults user).map Address.id) = clearDefault s.addresses user := by
  apply Table.eq_of_rows
  refine List.map_congr_left fun row present => ?_
  by_cases default : row.userId = user ∧ row.isDefault = true
  · have found : row.id ∈ (s.defaults user).map Address.id :=
      List.mem_map_of_mem (mem_defaults.mpr ⟨present, default.1, default.2⟩)
    rw [if_pos found, if_pos default]
  · have missing : row.id ∉ (s.defaults user).map Address.id := by
      intro found
      obtain ⟨other, member, same⟩ := List.mem_map.mp found
      obtain ⟨present', facts⟩ := mem_defaults.mp member
      have one := List.inj_on_of_nodup_map s.addresses.unique present' present same
      exact default (one ▸ facts)
    rw [if_neg missing, if_neg default]

theorem AddressUpdate.relocate_ok {before edited placed : Address}
    (outcome : data.relocate geocode before edited = .ok placed) :
    placed.id = edited.id ∧ placed.userId = edited.userId := by
  unfold AddressUpdate.relocate at outcome
  split at outcome
  · obtain ⟨point, _, rest⟩ := bind_eq_ok.mp outcome
    cases rest
    exact ⟨rfl, rfl⟩
  · cases outcome
    exact ⟨rfl, rfl⟩

/-- On the row that was read the `UPDATE` leaves the row that was made of it. -/
theorem overwriteAddress_self {read new : Address} (id : new.id = read.id)
    (owner : new.userId = read.userId) : overwriteAddress read new read = new := by
  obtain ⟨_, _, label, line1, line2, city, postalCode, isDefault, latitude, longitude⟩ := new
  cases id
  cases owner
  simp only [overwriteAddress, Address.mk.injEq, true_and, ite_eq_right_iff]
  exact ⟨Eq.symm, Eq.symm, Eq.symm, Eq.symm, Eq.symm, Eq.symm, Eq.symm, Eq.symm⟩

theorem mem_insertionSort_iff {ids : List Nat} {id : Nat} :
    id ∈ ids.insertionSort (· ≤ ·) ↔ id ∈ ids :=
  List.mem_insertionSort (· ≤ ·)

/-- The rows that `_clear_default` finds, if it is called. -/
theorem clearRows_queried (s : State) (user : Nat) (asked : Prop) [Decidable asked] :
    clearRows s.addresses ((if asked then s.defaults user else []).map Address.id) =
      if asked then clearDefault s.addresses user else s.addresses := by
  by_cases default : asked
  · rw [if_pos default, if_pos default, clearRows_defaults]
  · rw [if_neg default, if_neg default]
    exact clearRows_nil _

/-- An edit as one row, and as the statements of the transaction. -/
theorem updateAddress_commit {addressId : Nat} {placed : Address}
    (owned : ownedAddress s user addressId = .ok address)
    (moved : data.relocate geocode address (data.apply address) = .ok placed) :
    let defaults := if data.isDefault = some true then s.defaults user else []
    overwriteRow (clearRows s.addresses ((defaults.map Address.id).filter fun id => id ≠ address.id))
        address placed =
      (if data.isDefault = some true then clearDefault s.addresses user else s.addresses).put placed := by
  intro defaults
  rw [← clearRows_queried]
  obtain ⟨id, owner⟩ := AddressUpdate.relocate_ok moved
  obtain ⟨found, _⟩ := ownedAddress_ok.mp owned
  obtain ⟨present, _⟩ := Table.find?_eq_some.mp found
  have listed : placed.id ∈ (clearRows s.addresses (defaults.map Address.id)).rows.map Address.id := by
    obtain ⟨next, member, same, _⟩ := clearRows_covers (defaults.map Address.id) present
    exact List.mem_map.mpr ⟨next, member, same.trans id.symm⟩
  apply Table.eq_of_rows
  unfold Table.put
  rw [dif_pos listed]
  show List.map _ (List.map _ _) = List.map _ (List.map _ _)
  rw [List.map_map, List.map_map]
  refine List.map_congr_left fun row member => ?_
  by_cases own : row.id = address.id
  · have same : row = address := List.inj_on_of_nodup_map s.addresses.unique member present own
    subst same
    have kept : row.id ∉ (defaults.map Address.id).filter fun id => id ≠ row.id := by simp
    have target : ∀ ids : List Nat,
        (if row.id ∈ ids then { row with isDefault := false } else row).id = placed.id := by
      intro ids
      split <;> exact id.symm
    simp only [Function.comp_apply, if_neg kept, if_pos (target _), if_true]
    exact overwriteAddress_self id owner
  · have target : ∀ ids : List Nat,
        (if row.id ∈ ids then { row with isDefault := false } else row).id = row.id := by
      intro ids
      split <;> rfl
    have both : row.id ∈ (defaults.map Address.id).filter (fun id => id ≠ address.id) ↔
        row.id ∈ defaults.map Address.id := by
      simp [own]
    have apart : row.id ≠ placed.id := fun same => own (same.trans id)
    simp only [Function.comp_apply, target, if_neg own, if_neg apart, both]
    rfl

/-- The database after the last statement and the commit. -/
def UnitOfWork.finish (work : UnitOfWork) (s : State) : State :=
  match work.own with
  | .insert address =>
    let id := s.lastAddressId + 1
    UnitOfWork.commit { work with own := .insert { address with id := id } }
      { s with lastAddressId := id }
  | _ => work.commit s

/-- The statements of a call that is alone go through, and it commits. -/
theorem finish_alone (s : State) (call : AddressCall) (work : UnitOfWork) (remaining locked : List Nat)
    (present : ∀ id ∈ remaining, (s.addresses.find? id).isSome = true) :
    (run AddressBook.step ⟨s, [{ call with phase := .writing work remaining locked }]⟩
      (List.replicate (remaining.length + 2) (.call 0))).db = work.finish s := by
  induction remaining generalizing locked with
  | nil =>
    obtain ⟨cleared, own⟩ := work
    cases own with
    | insert | update | delete => rfl
  | cons id remaining ih =>
    have there : (s.addresses.find? id).isNone = false := by
      rw [← Option.not_isSome, present id List.mem_cons_self]
      rfl
    have sent : AddressBook.step ⟨s, [{ call with phase := .writing work (id :: remaining) locked }]⟩
        (.call 0) = ⟨s, [{ call with phase := .writing work remaining (id :: locked) }]⟩ := by
      simp [AddressBook.step, AddressBook.advance, AddressBook.held, AddressBook.moved, there]
    rw [List.length_cons, Nat.add_right_comm, List.replicate_succ]
    show (run AddressBook.step (AddressBook.step _ _) _).db = _
    rw [sent]
    exact ih (id :: locked) fun other member => present other (List.mem_cons_of_mem _ member)

theorem present_of_default {id : Nat} (member : id ∈ (s.defaults user).map Address.id) :
    (s.addresses.find? id).isSome = true := by
  obtain ⟨row, default, rfl⟩ := List.mem_map.mp member
  rw [Table.find?_eq_some.mpr ⟨(mem_defaults.mp default).1, rfl⟩]
  rfl

/-- A call that is alone commits once its first reads are done. -/
theorem finish_of_begun {b : AddressBook} (call : AddressCall) (work : UnitOfWork) (reads : Nat)
    (begun : run AddressBook.step b (List.replicate reads (.call 0)) =
      ⟨s, [{ call with phase := .writing work work.statements [] }]⟩)
    (present : ∀ id ∈ work.statements, (s.addresses.find? id).isSome = true) :
    ∃ n, (run AddressBook.step b (List.replicate n (.call 0))).db = work.finish s := by
  refine ⟨reads + (work.statements.length + 2), ?_⟩
  rw [List.replicate_add, run_append, begun]
  exact finish_alone s call work work.statements [] present

theorem present_of_queried {asked : Prop} [Decidable asked] {id : Nat}
    (member : id ∈ (if asked then s.defaults user else []).map Address.id) :
    (s.addresses.find? id).isSome = true := by
  by_cases default : asked
  · rw [if_pos default] at member
    exact present_of_default member
  · rw [if_neg default] at member
    cases member

/-- **A call that nothing interrupts** leaves the database that the operation of `Profile` leaves. -/
theorem add_alone {data : AddressCreate} {next : State}
    (outcome : addAddress s user data geocode 0 = .ok next) :
    ∃ n, (run AddressBook.step (.start s [(user, .add data, geocode)])
      (List.replicate n (.call 0))).db = next := by
  obtain ⟨point, found, rest⟩ := bind_eq_ok.mp outcome
  cases rest
  let cleared := (if data.isDefault = true then s.defaults user else []).map Address.id
  let work : UnitOfWork := { cleared := cleared, own := .insert (data.address user point 0) }
  obtain ⟨n, ends⟩ := finish_of_begun (b := .start s [(user, .add data, geocode)]) (s := s)
    { user := user, request := .add data, geocode := geocode } work 1 (by
      have read : cleared = if data.isDefault = true then (s.defaults user).map Address.id else [] := by
        dsimp only [cleared]
        split <;> rfl
      simp [run, AddressBook.step, AddressBook.advance, AddressBook.start, AddressCall.read, found,
        AddressBook.moved, writing, work, read, bind, Except.bind, pure, Except.pure])
    (fun id member => present_of_queried (mem_insertionSort_iff.mp member))
  refine ⟨n, ends.trans ?_⟩
  show UnitOfWork.commit _ _ = _
  simp only [UnitOfWork.commit, OwnWrite.apply, OwnWrite.announced, work, cleared, clearRows_queried]
  rfl

/-- **So does an edit.** -/
theorem update_alone {addressId : Nat} {next : State}
    (outcome : updateAddress s user addressId data geocode = .ok next) :
    ∃ n, (run AddressBook.step (.start s [(user, .update addressId data, geocode)])
      (List.replicate n (.call 0))).db = next := by
  obtain ⟨address, owned, rest⟩ := bind_eq_ok.mp outcome
  obtain ⟨placed, moved, rest⟩ := bind_eq_ok.mp rest
  cases rest
  let defaults := if data.isDefault = some true then s.defaults user else []
  let cleared := (defaults.map Address.id).filter fun id => id ≠ address.id
  let work : UnitOfWork := { cleared := cleared, own := .update address placed }
  obtain ⟨n, ends⟩ := finish_of_begun (b := .start s [(user, .update addressId data, geocode)]) (s := s)
    { user := user, request := .update addressId data, geocode := geocode } work 2 (by
      simp [run, List.replicate, AddressBook.step, AddressBook.advance, AddressBook.start,
        AddressCall.read, owned, moved, AddressBook.moved, writing, work, cleared, defaults, bind,
        Except.bind, pure, Except.pure])
    (fun id member => by
      rcases List.mem_append.mp (mem_insertionSort_iff.mp member) with other | own
      · exact present_of_queried (List.mem_filter.mp other).1
      · split at own
        · cases own
        · obtain ⟨found, _⟩ := ownedAddress_ok.mp owned
          rw [List.mem_singleton.mp own, Table.key_of_find? found, found]
          rfl)
  refine ⟨n, ends.trans ?_⟩
  show UnitOfWork.commit _ _ = _
  simp only [UnitOfWork.commit, OwnWrite.apply, OwnWrite.announced, work]
  rw [updateAddress_commit owned moved]

/-- **And a deletion.** -/
theorem delete_alone {addressId : Nat} {next : State}
    (outcome : deleteAddress s user addressId = .ok next) :
    ∃ n, (run AddressBook.step (.start s [(user, .delete addressId, geocode)])
      (List.replicate n (.call 0))).db = next := by
  obtain ⟨address, owned, rest⟩ := bind_eq_ok.mp outcome
  cases rest
  obtain ⟨found, _⟩ := ownedAddress_ok.mp owned
  let work : UnitOfWork := { cleared := [], own := .delete address }
  obtain ⟨n, ends⟩ := finish_of_begun (b := .start s [(user, .delete addressId, geocode)]) (s := s)
    { user := user, request := .delete addressId, geocode := geocode } work 1 (by
      simp [run, AddressBook.step, AddressBook.advance, AddressBook.start, AddressCall.read, owned,
        AddressBook.moved, writing, work, bind, Except.bind, pure, Except.pure])
    (fun id member => by
      rw [List.mem_singleton.mp member, Table.key_of_find? found, found]
      rfl)
  refine ⟨n, ends.trans ?_⟩
  show UnitOfWork.commit _ _ = _
  simp only [UnitOfWork.commit, OwnWrite.apply, OwnWrite.announced, work, clearRows_nil, List.append_nil]

end FoodDelivery.Users
