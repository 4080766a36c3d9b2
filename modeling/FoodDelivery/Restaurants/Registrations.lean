/-
**One restaurant per owner** (`services/restaurants/app/service.py`, `create_restaurant` and
`register_from_signup`).

Both entry points look for the owner's venues and then insert one. Each call is a transaction under
READ COMMITTED, the look is a plain read and no constraint is on `owner_id`, so another call of the
same owner can commit in between. A message that is delivered again is one more call with the same
payload.

`oneVenue_always_iff`: through a run of such calls, in any order of their steps, an owner has at most
one venue if and only if every call of the owner that inserts finds, at its commit, still no venue of
the owner. `stillNone_of_inTurn`: so it is when none of the owner's calls looks while another is between
its look and its commit.
-/

import FoodDelivery.Lib.Runs
import FoodDelivery.Lib.Slots
import FoodDelivery.Restaurants.Service
import Mathlib.Tactic.Push

set_option autoImplicit false

namespace FoodDelivery.Restaurants

open FoodDelivery.Lib

/-! ### The calls -/

/-- A call that registers a venue. -/
inductive Entry where
  | createRestaurant (owner : Identity) (data : RestaurantCreate)
  | registerFromSignup (payload : Registration)

/-- The row a call inserts, under the id that the flush gives it; `none` for a message that no venue can
be made of. -/
def Entry.venue (id : Nat) : Entry → Option Restaurant
  | .createRestaurant owner data => some
    { id := id
      ownerId := owner.userId
      approvalStatus := .pending
      name := data.name
      description := data.description
      cuisine := data.cuisine
      city := data.city
      addressLine := data.addressLine
      phone := data.phone
      minOrderAmount := data.minOrderAmount
      latitude := data.latitude
      longitude := data.longitude
      deliveryRadiusKm := data.deliveryRadiusKm
      foodType := data.foodType }
  | .registerFromSignup payload =>
    match payload.ownerId, payload.name with
    | some ownerId, some name =>
      if name = "" then none
      else some
        { id := id
          ownerId := ownerId
          name := name
          city := payload.city.getD ""
          addressLine := payload.addressLine.getD ""
          phone := payload.phone.getD ""
          cuisine := payload.cuisine
          description := payload.description
          foodType := payload.foodType.getD .both
          approvalStatus := .pending }
    | _, _ => none

/-- The outbox rows beside it. -/
def Entry.events (adminAlertEmail : String) (restaurant : Restaurant) : Entry → List OutboxEvent
  | .createRestaurant _ _ => [publishRestaurant restaurant]
  | .registerFromSignup _ =>
    publishRestaurant restaurant :: alertAdminOfSubmission adminAlertEmail restaurant

/-- Whose venue a call would insert. -/
def Entry.ownerId (entry : Entry) : Option Nat := (entry.venue 0).map Restaurant.ownerId

/-- The insert of a call, with its events, committed. -/
def Entry.insert (adminAlertEmail : String) (s : State) (entry : Entry) : State :=
  match entry.venue s.nextRestaurantId with
  | none => s
  | some restaurant => s.save restaurant (entry.events adminAlertEmail restaurant)

/-- Where a call stands: not begun, past `owned_by` with nothing found, or at its end. -/
inductive Stage where
  | waiting
  | cleared
  | registered
  | turnedAway
  | failed
deriving DecidableEq, Repr

structure Call where
  entry : Entry
  stage : Stage := .waiting

/-- The database and the calls on it. -/
structure Intake where
  db : State
  calls : List Call

/-- What happens next, to the call at a place of the list. -/
inductive Turn where
  | look (i : Nat)
  | commit (i : Nat)
  | fail (i : Nat)
deriving DecidableEq, Repr

def Intake.setStage (r : Intake) (i : Nat) (call : Call) (stage : Stage) : List Call :=
  r.calls.set i { call with stage := stage }

/-- `owned_by` and what follows from it. -/
def Intake.look (r : Intake) (i : Nat) (call : Call) : Intake :=
  match call.entry.ownerId with
  | none => { r with calls := r.setStage i call .turnedAway }
  | some ownerId =>
    if ownedBy r.db ownerId ≠ [] then { r with calls := r.setStage i call .turnedAway }
    else { r with calls := r.setStage i call .cleared }

/-- A turn that is not the call's next one changes nothing. A call can fail at any point before its
commit, and leaves nothing then. -/
def Intake.step (adminAlertEmail : String) (r : Intake) : Turn → Intake
  | .look i =>
    match r.calls[i]? with
    | none => r
    | some call => if call.stage = .waiting then r.look i call else r
  | .commit i =>
    match r.calls[i]? with
    | none => r
    | some call =>
      if call.stage = .cleared then
        { db := call.entry.insert adminAlertEmail r.db, calls := r.setStage i call .registered }
      else r
  | .fail i =>
    match r.calls[i]? with
    | none => r
    | some call =>
      if call.stage = .waiting ∨ call.stage = .cleared then
        { r with calls := r.setStage i call .failed }
      else r

/-- A database and calls that have not begun. -/
def Intake.start (db : State) (entries : List Entry) : Intake where
  db := db
  calls := entries.map fun entry => { entry := entry }

/-! ### With nothing in between, the calls are the service's functions -/

theorem insert_createRestaurant {s : State} {owner : Identity} (data : RestaurantCreate)
    (adminAlertEmail : String) (none_yet : ownedBy s owner.userId = []) :
    createRestaurant s owner data =
      .ok ((Entry.createRestaurant owner data).insert adminAlertEmail s) := by
  unfold createRestaurant
  rw [if_neg (by simp [none_yet])]
  rfl

theorem insert_registerFromSignup {s : State} {payload : Registration} (adminAlertEmail : String)
    (none_yet : ∀ ownerId ∈ payload.ownerId, ownedBy s ownerId = []) :
    registerFromSignup adminAlertEmail s payload =
      (Entry.registerFromSignup payload).insert adminAlertEmail s := by
  obtain ⟨_ | ownerId, _ | name, city, address, phone, cuisine, description, food⟩ := payload
  · rfl
  · rfl
  · rfl
  · by_cases blank : name = ""
    · simp [registerFromSignup, Entry.insert, Entry.venue, blank]
    · simp [registerFromSignup, Entry.insert, Entry.venue, Entry.events, blank, none_yet ownerId rfl]

/-! ### What an insert adds -/

theorem ownedBy_save_new {s : State} {restaurant : Restaurant} {outbox : List OutboxEvent}
    (fresh : restaurant.id = s.nextRestaurantId) (ownerId : Nat) :
    ownedBy (s.save restaurant outbox) ownerId =
      ownedBy s ownerId ++ if restaurant.ownerId = ownerId then [restaurant] else [] := by
  have absent : restaurant.id ∉ s.restaurants.rows.map Restaurant.id :=
    fresh ▸ nextId_not_mem _
  unfold ownedBy State.save Table.put
  rw [dif_neg absent, List.filter_append]
  by_cases own : restaurant.ownerId = ownerId
  · simp [own]
  · simp [own]

theorem venue_spec {entry : Entry} {id : Nat} {restaurant : Restaurant}
    (made : entry.venue id = some restaurant) :
    restaurant.id = id ∧ entry.ownerId = some restaurant.ownerId := by
  cases entry with
  | createRestaurant owner data =>
    cases made
    exact ⟨rfl, rfl⟩
  | registerFromSignup payload =>
    obtain ⟨_ | ownerId, _ | name, city, address, phone, cuisine, description, food⟩ := payload
    · cases made
    · cases made
    · cases made
    · by_cases blank : name = ""
      · simp [Entry.venue, blank] at made
      · simp only [Entry.venue, if_neg blank, Option.some_inj] at made
        subst made
        simp [Entry.ownerId, Entry.venue, blank]

/-- A call that has an owner makes a venue. -/
theorem venue_of_ownerId {entry : Entry} {ownerId : Nat} (owner : entry.ownerId = some ownerId)
    (id : Nat) : ∃ restaurant, entry.venue id = some restaurant := by
  cases entry with
  | createRestaurant owner data => exact ⟨_, rfl⟩
  | registerFromSignup payload =>
    obtain ⟨_ | ownerId, _ | name, city, address, phone, cuisine, description, food⟩ := payload
    · cases owner
    · cases owner
    · cases owner
    · by_cases blank : name = ""
      · simp [Entry.ownerId, Entry.venue, blank] at owner
      · exact ⟨_, if_neg blank⟩

/-- **What an insert adds** to the venues of an owner: one, when the call is the owner's. -/
theorem ownedBy_insert (adminAlertEmail : String) (s : State) (entry : Entry) (ownerId : Nat) :
    (ownedBy (entry.insert adminAlertEmail s) ownerId).length =
      (ownedBy s ownerId).length + if entry.ownerId = some ownerId then 1 else 0 := by
  unfold Entry.insert
  cases made : entry.venue s.nextRestaurantId with
  | none =>
    have nobody : entry.ownerId ≠ some ownerId := by
      intro owner
      obtain ⟨restaurant, other⟩ := venue_of_ownerId owner s.nextRestaurantId
      rw [made] at other
      cases other
    simp [nobody]
  | some restaurant =>
    obtain ⟨fresh, owner⟩ := venue_spec made
    simp only [ownedBy_save_new fresh, owner, Option.some_inj]
    by_cases own : restaurant.ownerId = ownerId
    · simp [own]
    · simp [own]

/-! ### The result -/

/-- An owner has at most one committed venue. -/
def OneVenue (ownerId : Nat) (r : Intake) : Prop := (ownedBy r.db ownerId).length ≤ 1

/-- A call of this owner that commits finds still no venue of the owner. -/
def StillNone (ownerId : Nat) (r : Intake) (turn : Turn) : Prop :=
  ∀ i call, turn = .commit i → r.calls[i]? = some call → call.stage = .cleared →
    call.entry.ownerId = some ownerId → ownedBy r.db ownerId = []

/-- **What a turn does to an owner's venues**: nothing, or it commits a call that was cleared. -/
theorem step_cases (adminAlertEmail : String) (r : Intake) (turn : Turn) :
    (r.step adminAlertEmail turn).db = r.db ∨
      ∃ i call, turn = .commit i ∧ r.calls[i]? = some call ∧ call.stage = .cleared ∧
        (r.step adminAlertEmail turn).db = call.entry.insert adminAlertEmail r.db := by
  cases turn with
  | look i =>
    refine Or.inl ?_
    unfold Intake.step Intake.look
    dsimp only
    split
    · rfl
    · split
      · split
        · rfl
        · split <;> rfl
      · rfl
  | commit i =>
    unfold Intake.step
    dsimp only
    cases found : r.calls[i]? with
    | none => exact Or.inl rfl
    | some call =>
      dsimp only
      by_cases cleared : call.stage = .cleared
      · rw [if_pos cleared]
        exact Or.inr ⟨i, call, rfl, found, cleared, rfl⟩
      · rw [if_neg cleared]
        exact Or.inl rfl
  | fail i =>
    refine Or.inl ?_
    unfold Intake.step
    dsimp only
    split
    · rfl
    · split <;> rfl

variable {adminAlertEmail : String} {ownerId : Nat} {r : Intake} {turn : Turn}

theorem oneVenue_step (one : OneVenue ownerId r) (fresh : StillNone ownerId r turn) :
    OneVenue ownerId (r.step adminAlertEmail turn) := by
  unfold OneVenue at one ⊢
  rcases step_cases adminAlertEmail r turn with same | ⟨i, call, commits, found, cleared, inserts⟩
  · rwa [same]
  · rw [inserts, ownedBy_insert]
    by_cases own : call.entry.ownerId = some ownerId
    · simp [fresh i call commits found cleared own, own]
    · simpa [own] using one

/-- **A call that commits over another leaves two.** -/
theorem not_oneVenue_step (late : ¬ StillNone ownerId r turn) :
    ¬ OneVenue ownerId (r.step adminAlertEmail turn) := by
  unfold StillNone at late
  push Not at late
  obtain ⟨i, call, rfl, found, cleared, own, another⟩ := late
  have inserts : (r.step adminAlertEmail (.commit i)).db =
      call.entry.insert adminAlertEmail r.db := by
    unfold Intake.step
    simp [found, cleared]
  have there : 0 < (ownedBy r.db ownerId).length := List.length_pos_iff.mpr another
  unfold OneVenue
  rw [inserts, ownedBy_insert, if_pos own]
  omega

/-- **One restaurant per owner.** From any database where the owner has at most one venue, and for any
calls of any owners in any order of their steps, the owner never has two exactly when every call of
the owner's that commits finds still none. -/
theorem oneVenue_always_iff (adminAlertEmail : String) (db : State) (entries : List Entry)
    (ownerId : Nat) (alone : (ownedBy db ownerId).length ≤ 1) (turns : List Turn) :
    Always (Intake.step adminAlertEmail) (OneVenue ownerId) (Intake.start db entries) turns ↔
      Throughout (Intake.step adminAlertEmail) (StillNone ownerId) (Intake.start db entries) turns :=
  always_iff_throughout (Q := OneVenue ownerId) (fun _ _ one fresh => oneVenue_step one fresh)
    (fun _ one => one) (fun _ _ _ late => not_oneVenue_step late) alone

/-! ### Calls in turn -/

/-- A call of the owner's that has found no venue and has not committed. -/
def Call.Pending (ownerId : Nat) (call : Call) : Prop :=
  call.entry.ownerId = some ownerId ∧ call.stage = .cleared

/-- **The owner's calls do not overlap**: none looks while another is between its look and its commit. -/
def InTurn (ownerId : Nat) (r : Intake) (turn : Turn) : Prop :=
  ∀ i call, turn = .look i → r.calls[i]? = some call → call.entry.ownerId = some ownerId →
    ∀ other ∈ r.calls, ¬ other.Pending ownerId

/-- At most one call of the owner is pending, and while it is there is no venue. -/
structure Alone (ownerId : Nat) (r : Intake) : Prop where
  noneYet : ∀ call ∈ r.calls, call.Pending ownerId → ownedBy r.db ownerId = []
  single : ∀ (i j : Nat) (call other : Call), r.calls[i]? = some call → r.calls[j]? = some other →
    call.Pending ownerId → other.Pending ownerId → i = j

/-- A call that ends, or was not the owner's. -/
theorem Alone.settle (sole : Alone ownerId r) {i : Nat} {call : Call} {stage : Stage}
    (idle : ¬ ({ call with stage := stage } : Call).Pending ownerId) :
    Alone ownerId { r with calls := r.setStage i call stage } where
  noneYet := by
    intro other member pending
    rcases List.mem_or_eq_of_mem_set member with member | rfl
    · exact sole.noneYet other member pending
    · exact absurd pending idle
  single := by
    intro j k first second here there pending pending'
    rcases of_set here with ⟨_, rfl⟩ | ⟨_, here⟩
    · exact absurd pending idle
    rcases of_set there with ⟨_, rfl⟩ | ⟨_, there⟩
    · exact absurd pending' idle
    exact sole.single j k first second here there pending pending'

/-- The owner's call that has found nothing while none was pending. -/
theorem Alone.clear {i : Nat} {call : Call} (free : ∀ other ∈ r.calls, ¬ other.Pending ownerId)
    (nothing : ownedBy r.db ownerId = []) :
    Alone ownerId { r with calls := r.setStage i call .cleared } where
  noneYet := fun _ _ _ => nothing
  single := by
    intro j k first second here there pending pending'
    rcases of_set here with ⟨rfl, _⟩ | ⟨_, here⟩
    · rcases of_set there with ⟨rfl, _⟩ | ⟨_, there⟩
      · rfl
      · exact absurd pending' (free second (List.mem_of_getElem? there))
    · exact absurd pending (free first (List.mem_of_getElem? here))

/-- A commit of the only pending call, or of another owner's. -/
theorem Alone.commit (sole : Alone ownerId r) {i : Nat} {call : Call} (found : r.calls[i]? = some call)
    (cleared : call.stage = .cleared) (adminAlertEmail : String) :
    Alone ownerId
      { db := call.entry.insert adminAlertEmail r.db, calls := r.setStage i call .registered } := by
  have idle : ¬ ({ call with stage := .registered } : Call).Pending ownerId := fun pending => by
    cases pending.2
  have settled : Alone ownerId { r with calls := r.setStage i call .registered } := sole.settle idle
  refine ⟨fun other member pending => ?_, settled.single⟩
  have inserted := ownedBy_insert adminAlertEmail r.db call.entry ownerId
  by_cases own : call.entry.ownerId = some ownerId
  · obtain ⟨j, there⟩ := List.mem_iff_getElem?.mp member
    rcases of_set there with ⟨_, rfl⟩ | ⟨apart, there⟩
    · exact absurd pending idle
    · exact absurd (sole.single j i other call there found pending ⟨own, cleared⟩) apart
  · rw [if_neg own, settled.noneYet other member pending] at inserted
    exact List.eq_nil_of_length_eq_zero inserted

theorem alone_step (sole : Alone ownerId r) (inTurn : InTurn ownerId r turn) :
    Alone ownerId (r.step adminAlertEmail turn) := by
  cases turn with
  | look i =>
    unfold Intake.step
    dsimp only
    cases found : r.calls[i]? with
    | none => exact sole
    | some call =>
      dsimp only
      split_ifs
      · unfold Intake.look
        cases owner : call.entry.ownerId with
        | none => exact sole.settle fun pending => by cases pending.2
        | some other =>
          dsimp only
          split_ifs with another
          · exact sole.settle fun pending => by cases pending.2
          · by_cases own : other = ownerId
            · subst own
              exact Alone.clear (inTurn i call rfl found owner) (not_not.mp another)
            · refine sole.settle fun pending => own ?_
              exact Option.some.inj (owner.symm.trans pending.1)
      · exact sole
  | commit i =>
    unfold Intake.step
    dsimp only
    cases found : r.calls[i]? with
    | none => exact sole
    | some call =>
      dsimp only
      split_ifs with cleared
      · exact sole.commit found cleared adminAlertEmail
      · exact sole
  | fail i =>
    unfold Intake.step
    dsimp only
    cases found : r.calls[i]? with
    | none => exact sole
    | some call =>
      dsimp only
      split_ifs
      · exact sole.settle fun pending => by cases pending.2
      · exact sole

/-- **Calls that do not overlap** find at their commit still no venue of the owner. -/
theorem stillNone_of_inTurn (adminAlertEmail : String) (db : State) (entries : List Entry)
    (ownerId : Nat) {turns : List Turn}
    (inTurn : Throughout (Intake.step adminAlertEmail) (InTurn ownerId) (Intake.start db entries) turns) :
    Throughout (Intake.step adminAlertEmail) (StillNone ownerId) (Intake.start db entries) turns := by
  have waiting : ∀ call ∈ (Intake.start db entries).calls, ¬ call.Pending ownerId := by
    intro call member pending
    obtain ⟨entry, _, rfl⟩ := List.mem_map.mp member
    cases pending.2
  refine throughout_of_throughout (P := Alone ownerId) (fun _ _ sole turn => alone_step sole turn)
    (fun r turn sole _ i call _ found cleared own => ?_) ⟨?_, ?_⟩ inTurn
  · exact sole.noneYet call (List.mem_of_getElem? found) ⟨own, cleared⟩
  · exact fun call member pending => absurd pending (waiting call member)
  · exact fun i j call other here _ pending _ =>
      absurd pending (waiting call (List.mem_of_getElem? here))

/-- A signup message that is handled twice, one after the other. -/
theorem oneVenue_always_redelivered :
    Always (Intake.step "") (OneVenue 7)
      (Intake.start .empty
        [.registerFromSignup { ownerId := some 7, name := some "Spice Route" },
          .registerFromSignup { ownerId := some 7, name := some "Spice Route" }])
      [.look 0, .commit 0, .look 1, .commit 1] := by
  refine (oneVenue_always_iff "" .empty _ 7 (by decide) _).mpr ?_
  refine ⟨?_, ?_, ?_, ?_, trivial⟩
  · intro i call other
    cases other
  · intro i call same found cleared own
    decide
  · intro i call other
    cases other
  · intro i call same found cleared own
    cases same
    have away : call.stage = .turnedAway := by
      have stage : ((Intake.step "" (Intake.step "" (Intake.step "" (Intake.start .empty
          [.registerFromSignup { ownerId := some 7, name := some "Spice Route" },
            .registerFromSignup { ownerId := some 7, name := some "Spice Route" }])
          (.look 0)) (.commit 0)) (.look 1)).calls[1]?).map Call.stage = some .turnedAway := by
        decide
      rw [found, Option.map_some, Option.some_inj] at stage
      exact stage
    rw [away] at cleared
    cases cleared

/-- **Two venues for one owner.** Two requests of an owner both look before either inserts. -/
theorem not_oneVenue :
    ¬ ∀ (entries : List Entry) (turns : List Turn) (ownerId : Nat),
      OneVenue ownerId (run (Intake.step "") (Intake.start .empty entries) turns) := by
  intro one
  have two := one
    [.createRestaurant ⟨7, "restaurant"⟩
        { name := "Spice Route", city := "Surat", addressLine := "1 Ring Road", phone := "98" },
      .createRestaurant ⟨7, "restaurant"⟩
        { name := "Spice Route", city := "Surat", addressLine := "1 Ring Road", phone := "98" }]
    [.look 0, .look 1, .commit 0, .commit 1] 7
  revert two
  unfold OneVenue
  decide

end FoodDelivery.Restaurants
