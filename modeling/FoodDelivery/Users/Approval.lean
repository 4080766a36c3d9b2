/-
**Restaurant accounts open by approval only** (`services/users/app/service.py`).

An applicant's account is created inactive, and the operator's decisions reach it as messages, in any
order and any number of times. `decisions` keeps, beside the database, the decisions that were applied,
oldest first.

`gate_always`: in every state of every run a restaurant's account is active exactly when an approval has
been applied to it, it has the status of the last decision that was applied, that decision changes
nothing and announces nothing when it comes again, and no decision touches any other account; and an
account that is active stays so.
-/

import FoodDelivery.Lib.Runs
import FoodDelivery.Users.Passwords
import FoodDelivery.Users.Service

set_option autoImplicit false

namespace FoodDelivery.Users

open FoodDelivery.Lib

/-! ### The first admin -/

/-- `bootstrap_admin`: create the first admin user; the email is the phone as well. -/
def bootstrapAdmin (s : State) (email hashedPassword : String) (gap : Nat) (lostRace : Bool) :
    Except Raised State :=
  if (s.users.first? fun user => user.role = .admin).isSome then
    .error (.app (conflictException "Admin account already exists"))
  else if (s.users.first? fun user => user.email = email || user.phone = email).isSome then
    .error (.app (conflictException "Email already registered"))
  else if lostRace then .error (.app (conflictException "Email already registered"))
  else
    let user : User :=
      { id := s.lastUserId + gap + 1
        email := email
        phone := email
        firstName := "Admin"
        lastName := "User"
        hashedPassword := hashedPassword
        role := .admin
        isActive := true
        passwordResetRequired := true }
    .ok { s with
      users := s.users.put user
      outbox := s.outbox ++ publishUser user
      lastUserId := user.id }

/-! ### Runs -/

/-- What the service is asked to do with its accounts. A change of password names the row it is for. -/
inductive Action where
  | registerUser (data : UserRegister) (hashedPassword : String) (gap : Nat) (lostRace : Bool)
  | bootstrapAdmin (email hashedPassword : String) (gap : Nat) (lostRace : Bool)
  | applyRestaurantDecision (ownerId : Nat) (status : String) (fails : Bool)
  | login (email password : String)
  | updateProfile (userId : Nat) (data : UserUpdate) (lostRace : Bool)
  | resetPassword (redeemed : Bool) (userId : Nat) (newHash : String)
  | changePassword (userId : Nat) (currentPassword newHash : String)
  | resetAdminPassword (email oldPassword newHash : String)

/-- The database, and the decisions that have been applied to restaurants' accounts. -/
structure Gate where
  db : State
  decisions : List (Nat × String)

def Gate.empty : Gate where
  db := .empty
  decisions := []

/-- The row an email finds. -/
def userByEmail (s : State) (email : String) : Option User :=
  s.users.first? fun user => user.email = email

/-- A change of password, committed on the row it was computed from. -/
def changed (s : State) (user : User) : Except Raised PasswordChange → State
  | .ok change => { s with users := s.users.put (change.apply user) }
  | .error _ => s

/-- What is left of an operation that may raise. -/
def attempted (s : State) : Except Raised State → State
  | .ok next => next
  | .error _ => s

/-- The account is a restaurant's. -/
def isRestaurant (s : State) (userId : Nat) : Bool :=
  (s.users.find? userId).any fun user => user.role = .restaurant

/-- One action. A decision that fails, as one does whose status is too long for its column, is rolled
back and has not been applied. -/
def Gate.step (verifyPassword : String → String → Bool) (w : Gate) : Action → Gate
  | .registerUser data hashedPassword gap lostRace =>
    { w with db := attempted w.db (registerUser w.db data hashedPassword gap lostRace) }
  | .bootstrapAdmin email hashedPassword gap lostRace =>
    { w with db := attempted w.db (Users.bootstrapAdmin w.db email hashedPassword gap lostRace) }
  | .applyRestaurantDecision ownerId status fails =>
    if fails then w
    else
      { db := Users.applyRestaurantDecision w.db ownerId status
        decisions :=
          if isRestaurant w.db ownerId then w.decisions ++ [(ownerId, status)] else w.decisions }
  | .login _ _ => w
  | .updateProfile userId data lostRace =>
    match w.db.users.find? userId with
    | none => w
    | some user => { w with db := attempted w.db (updateProfile w.db user data lostRace) }
  | .resetPassword redeemed userId newHash =>
    match w.db.users.find? userId with
    | none => w
    | some user => { w with db := changed w.db user (resetPassword redeemed user newHash) }
  | .changePassword userId currentPassword newHash =>
    match w.db.users.find? userId with
    | none => w
    | some user =>
      { w with db := changed w.db user (changePassword verifyPassword user currentPassword newHash) }
  | .resetAdminPassword email oldPassword newHash =>
    match userByEmail w.db email with
    | none => w
    | some user =>
      { w with
        db := changed w.db user
          (resetAdminPassword verifyPassword (some user) oldPassword newHash) }

/-! ### What has to hold -/

/-- The last decision that was applied to an account, and "pending" before the first. -/
def lastDecision (decisions : List (Nat × String)) (userId : Nat) : String :=
  (((decisions.filter fun decision => decision.1 = userId).getLast?).map Prod.snd).getD "pending"

/-- **The gate**: what decisions have to do with the accounts. -/
structure GateKept (w : Gate) : Prop where
  /-- A restaurant's account is active when it has been approved, and not before. -/
  byApproval : ∀ userId user, w.db.users.find? userId = some user → user.role = .restaurant →
    (user.isActive = true ↔ (userId, "approved") ∈ w.decisions)
  /-- It has the status of the last decision. -/
  lastApplied : ∀ userId user, w.db.users.find? userId = some user → user.role = .restaurant →
    user.approvalStatus = some (lastDecision w.decisions userId)
  /-- That decision, applied again, changes no row and records none. -/
  repeated : ∀ userId status, (∃ earlier, (w.decisions.filter fun decision => decision.1 = userId) =
      earlier ++ [(userId, status)]) →
    Users.applyRestaurantDecision w.db userId status = w.db
  /-- No decision, whosever it is, touches another account. -/
  others : ∀ userId user ownerId status, w.db.users.find? userId = some user →
    user.role ≠ .restaurant ∨ userId ≠ ownerId →
    (Users.applyRestaurantDecision w.db ownerId status).users.find? userId = some user

/-- Later, every restaurant's account that was active still is. -/
def StaysOpen (earlier later : Gate) : Prop :=
  ∀ userId user, earlier.db.users.find? userId = some user → user.role = .restaurant →
    user.isActive = true →
    ∃ still, later.db.users.find? userId = some still ∧ still.role = .restaurant ∧
      still.isActive = true

/-! ### What an action writes -/

/-- The outcomes of an action for the accounts. -/
inductive Writes (w next : Gate) : Prop
  | nothing (same : next = w)
  /-- A new account, under an id that no account has had: a restaurant's waits for its approval. -/
  | created (user : User) (fresh : w.db.lastUserId < user.id)
      (waits : user.role = .restaurant →
        user.isActive = false ∧ user.approvalStatus = some "pending")
      (users : next.db.users = w.db.users.put user) (last : next.db.lastUserId = user.id)
      (decisions : next.decisions = w.decisions)
  /-- An edit of an account leaves its role and whether it may sign in. -/
  | edited (user edit : User) (found : w.db.users.find? user.id = some user)
      (id : edit.id = user.id) (role : edit.role = user.role) (active : edit.isActive = user.isActive)
      (status : edit.approvalStatus = user.approvalStatus)
      (users : next.db.users = w.db.users.put edit) (last : next.db.lastUserId = w.db.lastUserId)
      (decisions : next.decisions = w.decisions)
  /-- A decision about a restaurant's account. -/
  | decision (user : User) (status : String) (found : w.db.users.find? user.id = some user)
      (restaurant : user.role = .restaurant)
      (users : ∀ userId, next.db.users.find? userId =
        if userId = user.id then some (decided user status) else w.db.users.find? userId)
      (last : next.db.lastUserId = w.db.lastUserId)
      (decisions : next.decisions = w.decisions ++ [(user.id, status)])

variable {w next : Gate} {verifyPassword : String → String → Bool}

theorem writes_registerUser (w : Gate) (data : UserRegister) (hashedPassword : String) (gap : Nat)
    (lostRace : Bool) :
    Writes w { w with db := attempted w.db (registerUser w.db data hashedPassword gap lostRace) } := by
  unfold registerUser
  split
  · split
    · exact .nothing rfl
    · exact .nothing rfl
  · split
    · exact .nothing rfl
    · refine .created _ ?_ ?_ rfl rfl rfl
      · show w.db.lastUserId < w.db.lastUserId + gap + 1
        omega
      · intro restaurant
        have applicant : data.role = .restaurant := restaurant
        simp [applicant]

theorem writes_bootstrapAdmin (w : Gate) (email hashedPassword : String) (gap : Nat)
    (lostRace : Bool) :
    Writes w
      { w with db := attempted w.db (bootstrapAdmin w.db email hashedPassword gap lostRace) } := by
  unfold bootstrapAdmin
  split_ifs
  · exact .nothing rfl
  · exact .nothing rfl
  · exact .nothing rfl
  · refine .created _ ?_ (fun restaurant => by cases restaurant) rfl rfl rfl
    show w.db.lastUserId < w.db.lastUserId + gap + 1
    omega

theorem writes_changed {user : User} (found : w.db.users.find? user.id = some user)
    (outcome : Except Raised PasswordChange) :
    Writes w { w with db := changed w.db user outcome } := by
  cases outcome with
  | error raised => exact .nothing rfl
  | ok change => exact .edited user (change.apply user) found rfl rfl rfl rfl rfl rfl rfl

theorem writes_updateProfile {user : User} (found : w.db.users.find? user.id = some user)
    (data : UserUpdate) (lostRace : Bool) :
    Writes w { w with db := attempted w.db (updateProfile w.db user data lostRace) } := by
  rcases updateProfile_cases w.db user data lostRace with ⟨raised, refused, _⟩ | ⟨_, _, edits⟩
  · rw [refused]
    exact .nothing rfl
  · rw [edits]
    exact .edited user (data.apply user) found rfl rfl rfl rfl rfl rfl rfl

/-- **What a decision leaves of the accounts**: a restaurant's as it was decided, the others as they
were. -/
theorem find?_applyRestaurantDecision {s : State} {user : User} (status : String)
    (found : s.users.find? user.id = some user) (restaurant : user.role = .restaurant)
    (userId : Nat) :
    (applyRestaurantDecision s user.id status).users.find? userId =
      if userId = user.id then some (decided user status) else s.users.find? userId := by
  unfold applyRestaurantDecision
  rw [found]
  dsimp only
  rw [if_neg (not_not.mpr restaurant)]
  split_ifs with same own own
  · have unchanged : decided user status = user := by
      obtain ⟨active, approval⟩ := same
      unfold decided at active approval ⊢
      dsimp only at active approval
      rw [active, approval]
    rw [own, unchanged, found]
  · rfl
  · rw [own]
    exact Table.find?_put_self _ (decided user status)
  · exact Table.find?_put_other _ fun same_id => own same_id.symm

theorem lastUserId_applyRestaurantDecision (s : State) (ownerId : Nat) (status : String) :
    (applyRestaurantDecision s ownerId status).lastUserId = s.lastUserId := by
  rcases applyRestaurantDecision_cases s ownerId status with same | ⟨user, _, _, written⟩
  · rw [same]
  · rw [written]

/-- A decision about somebody who is no restaurant does nothing. -/
theorem applyRestaurantDecision_other {s : State} {ownerId : Nat} (status : String)
    (other : isRestaurant s ownerId = false) : applyRestaurantDecision s ownerId status = s := by
  rcases applyRestaurantDecision_cases s ownerId status with same | ⟨user, found, restaurant, _⟩
  · exact same
  · simp [isRestaurant, found, restaurant] at other

theorem writes_decision (w : Gate) (ownerId : Nat) (status : String) :
    Writes w
      { db := applyRestaurantDecision w.db ownerId status
        decisions :=
          if isRestaurant w.db ownerId then w.decisions ++ [(ownerId, status)]
          else w.decisions } := by
  by_cases restaurant : isRestaurant w.db ownerId = true
  · rw [if_pos restaurant]
    unfold isRestaurant at restaurant
    cases found : w.db.users.find? ownerId with
    | none => simp [found] at restaurant
    | some user =>
      have own : user.id = ownerId := Table.key_of_find? found
      have role : user.role = .restaurant := by simpa [found] using restaurant
      subst own
      exact .decision user status found role (find?_applyRestaurantDecision status found role)
        (lastUserId_applyRestaurantDecision _ _ _) rfl
  · rw [Bool.not_eq_true] at restaurant
    rw [applyRestaurantDecision_other status restaurant]
    exact .nothing (by simp [restaurant])

/-- **What an action writes.** -/
theorem writes_step (verifyPassword : String → String → Bool) (w : Gate) (action : Action) :
    Writes w (w.step verifyPassword action) := by
  cases action with
  | registerUser data hashedPassword gap lostRace =>
    exact writes_registerUser w data hashedPassword gap lostRace
  | bootstrapAdmin email hashedPassword gap lostRace =>
    exact writes_bootstrapAdmin w email hashedPassword gap lostRace
  | applyRestaurantDecision ownerId status fails =>
    cases fails with
    | true => exact .nothing rfl
    | false => exact writes_decision w ownerId status
  | login email password => exact .nothing rfl
  | updateProfile userId data lostRace =>
    unfold Gate.step
    dsimp only
    split
    · exact .nothing rfl
    · rename_i user found
      have own : user.id = userId := Table.key_of_find? found
      exact writes_updateProfile (own ▸ found) data lostRace
  | resetPassword redeemed userId newHash =>
    unfold Gate.step
    dsimp only
    split
    · exact .nothing rfl
    · rename_i user found
      have own : user.id = userId := Table.key_of_find? found
      exact writes_changed (own ▸ found) _
  | changePassword userId currentPassword newHash =>
    unfold Gate.step
    dsimp only
    split
    · exact .nothing rfl
    · rename_i user found
      have own : user.id = userId := Table.key_of_find? found
      exact writes_changed (own ▸ found) _
  | resetAdminPassword email oldPassword newHash =>
    unfold Gate.step
    dsimp only
    split
    · exact .nothing rfl
    · rename_i user found
      exact writes_changed (Table.find?_of_first? found).1 _

/-! ### The invariant -/

/-- What the gate rests on: every account, and everybody a decision was about, has an id that was handed
out, and a decision is about a restaurant's account. -/
structure GateSound (w : Gate) : Prop where
  numbered : ∀ userId user, w.db.users.find? userId = some user → userId ≤ w.db.lastUserId
  about : ∀ decision ∈ w.decisions, ∃ user, w.db.users.find? decision.1 = some user ∧
    user.role = .restaurant
  byApproval : ∀ userId user, w.db.users.find? userId = some user → user.role = .restaurant →
    (user.isActive = true ↔ (userId, "approved") ∈ w.decisions)
  lastApplied : ∀ userId user, w.db.users.find? userId = some user → user.role = .restaurant →
    user.approvalStatus = some (lastDecision w.decisions userId)

theorem lastDecision_append (decisions : List (Nat × String)) (ownerId : Nat) (status : String)
    (userId : Nat) :
    lastDecision (decisions ++ [(ownerId, status)]) userId =
      if ownerId = userId then status else lastDecision decisions userId := by
  by_cases own : ownerId = userId
  · simp [lastDecision, own]
  · simp [lastDecision, own]

/-- Nobody has decided about an account that is not there. -/
theorem lastDecision_absent {decisions : List (Nat × String)} {userId : Nat}
    (absent : ∀ decision ∈ decisions, decision.1 ≠ userId) :
    lastDecision decisions userId = "pending" := by
  have none_left : (decisions.filter fun decision => decision.1 = userId) = [] := by
    refine List.filter_eq_nil_iff.mpr fun decision member => ?_
    simpa using absent decision member
  rw [lastDecision, none_left]
  rfl

theorem gateSound_created (sound : GateSound w) {user : User} (fresh : w.db.lastUserId < user.id)
    (waits : user.role = .restaurant →
      user.isActive = false ∧ user.approvalStatus = some "pending")
    (users : next.db.users = w.db.users.put user) (last : next.db.lastUserId = user.id)
    (decisions : next.decisions = w.decisions) : GateSound next := by
  have nobody : ∀ decision ∈ w.decisions, decision.1 ≠ user.id := by
    intro decision member own
    obtain ⟨row, found, _⟩ := sound.about decision member
    have handed := sound.numbered decision.1 row found
    rw [own] at handed
    exact absurd handed (Nat.not_le.mpr fresh)
  refine ⟨?_, ?_, ?_, ?_⟩
  · intro userId row found
    rw [users, Table.find?_put] at found
    split_ifs at found with own
    · rw [last, own]
    · rw [last]
      exact Nat.le_of_lt (Nat.lt_of_le_of_lt (sound.numbered userId row found) fresh)
  · rw [decisions]
    intro decision member
    obtain ⟨row, found, restaurant⟩ := sound.about decision member
    refine ⟨row, ?_, restaurant⟩
    rw [users, Table.find?_put_other _ (nobody decision member).symm]
    exact found
  · intro userId row found restaurant
    rw [users, Table.find?_put] at found
    rw [decisions]
    split_ifs at found with own
    · cases found
      refine iff_of_false (by simp [(waits restaurant).1]) fun member => ?_
      exact nobody _ member own.symm
    · exact sound.byApproval userId row found restaurant
  · intro userId row found restaurant
    rw [users, Table.find?_put] at found
    rw [decisions]
    split_ifs at found with own
    · cases found
      rw [(waits restaurant).2, ← own, lastDecision_absent nobody]
    · exact sound.lastApplied userId row found restaurant

theorem gateSound_edited (sound : GateSound w) {user edit : User}
    (there : w.db.users.find? user.id = some user) (id : edit.id = user.id)
    (role : edit.role = user.role) (active : edit.isActive = user.isActive)
    (status : edit.approvalStatus = user.approvalStatus)
    (users : next.db.users = w.db.users.put edit) (last : next.db.lastUserId = w.db.lastUserId)
    (decisions : next.decisions = w.decisions) : GateSound next := by
  have row_of : ∀ userId row, next.db.users.find? userId = some row →
      ∃ before, w.db.users.find? userId = some before ∧ row.role = before.role ∧
        row.isActive = before.isActive ∧ row.approvalStatus = before.approvalStatus := by
    intro userId row found
    rw [users, Table.find?_put] at found
    split_ifs at found with own
    · cases found
      exact ⟨user, by rw [← own, id]; exact there, role, active, status⟩
    · exact ⟨row, found, rfl, rfl, rfl⟩
  refine ⟨?_, ?_, ?_, ?_⟩
  · intro userId row found
    obtain ⟨before, old, _⟩ := row_of userId row found
    rw [last]
    exact sound.numbered userId before old
  · rw [decisions]
    intro decision member
    obtain ⟨row, found, restaurant⟩ := sound.about decision member
    rw [users, Table.find?_put]
    split_ifs with own
    · rw [id] at own
      rw [← own, there, Option.some_inj] at found
      exact ⟨edit, rfl, by rw [role, found, restaurant]⟩
    · exact ⟨row, found, restaurant⟩
  · intro userId row found restaurant
    obtain ⟨before, old, same_role, same_active, _⟩ := row_of userId row found
    rw [decisions, same_active]
    exact sound.byApproval userId before old (same_role ▸ restaurant)
  · intro userId row found restaurant
    obtain ⟨before, old, same_role, _, same_status⟩ := row_of userId row found
    rw [decisions, same_status]
    exact sound.lastApplied userId before old (same_role ▸ restaurant)

theorem gateSound_decided (sound : GateSound w) {user : User} {status : String}
    (there : w.db.users.find? user.id = some user) (applicant : user.role = .restaurant)
    (users : ∀ userId, next.db.users.find? userId =
      if userId = user.id then some (decided user status) else w.db.users.find? userId)
    (last : next.db.lastUserId = w.db.lastUserId)
    (decisions : next.decisions = w.decisions ++ [(user.id, status)]) : GateSound next := by
  refine ⟨?_, ?_, ?_, ?_⟩
  · intro userId row found
    rw [users] at found
    rw [last]
    split_ifs at found with own
    · exact own ▸ sound.numbered user.id user there
    · exact sound.numbered userId row found
  · rw [decisions]
    intro decision member
    rw [users]
    split_ifs with own
    · exact ⟨_, rfl, applicant⟩
    · rcases List.mem_append.mp member with old | new
      · exact sound.about decision old
      · rw [List.mem_singleton.mp new] at own
        exact absurd rfl own
  · intro userId row found restaurant
    rw [users] at found
    rw [decisions]
    split_ifs at found with own
    · cases found
      have before := sound.byApproval user.id user there applicant
      subst own
      simp only [decided, Bool.or_eq_true, decide_eq_true_eq, before, List.mem_append,
        List.mem_singleton, Prod.mk.injEq, true_and]
      exact or_congr Iff.rfl eq_comm
    · have before := sound.byApproval userId row found restaurant
      rw [before]
      simp [own]
  · intro userId row found restaurant
    rw [users] at found
    rw [decisions, lastDecision_append]
    split_ifs at found with own
    · cases found
      simp [decided, own]
    · rw [if_neg (Ne.symm own)]
      exact sound.lastApplied userId row found restaurant

/-- **Every action keeps the invariant.** -/
theorem gateSound_step (sound : GateSound w) (writes : Writes w next) : GateSound next := by
  cases writes with
  | nothing same => rwa [same]
  | created user fresh waits users last decisions =>
    exact gateSound_created sound fresh waits users last decisions
  | edited user edit there id role active status users last decisions =>
    exact gateSound_edited sound there id role active status users last decisions
  | decision user status there applicant users last decisions =>
    exact gateSound_decided sound there applicant users last decisions

theorem gateSound_empty : GateSound .empty where
  numbered := fun _ _ found => by cases found
  about := fun _ member => by cases member
  byApproval := fun _ _ found => by cases found
  lastApplied := fun _ _ found => by cases found

/-! ### The results -/

/-- **The gate is kept** wherever the invariant holds. -/
theorem GateSound.kept (sound : GateSound w) : GateKept w where
  byApproval := sound.byApproval
  lastApplied := sound.lastApplied
  repeated := by
    rintro userId status ⟨earlier, last⟩
    have member : (userId, status) ∈ w.decisions := by
      refine (List.mem_filter.mp (?_ : _ ∈ w.decisions.filter fun d => d.1 = userId)).1
      rw [last]
      simp
    obtain ⟨user, found, restaurant⟩ := sound.about _ member
    have said : user.approvalStatus = some status := by
      rw [sound.lastApplied userId user found restaurant, lastDecision, last]
      simp
    have let_in : status = "approved" → user.isActive = true := by
      rintro rfl
      exact (sound.byApproval userId user found restaurant).mpr member
    have unchanged : (decided user status).isActive = user.isActive ∧
        (decided user status).approvalStatus = user.approvalStatus := by
      refine ⟨?_, said.symm⟩
      by_cases approves : status = "approved"
      · simp [decided, let_in approves]
      · simp [decided, approves]
    unfold Users.applyRestaurantDecision
    rw [found]
    dsimp only
    rw [if_neg (not_not.mpr restaurant), if_pos unchanged]
  others := by
    intro userId user ownerId status found apart
    rcases applyRestaurantDecision_cases w.db ownerId status with same | ⟨owner, there, applicant, written⟩
    · rw [same]
      exact found
    · have own : owner.id = ownerId := Table.key_of_find? there
      have different : ownerId ≠ userId := by
        rintro rfl
        rw [there, Option.some_inj] at found
        rcases apart with role | id
        · exact role (found ▸ applicant)
        · exact id rfl
      rw [written]
      exact (Table.find?_put_other _ (own ▸ different)).trans found

theorem stays_step (sound : GateSound w) (writes : Writes w next) : StaysOpen w next := by
  intro userId user found restaurant active
  cases writes with
  | nothing same => exact ⟨user, same ▸ found, restaurant, active⟩
  | created new fresh waits users last decisions =>
    have other : new.id ≠ userId := by
      rintro rfl
      exact absurd (sound.numbered _ user found) (Nat.not_le.mpr fresh)
    exact ⟨user, by rw [users, Table.find?_put_other _ other]; exact found, restaurant, active⟩
  | edited old edit there id role same_active status users last decisions =>
    rw [users, Table.find?_put]
    split_ifs with own
    · rw [← own, id, there, Option.some_inj] at found
      exact ⟨edit, rfl, by rw [role, found, restaurant], by rw [same_active, found, active]⟩
    · exact ⟨user, found, restaurant, active⟩
  | decision old status there applicant users last decisions =>
    rw [users]
    split_ifs with own
    · rw [own, there, Option.some_inj] at found
      exact ⟨_, rfl, applicant, by simp [decided, found, active]⟩
    · exact ⟨user, found, restaurant, active⟩

/-- **Restaurant accounts open by approval only.** In every run, with the decisions in any order and any
number of times: the gate is kept in every state, and an account that is active is so in every later
state. -/
theorem gate_always (verifyPassword : String → String → Bool) (actions : List Action) :
    Always (Gate.step verifyPassword) GateKept .empty actions ∧
      Onward (Gate.step verifyPassword) StaysOpen .empty actions := by
  have keep : ∀ w action, GateSound w → GateSound (Gate.step verifyPassword w action) :=
    fun w action sound => gateSound_step sound (writes_step verifyPassword w action)
  refine ⟨(always_of_step keep gateSound_empty).mono fun _ sound => sound.kept, ?_⟩
  refine (onward_iff_throughout ?_ ?_).mpr (throughout_of_step keep
    (fun w action sound => stays_step sound (writes_step verifyPassword w action)) gateSound_empty)
  · exact fun _ _ user found restaurant active => ⟨user, found, restaurant, active⟩
  · intro first second third once again userId user found restaurant active
    obtain ⟨still, there, role, opened⟩ := once userId user found restaurant active
    exact again userId still there role opened

end FoodDelivery.Users
