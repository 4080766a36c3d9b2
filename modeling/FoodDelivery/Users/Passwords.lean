/-
**Signing in, and changing a password** (`services/users/app/service.py`): what `login` and the three
operations that change a password compute from the row they have read.

A change of password assigns `user.session_generation + 1`, computed from the row that was read: what the
commit writes is that number, whatever the row says by then. What the hashing library answers is a
parameter.
-/

import FoodDelivery.Users.Tokens

set_option autoImplicit false

namespace FoodDelivery.Users

/-! ### Signing in -/

/-- Said to an applicant whose venue an operator has not decided on yet. -/
def pendingApprovalMessage : String :=
  "Your restaurant registration is awaiting approval. " ++
  "We'll email you as soon as it has been reviewed."

/-- Said to one whose venue was turned down. -/
def rejectedMessage : String :=
  "Your restaurant registration was not approved. " ++
  "Please contact support if you think this is a mistake."

/-- Why this account cannot sign in, in words meant for its owner. -/
def inactiveReason (user : User) : String :=
  if user.approvalStatus = some "pending" then pendingApprovalMessage
  else if user.approvalStatus = some "rejected" then rejectedMessage
  else "Invalid email or password"

/-- `login`, from the row that its email finds: the user it issues tokens for. -/
def login (verifyPassword : String → String → Bool) (found : Option User) (password : String) :
    Except Raised User :=
  match found with
  | none => .error (.app (unauthorizedException "Invalid email or password"))
  | some user =>
    if verifyPassword password user.hashedPassword = false then
      .error (.app (unauthorizedException "Invalid email or password"))
    else if user.isActive = false then .error (.app (unauthorizedException (inactiveReason user)))
    else .ok user

/-! ### Changing the password -/

/-- What a change of password assigns to the row's columns; `resetCompleted` clears
`password_reset_required`. -/
structure PasswordChange where
  hashedPassword : String
  sessionGeneration : Nat
  resetCompleted : Bool := false
deriving DecidableEq, Repr

/-- The commit's `UPDATE`. -/
def PasswordChange.apply (change : PasswordChange) (row : User) : User :=
  { row with
    hashedPassword := change.hashedPassword
    sessionGeneration := change.sessionGeneration
    passwordResetRequired := row.passwordResetRequired && !change.resetCompleted }

/-- `reset_password`, for a token that was redeemed and the row it is for. -/
def resetPassword (redeemed : Bool) (user : User) (newHash : String) : Except Raised PasswordChange :=
  if redeemed then
    .ok { hashedPassword := newHash, sessionGeneration := user.sessionGeneration + 1 }
  else .error (.app (unauthorizedException "Invalid or expired reset token"))

/-- `change_password`, for the signed-in user's row. -/
def changePassword (verifyPassword : String → String → Bool) (user : User)
    (currentPassword newHash : String) : Except Raised PasswordChange :=
  if verifyPassword currentPassword user.hashedPassword = false then
    .error (.app (unauthorizedException "Current password is incorrect"))
  else .ok { hashedPassword := newHash, sessionGeneration := user.sessionGeneration + 1 }

/-- `reset_admin_password`, from the row that its email finds. Every failure answers with one
message. -/
def resetAdminPassword (verifyPassword : String → String → Bool) (found : Option User)
    (oldPassword newHash : String) : Except Raised PasswordChange :=
  match found with
  | none => .error (.app (unauthorizedException "Invalid email or password"))
  | some user =>
    if user.role ≠ .admin || user.passwordResetRequired = false ||
        verifyPassword oldPassword user.hashedPassword = false then
      .error (.app (unauthorizedException "Invalid email or password"))
    else
      .ok
        { hashedPassword := newHash
          sessionGeneration := user.sessionGeneration + 1
          resetCompleted := true }

/-! ### What they do -/

variable {verifyPassword : String → String → Bool} {user : User} {change : PasswordChange}

theorem login_ok {found : Option User} {password : String}
    (outcome : login verifyPassword found password = .ok user) :
    found = some user ∧ user.isActive = true := by
  cases found with
  | none => simp [login] at outcome
  | some row =>
    simp only [login] at outcome
    split at outcome
    · cases outcome
    · split at outcome
      · cases outcome
      · rename_i active
        cases outcome
        exact ⟨rfl, by simpa using active⟩

/-- **Every change of password** assigns the generation after the one it read. -/
theorem resetPassword_ok {redeemed : Bool} {newHash : String}
    (outcome : resetPassword redeemed user newHash = .ok change) :
    change.sessionGeneration = user.sessionGeneration + 1 := by
  cases redeemed with
  | false => simp [resetPassword] at outcome
  | true =>
    simp only [resetPassword, if_true, Except.ok.injEq] at outcome
    simp [← outcome]

theorem changePassword_ok {currentPassword newHash : String}
    (outcome : changePassword verifyPassword user currentPassword newHash = .ok change) :
    change.sessionGeneration = user.sessionGeneration + 1 := by
  unfold changePassword at outcome
  split at outcome
  · cases outcome
  · cases outcome
    rfl

theorem resetAdminPassword_ok {found : Option User} {oldPassword newHash : String}
    (outcome : resetAdminPassword verifyPassword found oldPassword newHash = .ok change) :
    ∃ user, found = some user ∧ change.sessionGeneration = user.sessionGeneration + 1 := by
  cases found with
  | none => simp [resetAdminPassword] at outcome
  | some row =>
    simp only [resetAdminPassword] at outcome
    split at outcome
    · cases outcome
    · cases outcome
      exact ⟨row, rfl, rfl⟩

end FoodDelivery.Users
