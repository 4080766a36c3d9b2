/-
**Sessions** (`services/users/app/jwt_tokens.py`, `service.py`, `dependencies.py`): what a token claims,
who accepts it and how it is revoked.

A token that was issued is known by its `jti`, which is its number; the library signs the claims, and a
string it did not sign is a number that was never issued. The blocklist is Redis: a key that was set with
a TTL is there until the TTL has run out, and setting it again replaces the TTL.
-/

import FoodDelivery.Lib.Outcomes
import FoodDelivery.Users.Model

set_option autoImplicit false

namespace FoodDelivery.Users

open FoodDelivery.Lib

/-! ### Claims -/

inductive TokenType where
  | access
  | refresh
deriving DecidableEq, Repr

/-- What a token says; `sub` is the user's id and `gen` their session generation. -/
structure Claims where
  sub : Nat
  role : Role
  gen : Nat
  exp : Timestamp
  iat : Timestamp
  type : TokenType
deriving DecidableEq, Repr

/-- The lifetimes; Redis takes no TTL of zero. -/
structure Settings where
  jwtExpirationMinutes : Nat := 30
  jwtRefreshExpirationDays : Nat := 7
  minutes_pos : 0 < jwtExpirationMinutes := by decide
  days_pos : 0 < jwtRefreshExpirationDays := by decide

/-- `settings.jwt_expiration_minutes * 60`. -/
def Settings.accessSeconds (settings : Settings) : Nat := settings.jwtExpirationMinutes * 60

/-- `settings.jwt_refresh_expiration_days * 86400`. -/
def Settings.refreshSeconds (settings : Settings) : Nat := settings.jwtRefreshExpirationDays * 86400

/-- How long a token of a type lives. -/
def Settings.lifetime (settings : Settings) : TokenType → Nat
  | .access => settings.accessSeconds
  | .refresh => settings.refreshSeconds

/-- `create_access_token` and `create_refresh_token`, for the claims of a user. -/
def createToken (settings : Settings) (user : User) (now : Timestamp) (type : TokenType) : Claims where
  sub := user.id
  role := user.role
  gen := user.sessionGeneration
  exp := now + settings.lifetime type
  iat := now
  type := type

/-- `_issue_tokens`: an access and a refresh token for a user. -/
def issueTokens (settings : Settings) (user : User) (now : Timestamp) : List Claims :=
  [createToken settings user now .access, createToken settings user now .refresh]

def unauthorizedException (message : String) : AppException where
  message := message
  statusCode := 401

/-! ### The blocklist -/

/-- Until when each key is there; `none` for one that was never set. -/
abbrev Blocklist := Nat → Option Timestamp

/-- `_blocklist`: `SET key 1 EX ttl`. -/
def Blocklist.set (blocklist : Blocklist) (jti : Nat) (ttl : Nat) (now : Timestamp) : Blocklist :=
  fun other => if other = jti then some (now + ttl) else blocklist other

/-- `is_revoked`: `GET key` finds something. -/
def Blocklist.isRevoked (blocklist : Blocklist) (jti : Nat) (now : Timestamp) : Bool :=
  match blocklist jti with
  | none => false
  | some expires => now < expires

@[simp] theorem Blocklist.set_self (blocklist : Blocklist) (jti ttl : Nat) (now : Timestamp) :
    blocklist.set jti ttl now jti = some (now + ttl) := if_pos rfl

theorem Blocklist.set_other (blocklist : Blocklist) {jti other : Nat} (ttl : Nat) (now : Timestamp)
    (different : other ≠ jti) : blocklist.set jti ttl now other = blocklist other := if_neg different

/-! ### Who accepts a token -/

/-- The tokens that were issued, the blocklist and the time. -/
structure TokenStore where
  now : Timestamp
  issued : List Claims := []
  blocklist : Blocklist := fun _ => none

/-- `verify_token`: the claims of a token that was issued and has not expired. -/
def TokenStore.verifyToken (s : TokenStore) (token : Nat) : Except Raised Claims :=
  match s.issued[token]? with
  | none => .error (.app (unauthorizedException "Invalid or expired token"))
  | some claims =>
    if s.now < claims.exp then .ok claims
    else .error (.app (unauthorizedException "Invalid or expired token"))

/-- `generation_matches`. -/
def generationMatches (claims : Claims) (user : User) : Bool := claims.gen = user.sessionGeneration

/-- The user a token is for, when they are active and the token is of their generation. -/
def sessionUser (users : Table Nat User User.id) (claims : Claims) : Except Raised User :=
  match users.find? claims.sub with
  | none => .error (.app (unauthorizedException "User not found or inactive"))
  | some user =>
    if user.isActive = false then
      .error (.app (unauthorizedException "User not found or inactive"))
    else if generationMatches claims user = false then
      .error (.app (unauthorizedException "Session expired"))
    else .ok user

/-- `current_user`: the authenticated user behind an access token. -/
def currentUser (s : TokenStore) (users : Table Nat User User.id) (token : Nat) :
    Except Raised User := do
  let claims ← s.verifyToken token
  if claims.type ≠ .access then .error (.app (unauthorizedException "Invalid token type"))
  else if s.blocklist.isRevoked token s.now then
    .error (.app (unauthorizedException "Token revoked"))
  else sessionUser users claims

/-- The checks of `refresh_tokens`, and the user it issues the new pair for. -/
def refreshUser (s : TokenStore) (users : Table Nat User User.id) (token : Nat) :
    Except Raised User := do
  let claims ← s.verifyToken token
  if claims.type ≠ .refresh then .error (.app (unauthorizedException "Invalid token type"))
  else if s.blocklist.isRevoked token s.now then
    .error (.app (unauthorizedException "Token revoked"))
  else sessionUser users claims

/-- `refresh_tokens`: the old token is blocklisted and a new pair is issued. -/
def refreshTokens (settings : Settings) (s : TokenStore) (users : Table Nat User User.id)
    (token : Nat) : Except Raised TokenStore := do
  let user ← refreshUser s users token
  return { s with
    issued := s.issued ++ issueTokens settings user s.now
    blocklist := s.blocklist.set token settings.refreshSeconds s.now }

/-- `_revoke`: a token that does not verify is ignored. -/
def revoke (s : TokenStore) (token ttl : Nat) : TokenStore :=
  match s.verifyToken token with
  | .error _ => s
  | .ok _ => { s with blocklist := s.blocklist.set token ttl s.now }

/-- `logout`: the first token for a refresh token's lifetime, the second for an access token's. -/
def logout (settings : Settings) (s : TokenStore) (refreshToken : Nat) (accessToken : Option Nat) :
    TokenStore :=
  let s := revoke s refreshToken settings.refreshSeconds
  match accessToken with
  | none => s
  | some token => revoke s token settings.accessSeconds

/-! ### What they do -/

variable {settings : Settings} {s : TokenStore} {users : Table Nat User User.id} {token : Nat}
  {claims : Claims}

theorem verifyToken_ok : s.verifyToken token = .ok claims ↔
    s.issued[token]? = some claims ∧ s.now < claims.exp := by
  unfold TokenStore.verifyToken
  cases s.issued[token]? with
  | none => simp
  | some found =>
    by_cases alive : s.now < found.exp
    · simp only [if_pos alive, Except.ok.injEq, Option.some.injEq]
      constructor
      · rintro rfl
        exact ⟨rfl, alive⟩
      · exact fun both => both.1
    · simp only [if_neg alive, reduceCtorEq, Option.some.injEq, false_iff, not_and]
      rintro rfl
      exact alive

/-- **A token is good** when it was issued and has not expired, is of the right type, was not revoked, and
its user is active and of its generation. -/
theorem refreshUser_ok {user : User} : refreshUser s users token = .ok user ↔ ∃ claims,
    s.verifyToken token = .ok claims ∧ claims.type = .refresh ∧
      s.blocklist.isRevoked token s.now = false ∧ sessionUser users claims = .ok user := by
  unfold refreshUser
  rw [bind_eq_ok]
  refine exists_congr fun claims => and_congr_right fun _ => ?_
  by_cases right : claims.type = .refresh
  · cases revoked : s.blocklist.isRevoked token s.now <;> simp [right]
  · simp [right]

theorem currentUser_ok {user : User} : currentUser s users token = .ok user ↔ ∃ claims,
    s.verifyToken token = .ok claims ∧ claims.type = .access ∧
      s.blocklist.isRevoked token s.now = false ∧ sessionUser users claims = .ok user := by
  unfold currentUser
  rw [bind_eq_ok]
  refine exists_congr fun claims => and_congr_right fun _ => ?_
  by_cases right : claims.type = .access
  · cases revoked : s.blocklist.isRevoked token s.now <;> simp [right]
  · simp [right]

/-- What a revocation writes. -/
theorem revoke_cases (s : TokenStore) (token ttl : Nat) :
    (revoke s token ttl = s ∧ ∀ claims, s.verifyToken token ≠ .ok claims) ∨
    ∃ claims, s.verifyToken token = .ok claims ∧
      revoke s token ttl = { s with blocklist := s.blocklist.set token ttl s.now } := by
  unfold revoke
  cases verified : s.verifyToken token with
  | error raised => exact Or.inl ⟨rfl, by simp⟩
  | ok claims => exact Or.inr ⟨claims, rfl, rfl⟩

end FoodDelivery.Users
