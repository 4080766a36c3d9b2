/-
**Whether a revocation lasts.**

A token is revoked by a blocklist entry, and the entry has to outlive the token. `refresh_tokens` and the
first position of `logout` set it for a refresh token's lifetime, the second position of `logout` for an
access token's, whichever token is presented there.

`revokedForGood_always_iff`: in a run of logins, refreshes and logouts at any times, every token that was
ever blocklisted stays refused until it expires if and only if every entry that a `logout` leaves outlives
the token it is for. A refresh token that is presented in the second position is good again after half an
hour (`logoutInTheWrongPlace_accepted`).
-/

import FoodDelivery.Lib.Runs
import FoodDelivery.Lib.Slots
import FoodDelivery.Users.Tokens

set_option autoImplicit false

namespace FoodDelivery.Users

open FoodDelivery.Lib

/-! ### Runs -/

/-- What happens to the tokens: a pair is issued to a user, or asked for with a refresh token while the
users are as they are, or tokens are logged out; or time passes. -/
inductive TokenCall where
  | issue (user : User)
  | refreshTokens (users : Table Nat User User.id) (refreshToken : Nat)
  | logout (refreshToken : Nat) (accessToken : Option Nat)
  | wait (seconds : Nat)

def TokenStore.step (settings : Settings) (s : TokenStore) : TokenCall → TokenStore
  | .issue user => { s with issued := s.issued ++ issueTokens settings user s.now }
  | .refreshTokens users refreshToken =>
    match Users.refreshTokens settings s users refreshToken with
    | .ok next => next
    | .error _ => s
  | .logout refreshToken accessToken => Users.logout settings s refreshToken accessToken
  | .wait seconds => { s with now := s.now + seconds }

/-- Nothing issued yet. -/
def TokenStore.start (now : Timestamp) : TokenStore := { now := now }

/-- The same tokens and entries at another time. -/
def TokenStore.at (s : TokenStore) (now : Timestamp) : TokenStore := { s with now := now }

/-- **Revoked for good**: a token whose key was ever set is refused now and at every later time, whoever
the users are by then. -/
def RevokedForGood (s : TokenStore) : Prop :=
  ∀ token, (s.blocklist token).isSome → ∀ later, s.now ≤ later →
    ∀ (users : Table Nat User User.id) (user : User),
      currentUser (s.at later) users token ≠ .ok user ∧
        refreshUser (s.at later) users token ≠ .ok user

/-- A `logout` leaves no token with an entry that runs out before it: not the one presented first with a
refresh token's lifetime (unless it is presented again), nor the one presented second with an access
token's. -/
def OutlivedByEntry (settings : Settings) (s : TokenStore) : TokenCall → Prop
  | .logout refreshToken accessToken =>
    (∀ claims, s.verifyToken refreshToken = .ok claims → accessToken ≠ some refreshToken →
      claims.exp ≤ s.now + settings.refreshSeconds) ∧
    ∀ token claims, accessToken = some token → s.verifyToken token = .ok claims →
      claims.exp ≤ s.now + settings.accessSeconds
  | _ => True

/-! ### The invariant -/

/-- Every entry is for a token that was issued, and outlives it; no token has more than its lifetime
left. -/
structure Outlived (settings : Settings) (s : TokenStore) : Prop where
  entries : ∀ token expires, s.blocklist token = some expires →
    ∃ claims, s.issued[token]? = some claims ∧ claims.exp ≤ expires
  lifetimes : ∀ claims ∈ s.issued, claims.exp ≤ s.now + settings.lifetime claims.type

variable {settings : Settings} {s : TokenStore}

theorem outlived_start (settings : Settings) (now : Timestamp) :
    Outlived settings (.start now) where
  entries := by simp [TokenStore.start]
  lifetimes := by simp [TokenStore.start]

theorem isRevoked_of_entry {blocklist : Blocklist} {token : Nat} {expires now : Timestamp}
    (entry : blocklist token = some expires) :
    blocklist.isRevoked token now = decide (now < expires) := by
  simp [Blocklist.isRevoked, entry]

/-- An entry that outlives its token refuses it while the token lives. -/
theorem revokedForGood_of_outlived (outlived : Outlived settings s) : RevokedForGood s := by
  intro token set later _ users user
  obtain ⟨expires, entry⟩ := Option.isSome_iff_exists.mp set
  obtain ⟨claims, issued, covers⟩ := outlived.entries token expires entry
  have refused : ∀ found, (s.at later).verifyToken token = .ok found →
      (s.at later).blocklist.isRevoked token (s.at later).now ≠ false := by
    intro found verified
    obtain ⟨there, alive⟩ := verifyToken_ok.mp verified
    have same : s.issued[token]? = some found := there
    rw [issued] at same
    cases same
    have lives : later < claims.exp := alive
    have blocked : later < expires := Int.lt_of_lt_of_le lives covers
    have entry' : (s.at later).blocklist token = some expires := entry
    rw [isRevoked_of_entry entry']
    exact fun free => (decide_eq_false_iff_not.mp free) blocked
  constructor
  · intro accepted
    obtain ⟨found, verified, _, free, _⟩ := currentUser_ok.mp accepted
    exact refused found verified free
  · intro accepted
    obtain ⟨found, verified, _, free, _⟩ := refreshUser_ok.mp accepted
    exact refused found verified free

/-- **Setting an entry that outlives its token.** -/
theorem Outlived.set (outlived : Outlived settings s) {token ttl : Nat} {claims : Claims}
    (issued : s.issued[token]? = some claims) (covers : claims.exp ≤ s.now + ttl) :
    Outlived settings { s with blocklist := s.blocklist.set token ttl s.now } where
  entries := by
    intro other expires entry
    by_cases same : other = token
    · subst same
      have expires_eq : some (s.now + (ttl : Int)) = some expires :=
        (Blocklist.set_self _ _ _ _).symm.trans entry
      cases expires_eq
      exact ⟨claims, issued, covers⟩
    · change s.blocklist.set token ttl s.now other = some expires at entry
      rw [Blocklist.set_other _ _ _ same] at entry
      exact outlived.entries other expires entry
  lifetimes := outlived.lifetimes

/-- Issuing a pair. -/
theorem Outlived.issue (outlived : Outlived settings s) (user : User) :
    Outlived settings { s with issued := s.issued ++ issueTokens settings user s.now } where
  entries := by
    intro token expires entry
    obtain ⟨claims, issued, covers⟩ := outlived.entries token expires entry
    exact ⟨claims, found_append issued, covers⟩
  lifetimes := by
    intro claims member
    rcases List.mem_append.mp member with old | new
    · exact outlived.lifetimes claims old
    · simp only [issueTokens, List.mem_cons, List.not_mem_nil, or_false] at new
      rcases new with rfl | rfl
      · exact Int.le_refl _
      · exact Int.le_refl _

theorem outlived_wait (outlived : Outlived settings s) (seconds : Nat) :
    Outlived settings { s with now := s.now + seconds } where
  entries := outlived.entries
  lifetimes := by
    intro claims member
    refine Int.le_trans (outlived.lifetimes claims member) ?_
    exact Int.add_le_add_right (Int.le_add_of_nonneg_right (Int.natCast_nonneg seconds)) _

/-- A refresh revokes a refresh token, for a refresh token's lifetime. -/
theorem outlived_refreshTokens (outlived : Outlived settings s) {users : Table Nat User User.id}
    {token : Nat} {next : TokenStore}
    (outcome : refreshTokens settings s users token = .ok next) : Outlived settings next := by
  obtain ⟨user, refreshed, rest⟩ := bind_eq_ok.mp outcome
  cases rest
  obtain ⟨claims, verified, refresh, _⟩ := refreshUser_ok.mp refreshed
  obtain ⟨issued, _⟩ := verifyToken_ok.mp verified
  have lives := outlived.lifetimes claims (List.mem_of_getElem? issued)
  rw [refresh] at lives
  exact (outlived.set issued lives).issue user

/-- One position of a `logout`, when its entry outlives its token. -/
theorem Outlived.revoke (outlived : Outlived settings s) {token ttl : Nat}
    (covers : ∀ claims, s.verifyToken token = .ok claims → claims.exp ≤ s.now + ttl) :
    Outlived settings (revoke s token ttl) := by
  rcases revoke_cases s token ttl with ⟨same, _⟩ | ⟨claims, verified, set⟩
  · rw [same]
    exact outlived
  · rw [set]
    exact outlived.set (verifyToken_ok.mp verified).1 (covers claims verified)

/-- The tokens and the time are not touched by a revocation. -/
theorem revoke_verifyToken (s : TokenStore) (token ttl other : Nat) :
    (revoke s token ttl).verifyToken other = s.verifyToken other ∧
      (revoke s token ttl).now = s.now := by
  unfold Users.revoke
  split
  · exact ⟨rfl, rfl⟩
  · exact ⟨rfl, rfl⟩

/-- Of two entries for one token, the second is the one that stays. -/
theorem revoke_revoke (s : TokenStore) (token first second : Nat) :
    revoke (revoke s token first) token second = revoke s token second := by
  unfold Users.revoke
  cases verified : s.verifyToken token with
  | error raised => simp [verified]
  | ok claims =>
    have still : ({ s with blocklist := s.blocklist.set token first s.now } : TokenStore).verifyToken
        token = .ok claims := verified
    simp only [still]
    congr 1
    funext other
    by_cases same : other = token
    · simp [Blocklist.set, same]
    · simp [Blocklist.set, same]

theorem outlived_logout (outlived : Outlived settings s) {refreshToken : Nat}
    {accessToken : Option Nat}
    (covers : OutlivedByEntry settings s (.logout refreshToken accessToken)) :
    Outlived settings (logout settings s refreshToken accessToken) := by
  obtain ⟨first, second⟩ := covers
  unfold logout
  cases accessToken with
  | none => exact outlived.revoke fun claims verified => first claims verified (by simp)
  | some token =>
    by_cases same : token = refreshToken
    · subst same
      show Outlived settings (revoke (revoke s token _) token _)
      rw [revoke_revoke]
      exact outlived.revoke fun claims verified => second token claims rfl verified
    · have covered : Outlived settings (revoke s refreshToken settings.refreshSeconds) :=
        outlived.revoke fun claims verified =>
          first claims verified fun again => same (Option.some.inj again)
      apply covered.revoke
      intro claims verified
      rw [(revoke_verifyToken s refreshToken settings.refreshSeconds token).1] at verified
      rw [(revoke_verifyToken s refreshToken settings.refreshSeconds token).2]
      exact second token claims rfl verified

/-- **One call.** -/
theorem outlived_step {call : TokenCall} (outlived : Outlived settings s)
    (covers : OutlivedByEntry settings s call) : Outlived settings (s.step settings call) := by
  cases call with
  | issue user => exact outlived.issue user
  | refreshTokens users token =>
    show Outlived settings (match refreshTokens settings s users token with
      | .ok next => next
      | .error _ => s)
    cases outcome : refreshTokens settings s users token with
    | error raised => exact outlived
    | ok next => exact outlived_refreshTokens outlived outcome
  | logout refreshToken accessToken => exact outlived_logout outlived covers
  | wait seconds => exact outlived_wait outlived seconds

/-! ### An entry that runs out first -/

/-- The user that a token asks for. -/
def userOf (claims : Claims) : User where
  id := claims.sub
  email := ""
  phone := ""
  firstName := ""
  lastName := ""
  hashedPassword := ""
  role := claims.role
  sessionGeneration := claims.gen

theorem sessionUser_userOf (claims : Claims) :
    sessionUser (Table.empty.put (userOf claims)) claims = .ok (userOf claims) := by
  unfold sessionUser
  have found : (Table.empty.put (userOf claims) : Table Nat User User.id).find? claims.sub =
      some (userOf claims) := Table.find?_put_self _ (userOf claims)
  rw [found]
  simp [userOf, generationMatches]

/-- **When the entry runs out, the token is good again.** -/
theorem not_revokedForGood {token : Nat} {expires : Timestamp} {claims : Claims}
    (entry : s.blocklist token = some expires) (issued : s.issued[token]? = some claims)
    (later : s.now ≤ expires) (short : expires < claims.exp) : ¬ RevokedForGood s := by
  intro forGood
  obtain ⟨not_access, not_refresh⟩ := forGood token (by simp [entry]) expires later
    (Table.empty.put (userOf claims)) (userOf claims)
  have verified : (s.at expires).verifyToken token = .ok claims := verifyToken_ok.mpr ⟨issued, short⟩
  have free : (s.at expires).blocklist.isRevoked token (s.at expires).now = false := by
    have entry' : (s.at expires).blocklist token = some expires := entry
    rw [isRevoked_of_entry entry']
    simp [TokenStore.at]
  cases type : claims.type with
  | access =>
    exact not_access (currentUser_ok.mpr ⟨claims, verified, type, free, sessionUser_userOf claims⟩)
  | refresh =>
    exact not_refresh (refreshUser_ok.mpr ⟨claims, verified, type, free, sessionUser_userOf claims⟩)

theorem not_revokedForGood_revoke {token ttl : Nat} {claims : Claims}
    (verified : s.verifyToken token = .ok claims) (short : s.now + ttl < claims.exp) :
    ¬ RevokedForGood (revoke s token ttl) := by
  have set : revoke s token ttl = { s with blocklist := s.blocklist.set token ttl s.now } := by
    simp [revoke, verified]
  rw [set]
  refine not_revokedForGood (Blocklist.set_self _ _ _ _) (verifyToken_ok.mp verified).1 ?_ short
  exact Int.le_add_of_nonneg_right (Int.natCast_nonneg ttl)

/-- Revoking another token leaves an entry that is too short. -/
theorem not_revokedForGood_revoke_other {token other ttl ttl' : Nat} {claims : Claims}
    (verified : s.verifyToken token = .ok claims) (short : s.now + ttl < claims.exp)
    (different : token ≠ other) : ¬ RevokedForGood (revoke (revoke s token ttl) other ttl') := by
  have set : revoke s token ttl = { s with blocklist := s.blocklist.set token ttl s.now } := by
    simp [revoke, verified]
  have issued := (verifyToken_ok.mp verified).1
  rcases revoke_cases (revoke s token ttl) other ttl' with ⟨same, _⟩ | ⟨_, _, again⟩
  · rw [same]
    exact not_revokedForGood_revoke verified short
  · rw [again, set]
    have entry : (s.blocklist.set token ttl s.now).set other ttl' s.now token =
        some (s.now + (ttl : Int)) := by
      rw [Blocklist.set_other _ _ _ different, Blocklist.set_self]
    refine not_revokedForGood entry issued ?_ short
    exact Int.le_add_of_nonneg_right (Int.natCast_nonneg ttl)

/-- **A logout whose entry runs out first.** -/
theorem not_revokedForGood_of_short {call : TokenCall}
    (short : ¬ OutlivedByEntry settings s call) : ¬ RevokedForGood (s.step settings call) := by
  cases call with
  | issue user => exact absurd trivial short
  | refreshTokens users token => exact absurd trivial short
  | wait seconds => exact absurd trivial short
  | logout refreshToken accessToken =>
    show ¬ RevokedForGood (logout settings s refreshToken accessToken)
    unfold logout
    by_cases first : ∀ claims, s.verifyToken refreshToken = .ok claims →
        accessToken ≠ some refreshToken → claims.exp ≤ s.now + settings.refreshSeconds
    · have second : ¬ ∀ token claims, accessToken = some token → s.verifyToken token = .ok claims →
          claims.exp ≤ s.now + settings.accessSeconds := fun second => short ⟨first, second⟩
      push Not at second
      obtain ⟨token, claims, rfl, verified, early⟩ := second
      have frame := revoke_verifyToken s refreshToken settings.refreshSeconds token
      refine not_revokedForGood_revoke (frame.1.trans verified) ?_
      rw [frame.2]
      simpa using early
    · push Not at first
      obtain ⟨claims, verified, once, early⟩ := first
      have sooner : s.now + (settings.refreshSeconds : Int) < claims.exp := by simpa using early
      cases accessToken with
      | none => exact not_revokedForGood_revoke verified sooner
      | some token =>
        exact not_revokedForGood_revoke_other verified sooner fun same => once (same ▸ rfl)

/-- **When revocation is permanent.** In every run of logins, refreshes and logouts, with any tokens in
any position and at any times, a token that was ever blocklisted is never accepted again exactly when no
logout leaves a token with an entry that runs out before the token does. -/
theorem revokedForGood_always_iff (settings : Settings) (now : Timestamp) (calls : List TokenCall) :
    Always (TokenStore.step settings) RevokedForGood (.start now) calls ↔
      Throughout (TokenStore.step settings) (OutlivedByEntry settings) (.start now) calls := by
  refine always_iff_throughout (Q := Outlived settings) (fun s call outlived covers => ?_)
    (fun s outlived => ?_) (fun s call _ short => ?_) (outlived_start settings now)
  · exact outlived_step outlived covers
  · exact revokedForGood_of_outlived outlived
  · exact not_revokedForGood_of_short short

/-- A customer signs in and logs out, with the refresh token in the second position: in the
Authorization header. -/
def logoutInTheWrongPlace : List TokenCall :=
  [ .issue
      { id := 1, email := "alex@example.com", phone := "+15551234567", firstName := "Alex"
        lastName := "Rao", hashedPassword := "hash" },
    .logout 2 (some 1) ]

/-- **A revocation that lasts half an hour.** -/
theorem logoutInTheWrongPlace_accepted :
    ¬ ∀ (settings : Settings) (now : Timestamp) (calls : List TokenCall),
      Always (TokenStore.step settings) RevokedForGood (.start now) calls := by
  intro always
  have forGood := (always {} 0 logoutInTheWrongPlace).last
  have entry : (run (TokenStore.step {}) (.start 0) logoutInTheWrongPlace).blocklist 1 =
      some 1800 := by decide
  have issued : (run (TokenStore.step {}) (.start 0) logoutInTheWrongPlace).issued[1]? =
      some { sub := 1, role := .customer, gen := 0, exp := 604800, iat := 0, type := .refresh } := by
    decide
  exact not_revokedForGood entry issued (by decide) (by decide) forGood

end FoodDelivery.Users
