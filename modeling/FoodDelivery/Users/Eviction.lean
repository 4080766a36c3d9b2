/-
**Whether a password change evicts every older session** (`services/users/app/service.py`,
`dependencies.py`).

Sign-ins, refreshes and changes of password of one user, each a call that reads the row, computes and
commits, with any steps of the others in between. A change writes the generation after the one it has
read, and tokens carry the generation of the row that their call has read.

`evicted_always_iff`: every accepted token was issued by the last change, or from a row that was read
after it, if and only if no call issues tokens of the present generation after a change that it has not
seen, and no change writes the generation of a token that is still good. `evicted_of_unhurried`: it is so
when no other change commits between a change's first reading of the row and its last.
`overlappingChanges_keep_session`: two changes that read the same row write the same generation, and the
session of the first survives the second.
-/

import FoodDelivery.Lib.Slots
import FoodDelivery.Users.Passwords
import FoodDelivery.Users.Rotation

set_option autoImplicit false

namespace FoodDelivery.Users

open FoodDelivery.Lib

/-! ### The calls -/

/-- What a call asks for; `newHash` is what the hashing library makes of the new password. -/
inductive AccountRequest where
  | login (email password : String)
  | refreshTokens (refreshToken : Nat)
  | changePassword (accessToken : Nat) (currentPassword newHash : String)
  | resetPassword (redeemed : Bool) (newHash : String)
  | resetAdminPassword (email oldPassword newHash : String)

/-- Where a call stands. `after` counts the password changes: how many had committed when the call read
the row, and for a change that has committed, up to its own. -/
inductive AccountPhase where
  | waiting
  | verified (claims : Claims)
  | changing (change : PasswordChange) (after : Nat)
  | committed (after : Nat)
  | issuing (user : User) (after : Nat)
  | returned
  | refused (raised : Raised)

structure AccountCall where
  request : AccountRequest
  phase : AccountPhase := .waiting

/-- One user's row, the tokens, the calls, how many changes of the password have committed, and for each
token how many of them its call had seen. -/
structure Account where
  row : User
  store : TokenStore
  calls : List AccountCall
  changes : Nat := 0
  issuedAfter : List Nat := []

/-- What happens next: a step of a call, or it is cut off; or time passes. -/
inductive AccountStep where
  | call (i : Nat)
  | cutOff (i : Nat) (raised : Raised)
  | wait (seconds : Nat)

/-- The checks of `current_user` and `refresh_tokens` that come before the row is read. -/
def TokenStore.unrevoked (s : TokenStore) (token : Nat) (type : TokenType) :
    Except Raised Claims := do
  let claims ← s.verifyToken token
  if claims.type ≠ type then .error (.app (unauthorizedException "Invalid token type"))
  else if s.blocklist.isRevoked token s.now then
    .error (.app (unauthorizedException "Token revoked"))
  else .ok claims

/-- The users table, as far as this user is concerned. -/
def Account.users (a : Account) : Table Nat User User.id := Table.empty.put a.row

def Account.byEmail (a : Account) (email : String) : Option User :=
  if a.row.email = email then some a.row else none

/-- The steps that only read: `change_password` reads the row once more after its commit. -/
def Account.read (verifyPassword : String → String → Bool) (a : Account) :
    AccountRequest → AccountPhase → Except Raised AccountPhase
  | .login email password, .waiting => do
    let user ← login verifyPassword (a.byEmail email) password
    return .issuing user a.changes
  | .refreshTokens token, .waiting => do
    let claims ← a.store.unrevoked token .refresh
    return .verified claims
  | .refreshTokens _, .verified claims => do
    let user ← sessionUser a.users claims
    return .issuing user a.changes
  | .changePassword token _ _, .waiting => do
    let claims ← a.store.unrevoked token .access
    return .verified claims
  | .changePassword _ currentPassword newHash, .verified claims => do
    let user ← sessionUser a.users claims
    let change ← changePassword verifyPassword user currentPassword newHash
    return .changing change a.changes
  | .changePassword _ _ _, .committed after => .ok (.issuing a.row after)
  | .resetPassword redeemed newHash, .waiting => do
    let change ← resetPassword redeemed a.row newHash
    return .changing change a.changes
  | .resetAdminPassword email oldPassword newHash, .waiting => do
    let change ← resetAdminPassword verifyPassword (a.byEmail email) oldPassword newHash
    return .changing change a.changes
  | _, phase => .ok phase

def Account.moved (a : Account) (i : Nat) (request : AccountRequest) (phase : AccountPhase) : Account :=
  { a with calls := a.calls.set i { request := request, phase := phase } }

/-- The rotation of `refresh_tokens`: the presented token can't be reused. -/
def Account.rotated (settings : Settings) (a : Account) : AccountRequest → Account
  | .refreshTokens token =>
    { a with
      store :=
        { a.store with
          blocklist := a.store.blocklist.set token settings.refreshSeconds a.store.now } }
  | _ => a

/-- `_issue_tokens`, with what the call had seen. -/
def Account.issued (settings : Settings) (a : Account) (user : User) (after : Nat) : Account :=
  { a with
    store := { a.store with issued := a.store.issued ++ issueTokens settings user a.store.now }
    issuedAfter := a.issuedAfter ++ [after, after] }

def Account.committed (a : Account) (change : PasswordChange) : Account :=
  { a with row := change.apply a.row, changes := a.changes + 1 }

/-- What is left to do after the commit: only `change_password` returns tokens. -/
def AccountRequest.afterCommit (changes : Nat) : AccountRequest → AccountPhase
  | .changePassword _ _ _ => .committed changes
  | _ => .returned

/-- The next step of a call. -/
def Account.advance (settings : Settings) (verifyPassword : String → String → Bool) (a : Account)
    (i : Nat) (request : AccountRequest) : AccountPhase → Account
  | .issuing user after => ((a.rotated settings request).issued settings user after).moved i request
      .returned
  | .changing change _ => (a.committed change).moved i request (request.afterCommit (a.changes + 1))
  | phase =>
    match a.read verifyPassword request phase with
    | .ok next => a.moved i request next
    | .error raised => a.moved i request (.refused raised)

def Account.step (settings : Settings) (verifyPassword : String → String → Bool) (a : Account) :
    AccountStep → Account
  | .call i =>
    match a.calls[i]? with
    | none => a
    | some call => a.advance settings verifyPassword i call.request call.phase
  | .cutOff i raised =>
    match a.calls[i]? with
    | none => a
    | some call => a.moved i call.request (.refused raised)
  | .wait seconds => { a with store := { a.store with now := a.store.now + seconds } }

/-- An account with no session yet, and the calls that will be made. -/
def Account.start (row : User) (now : Timestamp) (requests : List AccountRequest) : Account where
  row := row
  store := .start now
  calls := requests.map fun request => { request := request }

/-! ### What has to hold -/

/-- `current_user` or `refresh_tokens` takes the token. -/
def Account.Accepts (a : Account) (token : Nat) : Prop :=
  ∃ user, currentUser a.store a.users token = .ok user ∨ refreshUser a.store a.users token = .ok user

/-- **Every older session is evicted**: an accepted token was issued by the last change of the password,
or by a sign-in or refresh that read the row after it. -/
def Evicted (a : Account) : Prop := ∀ token, a.Accepts token → a.issuedAfter[token]? = some a.changes

/-- A token that has not expired and was not revoked. -/
def TokenStore.Usable (s : TokenStore) (token : Nat) (claims : Claims) : Prop :=
  s.verifyToken token = .ok claims ∧ s.blocklist.isRevoked token s.now = false

/-- A call that issues tokens has seen every change, or carries another generation than the row's; a
change writes a generation that no usable token carries. -/
def Superseding (a : Account) : AccountStep → Prop
  | .call i => ∀ call, a.calls[i]? = some call →
    (∀ user after, call.phase = .issuing user after →
      after = a.changes ∨ user.sessionGeneration ≠ a.row.sessionGeneration) ∧
    ∀ change after, call.phase = .changing change after →
      ∀ token claims, a.store.Usable token claims → claims.gen ≠ change.sessionGeneration
  | _ => True

/-! ### Accepted tokens -/

variable {settings : Settings} {verifyPassword : String → String → Bool} {a : Account}

theorem unrevoked_ok {s : TokenStore} {token : Nat} {type : TokenType} {claims : Claims} :
    s.unrevoked token type = .ok claims ↔ s.Usable token claims ∧ claims.type = type := by
  unfold TokenStore.unrevoked TokenStore.Usable
  rw [bind_eq_ok]
  constructor
  · rintro ⟨found, verified, rest⟩
    split at rest
    · cases rest
    · rename_i right
      split at rest
      · cases rest
      · rename_i free
        cases rest
        exact ⟨⟨verified, by simpa using free⟩, not_not.mp right⟩
  · rintro ⟨⟨verified, free⟩, right⟩
    exact ⟨claims, verified, by simp [right, free]⟩

theorem sessionUser_ok {claims : Claims} {user : User} :
    sessionUser a.users claims = .ok user ↔ user = a.row ∧ claims.sub = a.row.id ∧
      a.row.isActive = true ∧ claims.gen = a.row.sessionGeneration := by
  unfold sessionUser
  by_cases same : claims.sub = a.row.id
  · have found : a.users.find? claims.sub = some a.row := by
      rw [same]
      exact Table.find?_put_self _ a.row
    rw [found]
    by_cases active : a.row.isActive = false
    · simp [active]
    · by_cases matches_row : claims.gen = a.row.sessionGeneration
      · simp [active, same, generationMatches, matches_row, eq_comm]
      · simp [active, generationMatches, matches_row]
  · have absent : a.users.find? claims.sub = none := by
      refine Table.find?_eq_none.mpr fun row member equal => same ?_
      have only : row ∈ [a.row] := member
      rw [List.mem_singleton.mp only] at equal
      exact equal.symm
    simp [absent, same]

/-- **Who is let in**: a usable token of the row's generation. -/
theorem accepts_iff {token : Nat} : a.Accepts token ↔ ∃ claims, a.store.Usable token claims ∧
    claims.sub = a.row.id ∧ a.row.isActive = true ∧ claims.gen = a.row.sessionGeneration := by
  constructor
  · rintro ⟨user, access | refresh⟩
    · obtain ⟨claims, verified, _, free, session⟩ := currentUser_ok.mp access
      exact ⟨claims, ⟨verified, free⟩, (sessionUser_ok.mp session).2⟩
    · obtain ⟨claims, verified, _, free, session⟩ := refreshUser_ok.mp refresh
      exact ⟨claims, ⟨verified, free⟩, (sessionUser_ok.mp session).2⟩
  · rintro ⟨claims, ⟨verified, free⟩, session⟩
    have user := sessionUser_ok.mpr ⟨rfl, session⟩
    cases type : claims.type with
    | access => exact ⟨a.row, Or.inl (currentUser_ok.mpr ⟨claims, verified, type, free, user⟩)⟩
    | refresh => exact ⟨a.row, Or.inr (refreshUser_ok.mpr ⟨claims, verified, type, free, user⟩)⟩

/-! ### The invariant -/

/-- The token that a refresh rotates is a refresh token. -/
def AccountRequest.Presented (a : Account) : AccountRequest → Prop
  | .refreshTokens token => ∃ claims, a.store.issued[token]? = some claims ∧ claims.type = .refresh
  | _ => True

/-- What a call has made sure of. -/
def AccountPhase.Sound (a : Account) (request : AccountRequest) : AccountPhase → Prop
  | .verified _ => request.Presented a
  | .changing _ _ => (∃ token old new, request = .changePassword token old new) → a.row.isActive = true
  | .committed after => a.row.isActive = true ∧ after ≤ a.changes
  | .issuing user after => request.Presented a ∧ user.id = a.row.id ∧ a.row.isActive = true ∧
      after ≤ a.changes
  | _ => True

/-- Only sessions of the last change are accepted, every token is this active user's, and an entry of the
blocklist outlives its token. -/
structure Account.Sound (settings : Settings) (a : Account) : Prop where
  evicted : Evicted a
  outlived : Outlived settings a.store
  counted : a.issuedAfter.length = a.store.issued.length
  earlier : ∀ after ∈ a.issuedAfter, after ≤ a.changes
  owned : ∀ claims ∈ a.store.issued, claims.sub = a.row.id ∧ a.row.isActive = true
  calls : ∀ (i : Nat) (call : AccountCall), a.calls[i]? = some call → call.phase.Sound a call.request

/-- What a call has made sure of stays so. -/
theorem AccountPhase.Sound.mono {b : Account} {request : AccountRequest} {phase : AccountPhase}
    (sound : phase.Sound a request) (same : b.row.id = a.row.id)
    (active : b.row.isActive = a.row.isActive) (more : a.changes ≤ b.changes)
    (kept : ∀ (token : Nat) (claims : Claims), a.store.issued[token]? = some claims →
      b.store.issued[token]? = some claims) : phase.Sound b request := by
  have presented : request.Presented a → request.Presented b := by
    intro before
    cases request with
    | refreshTokens token =>
      obtain ⟨claims, issued, refresh⟩ := before
      exact ⟨claims, kept token claims issued, refresh⟩
    | login | changePassword | resetPassword | resetAdminPassword => trivial
  cases phase with
  | verified claims => exact presented sound
  | changing change after => exact fun asked => active.trans (sound asked)
  | committed after => exact ⟨active.trans sound.1, sound.2.trans more⟩
  | issuing user after =>
    obtain ⟨rotates, id, on, seen⟩ := sound
    exact ⟨presented rotates, id.trans same.symm, active.trans on, seen.trans more⟩
  | waiting | returned | refused => trivial

/-- A call that moves on. -/
theorem Account.Sound.moved (sound : a.Sound settings) {i : Nat} {request : AccountRequest}
    {phase : AccountPhase} (next : phase.Sound a request) :
    (a.moved i request phase).Sound settings where
  evicted := sound.evicted
  outlived := sound.outlived
  counted := sound.counted
  earlier := sound.earlier
  owned := sound.owned
  calls := by
    intro j call found
    rcases of_set found with ⟨_, rfl⟩ | ⟨_, old⟩
    · exact next
    · exact sound.calls j call old

/-- Setting an entry of the blocklist for a token makes that one unusable and no other usable. -/
theorem usable_of_set {s : TokenStore} {presented ttl token : Nat} {claims held : Claims}
    (issued : s.issued[presented]? = some held) (covers : held.exp ≤ s.now + ttl)
    (usable : ({ s with blocklist := s.blocklist.set presented ttl s.now } : TokenStore).Usable token
      claims) : s.Usable token claims := by
  obtain ⟨verified, free⟩ := usable
  obtain ⟨there, alive⟩ := verifyToken_ok.mp verified
  refine ⟨verifyToken_ok.mpr ⟨there, alive⟩, ?_⟩
  by_cases same : token = presented
  · subst same
    have held_eq : some held = some claims := issued.symm.trans there
    cases held_eq
    have entry : (s.blocklist.set token ttl s.now) token = some (s.now + (ttl : Int)) :=
      Blocklist.set_self _ _ _ _
    dsimp only at free
    rw [isRevoked_of_entry entry] at free
    exact absurd (Int.lt_of_lt_of_le alive covers) (decide_eq_false_iff_not.mp free)
  · have other : (s.blocklist.set presented ttl s.now) token = s.blocklist token :=
      Blocklist.set_other _ _ _ same
    simpa [Blocklist.isRevoked, other] using free

/-- **The rotation of a refresh token** lets nobody in. -/
theorem Account.Sound.rotated (sound : a.Sound settings) {request : AccountRequest}
    (presented : request.Presented a) : (a.rotated settings request).Sound settings := by
  cases request with
  | refreshTokens token =>
    obtain ⟨claims, issued, refresh⟩ := presented
    have lives := sound.outlived.lifetimes claims (List.mem_of_getElem? issued)
    rw [refresh] at lives
    refine ⟨fun other accepted => ?_, sound.outlived.set issued lives, sound.counted, sound.earlier,
      sound.owned, sound.calls⟩
    obtain ⟨found, usable, session⟩ := accepts_iff.mp accepted
    exact sound.evicted other (accepts_iff.mpr ⟨found, usable_of_set issued lives usable, session⟩)
  | login | changePassword | resetPassword | resetAdminPassword => exact sound

theorem Account.issued_old {user : User} {after token : Nat} {claims : Claims}
    (old : a.store.issued[token]? = some claims) :
    (a.issued settings user after).store.issued[token]? = some claims := found_append old

/-- A token after an issue is one from before, or one of the two new ones, with what their call has
seen. -/
theorem Account.issued_cases {user : User} {after token : Nat} {claims : Claims}
    (counted : a.issuedAfter.length = a.store.issued.length)
    (found : (a.issued settings user after).store.issued[token]? = some claims) :
    (a.store.issued[token]? = some claims ∧
      (a.issued settings user after).issuedAfter[token]? = a.issuedAfter[token]?) ∨
    (claims.gen = user.sessionGeneration ∧
      (a.issued settings user after).issuedAfter[token]? = some after) := by
  change (a.store.issued ++ issueTokens settings user a.store.now)[token]? = some claims at found
  change (_ ∧ (a.issuedAfter ++ [after, after])[token]? = _) ∨
    (_ ∧ (a.issuedAfter ++ [after, after])[token]? = _)
  by_cases inside : token < a.store.issued.length
  · rw [List.getElem?_append_left inside] at found
    rw [List.getElem?_append_left (counted ▸ inside)]
    exact Or.inl ⟨found, rfl⟩
  · have beyond : a.store.issued.length ≤ token := by omega
    rw [List.getElem?_append_right beyond] at found
    rw [List.getElem?_append_right (counted ▸ beyond), counted]
    refine Or.inr ?_
    have short : token - a.store.issued.length < 2 := (List.getElem?_eq_some_iff.mp found).1
    have place : token - a.store.issued.length = 0 ∨ token - a.store.issued.length = 1 := by omega
    rcases place with first | second
    · rw [first] at found ⊢
      cases found
      exact ⟨rfl, rfl⟩
    · rw [second] at found ⊢
      cases found
      exact ⟨rfl, rfl⟩

/-- **The step that issues tokens**, when its call has seen every change or carries another
generation. -/
theorem Account.Sound.issued (sound : a.Sound settings) {user : User} {after : Nat}
    (id : user.id = a.row.id) (active : a.row.isActive = true) (seen : after ≤ a.changes)
    (superseding : after = a.changes ∨ user.sessionGeneration ≠ a.row.sessionGeneration) :
    (a.issued settings user after).Sound settings where
  evicted := by
    intro token accepted
    obtain ⟨claims, ⟨verified, free⟩, session⟩ := accepts_iff.mp accepted
    obtain ⟨there, alive⟩ := verifyToken_ok.mp verified
    rcases Account.issued_cases sound.counted there with ⟨old, same⟩ | ⟨generation, same⟩
    · rw [same]
      exact sound.evicted token
        (accepts_iff.mpr ⟨claims, ⟨verifyToken_ok.mpr ⟨old, alive⟩, free⟩, session⟩)
    · rw [same]
      rcases superseding with rfl | other
      · rfl
      · exact absurd (generation.symm.trans session.2.2) other
  outlived := sound.outlived.issue user
  counted := by
    show (a.issuedAfter ++ _).length = (a.store.issued ++ issueTokens settings user _).length
    simp [issueTokens, sound.counted]
  earlier := by
    intro other member
    rcases List.mem_append.mp member with old | new
    · exact sound.earlier other old
    · have same : other = after := by simpa using new
      exact same ▸ seen
  owned := by
    intro claims member
    rcases List.mem_append.mp member with old | new
    · exact sound.owned claims old
    · simp only [issueTokens, List.mem_cons, List.not_mem_nil, or_false] at new
      rcases new with rfl | rfl
      · exact ⟨id, active⟩
      · exact ⟨id, active⟩
  calls := fun i call found => (sound.calls i call found).mono rfl rfl (le_refl _)
    fun _ _ old => Account.issued_old old

/-- A change writes the generation of no usable token: nobody is let in until tokens are issued again. -/
theorem Account.Sound.committed (sound : a.Sound settings) {change : PasswordChange}
    (superseding : ∀ token claims, a.store.Usable token claims →
      claims.gen ≠ change.sessionGeneration) : (a.committed change).Sound settings where
  evicted := by
    intro token accepted
    obtain ⟨claims, usable, _, _, generation⟩ := accepts_iff.mp accepted
    exact absurd generation (superseding token claims usable)
  outlived := sound.outlived
  counted := sound.counted
  earlier := fun after member => (sound.earlier after member).trans (Nat.le_add_right _ _)
  owned := sound.owned
  calls := fun i call found => (sound.calls i call found).mono rfl rfl (Nat.le_add_right _ _)
    fun _ _ old => old

/-- A token that is usable later is usable now. -/
theorem usable_of_wait {s : TokenStore} (outlived : Outlived settings s) {seconds token : Nat}
    {claims : Claims}
    (usable : ({ s with now := s.now + seconds } : TokenStore).Usable token claims) :
    s.Usable token claims := by
  obtain ⟨verified, free⟩ := usable
  obtain ⟨there, alive⟩ := verifyToken_ok.mp verified
  have sooner : s.now ≤ s.now + (seconds : Int) :=
    Int.le_add_of_nonneg_right (Int.natCast_nonneg seconds)
  refine ⟨verifyToken_ok.mpr ⟨there, Int.lt_of_le_of_lt sooner alive⟩, ?_⟩
  unfold Blocklist.isRevoked at free ⊢
  cases entry : s.blocklist token with
  | none => rfl
  | some expires =>
    obtain ⟨held, issued, covers⟩ := outlived.entries token expires entry
    have same : some held = some claims := issued.symm.trans there
    cases same
    simp only [entry, decide_eq_false_iff_not] at free
    exact absurd (Int.lt_of_lt_of_le alive covers) free

theorem Account.Sound.waited (sound : a.Sound settings) (seconds : Nat) :
    Account.Sound settings { a with store := { a.store with now := a.store.now + seconds } } where
  evicted := by
    intro token accepted
    obtain ⟨claims, usable, session⟩ := accepts_iff.mp accepted
    exact sound.evicted token
      (accepts_iff.mpr ⟨claims, usable_of_wait sound.outlived usable, session⟩)
  outlived := outlived_wait sound.outlived seconds
  counted := sound.counted
  earlier := sound.earlier
  owned := sound.owned
  calls := sound.calls

/-! ### The steps -/

theorem byEmail_some {email : String} {user : User} (found : a.byEmail email = some user) :
    user = a.row := by
  unfold Account.byEmail at found
  split at found
  · exact (Option.some.inj found).symm
  · cases found

/-- What a step that only reads comes to: nothing more to do, a token that is good, a user to issue
tokens for, or the change that the commit will write. -/
inductive Account.Reads (a : Account) (request : AccountRequest) (phase : AccountPhase) :
    AccountPhase → Prop
  | same : Reads a request phase phase
  | verified (claims : Claims) (presented : request.Presented a) :
    Reads a request phase (.verified claims)
  | issuing (active : a.row.isActive = true)
    (presented : phase.Sound a request → request.Presented a) :
    Reads a request phase (.issuing a.row a.changes)
  | reread (after : Nat) (committed : phase = .committed after) (presented : request.Presented a) :
    Reads a request phase (.issuing a.row after)
  | changing (change : PasswordChange)
    (next : change.sessionGeneration = a.row.sessionGeneration + 1)
    (active : (∃ token old new, request = .changePassword token old new) → a.row.isActive = true) :
    Reads a request phase (.changing change a.changes)

theorem reads_of_read {request : AccountRequest} {phase next : AccountPhase}
    (outcome : a.read verifyPassword request phase = .ok next) : a.Reads request phase next := by
  cases request with
  | login email password =>
    cases phase with
    | waiting =>
      obtain ⟨user, signed, rest⟩ := bind_eq_ok.mp outcome
      cases rest
      obtain ⟨found, active⟩ := login_ok signed
      obtain rfl := byEmail_some found
      exact .issuing active fun _ => trivial
    | verified | changing | committed | issuing | returned | refused =>
      cases outcome
      exact .same
  | refreshTokens token =>
    cases phase with
    | waiting =>
      obtain ⟨claims, passed, rest⟩ := bind_eq_ok.mp outcome
      cases rest
      obtain ⟨⟨verified, _⟩, refresh⟩ := unrevoked_ok.mp passed
      exact .verified claims ⟨claims, (verifyToken_ok.mp verified).1, refresh⟩
    | verified claims =>
      obtain ⟨user, session, rest⟩ := bind_eq_ok.mp outcome
      cases rest
      obtain ⟨rfl, _, active, _⟩ := sessionUser_ok.mp session
      exact .issuing active fun presented => presented
    | changing | committed | issuing | returned | refused =>
      cases outcome
      exact .same
  | changePassword token old new =>
    cases phase with
    | waiting =>
      obtain ⟨claims, passed, rest⟩ := bind_eq_ok.mp outcome
      cases rest
      exact .verified claims trivial
    | verified claims =>
      obtain ⟨user, session, rest⟩ := bind_eq_ok.mp outcome
      obtain ⟨change, computed, rest⟩ := bind_eq_ok.mp rest
      cases rest
      obtain ⟨rfl, _, active, _⟩ := sessionUser_ok.mp session
      exact .changing change (changePassword_ok computed) fun _ => active
    | committed after =>
      cases outcome
      exact .reread after rfl trivial
    | changing | issuing | returned | refused =>
      cases outcome
      exact .same
  | resetPassword redeemed new =>
    cases phase with
    | waiting =>
      obtain ⟨change, computed, rest⟩ := bind_eq_ok.mp outcome
      cases rest
      exact .changing change (resetPassword_ok computed) (by rintro ⟨_, _, _, ⟨⟩⟩)
    | verified | changing | committed | issuing | returned | refused =>
      cases outcome
      exact .same
  | resetAdminPassword email old new =>
    cases phase with
    | waiting =>
      obtain ⟨change, computed, rest⟩ := bind_eq_ok.mp outcome
      cases rest
      obtain ⟨user, found, next⟩ := resetAdminPassword_ok computed
      obtain rfl := byEmail_some found
      exact .changing change next (by rintro ⟨_, _, _, ⟨⟩⟩)
    | verified | changing | committed | issuing | returned | refused =>
      cases outcome
      exact .same

/-- **A step that only reads** leaves its call with something it has made sure of. -/
theorem AccountPhase.Sound.read {request : AccountRequest} {phase next : AccountPhase}
    (now : phase.Sound a request) (reads : a.Reads request phase next) : next.Sound a request := by
  cases reads with
  | same => exact now
  | verified claims presented => exact presented
  | issuing active presented => exact ⟨presented now, rfl, active, le_refl _⟩
  | reread after committed presented =>
    subst committed
    exact ⟨presented, rfl, now⟩
  | changing change next active => exact active

theorem Account.Sound.settled (sound : a.Sound settings) {i : Nat} {request : AccountRequest}
    {phase : AccountPhase} (now : phase.Sound a request) :
    Account.Sound settings (match a.read verifyPassword request phase with
      | .ok next => a.moved i request next
      | .error raised => a.moved i request (.refused raised)) := by
  cases outcome : a.read verifyPassword request phase with
  | ok next => exact sound.moved (now.read (reads_of_read outcome))
  | error raised => exact sound.moved trivial

/-- The rotation leaves the row, the changes and the tokens. -/
theorem Account.rotated_frame (settings : Settings) (a : Account) (request : AccountRequest) :
    (a.rotated settings request).row = a.row ∧ (a.rotated settings request).changes = a.changes ∧
      (a.rotated settings request).store.issued = a.store.issued := by
  cases request with
  | login | refreshTokens | changePassword | resetPassword | resetAdminPassword =>
    exact ⟨rfl, rfl, rfl⟩

theorem Account.Sound.advance (sound : a.Sound settings) {i : Nat} {call : AccountCall}
    (found : a.calls[i]? = some call) (superseding : Superseding a (.call i)) :
    (a.advance settings verifyPassword i call.request call.phase).Sound settings := by
  obtain ⟨request, phase⟩ := call
  have now : phase.Sound a request := sound.calls i _ found
  obtain ⟨issues, changes⟩ := superseding _ found
  cases phase with
  | issuing user after =>
    obtain ⟨presented, id, active, seen⟩ := now
    obtain ⟨row, number, _⟩ := Account.rotated_frame settings a request
    have issued : ((a.rotated settings request).issued settings user after).Sound settings := by
      apply (sound.rotated presented).issued
      · rw [row]
        exact id
      · rw [row]
        exact active
      · rw [number]
        exact seen
      · rw [row, number]
        exact issues user after rfl
    exact issued.moved trivial
  | changing change after =>
    have committed := sound.committed (changes change after rfl)
    apply committed.moved
    cases request with
    | changePassword token old new => exact ⟨now ⟨token, old, new, rfl⟩, le_refl _⟩
    | login | refreshTokens | resetPassword | resetAdminPassword => trivial
  | waiting | verified | committed | returned | refused => exact sound.settled now

/-- **One step.** -/
theorem Account.Sound.step (sound : a.Sound settings) {step : AccountStep}
    (superseding : Superseding a step) : (a.step settings verifyPassword step).Sound settings := by
  cases step with
  | call i =>
    unfold Account.step
    dsimp only
    split
    · exact sound
    · rename_i call found
      exact sound.advance found superseding
  | cutOff i raised =>
    unfold Account.step
    dsimp only
    split
    · exact sound
    · exact sound.moved trivial
  | wait seconds => exact sound.waited seconds

/-! ### A step that lets an older session in -/

/-- **Tokens of the present generation, from a row that was read before the last change.** -/
theorem not_evicted_issued (sound : a.Sound settings) {user : User} {after : Nat}
    (id : user.id = a.row.id) (active : a.row.isActive = true) (unseen : after ≠ a.changes)
    (same : user.sessionGeneration = a.row.sessionGeneration) :
    ¬ Evicted (a.issued settings user after) := by
  intro evicted
  have issued : (a.issued settings user after).store.issued[a.store.issued.length]? =
      some (createToken settings user a.store.now .access) := by
    show (a.store.issued ++ issueTokens settings user a.store.now)[a.store.issued.length]? = _
    rw [List.getElem?_append_right (le_refl _), Nat.sub_self]
    rfl
  have number : (a.issued settings user after).issuedAfter[a.store.issued.length]? = some after := by
    show (a.issuedAfter ++ [after, after])[a.store.issued.length]? = _
    rw [← sound.counted, List.getElem?_append_right (le_refl _), Nat.sub_self]
    rfl
  have alive : a.store.now < (createToken settings user a.store.now .access).exp := by
    have lives : 0 < settings.accessSeconds :=
      Nat.mul_pos settings.minutes_pos (by decide)
    exact Int.lt_add_of_pos_right _ (Int.natCast_pos.mpr lives)
  have unlisted : a.store.blocklist a.store.issued.length = none := by
    cases entry : a.store.blocklist a.store.issued.length with
    | none => rfl
    | some expires =>
      obtain ⟨_, there, _⟩ := sound.outlived.entries _ expires entry
      exact absurd (List.getElem?_eq_some_iff.mp there).1 (Nat.lt_irrefl _)
  have free : a.store.blocklist.isRevoked a.store.issued.length a.store.now = false := by
    simp [Blocklist.isRevoked, unlisted]
  have seen := evicted a.store.issued.length
    (accepts_iff.mpr ⟨_, ⟨verifyToken_ok.mpr ⟨issued, alive⟩, free⟩, id, active, same⟩)
  exact unseen (Option.some.inj (number.symm.trans seen))

/-- **A change that writes the generation of a usable token.** -/
theorem not_evicted_committed (sound : a.Sound settings) {change : PasswordChange} {token : Nat}
    {claims : Claims} (usable : a.store.Usable token claims)
    (same : claims.gen = change.sessionGeneration) : ¬ Evicted (a.committed change) := by
  intro evicted
  have member := List.mem_of_getElem? (verifyToken_ok.mp usable.1).1
  obtain ⟨sub, active⟩ := sound.owned claims member
  have last := evicted token (accepts_iff.mpr ⟨claims, usable, sub, active, same⟩)
  have before := sound.earlier _ (List.mem_of_getElem? last)
  have counted : (a.committed change).changes = a.changes + 1 := rfl
  omega

theorem not_evicted_of_overlooked (sound : a.Sound settings) {step : AccountStep}
    (overlooked : ¬ Superseding a step) : ¬ Evicted (a.step settings verifyPassword step) := by
  cases step with
  | cutOff i raised => exact absurd trivial overlooked
  | wait seconds => exact absurd trivial overlooked
  | call i =>
    unfold Superseding at overlooked
    push Not at overlooked
    obtain ⟨⟨request, phase⟩, found, goesWrong⟩ := overlooked
    have now : phase.Sound a request := sound.calls i _ found
    unfold Account.step
    simp only [found]
    by_cases issues : ∀ user after, phase = .issuing user after →
        after = a.changes ∨ user.sessionGeneration ≠ a.row.sessionGeneration
    · obtain ⟨change, after, rfl, token, claims, usable, same⟩ := goesWrong issues
      exact not_evicted_committed sound usable same
    · push Not at issues
      obtain ⟨user, after, rfl, unseen, same⟩ := issues
      obtain ⟨presented, id, active, _⟩ := now
      obtain ⟨row, number, _⟩ := Account.rotated_frame settings a request
      show ¬ Evicted ((a.rotated settings request).issued settings user after)
      apply not_evicted_issued (sound.rotated presented)
      · rw [row]
        exact id
      · rw [row]
        exact active
      · rw [number]
        exact unseen
      · rw [row]
        exact same

theorem Account.sound_start (row : User) (now : Timestamp) (requests : List AccountRequest) :
    (Account.start row now requests).Sound settings where
  evicted := by
    intro token accepted
    obtain ⟨claims, ⟨verified, _⟩, _⟩ := accepts_iff.mp accepted
    cases (verifyToken_ok.mp verified).1
  outlived := outlived_start settings now
  counted := rfl
  earlier := by
    intro after member
    cases member
  owned := by
    intro claims member
    cases member
  calls := by
    intro i call found
    obtain ⟨request, _, rfl⟩ := List.mem_map.mp (List.mem_of_getElem? found)
    exact trivial

/-- **When a password change evicts.** In every interleaving of sign-ins, refreshes and changes of
password of a user, only sessions of the last change are accepted exactly when every call that issues
tokens of the row's generation has seen the last change, and no change writes a generation that a usable
token carries. -/
theorem evicted_always_iff (settings : Settings) (verifyPassword : String → String → Bool) (row : User)
    (now : Timestamp) (requests : List AccountRequest) (steps : List AccountStep) :
    Always (Account.step settings verifyPassword) Evicted (.start row now requests) steps ↔
      Throughout (Account.step settings verifyPassword) Superseding (.start row now requests)
        steps := by
  refine always_iff_throughout (Q := Account.Sound settings)
    (fun a step sound superseding => sound.step superseding) (fun a sound => sound.evicted)
    (fun a step sound overlooked => ?_) (Account.sound_start row now requests)
  exact not_evicted_of_overlooked sound overlooked

/-! ### Changes that do not overlap -/

/-- A change commits on the row it has read, and reads it again, with no other commit in between. -/
def Unhurried (a : Account) : AccountStep → Prop
  | .call i => ∀ call, a.calls[i]? = some call →
    (∀ change after, call.phase = .changing change after → after = a.changes) ∧
    ∀ after, call.phase = .committed after → after = a.changes
  | _ => True

/-- What a call carries is behind the row, or is what the last change left. -/
def AccountPhase.Ordered (a : Account) : AccountPhase → Prop
  | .changing change after => after ≤ a.changes ∧
      (after = a.changes → change.sessionGeneration = a.row.sessionGeneration + 1)
  | .issuing user after => user.sessionGeneration ≤ a.row.sessionGeneration ∧
      (after = a.changes ∨ user.sessionGeneration < a.row.sessionGeneration)
  | _ => True

/-- No token and no call is ahead of the row. -/
structure Account.Ordered (a : Account) : Prop where
  tokens : ∀ claims ∈ a.store.issued, claims.gen ≤ a.row.sessionGeneration
  calls : ∀ (i : Nat) (call : AccountCall), a.calls[i]? = some call → call.phase.Ordered a

theorem superseding_of_unhurried (ordered : a.Ordered) {step : AccountStep}
    (unhurried : Unhurried a step) : Superseding a step := by
  cases step with
  | cutOff i raised => trivial
  | wait seconds => trivial
  | call i =>
    intro call found
    have now := ordered.calls i call found
    constructor
    · intro user after issuing
      rw [issuing] at now
      exact now.2.imp_right Nat.ne_of_lt
    · intro change after changing token claims usable same
      rw [changing] at now
      have next := now.2 ((unhurried call found).1 change after changing)
      have behind := ordered.tokens claims
        (List.mem_of_getElem? (verifyToken_ok.mp usable.1).1)
      omega

theorem Account.Ordered.moved (ordered : a.Ordered) {i : Nat} {request : AccountRequest}
    {phase : AccountPhase} (next : phase.Ordered a) : (a.moved i request phase).Ordered where
  tokens := ordered.tokens
  calls := by
    intro j call found
    rcases of_set found with ⟨_, rfl⟩ | ⟨_, old⟩
    · exact next
    · exact ordered.calls j call old

theorem AccountPhase.Ordered.read {request : AccountRequest} {phase next : AccountPhase}
    (now : phase.Ordered a) (reads : a.Reads request phase next)
    (unhurried : ∀ after, phase = .committed after → after = a.changes) : next.Ordered a := by
  cases reads with
  | same => exact now
  | verified claims presented => trivial
  | issuing active presented => exact ⟨le_refl _, Or.inl rfl⟩
  | reread after committed presented => exact ⟨le_refl _, Or.inl (unhurried after committed)⟩
  | changing change next active => exact ⟨le_refl _, fun _ => next⟩

/-- **A commit** puts the row ahead of every other call. -/
theorem Account.Ordered.committed (ordered : a.Ordered) {change : PasswordChange}
    (next : change.sessionGeneration = a.row.sessionGeneration + 1) :
    (a.committed change).Ordered where
  tokens := by
    intro claims member
    have behind := ordered.tokens claims member
    show claims.gen ≤ change.sessionGeneration
    omega
  calls := by
    intro i call found
    have now := ordered.calls i call found
    unfold AccountPhase.Ordered at now ⊢
    split
    · rename_i other after phase
      rw [phase] at now
      have counted : (a.committed change).changes = a.changes + 1 := rfl
      obtain ⟨seen, _⟩ := now
      exact ⟨by omega, fun last => absurd last (by omega)⟩
    · rename_i user after phase
      rw [phase] at now
      have generation : (a.committed change).row.sessionGeneration = change.sessionGeneration := rfl
      obtain ⟨behind, _⟩ := now
      exact ⟨by omega, Or.inr (by omega)⟩
    · trivial

theorem Account.Ordered.issued (ordered : a.Ordered) {user : User} {after : Nat}
    (behind : user.sessionGeneration ≤ a.row.sessionGeneration) :
    (a.issued settings user after).Ordered where
  tokens := by
    intro claims member
    rcases List.mem_append.mp member with old | new
    · exact ordered.tokens claims old
    · simp only [issueTokens, List.mem_cons, List.not_mem_nil, or_false] at new
      rcases new with rfl | rfl
      · exact behind
      · exact behind
  calls := ordered.calls

theorem Account.Ordered.rotated (ordered : a.Ordered) (request : AccountRequest) :
    (a.rotated settings request).Ordered := by
  cases request with
  | login | refreshTokens | changePassword | resetPassword | resetAdminPassword =>
    exact ⟨ordered.tokens, ordered.calls⟩

theorem Account.Ordered.settled (ordered : a.Ordered) {i : Nat} {request : AccountRequest}
    {phase : AccountPhase} (now : phase.Ordered a)
    (unhurried : ∀ after, phase = .committed after → after = a.changes) :
    Account.Ordered (match a.read verifyPassword request phase with
      | .ok next => a.moved i request next
      | .error raised => a.moved i request (.refused raised)) := by
  cases outcome : a.read verifyPassword request phase with
  | ok next => exact ordered.moved (now.read (reads_of_read outcome) unhurried)
  | error raised => exact ordered.moved trivial

theorem Account.Ordered.step (ordered : a.Ordered) {step : AccountStep}
    (unhurried : Unhurried a step) : (a.step settings verifyPassword step).Ordered := by
  cases step with
  | wait seconds => exact ⟨ordered.tokens, ordered.calls⟩
  | cutOff i raised =>
    unfold Account.step
    dsimp only
    split
    · exact ordered
    · exact ordered.moved trivial
  | call i =>
    unfold Account.step
    dsimp only
    split
    · exact ordered
    · rename_i call found
      obtain ⟨request, phase⟩ := call
      have now := ordered.calls i _ found
      obtain ⟨changes, again⟩ := unhurried _ found
      cases phase with
      | issuing user after =>
        apply Account.Ordered.moved
        · apply (ordered.rotated request).issued
          rw [(Account.rotated_frame settings a request).1]
          exact now.1
        · trivial
      | changing change after =>
        apply (ordered.committed (now.2 (changes change after rfl))).moved
        cases request with
        | login | refreshTokens | changePassword | resetPassword | resetAdminPassword => trivial
      | waiting | verified | committed | returned | refused => exact ordered.settled now again

/-- **Changes that do not overlap evict every older session.** -/
theorem evicted_of_unhurried (settings : Settings) (verifyPassword : String → String → Bool)
    (row : User) (now : Timestamp) (requests : List AccountRequest) (steps : List AccountStep)
    (unhurried : Throughout (Account.step settings verifyPassword) Unhurried
      (.start row now requests) steps) :
    Always (Account.step settings verifyPassword) Evicted (.start row now requests) steps := by
  have both : Always (Account.step settings verifyPassword)
      (fun a => a.Sound settings ∧ a.Ordered) (.start row now requests) steps := by
    refine always_of_throughout (fun a step both unhurried => ?_) ⟨?_, ?_, ?_⟩ unhurried
    · exact ⟨both.1.step (superseding_of_unhurried both.2 unhurried), both.2.step unhurried⟩
    · exact Account.sound_start row now requests
    · intro claims member
      cases member
    · intro i call found
      obtain ⟨request, _, rfl⟩ := List.mem_map.mp (List.mem_of_getElem? found)
      exact trivial
  exact both.mono fun a both => both.1.evicted

/-- A customer signs in, and two devices change the password. -/
def overlappingChanges : List AccountRequest :=
  [ .login "alex@example.com" "hash", .changePassword 0 "hash" "first",
    .changePassword 0 "hash" "second" ]

/-- Both read the row before either commits. -/
def overlappingSteps : List AccountStep :=
  [ .call 0, .call 0, .call 1, .call 1, .call 2, .call 2, .call 1, .call 1, .call 1, .call 2 ]

/-- **A session that survives a change of password.** The tokens of the first change are accepted after
the second has committed. -/
theorem overlappingChanges_keep_session : ¬ ∀ (settings : Settings)
    (verifyPassword : String → String → Bool) (row : User) (now : Timestamp)
    (requests : List AccountRequest) (steps : List AccountStep),
    Always (Account.step settings verifyPassword) Evicted (.start row now requests) steps := by
  intro always
  have evicted := (always {} (fun given stored => given = stored) alex 0 overlappingChanges
    overlappingSteps).last
  have late : ∃ claims, (run (Account.step {} fun given stored => given = stored)
      (.start alex 0 overlappingChanges) overlappingSteps).store.Usable 2 claims ∧ claims.sub = 1 ∧ claims.gen = 1 := by
    refine ⟨_, ⟨verifyToken_ok.mpr ⟨rfl, ?_⟩, ?_⟩, ?_, ?_⟩
    · decide
    · decide
    · decide
    · decide
  obtain ⟨claims, usable, sub, generation⟩ := late
  have number := evicted 2 (accepts_iff.mpr ⟨claims, usable, sub, by decide, generation⟩)
  exact absurd number (by decide)

end FoodDelivery.Users
