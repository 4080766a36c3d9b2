/-
**Reset tokens** (`services/users/app/tokens.py`, `service.py`).

Calls of `request_password_reset` and `reset_password`, of any users and with any strings for tokens, that
overlap. A request reads the user and then stores the hash of the token it has minted; a reset redeems its
token with `GETDEL`, reads the user that the token is for, and commits. Anything can happen in between.

* `resetTokens_once`: when minted tokens are distinct and the hash is injective, no token changes a
  password twice, only one that was issued changes any, only that of its user, and only by a call that
  redeemed it in its time; and no step touches any other token;
* `lateCommit_changes`: the commit can come after that time.
-/

import FoodDelivery.Lib.Runs
import FoodDelivery.Lib.Slots
import FoodDelivery.Lib.Tickets
import FoodDelivery.Users.Passwords

set_option autoImplicit false

namespace FoodDelivery.Users

open FoodDelivery.Lib

/-! ### The store -/

/-- `RESET_PREFIX`. -/
def resetPrefix : String := "pwd_reset"

/-- `_key`; `sha256` is the digest of a token's UTF-8 bytes, in hexadecimal. -/
def tokenKey (sha256 : String → String) (keyPrefix token : String) : String :=
  keyPrefix ++ ":" ++ sha256 token

/-- The keys of Redis with the ids stored there, and what was issued and redeemed, by which call. -/
abbrev ResetStore := Office String Nat Timestamp Nat String

abbrev ResetTicket := Ticket String Nat Timestamp

/-- A token that was redeemed, for a user, by a call. -/
abbrev ResetRedemption := Redemption String Nat Timestamp Nat

/-- `issue_single_use`, for the token that it mints. -/
def issueSingleUse (sha256 : String → String) (store : ResetStore) (keyPrefix : String) (userId : Nat)
    (ttlSeconds : Nat) (token : String) (now : Timestamp) : ResetStore :=
  store.issue (tokenKey sha256 keyPrefix)
    { token := token, holder := userId, expires := now + ttlSeconds }

/-- `consume_single_use`. -/
def consumeSingleUse (sha256 : String → String) (store : ResetStore) (keyPrefix token : String)
    (now : Timestamp) (call : Nat) : Option (ResetRedemption) × ResetStore :=
  store.redeem (tokenKey sha256 keyPrefix) token now call

/-! ### The calls -/

structure ResetSettings where
  passwordResetTtlSeconds : Nat := 900
  ttl_pos : 0 < passwordResetTtlSeconds := by decide

/-- A call; `minted` is what `secrets.token_urlsafe` returns to it if it asks, and `newHash` what the
hashing library makes of the new password. -/
inductive ResetRequest where
  | requestPasswordReset (email minted : String)
  | resetPassword (token newHash : String)

def ResetRequest.minted : ResetRequest → Option String
  | .requestPasswordReset _ minted => some minted
  | .resetPassword _ _ => none

/-- Where a call stands. -/
inductive ResetPhase where
  | waiting
  | minting (userId : Nat)
  | redeemed (redemption : ResetRedemption)
  | changing (redemption : ResetRedemption) (change : PasswordChange)
  | returned (token : Option String)
  | refused (raised : Raised)

structure ResetCall where
  request : ResetRequest
  phase : ResetPhase := .waiting

/-- A change of a password that was committed. -/
structure PasswordReset where
  redemption : ResetRedemption
  time : Timestamp
deriving DecidableEq

structure ResetDesk where
  db : State
  store : ResetStore := .start
  now : Timestamp
  calls : List ResetCall
  changes : List PasswordReset := []

/-- What happens next: a step of a call, or it fails or dies; time passes; others write to the database. -/
inductive ResetStep where
  | call (i : Nat)
  | cutOff (i : Nat) (raised : Raised)
  | wait (seconds : Nat)
  | others (db : State)

def ResetDesk.moved (d : ResetDesk) (i : Nat) (request : ResetRequest) (phase : ResetPhase) : ResetDesk :=
  { d with calls := d.calls.set i { request := request, phase := phase } }

/-- `request_password_reset` reads the user. -/
def requestedFor (db : State) (email : String) : ResetPhase :=
  match db.users.first? fun user => user.email = email with
  | none => .returned none
  | some user => if user.isActive then .minting user.id else .returned none

/-- `reset_password`, when the token has been redeemed or not. -/
def redeemedFor : Option (ResetRedemption) → ResetPhase
  | none => .refused (.app (unauthorizedException "Invalid or expired reset token"))
  | some redemption => .redeemed redemption

/-- `reset_password` reads the user. -/
def changingFor (db : State) (newHash : String) (redemption : ResetRedemption) :
    ResetPhase :=
  match db.users.find? redemption.holder with
  | none => .refused (.app (unauthorizedException "Invalid or expired reset token"))
  | some user =>
    match resetPassword true user newHash with
    | .error raised => .refused raised
    | .ok change => .changing redemption change

/-- The next step of a call. -/
def ResetDesk.advance (settings : ResetSettings) (sha256 : String → String) (d : ResetDesk) (i : Nat) :
    ResetCall → ResetDesk
  | ⟨.requestPasswordReset email minted, .waiting⟩ =>
    d.moved i (.requestPasswordReset email minted) (requestedFor d.db email)
  | ⟨.requestPasswordReset email minted, .minting userId⟩ =>
    let store :=
      issueSingleUse sha256 d.store resetPrefix userId settings.passwordResetTtlSeconds minted d.now
    ResetDesk.moved { d with store := store } i (.requestPasswordReset email minted)
      (.returned (some minted))
  | ⟨.resetPassword token newHash, .waiting⟩ =>
    let (redemption, store) := consumeSingleUse sha256 d.store resetPrefix token d.now i
    ResetDesk.moved { d with store := store } i (.resetPassword token newHash) (redeemedFor redemption)
  | ⟨.resetPassword token newHash, .redeemed redemption⟩ =>
    d.moved i (.resetPassword token newHash) (changingFor d.db newHash redemption)
  | ⟨.resetPassword token newHash, .changing redemption change⟩ =>
    match d.db.users.find? redemption.holder with
    | none =>
      d.moved i (.resetPassword token newHash) (.refused (.other "StaleDataError" "0 were matched."))
    | some row =>
      let users := d.db.users.put (change.apply row)
      let changes := d.changes ++ [{ redemption := redemption, time := d.now }]
      ResetDesk.moved { d with db := { d.db with users := users }, changes := changes } i
        (.resetPassword token newHash) (.returned none)
  | _ => d

def ResetDesk.step (settings : ResetSettings) (sha256 : String → String) (d : ResetDesk) :
    ResetStep → ResetDesk
  | .call i =>
    match d.calls[i]? with
    | none => d
    | some call => d.advance settings sha256 i call
  | .cutOff i raised =>
    match d.calls[i]? with
    | none => d
    | some call => d.moved i call.request (.refused raised)
  | .wait seconds => { d with now := d.now + seconds }
  | .others db => { d with db := db }

/-- Nothing issued yet, and the calls that will be made. -/
def ResetDesk.start (db : State) (now : Timestamp) (requests : List ResetRequest) : ResetDesk where
  db := db
  now := now
  calls := requests.map fun request => { request := request }

/-! ### What has to hold -/

/-- **Once, for its user, in its time.** No token has changed a password twice, and what changed one is a
token that was issued, for that user, and redeemed before its end. -/
structure Rightful (d : ResetDesk) : Prop where
  once : (d.changes.map fun change => change.redemption.token).Nodup
  inTime : ∀ change ∈ d.changes, ∃ ticket ∈ d.store.issued, ticket.token = change.redemption.token ∧
    ticket.holder = change.redemption.holder ∧ change.redemption.time < ticket.expires

/-- The same, with the commit before the token's end. -/
structure CommittedInTime (d : ResetDesk) : Prop extends Rightful d where
  committed : ∀ change ∈ d.changes, ∃ ticket ∈ d.store.issued, ticket.token = change.redemption.token ∧
    change.time < ticket.expires

/-- The user could reset their password with the token now. -/
def ResetDesk.Valid (sha256 : String → String) (d : ResetDesk) (token : String) (userId : Nat) : Prop :=
  d.store.Valid (tokenKey sha256 resetPrefix) d.now token userId

/-- **Other tokens are left alone**: what becomes valid or invalid in a step, the passing of time apart, is
the token that is issued or redeemed in it. -/
def LeavesOthers (settings : ResetSettings) (sha256 : String → String) (d : ResetDesk) :
    ResetStep → Prop
  | .wait _ => True
  | event => ∀ token userId,
    ¬ ((d.step settings sha256 event).Valid sha256 token userId ↔ d.Valid sha256 token userId) →
    (∃ ticket : ResetTicket,
      (d.step settings sha256 event).store.issued = d.store.issued ++ [ticket] ∧
      ticket.token = token ∧ ticket.holder = userId) ∨
    ∃ redemption : ResetRedemption,
      (d.step settings sha256 event).store.redeemed = d.store.redeemed ++ [redemption] ∧
      redemption.token = token ∧ redemption.holder = userId

/-- **Other users are left alone**: a step of the calls writes nothing, or it is the commit of a
`reset_password` that redeemed the token it was given, and writes the row of the user it was for. -/
def WritesItsUser (settings : ResetSettings) (sha256 : String → String) (d : ResetDesk) :
    ResetStep → Prop
  | .others db => d.step settings sha256 (.others db) = { d with db := db }
  | event =>
    ((d.step settings sha256 event).changes = d.changes ∧ (d.step settings sha256 event).db = d.db) ∨
    ∃ (redemption : ResetRedemption) (newHash : String) (phase : ResetPhase)
      (users : Table Nat User User.id),
      event = .call redemption.claimant ∧
      d.calls[redemption.claimant]? = some ⟨.resetPassword redemption.token newHash, phase⟩ ∧
      redemption ∈ d.store.redeemed ∧
      (d.step settings sha256 event).changes = d.changes ++ [{ redemption := redemption, time := d.now }] ∧
      (d.step settings sha256 event).db = { d.db with users := users } ∧
      ∀ userId, userId ≠ redemption.holder → users.find? userId = d.db.users.find? userId

/-! ### What a step of a call is -/

/-- The token that a call has minted, or is going to, and has not stored. -/
def ResetCall.unissued : ResetCall → Option String
  | ⟨.requestPasswordReset _ minted, .waiting⟩ => some minted
  | ⟨.requestPasswordReset _ minted, .minting _⟩ => some minted
  | _ => none

/-- What a call has redeemed and not used yet. -/
def ResetPhase.held : ResetPhase → Option (ResetRedemption)
  | .redeemed redemption => some redemption
  | .changing redemption _ => some redemption
  | _ => none

/-- A step of a call changes nothing, moves the call on, issues its token, presents one, or commits. -/
inductive ResetMove (settings : ResetSettings) (sha256 : String → String) (d : ResetDesk) (i : Nat) :
    ResetCall → ResetDesk → Prop
  | idle (call : ResetCall) : ResetMove settings sha256 d i call d
  | moved (call : ResetCall) (phase : ResetPhase)
      (holds : ∀ redemption, phase.held = some redemption → call.phase.held = some redemption)
      (mints : ∀ token, ResetCall.unissued ⟨call.request, phase⟩ = some token →
        call.unissued = some token) :
      ResetMove settings sha256 d i call (d.moved i call.request phase)
  | issued (email minted : String) (userId : Nat) :
      ResetMove settings sha256 d i ⟨.requestPasswordReset email minted, .minting userId⟩
        (ResetDesk.moved
          { d with
            store := issueSingleUse sha256 d.store resetPrefix userId settings.passwordResetTtlSeconds
              minted d.now } i (.requestPasswordReset email minted) (.returned (some minted)))
  | presented (token newHash : String) :
      ResetMove settings sha256 d i ⟨.resetPassword token newHash, .waiting⟩
        (ResetDesk.moved
          { d with store := (consumeSingleUse sha256 d.store resetPrefix token d.now i).2 } i
          (.resetPassword token newHash)
          (redeemedFor (consumeSingleUse sha256 d.store resetPrefix token d.now i).1))
  | committed (token newHash : String) (redemption : ResetRedemption)
      (change : PasswordChange) (row : User) (found : d.db.users.find? redemption.holder = some row) :
      ResetMove settings sha256 d i ⟨.resetPassword token newHash, .changing redemption change⟩
        (ResetDesk.moved
          { d with
            db := { d.db with users := d.db.users.put (change.apply row) }
            changes := d.changes ++ [{ redemption := redemption, time := d.now }] } i
          (.resetPassword token newHash) (.returned none))

variable {settings : ResetSettings} {sha256 : String → String} {d : ResetDesk} {i : Nat}
  {call : ResetCall}

/-- What a call has not stored is what it was to mint. -/
theorem minted_of_unissued {token : String} (mints : call.unissued = some token) :
    call.request.minted = some token := by
  unfold ResetCall.unissued at mints
  split at mints
  · exact mints
  · exact mints
  · cases mints

/-- A request holds nothing. -/
theorem requestedFor_held (db : State) (email : String) : (requestedFor db email).held = none := by
  unfold requestedFor
  split
  · rfl
  · split <;> rfl

/-- What is held after the user was read was held before. -/
theorem changingFor_held (db : State) (newHash : String)
    (redemption held : ResetRedemption)
    (holds : (changingFor db newHash redemption).held = some held) : redemption = held := by
  unfold changingFor at holds
  split at holds
  · cases holds
  · split at holds
    · cases holds
    · exact Option.some_inj.mp holds

theorem unissued_refused (request : ResetRequest) (raised : Raised) :
    ResetCall.unissued ⟨request, .refused raised⟩ = none := by
  cases request <;> rfl

theorem advance_move (call : ResetCall) :
    ResetMove settings sha256 d i call (d.advance settings sha256 i call) := by
  obtain ⟨request, phase⟩ := call
  cases request with
  | requestPasswordReset email minted =>
    cases phase with
    | waiting =>
      refine .moved ⟨.requestPasswordReset email minted, .waiting⟩ (requestedFor d.db email) ?_ ?_
      · intro redemption holds
        rw [requestedFor_held] at holds
        cases holds
      · exact fun token mints => minted_of_unissued mints
    | minting userId => exact .issued email minted userId
    | redeemed _ | changing _ _ | returned _ | refused _ => exact .idle _
  | resetPassword token newHash =>
    cases phase with
    | waiting => exact .presented token newHash
    | redeemed redemption =>
      refine .moved ⟨.resetPassword token newHash, .redeemed redemption⟩
        (changingFor d.db newHash redemption) ?_ ?_
      · exact fun held holds => congrArg some (changingFor_held _ _ _ _ holds)
      · intro other mints
        cases mints
    | changing redemption change =>
      cases found : d.db.users.find? redemption.holder with
      | none =>
        have next :
            d.advance settings sha256 i ⟨.resetPassword token newHash, .changing redemption change⟩ =
              d.moved i (.resetPassword token newHash)
                (.refused (.other "StaleDataError" "0 were matched.")) := by
          simp only [ResetDesk.advance, found]
        rw [next]
        exact .moved ⟨.resetPassword token newHash, .changing redemption change⟩ _
          (fun _ holds => by cases holds) (fun _ mints => by cases mints)
      | some row =>
        have next : ResetMove settings sha256 d i _ _ :=
          .committed token newHash redemption change row found
        simpa only [ResetDesk.advance, found] using next
    | minting _ | returned _ | refused _ => exact .idle _

/-! ### The invariant -/

/-- The tokens that are still to come are new and different; what a call holds it has redeemed itself,
with the token it was given, and has not used; and what was used was redeemed, and is used once. -/
structure ResetDesk.Kept (sha256 : String → String) (d : ResetDesk) : Prop where
  sound : d.store.Sound (tokenKey sha256 resetPrefix)
  fresh : ∀ (i : Nat) (call : ResetCall) (token : String), d.calls[i]? = some call →
    call.unissued = some token → token ∉ d.store.issued.map Ticket.token
  distinct : ∀ (i j : Nat) (first second : ResetCall) (token : String), d.calls[i]? = some first →
    d.calls[j]? = some second → first.unissued = some token → second.unissued = some token → i = j
  held : ∀ (i : Nat) (call : ResetCall) (redemption : ResetRedemption), d.calls[i]? = some call →
    call.phase.held = some redemption → redemption ∈ d.store.redeemed ∧
      redemption ∉ d.changes.map PasswordReset.redemption ∧ redemption.claimant = i ∧
      ∃ newHash, call.request = .resetPassword redemption.token newHash
  used : ∀ change ∈ d.changes, change.redemption ∈ d.store.redeemed
  once : (d.changes.map PasswordReset.redemption).Nodup

theorem tokenKey_injective (injective : Function.Injective sha256) (keyPrefix : String) :
    Function.Injective (tokenKey sha256 keyPrefix) := by
  intro first second same
  unfold tokenKey at same
  exact injective ((String.append_right_inj _).mp same)

/-- Two calls that mint the same are one. -/
theorem eq_of_minted {requests : List ResetRequest}
    (distinct : (requests.filterMap ResetRequest.minted).Nodup) {i j : Nat}
    {first second : ResetRequest} {token : String} (one : requests[i]? = some first)
    (other : requests[j]? = some second) (mints : first.minted = some token)
    (too : second.minted = some token) : i = j := by
  have apart : requests.Pairwise fun one other => ∀ token, one.minted = some token →
      ∀ token', other.minted = some token' → token ≠ token' :=
    List.pairwise_filterMap.mp distinct
  rw [List.pairwise_iff_getElem] at apart
  obtain ⟨i_lt, rfl⟩ := List.getElem?_eq_some_iff.mp one
  obtain ⟨j_lt, rfl⟩ := List.getElem?_eq_some_iff.mp other
  rcases Nat.lt_trichotomy i j with before | same | after
  · exact absurd rfl (apart i j i_lt j_lt before token mints token too)
  · exact same
  · exact absurd rfl (apart j i j_lt i_lt after token too token mints)

theorem kept_start (db : State) (now : Timestamp) {requests : List ResetRequest}
    (distinct : (requests.filterMap ResetRequest.minted).Nodup) :
    (ResetDesk.start db now requests).Kept sha256 := by
  have waiting : ∀ (i : Nat) (call : ResetCall), (ResetDesk.start db now requests).calls[i]? = some call →
      ∃ request, requests[i]? = some request ∧ call = { request := request } := by
    intro i call found
    rw [ResetDesk.start, List.getElem?_map, Option.map_eq_some_iff] at found
    obtain ⟨request, there, rfl⟩ := found
    exact ⟨request, there, rfl⟩
  refine ⟨Office.sound_start, ?_, ?_, ?_, ?_, List.nodup_nil⟩
  · exact fun _ _ _ _ _ => List.not_mem_nil
  · intro i j first second token one other mints too
    obtain ⟨request, there, rfl⟩ := waiting i first one
    obtain ⟨request', there', rfl⟩ := waiting j second other
    exact eq_of_minted distinct there there' (minted_of_unissued mints) (minted_of_unissued too)
  · intro i call redemption found holds
    obtain ⟨request, -, rfl⟩ := waiting i call found
    cases holds
  · exact fun _ member => absurd member List.not_mem_nil

namespace ResetDesk.Kept

/-- **A call moves on.** -/
theorem moved (kept : d.Kept sha256) (found : d.calls[i]? = some call) {phase : ResetPhase}
    (holds : ∀ redemption, phase.held = some redemption → call.phase.held = some redemption)
    (mints : ∀ token, ResetCall.unissued ⟨call.request, phase⟩ = some token →
      call.unissued = some token) : (d.moved i call.request phase).Kept sha256 := by
  -- A call of the next state was there before, with as much to issue and as much to use.
  have before : ∀ (j : Nat) (other : ResetCall),
      (d.moved i call.request phase).calls[j]? = some other →
      ∃ earlier, d.calls[j]? = some earlier ∧ other.request = earlier.request ∧
        (∀ token, other.unissued = some token → earlier.unissued = some token) ∧
        ∀ redemption, other.phase.held = some redemption → earlier.phase.held = some redemption := by
    intro j other there
    rcases of_set there with ⟨rfl, rfl⟩ | ⟨-, there⟩
    · exact ⟨call, found, rfl, mints, holds⟩
    · exact ⟨other, there, rfl, fun _ => id, fun _ => id⟩
  refine ⟨kept.sound, ?_, ?_, ?_, kept.used, kept.once⟩
  · intro j other token there unissued
    obtain ⟨earlier, there, -, as_much, -⟩ := before j other there
    exact kept.fresh j earlier token there (as_much token unissued)
  · intro j k first second token one other here too
    obtain ⟨earlier, one, -, as_much, -⟩ := before j first one
    obtain ⟨earlier', other, -, as_much', -⟩ := before k second other
    exact kept.distinct j k earlier earlier' token one other (as_much token here) (as_much' token too)
  · intro j other redemption there held
    obtain ⟨earlier, there, same, -, as_much⟩ := before j other there
    rw [same]
    exact kept.held j earlier redemption there (as_much redemption held)

/-- Other writes do not matter, and neither does the time. -/
theorem elsewhere (kept : d.Kept sha256) (db : State) (now : Timestamp) :
    ResetDesk.Kept sha256 { d with db := db, now := now } :=
  ⟨kept.sound, kept.fresh, kept.distinct, kept.held, kept.used, kept.once⟩

/-- **A token is stored.** -/
theorem issued (kept : d.Kept sha256) {email minted : String} {userId : Nat}
    (found : d.calls[i]? = some ⟨.requestPasswordReset email minted, .minting userId⟩) :
    ResetDesk.Kept sha256
      (ResetDesk.moved
        { d with
          store := issueSingleUse sha256 d.store resetPrefix userId settings.passwordResetTtlSeconds
            minted d.now } i (.requestPasswordReset email minted) (.returned (some minted))) := by
  have fresh := kept.fresh i _ minted found rfl
  have after : (d.moved i (.requestPasswordReset email minted) (.returned (some minted))).Kept sha256 :=
    kept.moved found (fun _ holds => by cases holds) (fun _ mints => by cases mints)
  refine ⟨kept.sound.issue fresh, ?_, after.distinct, after.held, kept.used, kept.once⟩
  intro j call token there unissued stored
  rcases of_set there with ⟨-, rfl⟩ | ⟨other, before⟩
  · cases unissued
  · obtain ⟨ticket, member, rfl⟩ := List.mem_map.mp stored
    rcases List.mem_append.mp member with earlier | now
    · exact kept.fresh j call _ before unissued (List.mem_map_of_mem earlier)
    · obtain rfl := List.mem_singleton.mp now
      exact other (kept.distinct j i call _ minted before found unissued rfl)

/-- **A token is presented.** -/
theorem presented (kept : d.Kept sha256) (injective : Function.Injective sha256)
    {token newHash : String} (found : d.calls[i]? = some ⟨.resetPassword token newHash, .waiting⟩) :
    ResetDesk.Kept sha256
      (ResetDesk.moved
        { d with store := (consumeSingleUse sha256 d.store resetPrefix token d.now i).2 } i
        (.resetPassword token newHash)
        (redeemedFor (consumeSingleUse sha256 d.store resetPrefix token d.now i).1)) := by
  have keys := tokenKey_injective injective resetPrefix
  have sound := kept.sound.redeem keys token d.now i
  unfold consumeSingleUse
  cases holder : d.store.keys.get (tokenKey sha256 resetPrefix token) d.now with
  | none =>
    have refused : (d.moved i (.resetPassword token newHash) (redeemedFor none)).Kept sha256 :=
      kept.moved found (fun _ holds => by cases holds) (fun _ mints => by cases mints)
    rw [Office.redeem_of_none holder] at sound ⊢
    exact ⟨sound, refused.fresh, refused.distinct, refused.held, kept.used, kept.once⟩
  | some userId =>
    have unspent := (kept.sound.of_get keys holder).1
    rw [Office.redeem_of_some holder] at sound ⊢
    refine ⟨sound, ?_, ?_, ?_, ?_, kept.once⟩
    · intro j call other there unissued
      rcases of_set there with ⟨-, rfl⟩ | ⟨-, before⟩
      · cases unissued
      · exact kept.fresh j call other before unissued
    · intro j k first second other one two here too
      rcases of_set one with ⟨-, rfl⟩ | ⟨-, one⟩
      · cases here
      rcases of_set two with ⟨-, rfl⟩ | ⟨-, two⟩
      · cases too
      exact kept.distinct j k first second other one two here too
    · intro j call redemption there holds
      rcases of_set there with ⟨rfl, rfl⟩ | ⟨-, before⟩
      · cases holds
        refine ⟨List.mem_append_right _ (List.mem_singleton_self _), ?_, rfl, newHash, rfl⟩
        intro used
        obtain ⟨change, member, same⟩ := List.mem_map.mp used
        refine unspent (List.mem_map.mpr ⟨_, kept.used change member, ?_⟩)
        rw [same]
      · obtain ⟨member, rest⟩ := kept.held j call redemption before holds
        exact ⟨List.mem_append_left _ member, rest⟩
    · exact fun change member => List.mem_append_left _ (kept.used change member)

/-- **A change is committed.** -/
theorem committed (kept : d.Kept sha256) {token newHash : String} {redemption : ResetRedemption}
    {change : PasswordChange} (db : State)
    (found : d.calls[i]? = some ⟨.resetPassword token newHash, .changing redemption change⟩) :
    ResetDesk.Kept sha256
      (ResetDesk.moved
        { d with
          db := db
          changes := d.changes ++ [{ redemption := redemption, time := d.now }] } i
        (.resetPassword token newHash) (.returned none)) := by
  obtain ⟨redeemed, unused, own, -⟩ := kept.held i _ redemption found rfl
  have after : (d.moved i (.resetPassword token newHash) (.returned none)).Kept sha256 :=
    kept.moved found (fun _ holds => by cases holds) (fun _ mints => by cases mints)
  refine ⟨kept.sound, after.fresh, after.distinct, ?_, ?_, ?_⟩
  · intro j call held there holds
    rcases of_set there with ⟨-, rfl⟩ | ⟨other, before⟩
    · cases holds
    · obtain ⟨member, fresh, claimed, asked⟩ := kept.held j call held before holds
      refine ⟨member, fun used => ?_, claimed, asked⟩
      obtain ⟨made, listed, rfl⟩ := List.mem_map.mp used
      rcases List.mem_append.mp listed with earlier | now
      · exact fresh (List.mem_map_of_mem earlier)
      · obtain rfl := List.mem_singleton.mp now
        exact other (claimed.symm.trans own)
  · intro change member
    rcases List.mem_append.mp member with earlier | now
    · exact kept.used change earlier
    · obtain rfl := List.mem_singleton.mp now
      exact redeemed
  · show (List.map PasswordReset.redemption (_ ++ _)).Nodup
    rw [List.map_append, List.map_singleton, ← List.concat_eq_append, List.nodup_concat]
    exact ⟨unused, kept.once⟩

end ResetDesk.Kept

/-! ### One step -/

/-- A step that a call takes or that ends it. -/
theorem step_call (i : Nat) : d.step settings sha256 (.call i) = d ∨
    ∃ call, d.calls[i]? = some call ∧
      ResetMove settings sha256 d i call (d.step settings sha256 (.call i)) := by
  cases found : d.calls[i]? with
  | none => exact Or.inl (by simp only [ResetDesk.step, found])
  | some call =>
    refine Or.inr ⟨call, rfl, ?_⟩
    simpa only [ResetDesk.step, found] using advance_move call

theorem step_cutOff (i : Nat) (raised : Raised) : d.step settings sha256 (.cutOff i raised) = d ∨
    ∃ call, d.calls[i]? = some call ∧
      ResetMove settings sha256 d i call (d.step settings sha256 (.cutOff i raised)) := by
  cases found : d.calls[i]? with
  | none => exact Or.inl (by simp only [ResetDesk.step, found])
  | some call =>
    refine Or.inr ⟨call, rfl, ?_⟩
    have next : ResetMove settings sha256 d i call (d.moved i call.request (.refused raised)) :=
      .moved call _ (fun _ holds => by cases holds)
        (fun token mints => by rw [unissued_refused] at mints; cases mints)
    simpa only [ResetDesk.step, found] using next

section Moves

variable {next : ResetDesk}

theorem kept_move (kept : d.Kept sha256) (injective : Function.Injective sha256)
    (found : d.calls[i]? = some call) (move : ResetMove settings sha256 d i call next) :
    next.Kept sha256 := by
  cases move with
  | idle => exact kept
  | moved _ phase holds mints => exact kept.moved found holds mints
  | issued email minted userId => exact kept.issued found
  | presented token newHash => exact kept.presented injective found
  | committed token newHash redemption change row there => exact kept.committed _ found

/-- **What becomes valid or invalid.** -/
theorem valid_move (kept : d.Kept sha256) (injective : Function.Injective sha256)
    (found : d.calls[i]? = some call) (move : ResetMove settings sha256 d i call next) (token : String)
    (userId : Nat) (differs : ¬ (next.Valid sha256 token userId ↔ d.Valid sha256 token userId)) :
    (∃ ticket : ResetTicket, next.store.issued = d.store.issued ++ [ticket] ∧ ticket.token = token ∧
      ticket.holder = userId) ∨
    ∃ redemption : ResetRedemption, next.store.redeemed = d.store.redeemed ++ [redemption] ∧
      redemption.token = token ∧ redemption.holder = userId := by
  have keys := tokenKey_injective injective resetPrefix
  cases move with
  | idle | moved | committed => exact absurd Iff.rfl differs
  | issued email minted user =>
    refine Or.inl ⟨_, rfl, ?_⟩
    by_contra other
    refine differs (kept.sound.valid_issue keys (kept.fresh i _ minted found rfl) ?_)
    exact fun same holder => other ⟨same.symm, holder.symm⟩
  | presented presented newHash =>
    cases holder : d.store.keys.get (tokenKey sha256 resetPrefix presented) d.now with
    | none =>
      refine absurd (Office.valid_redeem keys fun _ => ?_) differs
      rw [holder]
      exact (Option.some_ne_none userId).symm
    | some user =>
      refine Or.inr ⟨⟨presented, user, d.now, i⟩, ?_, ?_⟩
      · show (Office.redeem _ _ _ _ _).2.redeemed = _
        rw [Office.redeem_of_some holder]
      · by_contra other
        refine differs (Office.valid_redeem keys fun same found => other ⟨same.symm, ?_⟩)
        exact Option.some_inj.mp (holder.symm.trans found)

/-- **What is written.** -/
theorem writes_move (kept : d.Kept sha256) (found : d.calls[i]? = some call)
    (move : ResetMove settings sha256 d i call next) :
    (next.changes = d.changes ∧ next.db = d.db) ∨
    ∃ (redemption : ResetRedemption) (newHash : String) (phase : ResetPhase)
      (users : Table Nat User User.id), redemption.claimant = i ∧
      call = ⟨.resetPassword redemption.token newHash, phase⟩ ∧ redemption ∈ d.store.redeemed ∧
      next.changes = d.changes ++ [{ redemption := redemption, time := d.now }] ∧
      next.db = { d.db with users := users } ∧
      ∀ userId, userId ≠ redemption.holder → users.find? userId = d.db.users.find? userId := by
  cases move with
  | idle | moved | issued | presented => exact Or.inl ⟨rfl, rfl⟩
  | committed token newHash redemption change row there =>
    obtain ⟨redeemed, -, own, asked, same⟩ := kept.held i _ redemption found rfl
    cases same
    refine Or.inr ⟨redemption, newHash, _, _, own, rfl, redeemed, rfl, rfl, fun userId other => ?_⟩
    have own_row : row.id = redemption.holder := Table.key_of_find? there
    exact Table.find?_put_other _ fun same => other (same.symm.trans own_row)

end Moves

theorem kept_step (kept : d.Kept sha256) (injective : Function.Injective sha256) (event : ResetStep) :
    (d.step settings sha256 event).Kept sha256 := by
  cases event with
  | call i =>
    rcases step_call i with same | ⟨call, found, move⟩
    · rw [same]
      exact kept
    · exact kept_move kept injective found move
  | cutOff i raised =>
    rcases step_cutOff i raised with same | ⟨call, found, move⟩
    · rw [same]
      exact kept
    · exact kept_move kept injective found move
  | wait seconds => exact kept.elsewhere d.db _
  | others db => exact kept.elsewhere db d.now

theorem leavesOthers_step (kept : d.Kept sha256) (injective : Function.Injective sha256)
    (event : ResetStep) : LeavesOthers settings sha256 d event := by
  cases event with
  | call i =>
    intro token userId differs
    rcases step_call i with same | ⟨call, found, move⟩
    · rw [same] at differs
      exact absurd Iff.rfl differs
    · exact valid_move kept injective found move token userId differs
  | cutOff i raised =>
    intro token userId differs
    rcases step_cutOff i raised with same | ⟨call, found, move⟩
    · rw [same] at differs
      exact absurd Iff.rfl differs
    · exact valid_move kept injective found move token userId differs
  | wait seconds => exact trivial
  | others db => exact fun _ _ differs => absurd Iff.rfl differs

theorem writesItsUser_step (kept : d.Kept sha256) (event : ResetStep) :
    WritesItsUser settings sha256 d event := by
  cases event with
  | call i =>
    rcases step_call i with same | ⟨call, found, move⟩
    · exact Or.inl (by rw [same]; exact ⟨rfl, rfl⟩)
    · refine (writes_move kept found move).imp_right ?_
      rintro ⟨redemption, newHash, phase, users, own, rfl, rest⟩
      subst own
      exact ⟨redemption, newHash, phase, users, rfl, found, rest⟩
  | cutOff i raised =>
    left
    cases found : d.calls[i]? with
    | none => simp only [ResetDesk.step, found, and_self]
    | some call =>
      simp only [ResetDesk.step, found]
      exact ⟨rfl, rfl⟩
  | wait seconds => exact Or.inl ⟨rfl, rfl⟩
  | others db => exact rfl

/-- **What the invariant says.** -/
theorem ResetDesk.Kept.rightful (kept : d.Kept sha256) : Rightful d where
  once := by
    have tokens : (d.changes.map PasswordReset.redemption).map Redemption.token =
        d.changes.map fun change => change.redemption.token := List.map_map
    rw [← tokens]
    refine kept.once.map_on fun first one second other same => ?_
    obtain ⟨change, member, rfl⟩ := List.mem_map.mp one
    obtain ⟨change', member', rfl⟩ := List.mem_map.mp other
    exact List.inj_on_of_nodup_map kept.sound.once (kept.used change member) (kept.used change' member')
      same
  inTime change member := kept.sound.inTime change.redemption (kept.used change member)

/-! ### Runs -/

/-- **One token, one change, one account.** -/
theorem resetTokens_once (settings : ResetSettings) (sha256 : String → String)
    (injective : Function.Injective sha256) (db : State) (now : Timestamp)
    (requests : List ResetRequest) (distinct : (requests.filterMap ResetRequest.minted).Nodup)
    (steps : List ResetStep) :
    Always (ResetDesk.step settings sha256) Rightful (.start db now requests) steps ∧
      Throughout (ResetDesk.step settings sha256) (LeavesOthers settings sha256)
        (.start db now requests) steps ∧
      Throughout (ResetDesk.step settings sha256) (WritesItsUser settings sha256)
        (.start db now requests) steps := by
  have start : (ResetDesk.start db now requests).Kept sha256 := kept_start db now distinct
  have keep : ∀ d event, ResetDesk.Kept sha256 d → (d.step settings sha256 event).Kept sha256 :=
    fun _ event kept => kept_step kept injective event
  refine ⟨?_, ?_, ?_⟩
  · exact (always_of_step keep start).mono fun _ kept => kept.rightful
  · exact throughout_of_step keep (fun _ event kept => leavesOthers_step kept injective event) start
  · exact throughout_of_step keep (fun _ event kept => writesItsUser_step kept event) start

/-- A token as it is minted. -/
def mintedToken : String := "A1b2C3d4E5f6G7h8I9j0K1l2M3n4O5p6Q7r8S9t0U1v"

/-- Its SHA-256; the strings that are not presented here keep their own. -/
def digestOfMinted (token : String) : String :=
  if token = mintedToken then "82ab4612e23cd296ef492436ba494f1709dce9f681d38d00897f4f74b6257cdc"
  else "~" ++ token

theorem digestOfMinted_injective : Function.Injective digestOfMinted := by
  have apart : ∀ token : String,
      "82ab4612e23cd296ef492436ba494f1709dce9f681d38d00897f4f74b6257cdc" ≠ "~" ++ token := by
    intro token same
    have first := congrArg (fun text : String => text.toList.head?) same
    simp [String.toList_append] at first
  intro first second same
  unfold digestOfMinted at same
  by_cases one : first = mintedToken
  · by_cases two : second = mintedToken
    · exact one.trans two.symm
    · rw [if_pos one, if_neg two] at same
      exact absurd same (apart second)
  · by_cases two : second = mintedToken
    · rw [if_neg one, if_pos two] at same
      exact absurd same.symm (apart first)
    · rw [if_neg one, if_neg two] at same
      exact (String.append_right_inj _).mp same

/-- A user who has forgotten their password. -/
def forgetful : State :=
  { State.empty with
    users := Table.empty.put
      { id := 1, email := "ada@example.com", phone := "+15550100", firstName := "Ada",
        lastName := "Bell", hashedPassword := "forgotten" } }

/-- They ask for a token, and use it. -/
def askAndUse : List ResetRequest :=
  [.requestPasswordReset "ada@example.com" mintedToken, .resetPassword mintedToken "remembered"]

/-- The token is redeemed a second before its end, and the change is committed a second after. -/
def lateCommit : List ResetStep :=
  [.call 0, .call 0, .wait 899, .call 1, .wait 2, .call 1, .call 1]

theorem resetTokens_once_lateCommit :
    Function.Injective digestOfMinted ∧ (askAndUse.filterMap ResetRequest.minted).Nodup ∧
      Always (ResetDesk.step {} digestOfMinted) Rightful (.start forgetful 0 askAndUse) lateCommit ∧
      Throughout (ResetDesk.step {} digestOfMinted) (LeavesOthers {} digestOfMinted)
        (.start forgetful 0 askAndUse) lateCommit ∧
      Throughout (ResetDesk.step {} digestOfMinted) (WritesItsUser {} digestOfMinted)
        (.start forgetful 0 askAndUse) lateCommit :=
  have distinct : (askAndUse.filterMap ResetRequest.minted).Nodup := by decide
  ⟨digestOfMinted_injective, distinct,
    resetTokens_once {} digestOfMinted digestOfMinted_injective forgetful 0 askAndUse distinct lateCommit⟩

/-- **Committed after the end.** -/
theorem lateCommit_changes : ¬ ∀ (settings : ResetSettings) (sha256 : String → String) (db : State)
    (now : Timestamp) (requests : List ResetRequest) (steps : List ResetStep),
    Function.Injective sha256 → (requests.filterMap ResetRequest.minted).Nodup →
    Always (ResetDesk.step settings sha256) CommittedInTime (.start db now requests) steps ∧
      Throughout (ResetDesk.step settings sha256) (LeavesOthers settings sha256)
        (.start db now requests) steps ∧
      Throughout (ResetDesk.step settings sha256) (WritesItsUser settings sha256)
        (.start db now requests) steps := by
  intro always
  have last := (always {} digestOfMinted forgetful 0 askAndUse lateCommit digestOfMinted_injective
    (by decide)).1.last
  have changes : (run (ResetDesk.step {} digestOfMinted) (.start forgetful 0 askAndUse)
      lateCommit).changes = [⟨⟨mintedToken, 1, 899, 1⟩, 901⟩] := by decide
  have issued : (run (ResetDesk.step {} digestOfMinted) (.start forgetful 0 askAndUse)
      lateCommit).store.issued = [⟨mintedToken, 1, 900⟩] := by decide
  obtain ⟨ticket, member, -, early⟩ :=
    last.committed _ (by rw [changes]; exact List.mem_singleton_self _)
  rw [issued] at member
  obtain rfl := List.mem_singleton.mp member
  exact absurd early (by decide)

/-! ### A call that nothing interrupts -/

theorem step_found (found : d.calls[i]? = some call) :
    d.step settings sha256 (.call i) = d.advance settings sha256 i call := by
  simp only [ResetDesk.step, found]

/-- A call that has moved is where it moved to. -/
theorem found_moved (found : d.calls[i]? = some call) (request : ResetRequest) (phase : ResetPhase) :
    (d.moved i request phase).calls[i]? = some ⟨request, phase⟩ := by
  obtain ⟨inside, -⟩ := List.getElem?_eq_some_iff.mp found
  exact List.getElem?_set_self inside

section Alone

variable {token newHash : String} {userId : Nat} {row : User} {redemption : ResetRedemption}
  {change : PasswordChange}

/-- `GETDEL` finds the user. -/
theorem step_redeems (settings : ResetSettings)
    (found : d.calls[i]? = some ⟨.resetPassword token newHash, .waiting⟩)
    (valid : d.Valid sha256 token userId) :
    ∃ store, d.step settings sha256 (.call i) =
      ResetDesk.moved { d with store := store } i (.resetPassword token newHash)
        (.redeemed ⟨token, userId, d.now, i⟩) := by
  refine ⟨(consumeSingleUse sha256 d.store resetPrefix token d.now i).2, ?_⟩
  have redeemed : (consumeSingleUse sha256 d.store resetPrefix token d.now i).1 =
      some ⟨token, userId, d.now, i⟩ := congrArg Prod.fst (Office.redeem_of_some valid)
  rw [step_found found]
  simp only [ResetDesk.advance, redeemed, redeemedFor]

/-- The row is there. -/
theorem step_reads (found : d.calls[i]? = some ⟨.resetPassword token newHash, .redeemed redemption⟩)
    (there : d.db.users.find? redemption.holder = some row) :
    d.step settings sha256 (.call i) = d.moved i (.resetPassword token newHash)
      (.changing redemption
        { hashedPassword := newHash, sessionGeneration := row.sessionGeneration + 1 }) := by
  rw [step_found found]
  simp [ResetDesk.advance, changingFor, there, resetPassword]

theorem step_commits
    (found : d.calls[i]? = some ⟨.resetPassword token newHash, .changing redemption change⟩)
    (there : d.db.users.find? redemption.holder = some row) :
    d.step settings sha256 (.call i) =
      ResetDesk.moved
        { d with
          db := { d.db with users := d.db.users.put (change.apply row) }
          changes := d.changes ++ [{ redemption := redemption, time := d.now }] } i
        (.resetPassword token newHash) (.returned none) := by
  rw [step_found found]
  simp only [ResetDesk.advance, there]

/-- **A valid token works**: three steps of the call that presents it change the password. -/
theorem resetPassword_alone
    (found : d.calls[i]? = some ⟨.resetPassword token newHash, .waiting⟩)
    (valid : d.Valid sha256 token userId) (there : d.db.users.find? userId = some row) :
    let next := run (ResetDesk.step settings sha256) d [.call i, .call i, .call i]
    next.db.users.find? userId =
        some { row with hashedPassword := newHash, sessionGeneration := row.sessionGeneration + 1 } ∧
      next.changes = d.changes ++ [⟨⟨token, userId, d.now, i⟩, d.now⟩] := by
  intro next
  have ends : next = ((d.step settings sha256 (.call i)).step settings sha256 (.call i)).step settings
      sha256 (.call i) := rfl
  obtain ⟨store, first⟩ := step_redeems settings found valid
  have found₁ := found_moved (d := { d with store := store }) found (.resetPassword token newHash)
    (.redeemed ⟨token, userId, d.now, i⟩)
  have found₂ := found_moved found₁ (.resetPassword token newHash) (.changing
    ⟨token, userId, d.now, i⟩
    { hashedPassword := newHash, sessionGeneration := row.sessionGeneration + 1 })
  rw [ends, first, step_reads found₁ there, step_commits found₂ there]
  refine ⟨?_, rfl⟩
  have own : row.id = userId := Table.key_of_find? there
  have applied : PasswordChange.apply
      { hashedPassword := newHash, sessionGeneration := row.sessionGeneration + 1 } row =
      { row with hashedPassword := newHash, sessionGeneration := row.sessionGeneration + 1 } := by
    simp [PasswordChange.apply]
  show (d.db.users.put (PasswordChange.apply _ row)).find? userId = _
  rw [applied, ← own]
  exact Table.find?_put_self d.db.users _

end Alone

end FoodDelivery.Users
