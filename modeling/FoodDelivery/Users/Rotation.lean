/-
**Whether a refresh token is good for one pair only** (`refresh_tokens`, `services/users/app/service.py`).

A call verifies its token, asks Redis whether the key is there, reads the user, and only then sets the key
and issues a pair: four steps, with anything in between. Any number of calls present the same token.

`onePair_always_iff`: at most one of them returns a pair if and only if no call sets the key when another
one has set it since the first asked, and none found, when it asked, that the entry of an earlier
rotation had already run out. `unraced_of_inTurn`: so it is when the calls come one after another, each
while the token is good, and no logout leaves the token an entry that runs out before it: a call that
comes after a rotation is refused (`refused_of_rotated`). `presentedTwice_returns_two`: two calls that both
ask before either sets.
-/

import FoodDelivery.Lib.Slots
import FoodDelivery.Users.Revocation

set_option autoImplicit false

namespace FoodDelivery.Users

open FoodDelivery.Lib

/-! ### The calls -/

/-- Where a call stands; `rotations` is how often calls had set the key when this one asked Redis and
found none. -/
inductive RefreshPhase where
  | waiting
  | verified (claims : Claims)
  | unrevoked (claims : Claims) (rotations : Nat)
  | matched (user : User) (rotations : Nat)
  | returned
  | refused (raised : Raised)

/-- One refresh token, the calls that present it, how often they have set its key and the pairs that they
have returned. -/
structure Rotation where
  store : TokenStore
  users : Table Nat User User.id
  token : Nat
  calls : List RefreshPhase
  rotations : Nat := 0
  pairs : List (List Claims) := []

/-- What happens next: a step of a call, or of anything else. Other calls present other tokens; logouts
present any; a call is cut off; a user's row changes. -/
inductive RotationStep where
  | call (i : Nat)
  | cutOff (i : Nat) (raised : Raised)
  | other (call : TokenCall)
  | write (users : Table Nat User User.id)

/-- Another call than one of those that present the token. -/
def TokenCall.elsewhere (token : Nat) : TokenCall → Bool
  | .refreshTokens _ refreshToken => refreshToken ≠ token
  | _ => true

/-- The next step of a call: verify, `GET`, read the user, `SET` and issue. -/
def Rotation.advance (settings : Settings) (r : Rotation) (i : Nat) : RefreshPhase → Rotation
  | .waiting =>
    match r.store.verifyToken r.token with
    | .error raised => { r with calls := r.calls.set i (.refused raised) }
    | .ok claims =>
      if claims.type ≠ .refresh then
        { r with
          calls := r.calls.set i
            (.refused (.app (unauthorizedException "Invalid token type"))) }
      else { r with calls := r.calls.set i (.verified claims) }
  | .verified claims =>
    if r.store.blocklist.isRevoked r.token r.store.now then
      { r with calls := r.calls.set i (.refused (.app (unauthorizedException "Token revoked"))) }
    else { r with calls := r.calls.set i (.unrevoked claims r.rotations) }
  | .unrevoked claims rotations =>
    match sessionUser r.users claims with
    | .error raised => { r with calls := r.calls.set i (.refused raised) }
    | .ok user => { r with calls := r.calls.set i (.matched user rotations) }
  | .matched user _ =>
    { r with
      store :=
        { r.store with
          issued := r.store.issued ++ issueTokens settings user r.store.now
          blocklist := r.store.blocklist.set r.token settings.refreshSeconds r.store.now }
      calls := r.calls.set i .returned
      rotations := r.rotations + 1
      pairs := r.pairs ++ [issueTokens settings user r.store.now] }
  | .returned => r
  | .refused _ => r

def Rotation.step (settings : Settings) (r : Rotation) : RotationStep → Rotation
  | .call i =>
    match r.calls[i]? with
    | none => r
    | some phase => r.advance settings i phase
  | .cutOff i raised =>
    match r.calls[i]? with
    | none | some .returned => r
    | some _ => { r with calls := r.calls.set i (.refused raised) }
  | .other call =>
    if call.elsewhere r.token then { r with store := r.store.step settings call } else r
  | .write users => { r with users := users }

/-- A pair has just been issued to a user, and its refresh token is about to be presented. -/
def Rotation.start (settings : Settings) (store : TokenStore) (users : Table Nat User User.id)
    (user : User) (calls : Nat) : Rotation where
  store := { store with issued := store.issued ++ issueTokens settings user store.now }
  users := users
  token := store.issued.length + 1
  calls := List.replicate calls .waiting

/-! ### What has to hold -/

/-- **One token, one pair.** -/
def OnePair (r : Rotation) : Prop := r.pairs.length ≤ 1

/-- When a call sets the key, no other has set it since this one asked, and none had set it before that:
an entry that was there and had run out when it asked. -/
def Unraced (r : Rotation) : RotationStep → Prop
  | .call i => ∀ user rotations, r.calls[i]? = some (.matched user rotations) →
      r.rotations = rotations ∧ rotations = 0
  | _ => True

/-! ### The invariant -/

/-- What a call remembers of the key. -/
def RefreshPhase.rotations : RefreshPhase → Nat
  | .unrevoked _ rotations => rotations
  | .matched _ rotations => rotations
  | _ => 0

/-- Every call that sets the key returns a pair, and one has at most. -/
structure Rotation.Kept (r : Rotation) : Prop where
  one : OnePair r
  counted : r.pairs.length = r.rotations
  asked : ∀ (i : Nat) (phase : RefreshPhase), r.calls[i]? = some phase →
    phase.rotations ≤ r.rotations

variable {settings : Settings} {r : Rotation}

/-- A call that moves on remembers no more than there was. -/
theorem Rotation.Kept.set (kept : r.Kept) {i : Nat} {phase : RefreshPhase}
    (remembers : phase.rotations ≤ r.rotations) :
    Rotation.Kept { r with calls := r.calls.set i phase } where
  one := kept.one
  counted := kept.counted
  asked := by
    intro j other found
    rcases of_set found with ⟨_, rfl⟩ | ⟨_, old⟩
    · exact remembers
    · exact kept.asked j other old

/-- **The step that returns a pair.** -/
theorem Rotation.Kept.return (kept : r.Kept) {i : Nat} {user : User} {rotations : Nat}
    (first : r.rotations = 0) : (r.advance settings i (.matched user rotations)).Kept where
  one := by
    show (r.pairs ++ [_]).length ≤ 1
    rw [List.length_append, kept.counted, first]
    exact le_refl 1
  counted := by
    show (r.pairs ++ [_]).length = r.rotations + 1
    rw [List.length_append, kept.counted]
    rfl
  asked := by
    intro j other found
    show other.rotations ≤ r.rotations + 1
    rcases of_set found with ⟨_, rfl⟩ | ⟨_, old⟩
    · exact Nat.zero_le _
    · exact (kept.asked j other old).trans (Nat.le_add_right _ _)

theorem Rotation.kept_advance (kept : r.Kept) {i : Nat} {phase : RefreshPhase}
    (found : r.calls[i]? = some phase) (unraced : Unraced r (.call i)) :
    (r.advance settings i phase).Kept := by
  have remembers := kept.asked i phase found
  cases phase with
  | waiting =>
    unfold Rotation.advance
    dsimp only
    split
    · exact kept.set (Nat.zero_le _)
    · split
      · exact kept.set (Nat.zero_le _)
      · exact kept.set (Nat.zero_le _)
  | verified claims =>
    unfold Rotation.advance
    dsimp only
    split
    · exact kept.set (Nat.zero_le _)
    · exact kept.set (le_refl _)
  | unrevoked claims rotations =>
    unfold Rotation.advance
    dsimp only
    split
    · exact kept.set (Nat.zero_le _)
    · exact kept.set remembers
  | matched user rotations =>
    obtain ⟨since, before⟩ := unraced user rotations found
    exact kept.return (since.trans before)
  | returned => exact kept
  | refused raised => exact kept

/-- **One step.** -/
theorem Rotation.kept_step (kept : r.Kept) {step : RotationStep} (unraced : Unraced r step) :
    (r.step settings step).Kept := by
  cases step with
  | call i =>
    unfold Rotation.step
    dsimp only
    split
    · exact kept
    · rename_i phase found
      exact Rotation.kept_advance kept found unraced
  | cutOff i raised =>
    unfold Rotation.step
    dsimp only
    split
    · exact kept
    · exact kept
    · exact kept.set (Nat.zero_le _)
  | other call =>
    unfold Rotation.step
    dsimp only
    split
    · exact ⟨kept.one, kept.counted, kept.asked⟩
    · exact kept
  | write users => exact ⟨kept.one, kept.counted, kept.asked⟩

/-- **A call that has been raced returns a second pair.** -/
theorem not_onePair_of_raced (kept : r.Kept) {step : RotationStep} (raced : ¬ Unraced r step) :
    ¬ OnePair (r.step settings step) := by
  cases step with
  | cutOff i raised => exact absurd trivial raced
  | other call => exact absurd trivial raced
  | write users => exact absurd trivial raced
  | call i =>
    unfold Unraced at raced
    push Not at raced
    obtain ⟨user, rotations, found, late⟩ := raced
    have remembers : rotations ≤ r.rotations := kept.asked i _ found
    have earlier : r.rotations ≠ 0 := by
      intro none_yet
      have none_then : rotations = 0 := by omega
      exact late (none_yet.trans none_then.symm) none_then
    have counted := kept.counted
    unfold Rotation.step
    simp only [found]
    show ¬ (r.pairs ++ [_]).length ≤ 1
    rw [List.length_append, List.length_singleton]
    omega

/-- **When a refresh token rotates.** Among any number of calls that present a token that was issued, with
everything else in between, at most one returns a pair exactly when no call sets the key after another
one has since it asked, and none had asked after an entry of an earlier rotation ran out. -/
theorem onePair_always_iff (settings : Settings) (store : TokenStore)
    (users : Table Nat User User.id) (user : User) (calls : Nat) (steps : List RotationStep) :
    Always (Rotation.step settings) OnePair (.start settings store users user calls) steps ↔
      Throughout (Rotation.step settings) Unraced (.start settings store users user calls) steps := by
  refine always_iff_throughout (Q := Rotation.Kept) (fun r step kept unraced => ?_)
    (fun r kept => kept.one) (fun r step kept raced => ?_) ⟨Nat.zero_le 1, rfl, ?_⟩
  · exact Rotation.kept_step kept unraced
  · exact not_onePair_of_raced kept raced
  · intro i phase found
    obtain ⟨_, same⟩ := List.getElem?_eq_some_iff.mp found
    rw [← same]
    simp [Rotation.start, RefreshPhase.rotations]

/-! ### Calls one after another -/

/-- It has asked Redis for the key and found none. -/
def RefreshPhase.asked : RefreshPhase → Bool
  | .unrevoked _ _ | .matched _ _ => true
  | _ => false

/-- **No overlap**: a call asks while its token is still good and while none of the others is between its
question and its `SET`; and a logout leaves no token an entry that runs out before it. -/
def InTurn (settings : Settings) (r : Rotation) : RotationStep → Prop
  | .call i => ∀ claims, r.calls[i]? = some (.verified claims) →
      r.store.now < claims.exp ∧ ∀ phase ∈ r.calls, phase.asked = false
  | .other call => OutlivedByEntry settings r.store call
  | _ => True

/-- Once the token has been rotated its key is there, and outlives it; and until then at most one call has
asked. -/
structure Guarded (settings : Settings) (r : Rotation) : Prop where
  outlived : Outlived settings r.store
  issued : ∃ claims, r.store.issued[r.token]? = some claims ∧ claims.type = .refresh
  entry : 0 < r.rotations → (r.store.blocklist r.token).isSome
  verified : ∀ claims, .verified claims ∈ r.calls → r.store.issued[r.token]? = some claims
  asked : ∀ phase ∈ r.calls, phase.asked = true → r.rotations = 0 ∧ phase.rotations = 0
  single : ∀ (i j : Nat) (phase other : RefreshPhase), r.calls[i]? = some phase →
    r.calls[j]? = some other → phase.asked = true → other.asked = true → i = j

/-- **A key that is there refuses a call** that asks while the token is good. -/
theorem refused_of_rotated (guarded : Guarded settings r) {i : Nat} {claims : Claims}
    (found : r.calls[i]? = some (.verified claims)) (alive : r.store.now < claims.exp)
    (rotated : 0 < r.rotations) : r.step settings (.call i) =
      { r with calls := r.calls.set i (.refused (.app (unauthorizedException "Token revoked"))) } := by
  obtain ⟨expires, entry⟩ := Option.isSome_iff_exists.mp (guarded.entry rotated)
  obtain ⟨own, issued, covers⟩ := guarded.outlived.entries r.token expires entry
  have same := guarded.verified claims (List.mem_of_getElem? found)
  rw [issued, Option.some_inj] at same
  subst same
  have revoked : r.store.blocklist.isRevoked r.token r.store.now = true := by
    rw [isRevoked_of_entry entry]
    exact decide_eq_true (Int.lt_of_lt_of_le alive covers)
  unfold Rotation.step
  simp only [found]
  exact if_pos revoked

/-- A call that has not asked, or goes on. -/
theorem Guarded.set (guarded : Guarded settings r) {i : Nat} {phase : RefreshPhase}
    (verified : ∀ claims, phase = .verified claims → r.store.issued[r.token]? = some claims)
    (asks : phase.asked = true → (r.rotations = 0 ∧ phase.rotations = 0) ∧
      ∀ j other, r.calls[j]? = some other → other.asked = true → j = i) :
    Guarded settings { r with calls := r.calls.set i phase } where
  outlived := guarded.outlived
  issued := guarded.issued
  entry := guarded.entry
  verified := by
    intro claims member
    rcases List.mem_or_eq_of_mem_set member with old | new
    · exact guarded.verified claims old
    · exact verified claims new.symm
  asked := by
    intro other member has
    rcases List.mem_or_eq_of_mem_set member with old | rfl
    · exact guarded.asked other old has
    · exact (asks has).1
  single := by
    intro j k first second here there has has'
    rcases of_set here with ⟨rfl, rfl⟩ | ⟨apart, old⟩
    · rcases of_set there with ⟨rfl, _⟩ | ⟨_, old'⟩
      · rfl
      · exact ((asks has).2 k second old' has').symm
    · rcases of_set there with ⟨rfl, rfl⟩ | ⟨_, old'⟩
      · exact (asks has').2 j first old has
      · exact guarded.single j k first second old old' has has'

/-- A call that ends without a pair. -/
theorem Guarded.refused (guarded : Guarded settings r) {i : Nat} (raised : Raised) :
    Guarded settings { r with calls := r.calls.set i (.refused raised) } :=
  guarded.set (fun _ other => by cases other) fun has => by cases has

/-- **The rotation**: its entry outlives the token, and nobody else has asked. -/
theorem Guarded.rotate (guarded : Guarded settings r) {i : Nat} {user : User} {rotations : Nat}
    (found : r.calls[i]? = some (.matched user rotations)) :
    Guarded settings (r.advance settings i (.matched user rotations)) := by
  obtain ⟨claims, issued, refresh⟩ := guarded.issued
  have lives := guarded.outlived.lifetimes claims (List.mem_of_getElem? issued)
  rw [refresh] at lives
  -- nobody else is left to ask
  have idle : ∀ (j : Nat) (phase : RefreshPhase),
      (r.calls.set i RefreshPhase.returned)[j]? = some phase → phase.asked = false := by
    intro j phase there
    rcases of_set there with ⟨_, rfl⟩ | ⟨apart, old⟩
    · rfl
    · by_contra has
      rw [Bool.not_eq_false] at has
      exact apart (guarded.single j i phase _ old found has rfl)
  refine ⟨(guarded.outlived.set issued lives).issue user, ⟨claims, found_append issued, refresh⟩,
    fun _ => ?_, fun other member => ?_, fun phase member has => ?_,
    fun j k first second here there has has' => ?_⟩
  · show (r.store.blocklist.set r.token settings.refreshSeconds r.store.now r.token).isSome
    rw [Blocklist.set_self]
    rfl
  · rcases List.mem_or_eq_of_mem_set member with old | new
    · exact found_append (guarded.verified other old)
    · cases new
  · obtain ⟨j, there⟩ := List.mem_iff_getElem?.mp member
    rw [idle j phase there] at has
    cases has
  · rw [idle j first here] at has
    cases has

theorem guarded_advance (guarded : Guarded settings r) {i : Nat} {phase : RefreshPhase}
    (found : r.calls[i]? = some phase) (inTurn : InTurn settings r (.call i)) :
    Guarded settings (r.advance settings i phase) := by
  have member := List.mem_of_getElem? found
  cases phase with
  | waiting =>
    unfold Rotation.advance
    dsimp only
    split
    · exact guarded.refused _
    · rename_i claims verified
      split
      · exact guarded.refused _
      · refine guarded.set (fun own same => ?_) fun has => by cases has
        cases same
        exact (verifyToken_ok.mp verified).1
  | verified claims =>
    obtain ⟨alive, free⟩ := inTurn claims found
    by_cases rotated : 0 < r.rotations
    · have refused := refused_of_rotated guarded found alive rotated
      unfold Rotation.step at refused
      simp only [found] at refused
      rw [refused]
      exact guarded.refused _
    · have none_yet : r.rotations = 0 := Nat.eq_zero_of_not_pos rotated
      unfold Rotation.advance
      dsimp only
      split
      · exact guarded.refused _
      · refine guarded.set (fun _ other => by cases other) fun _ => ⟨⟨none_yet, none_yet⟩, ?_⟩
        intro j other there has
        rw [free other (List.mem_of_getElem? there)] at has
        cases has
  | unrevoked claims rotations =>
    unfold Rotation.advance
    dsimp only
    split
    · exact guarded.refused _
    · refine guarded.set (fun _ other => by cases other) fun _ =>
        ⟨guarded.asked (.unrevoked claims rotations) member rfl, fun j other there has => ?_⟩
      exact guarded.single j i other _ there found has rfl
  | matched user rotations => exact guarded.rotate found
  | returned => exact guarded
  | refused raised => exact guarded

/-- A revocation loses no entry. -/
theorem isSome_revoke {s : TokenStore} {token : Nat} (set : (s.blocklist token).isSome)
    (other ttl : Nat) : ((revoke s other ttl).blocklist token).isSome := by
  rcases revoke_cases s other ttl with ⟨same, _⟩ | ⟨claims, _, written⟩
  · rw [same]
    exact set
  · rw [written]
    by_cases own : token = other
    · subst own
      show (s.blocklist.set token ttl s.now token).isSome
      rw [Blocklist.set_self]
      rfl
    · show (s.blocklist.set other ttl s.now token).isSome
      rw [Blocklist.set_other _ _ _ own]
      exact set

/-- Tokens and entries stay. -/
theorem store_step (settings : Settings) (s : TokenStore) (call : TokenCall) (token : Nat) :
    (∀ claims, s.issued[token]? = some claims →
        (s.step settings call).issued[token]? = some claims) ∧
      ((s.blocklist token).isSome → ((s.step settings call).blocklist token).isSome) := by
  cases call with
  | issue user => exact ⟨fun _ issued => found_append issued, id⟩
  | wait seconds => exact ⟨fun _ issued => issued, id⟩
  | refreshTokens users presented =>
    unfold TokenStore.step
    dsimp only
    cases outcome : refreshTokens settings s users presented with
    | error raised => exact ⟨fun _ issued => issued, id⟩
    | ok next =>
      obtain ⟨user, _, rest⟩ := bind_eq_ok.mp outcome
      cases rest
      refine ⟨fun _ issued => found_append issued, fun set => ?_⟩
      by_cases own : token = presented
      · subst own
        show (s.blocklist.set token settings.refreshSeconds s.now token).isSome
        rw [Blocklist.set_self]
        rfl
      · show (s.blocklist.set presented settings.refreshSeconds s.now token).isSome
        rw [Blocklist.set_other _ _ _ own]
        exact set
  | logout refreshToken accessToken =>
    have kept : ∀ (t : TokenStore) (other ttl : Nat), (revoke t other ttl).issued = t.issued := by
      intro t other ttl
      rcases revoke_cases t other ttl with ⟨same, _⟩ | ⟨_, _, written⟩
      · rw [same]
      · rw [written]
    show (∀ claims, _ → (logout settings s refreshToken accessToken).issued[token]? = _) ∧
      (_ → ((logout settings s refreshToken accessToken).blocklist token).isSome)
    unfold logout
    cases accessToken with
    | none => exact ⟨fun _ issued => by rwa [kept], fun set => isSome_revoke set _ _⟩
    | some second =>
      exact ⟨fun _ issued => by rwa [kept, kept], fun set => isSome_revoke (isSome_revoke set _ _) _ _⟩

theorem guarded_step (guarded : Guarded settings r) {step : RotationStep}
    (inTurn : InTurn settings r step) : Guarded settings (r.step settings step) := by
  cases step with
  | call i =>
    unfold Rotation.step
    dsimp only
    split
    · exact guarded
    · rename_i phase found
      exact guarded_advance guarded found inTurn
  | cutOff i raised =>
    unfold Rotation.step
    dsimp only
    split
    · exact guarded
    · exact guarded
    · exact guarded.refused raised
  | other call =>
    unfold Rotation.step
    dsimp only
    split
    · obtain ⟨claims, issued, refresh⟩ := guarded.issued
      obtain ⟨tokens, entries⟩ := store_step settings r.store call r.token
      exact ⟨outlived_step guarded.outlived inTurn, ⟨claims, tokens claims issued, refresh⟩,
        fun rotated => entries (guarded.entry rotated),
        fun own member => tokens own (guarded.verified own member), guarded.asked, guarded.single⟩
    · exact guarded
  | write users =>
    exact ⟨guarded.outlived, guarded.issued, guarded.entry, guarded.verified, guarded.asked, guarded.single⟩

/-- **Calls one after another race nobody**, on any store whose entries outlive their tokens. -/
theorem unraced_of_inTurn {store : TokenStore} (outlived : Outlived settings store)
    (users : Table Nat User User.id) (user : User) (calls : Nat) {steps : List RotationStep}
    (inTurn : Throughout (Rotation.step settings) (InTurn settings)
      (.start settings store users user calls) steps) :
    Throughout (Rotation.step settings) Unraced (.start settings store users user calls) steps := by
  have waiting : ∀ phase ∈ (Rotation.start settings store users user calls).calls, phase = .waiting :=
    fun phase member => (List.mem_replicate.mp member).2
  have issued : ∃ claims, (store.issued ++ issueTokens settings user store.now)[store.issued.length + 1]? =
      some claims ∧ claims.type = .refresh := by
    rw [List.getElem?_append_right (Nat.le_add_right _ 1), Nat.add_sub_cancel_left]
    exact ⟨_, rfl, rfl⟩
  refine throughout_of_throughout (P := Guarded settings) (fun _ _ guarded turn => guarded_step guarded turn)
    (fun r step guarded _ => ?_)
    ⟨outlived.issue user, issued, fun rotated => absurd rotated (lt_irrefl 0), ?_, ?_, ?_⟩ inTurn
  · cases step with
    | call i =>
      intro user rotations found
      obtain ⟨none_yet, then_none⟩ := guarded.asked _ (List.mem_of_getElem? found) rfl
      exact ⟨none_yet.trans then_none.symm, then_none⟩
    | cutOff i raised => trivial
    | other call => trivial
    | write users => trivial
  · exact fun claims member => absurd (waiting _ member) (by simp)
  · intro phase member has
    rw [waiting phase member] at has
    cases has
  · intro i j phase other here _ has
    rw [waiting phase (List.mem_of_getElem? here)] at has
    cases has

/-- A signed-in user. -/
def alex : User where
  id := 1
  email := "alex@example.com"
  phone := "+15551234567"
  firstName := "Alex"
  lastName := "Rao"
  hashedPassword := "hash"

/-- **Two pairs for one token.** Both calls ask before either sets the key. -/
theorem presentedTwice_returns_two : ¬ ∀ (settings : Settings) (store : TokenStore)
    (users : Table Nat User User.id) (user : User) (calls : Nat) (steps : List RotationStep),
    Always (Rotation.step settings) OnePair (.start settings store users user calls) steps := by
  intro always
  have one := (always {} (.start 0) (Table.empty.put alex) alex 2
    [.call 0, .call 1, .call 0, .call 1, .call 0, .call 1, .call 0, .call 1]).last
  have two : (run (Rotation.step {}) (.start {} (.start 0) (Table.empty.put alex) alex 2)
    [.call 0, .call 1, .call 0, .call 1, .call 0, .call 1, .call 0, .call 1]).pairs.length = 2 := by
    decide
  unfold OnePair at one
  omega

end FoodDelivery.Users
