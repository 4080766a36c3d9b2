/-
**Calls of one cart that do not overlap.**

An `add_item` or `update_item` that has the cart to itself between its `GET` and its `SET`, checkouts whose
lock does not run out under them and whose `clear_cart` does not fail: then nothing is lost and nothing is
ordered twice. Checkouts may come whenever they like: the lock turns the second one away.

* `Quiet`: at most one call is under way, a checkout that is has the lock, and what a call has in hand is
  what the cart holds;
* `careful_of_inTurn`: calls that do not overlap meet the condition of a cart that is accounted for;
* `accounted_of_inTurn`: so every portion is accounted for.
-/

import FoodDelivery.Checkout.CartRaces

set_option autoImplicit false

namespace FoodDelivery.Checkout

open FoodDelivery.Lib

/-! ### Calls that do not overlap -/

def CartPhase.isWaiting : CartPhase → Bool
  | .waiting => true
  | _ => false

/-- Between the `GET` and the `SET` of an `add_item` or `update_item`. -/
def CartPhase.isSaving : CartPhase → Bool
  | .saving _ _ => true
  | _ => false

/-- Between taking the lock and deleting it. -/
def CartPhase.holdsLock : CartPhase → Bool
  | .locked | .loaded _ | .validated _ _ | .committed | .unlocking _ => true
  | _ => false

/-- Between the commit and `clear_cart`. -/
def CartPhase.isCommitted : CartPhase → Bool
  | .committed => true
  | _ => false

def CartPhase.underWay (phase : CartPhase) : Bool := phase.isSaving || phase.holdsLock

/-- The calls that are turned away while a checkout has the lock. -/
def CartRequest.isCheckout : CartRequest → Bool
  | .createOrderFromCheckout _ _ => true
  | _ => false

/-- **No overlap**: an `add_item` or `update_item` begins when nothing is under way, and a checkout when
nothing is being saved; the lock does not run out under a checkout; and `clear_cart` does not fail. -/
def InTurn (w : CartState) : CartStep → Prop
  | .call i _ => ∀ call ∈ w.calls[i]?, call.phase.isWaiting = true → ∀ other ∈ w.calls,
      other.phase.isSaving = false ∧ (call.request.isCheckout = false → other.phase.holdsLock = false)
  | .raises i _ => ∀ call ∈ w.calls[i]?, call.phase.isCommitted = false
  | .lockExpires => ∀ call ∈ w.calls, call.phase.holdsLock = false

instance (w : CartState) : ∀ step, Decidable (InTurn w step)
  | .call i _ => inferInstanceAs (Decidable (∀ call ∈ w.calls[i]?, call.phase.isWaiting = true →
      ∀ other ∈ w.calls, other.phase.isSaving = false ∧
        (call.request.isCheckout = false → other.phase.holdsLock = false)))
  | .raises i _ => inferInstanceAs (Decidable (∀ call ∈ w.calls[i]?, call.phase.isCommitted = false))
  | .lockExpires => inferInstanceAs (Decidable (∀ call ∈ w.calls, call.phase.holdsLock = false))

/-! ### The invariant -/

/-- No order has a portion of these. -/
def CartState.Fresh (w : CartState) (content : Content) : Prop :=
  ∀ portion ∈ content.portions, ∀ order ∈ w.orders, portion ∉ order.portions

/-- What a call has in hand is what the cart holds, other than of the line it updates. -/
def CartPhase.Fits (w : CartState) (request : CartRequest) : CartPhase → Prop
  | .saving content _ => w.Fresh content ∧ ∀ portion ∈ w.content.portions,
      portion ∈ content.portions ∨ request.updates portion.menuItemId
  | .loaded content => content = w.content
  | .validated content _ => content = w.content
  | .committed => ∀ portion ∈ w.content.portions, ∃ order ∈ w.orders, portion ∈ order.portions
  | _ => True

/-- **One call at a time.** -/
structure Quiet (w : CartState) : Prop where
  single : ∀ (i j : Nat) (call other : CartCall), w.calls[i]? = some call → w.calls[j]? = some other →
    call.phase.underWay = true → other.phase.underWay = true → i = j
  held : ∀ call ∈ w.calls, call.phase.holdsLock = true → w.isLocked = true
  fits : ∀ call ∈ w.calls, call.phase.Fits w call.request
  fresh : (∀ call ∈ w.calls, call.phase.isCommitted = false) → w.Fresh w.content
  numbers : ∀ order ∈ w.orders, ∀ portion ∈ order.portions, portion.id < w.numbered

variable {setting : Setting} {user : Identity} {w next : CartState}

/-- A call that is not under way has nothing in hand. -/
theorem CartPhase.idle_spec {phase : CartPhase} (idle : phase.underWay = false) (w : CartState)
    (request : CartRequest) :
    phase.holdsLock = false ∧ phase.isCommitted = false ∧ phase.Fits w request := by
  cases phase with
  | waiting | returned | failed => exact ⟨rfl, rfl, trivial⟩
  | saving | locked | loaded | validated | committed | unlocking => cases idle

/-- The others are not under way when one is, -/
theorem Quiet.alone (quiet : Quiet w) {i : Nat} {call : CartCall} (found : w.calls[i]? = some call)
    (busy : call.phase.underWay = true) (j : Nat) (other : CartCall) (apart : j ≠ i)
    (there : w.calls[j]? = some other) : other.phase.underWay = false := by
  by_contra also
  exact apart (quiet.single j i other call there found (Bool.not_eq_false _ ▸ also) busy)

/-- and the cart is fresh unless it is the one that has committed. -/
theorem Quiet.fresh_of_uncommitted (quiet : Quiet w) {i : Nat} {call : CartCall}
    (found : w.calls[i]? = some call) (busy : call.phase.underWay = true)
    (before : call.phase.isCommitted = false) : w.Fresh w.content := by
  refine quiet.fresh fun other member => ?_
  obtain ⟨j, there⟩ := List.mem_iff_getElem?.mp member
  by_cases same : j = i
  · subst same
    rw [found] at there
    cases there
    exact before
  · exact (CartPhase.idle_spec (quiet.alone found busy j other same there) w other.request).2.1

/-- **A step of the only call under way.** -/
theorem quiet_moved {i : Nat} {call : CartCall} {request : CartRequest} {phase : CartPhase}
    (found : w.calls[i]? = some call)
    (alone : ∀ (j : Nat) (other : CartCall), j ≠ i → w.calls[j]? = some other →
      other.phase.underWay = false)
    (calls : next.calls = w.calls.set i { request := request, phase := phase })
    (held : phase.holdsLock = true → next.isLocked = true) (fits : phase.Fits next request)
    (fresh : phase.isCommitted = false → next.Fresh next.content)
    (numbers : ∀ order ∈ next.orders, ∀ portion ∈ order.portions, portion.id < next.numbered) :
    Quiet next := by
  have own : ∀ (j : Nat) (other : CartCall), next.calls[j]? = some other →
      other.phase.underWay = true → j = i := by
    intro j other there busy
    rw [calls] at there
    rcases of_set there with ⟨same, _⟩ | ⟨apart, old⟩
    · exact same
    · rw [alone j other apart old] at busy
      cases busy
  have each : ∀ other ∈ next.calls, other = { request := request, phase := phase } ∨
      other.phase.underWay = false := by
    intro other member
    rw [calls] at member
    obtain ⟨j, there⟩ := List.mem_iff_getElem?.mp member
    rcases of_set there with ⟨_, same⟩ | ⟨apart, old⟩
    · exact Or.inl same
    · exact Or.inr (alone j other apart old)
  refine ⟨fun j k first second here there busy busy' => ?_, fun other member holds => ?_,
    fun other member => ?_, fun none_committed => ?_, numbers⟩
  · exact (own j first here busy).trans (own k second there busy').symm
  · rcases each other member with rfl | idle
    · exact held holds
    · rw [(CartPhase.idle_spec idle next other.request).1] at holds
      cases holds
  · rcases each other member with rfl | idle
    · exact fits
    · exact (CartPhase.idle_spec idle next other.request).2.2
  · obtain ⟨inside, _⟩ := List.getElem?_eq_some_iff.mp found
    refine fresh (none_committed { request := request, phase := phase } ?_)
    rw [calls]
    exact List.mem_of_getElem? (List.getElem?_set_self inside)

/-- A call that ends without a change, and was not at `clear_cart`. -/
theorem Quiet.idle (quiet : Quiet w) {i : Nat} {call : CartCall} {phase : CartPhase}
    (found : w.calls[i]? = some call) (before : call.phase.isCommitted = false)
    (idle : phase.underWay = false) : Quiet (w.moved i call.request phase) := by
  have spec := CartPhase.idle_spec idle
  refine ⟨fun j k first second here there busy busy' => ?_, fun other member holds => ?_,
    fun other member => ?_, fun none_committed => ?_, quiet.numbers⟩
  · rcases of_set here with ⟨_, rfl⟩ | ⟨_, here⟩
    · exact absurd (busy.symm.trans idle) (by decide)
    rcases of_set there with ⟨_, rfl⟩ | ⟨_, there⟩
    · exact absurd (busy'.symm.trans idle) (by decide)
    exact quiet.single j k first second here there busy busy'
  · rcases List.mem_or_eq_of_mem_set member with member | rfl
    · exact quiet.held other member holds
    · exact absurd (holds.symm.trans (spec w call.request).1) (by decide)
  · rcases List.mem_or_eq_of_mem_set member with member | rfl
    · exact quiet.fits other member
    · exact (spec _ call.request).2.2
  · refine quiet.fresh fun other member => ?_
    obtain ⟨j, there⟩ := List.mem_iff_getElem?.mp member
    by_cases same : j = i
    · subst same
      rw [found] at there
      cases there
      exact before
    · refine none_committed other (List.mem_of_getElem? (i := j) ?_)
      show (w.calls.set i _)[j]? = some other
      rw [List.getElem?_set_ne fun equal => same equal.symm]
      exact there

/-! ### The steps -/

/-- What an `add_item` or `update_item` is about to save. -/
theorem quiet_saving (quiet : Quiet w) (menuItemId quantity : Nat) {i : Nat} {call : CartCall}
    {content : Content} {added : List Portion} (found : w.calls[i]? = some call)
    (free : ∀ other ∈ w.calls, other.phase.underWay = false)
    (source : ∀ portion ∈ content.portions, portion ∈ w.content.portions ∨
      portion ∈ newPortions w.numbered menuItemId quantity)
    (keeps : ∀ portion ∈ w.content.portions,
      portion ∈ content.portions ∨ call.request.updates portion.menuItemId) :
    Quiet (CartState.moved { w with numbered := w.numbered + quantity } i call.request
      (.saving content added)) := by
  have fresh : w.Fresh w.content :=
    quiet.fresh fun other member => (CartPhase.idle_spec (free other member) w other.request).2.1
  refine quiet_moved found (fun j other _ there => free other (List.mem_of_getElem? there)) rfl
    (fun holds => by cases holds) ⟨fun portion member order placed has => ?_, keeps⟩ (fun _ => fresh)
    fun order placed portion has => ?_
  · -- a new portion has a number that no order has
    rcases source portion member with old | new
    · exact fresh portion old order placed has
    · have small := quiet.numbers order placed portion has
      have large := (mem_newPortions new).2.1
      omega
  · exact (quiet.numbers order placed portion has).trans_le (Nat.le_add_right _ _)

/-- A checkout that finds the lock free: whoever holds it has set it. -/
theorem quiet_locked (quiet : Quiet w) {i : Nat} {call : CartCall} (found : w.calls[i]? = some call)
    (unlocked : ¬ w.isLocked = true) (unsaved : ∀ other ∈ w.calls, other.phase.isSaving = false) :
    Quiet (CartState.moved { w with isLocked := true } i call.request .locked) := by
  have nobody : ∀ other ∈ w.calls, other.phase.underWay = false := by
    intro other member
    have free : other.phase.holdsLock = false := by
      by_contra holds
      exact unlocked (quiet.held other member (Bool.not_eq_false _ ▸ holds))
    rw [CartPhase.underWay, unsaved other member, free]
    rfl
  refine quiet_moved found (fun j other _ there => nobody other (List.mem_of_getElem? there)) rfl
    (fun _ => rfl) trivial (fun _ => ?_) quiet.numbers
  exact quiet.fresh fun other member =>
    (CartPhase.idle_spec (nobody other member) w other.request).2.1

theorem quiet_begin (quiet : Quiet w) {i : Nat} {call : CartCall} {around : Around}
    (found : w.calls[i]? = some call) (waiting : call.phase.isWaiting = true)
    (inTurn : InTurn w (.call i around)) : Quiet (w.begin i call.request) := by
  have turn := inTurn call found waiting
  have before : call.phase.isCommitted = false := by
    obtain ⟨request, phase⟩ := call
    cases phase with
    | waiting => rfl
    | saving | locked | loaded | validated | committed | unlocking | returned | failed => cases waiting
  have free : call.request.isCheckout = false → ∀ other ∈ w.calls, other.phase.underWay = false := by
    intro edits other member
    obtain ⟨saving, holds⟩ := turn other member
    rw [CartPhase.underWay, saving, holds edits]
    rfl
  unfold CartState.begin
  cases asks : call.request with
  | addItem menuItemId quantity rows =>
    dsimp only
    rw [← asks]
    split
    · exact quiet.idle found before rfl
    · rename_i content outcome
      obtain ⟨item, _, saved⟩ := bind_eq_ok.mp outcome
      have portions := (Content.addItem_ok saved).2
      refine quiet_saving quiet menuItemId quantity found (free (by rw [asks]; rfl))
        (fun portion member => ?_) fun portion member => Or.inl ?_
      · rw [portions] at member
        exact List.mem_append.mp member
      · rw [portions]
        exact List.mem_append_left _ member
  | updateItem menuItemId quantity =>
    dsimp only
    rw [← asks]
    split
    · exact quiet.idle found before rfl
    · rename_i content outcome
      have portions := (Content.updateItem_ok outcome).2
      refine quiet_saving quiet menuItemId quantity found (free (by rw [asks]; rfl))
        (fun portion member => ?_) fun portion member => ?_
      · rw [portions] at member
        exact mem_resized member
      · by_cases own : portion.menuItemId = menuItemId
        · right
          rw [asks]
          exact decide_eq_true own
        · left
          rw [portions]
          exact List.mem_append_left _ (List.mem_filter.mpr ⟨member, by simpa using own⟩)
  | createOrderFromCheckout request authHeader =>
    dsimp only
    rw [← asks]
    split
    · exact quiet.idle found before rfl
    · rename_i unlocked
      exact quiet_locked quiet found unlocked fun other member => (turn other member).1

/-- **A step of a call** that is under way. -/
theorem quiet_advance (sound : w.Sound) (quiet : Quiet w) {i : Nat} {call : CartCall} {around : Around}
    (found : w.calls[i]? = some call) (inTurn : InTurn w (.call i around)) :
    Quiet (w.advance setting user i call.request around call.phase) := by
  have alone := quiet.alone found
  have fits := quiet.fits call (List.mem_of_getElem? found)
  have held := quiet.held call (List.mem_of_getElem? found)
  have fresh := quiet.fresh_of_uncommitted found
  cases stage : call.phase with
  | waiting => exact quiet_begin quiet found (by rw [stage]; rfl) inTurn
  | saving content added =>
    rw [stage] at fits alone
    exact quiet_moved found (alone rfl) rfl (fun holds => by cases holds) trivial (fun _ => fits.1)
      quiet.numbers
  | locked =>
    rw [stage] at alone held fresh
    exact quiet_moved found (alone rfl) rfl (fun _ => held rfl) rfl (fun _ => fresh rfl rfl) quiet.numbers
  | loaded content =>
    rw [stage] at alone held fits fresh
    unfold CartState.advance
    dsimp only
    split
    · split
      · exact quiet_moved found (alone rfl) rfl (fun _ => held rfl) trivial (fun _ => fresh rfl rfl)
          quiet.numbers
      · exact quiet_moved found (alone rfl) rfl (fun _ => held rfl) fits (fun _ => fresh rfl rfl)
          quiet.numbers
    · exact quiet
  | validated content order =>
    rw [stage] at alone held fits
    have same : content = w.content := fits
    refine quiet_moved found (alone rfl) rfl (fun _ => held rfl) (fun portion member => ?_)
      (fun other => by cases other) fun placed member portion has => ?_
    · refine ⟨_, List.mem_append_right _ (List.mem_singleton_self _), ?_⟩
      rw [same]
      exact member
    · rcases List.mem_append.mp member with before | new
      · exact quiet.numbers placed before portion has
      · rw [List.mem_singleton.mp new, same] at has
        exact sound.numbers portion has
  | committed =>
    rw [stage] at alone held
    exact quiet_moved found (alone rfl) rfl (fun _ => held rfl) trivial
      (fun _ portion member => by cases member) quiet.numbers
  | unlocking raised =>
    rw [stage] at alone fresh
    cases raised with
    | none =>
      exact quiet_moved found (alone rfl) rfl (fun holds => by cases holds) trivial
        (fun _ => fresh rfl rfl) quiet.numbers
    | some raised =>
      exact quiet_moved found (alone rfl) rfl (fun holds => by cases holds) trivial
        (fun _ => fresh rfl rfl) quiet.numbers
  | returned => exact quiet
  | failed raised => exact quiet

/-- A call that raises, but not at `clear_cart`. -/
theorem quiet_raises (quiet : Quiet w) {i : Nat} {call : CartCall} (raised : Raised)
    (found : w.calls[i]? = some call) (before : call.phase.isCommitted = false) :
    Quiet (w.moved i call.request (call.phase.raising raised)) := by
  have holding : call.phase.holdsLock = true →
      Quiet (w.moved i call.request (.unlocking (some raised))) := by
    intro holds
    have busy : call.phase.underWay = true := by rw [CartPhase.underWay, holds, Bool.or_true]
    exact quiet_moved found (quiet.alone found busy) rfl
      (fun _ => quiet.held call (List.mem_of_getElem? found) holds) trivial
      (fun _ => quiet.fresh_of_uncommitted found busy before) quiet.numbers
  cases stage : call.phase with
  | committed =>
    rw [stage] at before
    cases before
  | locked | loaded | validated => exact holding (by rw [stage]; rfl)
  | waiting | saving | unlocking | returned | failed => exact quiet.idle found before rfl

/-- **One step.** -/
theorem quiet_step (sound : w.Sound) (quiet : Quiet w) {step : CartStep} (inTurn : InTurn w step) :
    Quiet (w.step setting user step) := by
  cases step with
  | call i around =>
    unfold CartState.step
    dsimp only
    split
    · exact quiet
    · rename_i call found
      exact quiet_advance sound quiet found inTurn
  | raises i raised =>
    unfold CartState.step
    dsimp only
    split
    · exact quiet
    · rename_i call found
      exact quiet_raises quiet raised found (inTurn call found)
  | lockExpires =>
    refine ⟨quiet.single, fun call member holds => ?_, quiet.fits, quiet.fresh, quiet.numbers⟩
    rw [inTurn call member] at holds
    cases holds

/-- **What is in hand is what is owed.** -/
theorem careful_of_quiet (sound : w.Sound) (quiet : Quiet w) (step : CartStep) : Careful w step := by
  cases step with
  | raises i raised => trivial
  | lockExpires => trivial
  | call i around =>
    intro call found
    have fits := quiet.fits call (List.mem_of_getElem? found)
    have kept := sound.accounted.kept
    obtain ⟨request, phase⟩ := call
    cases phase with
    | saving content added => exact fun portion owed => fits.2 portion (kept portion owed)
    | validated content order =>
      have same : content = w.content := fits
      subst same
      exact quiet.fresh_of_uncommitted found rfl rfl
    | committed =>
      intro portion owed
      obtain ⟨order, placed, has⟩ := fits portion (kept portion owed)
      exact owed.2.1 order placed has
    | waiting | locked | loaded | unlocking | returned | failed => trivial

/-! ### Runs -/

theorem quiet_start (requests : List CartRequest) : Quiet (.start requests) := by
  have waiting : ∀ call ∈ (CartState.start requests).calls, call.phase = .waiting := by
    intro call member
    obtain ⟨request, _, rfl⟩ := List.mem_map.mp member
    rfl
  refine ⟨fun i j call other here _ busy => ?_, fun call member holds => ?_, fun call member => ?_,
    fun _ portion member => (by cases member), fun order member => (by cases member)⟩
  · rw [waiting call (List.mem_of_getElem? here)] at busy
    cases busy
  · rw [waiting call member] at holds
    cases holds
  · rw [waiting call member]
    trivial

/-- **Calls that do not overlap meet the condition**: the lock keeps checkouts apart, and the cart is
deleted after every order. -/
theorem careful_of_inTurn (setting : Setting) (user : Identity) (requests : List CartRequest)
    {steps : List CartStep}
    (inTurn : Throughout (CartState.step setting user) InTurn (.start requests) steps) :
    Throughout (CartState.step setting user) Careful (.start requests) steps :=
  throughout_of_throughout (P := fun w => w.Sound ∧ Quiet w)
    (fun _ step both turn =>
      ⟨both.1.step (careful_of_quiet both.1 both.2 step), quiet_step both.1 both.2 turn⟩)
    (fun _ step both _ => careful_of_quiet both.1 both.2 step)
    ⟨CartState.sound_start requests, quiet_start requests⟩ inTurn

/-- **Without an overlap nothing is lost and nothing is ordered twice.** -/
theorem accounted_of_inTurn (setting : Setting) (user : Identity) (requests : List CartRequest)
    {steps : List CartStep}
    (inTurn : Throughout (CartState.step setting user) InTurn (.start requests) steps) :
    Always (CartState.step setting user) Accounted (.start requests) steps := by
  have sound : Always (CartState.step setting user) CartState.Sound (.start requests) steps :=
    always_of_throughout (fun _ _ sound careful => sound.step careful) (CartState.sound_start requests)
      (careful_of_inTurn setting user requests inTurn)
  exact sound.mono fun _ sound => sound.accounted

/-- The second of two checkouts comes while the first has the lock, and is turned away. -/
example : Throughout (CartState.step threeUsers ⟨7, "customer"⟩) InTurn (.start doubleSubmit)
    [.call 0 atNoon, .call 0 atNoon, .call 1 atNoon, .call 1 atNoon, .call 2 atNoon, .call 1 atNoon,
      .call 1 atNoon, .call 1 atNoon, .call 1 atNoon, .lockExpires] := by
  decide +kernel

end FoodDelivery.Checkout
