/-
**The rate limiter** (`shared/ratelimit.py`).

A call counts itself with `INCR`; the first of a count gives the key its lifetime with `EXPIRE`; then the
count is set against the limit. The two commands are two steps: others come between them, time passes, and
a call can fail or die there.

* `rateLimit_iff`: in every run, at most `limit` calls are admitted between two expirations of the key;
  and every call more than a window after the first of the count is judged against a fresh one if and
  only if it comes at least a window after the `EXPIRE` of that count;
* `firstCallDies_blocks`: a call that dies between its two commands;
* `Blocked.run`: what it leaves refuses every call from then on.

Times are elements of any ordered group.
-/

import FoodDelivery.Lib.Expiring
import FoodDelivery.Lib.Runs
import FoodDelivery.Shared.Basic
import Mathlib.Algebra.Order.Group.Int

set_option autoImplicit false

namespace FoodDelivery.Shared

open FoodDelivery.Lib

variable {T : Type} [AddCommGroup T] [LinearOrder T]

/-! ### The limiter -/

def tooManyRequestsException (message : String) : AppException where
  message := message
  statusCode := 429

/-- What `enforce_rate_limit` is called with. -/
structure RateLimit (T : Type) [AddCommGroup T] [LinearOrder T] where
  limit : Nat
  windowSeconds : T
  limit_pos : 1 ≤ limit := by decide
  window_pos : 0 < windowSeconds

/-- The count against the limit. -/
def RateLimit.check (limiter : RateLimit T) (count : Nat) : Except Raised Unit :=
  if count > limiter.limit then
    .error (.app (tooManyRequestsException "Too many attempts. Please try again later."))
  else .ok ()

/-- `enforce_rate_limit`, when nothing comes between its commands. -/
def enforceRateLimit (limiter : RateLimit T) (cell : Cell Nat T) (now : T) :
    Except Raised Unit × Cell Nat T :=
  let (count, cell) := cell.incr now
  let cell := if count = 1 then cell.expireAt now (now + limiter.windowSeconds) else cell
  (limiter.check count, cell)

/-! ### Calls that overlap -/

/-- What is recorded: the commands that Redis executes, how a call ends that is answered, and the
expirations of the key. -/
inductive AttemptRecord (T : Type) where
  | counted (time : T) (count : Nat)
  | expiring (time : T)
  | returned (outcome : Except Raised Unit)
  | expired

/-- The key, the calls that were told 1 and have not sent `EXPIRE`, and the log, the newest first. -/
structure Attempts (T : Type) where
  now : T
  cell : Cell Nat T := none
  waiting : List Nat := []
  log : List (AttemptRecord T) := []

/-- What happens next: time passes, a call's command is executed, its answer received or lost, or a call
that was told 1 fails or dies before the other command. -/
inductive AttemptStep (T : Type) where
  | tick (later : T)
  | incr (call : Nat) (answered : Bool)
  | expire (call : Nat) (answered : Bool)
  | cutOff (call : Nat)

/-- Time passes; a key whose time has come is gone. -/
def Attempts.tick (s : Attempts T) (later : T) : Attempts T :=
  { s with
    now := later
    cell := s.cell.read later
    log := if s.cell.isSome && (s.cell.read later).isNone then .expired :: s.log else s.log }

/-- What a call would be told now. -/
def Attempts.count (s : Attempts T) : Nat := (s.cell.incr s.now).1

/-- `INCR`, and what the call does with the answer. -/
def RateLimit.incr (limiter : RateLimit T) (s : Attempts T) (call : Nat) (answered : Bool) :
    Attempts T :=
  let (count, cell) := s.cell.incr s.now
  let counted := .counted s.now count :: s.log
  if answered = false then { s with cell := cell, log := counted }
  else if count = 1 then { s with cell := cell, waiting := call :: s.waiting, log := counted }
  else { s with cell := cell, log := .returned (limiter.check count) :: counted }

/-- `EXPIRE`, and what the call does with the answer. -/
def RateLimit.expire (limiter : RateLimit T) (s : Attempts T) (call : Nat) (answered : Bool) :
    Attempts T :=
  let sent := .expiring s.now :: s.log
  { s with
    cell := s.cell.expireAt s.now (s.now + limiter.windowSeconds)
    waiting := s.waiting.erase call
    log := if answered then .returned (limiter.check 1) :: sent else sent }

def RateLimit.step (limiter : RateLimit T) (s : Attempts T) : AttemptStep T → Attempts T
  | .tick later => if s.now ≤ later then s.tick later else s
  | .incr call answered => if call ∈ s.waiting then s else limiter.incr s call answered
  | .expire call answered => if call ∈ s.waiting then limiter.expire s call answered else s
  | .cutOff call => { s with waiting := s.waiting.erase call }

/-! ### What the log says -/

/-- The calls that were admitted since the key expired last. -/
def admittedSinceExpiry : List (AttemptRecord T) → Nat
  | .expired :: _ => 0
  | .returned (.ok _) :: earlier => admittedSinceExpiry earlier + 1
  | _ :: earlier => admittedSinceExpiry earlier
  | [] => 0

/-- When the last call was made that was told 1. -/
def firstHit : List (AttemptRecord T) → Option T
  | .counted time count :: earlier => if count = 1 then some time else firstHit earlier
  | _ :: earlier => firstHit earlier
  | [] => none

/-- When `EXPIRE` was executed after it. -/
def lifetimeSet : List (AttemptRecord T) → Option T
  | .expiring time :: _ => some time
  | .counted _ count :: earlier => if count = 1 then none else lifetimeSet earlier
  | _ :: earlier => lifetimeSet earlier
  | [] => none

/-! ### What has to hold -/

/-- **No more than the limit** between two expirations. -/
def AtMostLimit (limiter : RateLimit T) (s : Attempts T) : Prop :=
  admittedSinceExpiry s.log ≤ limiter.limit

/-- **A fresh count**, and with it no refusal, for a call that is made more than a window after the first
call of the count. -/
def JudgedAfresh (limiter : RateLimit T) (s : Attempts T) : AttemptStep T → Prop
  | .incr call _ => call ∉ s.waiting → ∀ start, firstHit s.log = some start →
      start + limiter.windowSeconds < s.now → s.count = 1 ∧ limiter.check s.count = .ok ()
  | _ => True

/-- Such a call is made at least a window after the `EXPIRE` of that count: the call that had to send it
did, and none is made in between. -/
def Covered (limiter : RateLimit T) (s : Attempts T) : AttemptStep T → Prop
  | .incr call _ => call ∉ s.waiting → ∀ start, firstHit s.log = some start →
      start + limiter.windowSeconds < s.now →
      ∃ time, lifetimeSet s.log = some time ∧ time + limiter.windowSeconds ≤ s.now
  | _ => True

/-! ### The invariant -/

/-- What the key holds, in terms of the log. -/
def RateLimit.Holds (limiter : RateLimit T) (log : List (AttemptRecord T)) (now : T) :
    Cell Nat T → Prop
  | none => ∀ start, firstHit log = some start →
      ∃ time, lifetimeSet log = some time ∧ time + limiter.windowSeconds ≤ now
  | some kept => 0 < kept.value ∧
      kept.expires = (lifetimeSet log).map (fun time => time + limiter.windowSeconds) ∧
      ∀ time, lifetimeSet log = some time → now < time + limiter.windowSeconds

/-- The number that is stored. -/
def stored (cell : Cell Nat T) : Nat := (cell.map Lasting.value).getD 0

/-- The admitted calls and the one that has yet to send `EXPIRE` were all counted, and all within the
limit; while it waits the key has no lifetime. -/
structure RateLimit.Tracks (limiter : RateLimit T) (s : Attempts T) : Prop where
  holds : limiter.Holds s.log s.now s.cell
  counted : admittedSinceExpiry s.log + s.waiting.length ≤ stored s.cell
  within : admittedSinceExpiry s.log + s.waiting.length ≤ limiter.limit
  one : s.waiting.length ≤ 1
  waits : s.waiting ≠ [] → lifetimeSet s.log = none

variable {limiter : RateLimit T} {s : Attempts T} {call : Nat} {answered : Bool} {later : T}

theorem tracks_attempts_start (start : T) : limiter.Tracks { now := start } where
  holds _ hit := by cases hit
  counted := Nat.le_refl 0
  within := Nat.zero_le _
  one := Nat.zero_le 1
  waits waiting := absurd rfl waiting

/-- A key that is there has not expired. -/
theorem RateLimit.Tracks.read (tracks : limiter.Tracks s) : s.cell.read s.now = s.cell := by
  have holds := tracks.holds
  cases kept : s.cell with
  | none => rfl
  | some lasting =>
    rw [kept] at holds
    obtain ⟨-, lifetime, lasts⟩ := holds
    refine Option.filter_some_pos ?_
    unfold Lasting.alive
    rw [lifetime]
    cases time : lifetimeSet s.log with
    | none => rfl
    | some time' => exact decide_eq_true (lasts time' time)

omit [AddCommGroup T] in
/-- The first call of a count. -/
theorem incr_absent (absent : s.cell = none) :
    s.cell.incr s.now = (1, some { value := 1, expires := none }) := by
  rw [absent]
  rfl

/-- A later one. -/
theorem RateLimit.Tracks.incr_kept (tracks : limiter.Tracks s) {kept : Lasting Nat T}
    (there : s.cell = some kept) :
    s.cell.incr s.now = (kept.value + 1, some { kept with value := kept.value + 1 }) := by
  unfold Cell.incr
  rw [tracks.read, there]

/-- Nobody waits for a key that is gone, and nobody has been admitted since. -/
theorem RateLimit.Tracks.idle (tracks : limiter.Tracks s) (absent : s.cell = none) :
    admittedSinceExpiry s.log = 0 ∧ s.waiting = [] := by
  have counted := tracks.counted
  rw [absent] at counted
  obtain ⟨admitted, waiting⟩ := Nat.add_eq_zero_iff.mp (Nat.le_zero.mp counted)
  exact ⟨admitted, List.length_eq_zero_iff.mp waiting⟩

theorem admitted_returned (count : Nat) (log : List (AttemptRecord T)) :
    admittedSinceExpiry (.returned (limiter.check count) :: log) =
      admittedSinceExpiry log + if count ≤ limiter.limit then 1 else 0 := by
  unfold RateLimit.check
  by_cases refused : count > limiter.limit
  · rw [if_pos refused, if_neg (Nat.not_le.mpr refused)]
    rfl
  · rw [if_neg refused, if_pos (Nat.not_lt.mp refused)]
    rfl

/-! ### One step -/

/-- **Time passes.** -/
theorem RateLimit.Tracks.tick (tracks : limiter.Tracks s) (forward : s.now ≤ later) :
    limiter.Tracks (s.tick later) := by
  have holds := tracks.holds
  cases cell : s.cell with
  | none =>
    have next : s.tick later = { s with now := later } := by simp [Attempts.tick, cell, Cell.read]
    rw [cell] at holds
    rw [next]
    refine ⟨?_, tracks.counted, tracks.within, tracks.one, tracks.waits⟩
    show limiter.Holds s.log later s.cell
    rw [cell]
    intro start hit
    obtain ⟨time, set, due⟩ := holds start hit
    exact ⟨time, set, le_trans due forward⟩
  | some kept =>
    rw [cell] at holds
    obtain ⟨positive, lifetime, lasts⟩ := holds
    by_cases alive : kept.alive later = true
    · have next : s.tick later = { s with now := later } := by
        simp [Attempts.tick, cell, Cell.read, alive]
      rw [next]
      refine ⟨?_, tracks.counted, tracks.within, tracks.one, tracks.waits⟩
      show limiter.Holds s.log later s.cell
      rw [cell]
      refine ⟨positive, lifetime, fun time set => ?_⟩
      rw [Lasting.alive, lifetime, set] at alive
      exact of_decide_eq_true alive
    · have next : s.tick later = { s with now := later, cell := none, log := .expired :: s.log } := by
        simp [Attempts.tick, cell, Cell.read, alive]
      cases set : lifetimeSet s.log with
      | none =>
        rw [Lasting.alive, lifetime, set] at alive
        exact absurd rfl alive
      | some time =>
        have nobody : s.waiting = [] := by
          by_contra waiting
          exact Option.some_ne_none time (set.symm.trans (tracks.waits waiting))
        rw [Lasting.alive, lifetime, set] at alive
        have due : time + limiter.windowSeconds ≤ later := by simpa using alive
        rw [next, nobody]
        exact ⟨fun _ _ => ⟨time, set, due⟩, Nat.le_refl 0, Nat.zero_le _, Nat.zero_le 1,
          fun waiting => absurd rfl waiting⟩

/-- **The first call of a count** waits, or is lost. -/
theorem RateLimit.Tracks.incr_first (tracks : limiter.Tracks s) (absent : s.cell = none) :
    limiter.Tracks (limiter.incr s call answered) := by
  obtain ⟨none_yet, nobody⟩ := tracks.idle absent
  have holds : ∀ cell : Cell Nat T, cell = some { value := 1, expires := none } →
      limiter.Holds (.counted s.now 1 :: s.log) s.now cell := by
    rintro cell rfl
    exact ⟨Nat.one_pos, rfl, fun time set => by cases set⟩
  unfold RateLimit.incr
  rw [incr_absent absent]
  cases answered with
  | false =>
    refine ⟨holds _ rfl, ?_, ?_, ?_, fun _ => rfl⟩
    · show admittedSinceExpiry s.log + s.waiting.length ≤ 1
      rw [none_yet, nobody]
      exact Nat.zero_le 1
    · exact tracks.within
    · exact tracks.one
  | true =>
    have length : admittedSinceExpiry s.log + (call :: s.waiting).length = 1 := by
      rw [none_yet, nobody]
      rfl
    refine ⟨holds _ rfl, Nat.le_of_eq length, Nat.le_trans (Nat.le_of_eq length) limiter.limit_pos, ?_,
      fun _ => rfl⟩
    show (call :: s.waiting).length ≤ 1
    rw [nobody]
    exact Nat.le_refl 1

/-- **A later one** is set against the limit. -/
theorem RateLimit.Tracks.incr_later (tracks : limiter.Tracks s) {kept : Lasting Nat T}
    (there : s.cell = some kept) : limiter.Tracks (limiter.incr s call answered) := by
  have holds := tracks.holds
  have counted := tracks.counted
  have within := tracks.within
  rw [there] at holds counted
  obtain ⟨positive, lifetime, lasts⟩ := holds
  have again : kept.value + 1 ≠ 1 := by omega
  have log_kept : lifetimeSet (.counted s.now (kept.value + 1) :: s.log) = lifetimeSet s.log :=
    if_neg again
  have counted : admittedSinceExpiry s.log + s.waiting.length ≤ kept.value := counted
  unfold RateLimit.incr
  rw [tracks.incr_kept there]
  cases answered with
  | false =>
    refine ⟨⟨Nat.succ_pos _, ?_, ?_⟩, Nat.le_succ_of_le counted, within, tracks.one, ?_⟩
    · exact log_kept ▸ lifetime
    · exact log_kept ▸ lasts
    · exact log_kept ▸ tracks.waits
  | true =>
    simp only [Bool.true_eq_false, if_false, if_neg again]
    refine ⟨⟨Nat.succ_pos _, ?_, ?_⟩, ?_, ?_, tracks.one, ?_⟩
    · exact log_kept ▸ lifetime
    · exact log_kept ▸ lasts
    · show admittedSinceExpiry _ + s.waiting.length ≤ kept.value + 1
      rw [admitted_returned]
      show admittedSinceExpiry s.log + _ + _ ≤ _
      split <;> omega
    · show admittedSinceExpiry _ + s.waiting.length ≤ limiter.limit
      rw [admitted_returned]
      show admittedSinceExpiry s.log + _ + _ ≤ _
      split <;> omega
    · exact log_kept ▸ tracks.waits

/-- **A call fails or dies** before its `EXPIRE`. -/
theorem RateLimit.Tracks.cutOff (tracks : limiter.Tracks s) :
    limiter.Tracks { s with waiting := s.waiting.erase call } := by
  have fewer : (s.waiting.erase call).length ≤ s.waiting.length := List.erase_sublist.length_le
  refine ⟨tracks.holds, ?_, ?_, fewer.trans tracks.one, ?_⟩
  · exact (Nat.add_le_add_left fewer _).trans tracks.counted
  · exact (Nat.add_le_add_left fewer _).trans tracks.within
  · intro waiting
    refine tracks.waits fun nobody => waiting ?_
    show s.waiting.erase call = []
    rw [nobody]
    rfl

/-- **What a call would be told**, and what the limiter promises of it. -/
theorem judgedAfresh_iff (tracks : limiter.Tracks s) (event : AttemptStep T) :
    JudgedAfresh limiter s event ↔ Covered limiter s event := by
  cases event with
  | tick _ | expire _ _ | cutOff _ => exact Iff.rfl
  | incr call answered =>
    have holds := tracks.holds
    cases cell : s.cell with
    | none =>
      rw [cell] at holds
      have fresh : s.count = 1 := congrArg Prod.fst (incr_absent cell)
      have admits : limiter.check s.count = .ok () := by
        rw [fresh]
        exact if_neg (Nat.not_lt.mpr limiter.limit_pos)
      exact ⟨fun _ _ start hit _ => holds start hit, fun _ _ _ _ _ => ⟨fresh, admits⟩⟩
    | some kept =>
      rw [cell] at holds
      obtain ⟨positive, -, lasts⟩ := holds
      have told : s.count = kept.value + 1 := congrArg Prod.fst (tracks.incr_kept cell)
      constructor
      · intro judged idle start hit overdue
        have fresh := (judged idle start hit overdue).1
        omega
      · intro covered idle start hit overdue
        obtain ⟨time, set, due⟩ := covered idle start hit overdue
        exact absurd due (not_le.mpr (lasts time set))

variable [IsOrderedAddMonoid T]

/-- **The call that was told 1** gives the key its lifetime. -/
theorem RateLimit.Tracks.expire (tracks : limiter.Tracks s) (waits : call ∈ s.waiting) :
    limiter.Tracks (limiter.expire s call answered) := by
  have holds := tracks.holds
  have counted := tracks.counted
  have within := tracks.within
  have alone : s.waiting.length = 1 :=
    Nat.le_antisymm tracks.one (List.length_pos_of_mem waits)
  have left : s.waiting.erase call = [] := by
    rw [← List.length_eq_zero_iff, List.length_erase_of_mem waits, alone]
  cases cell : s.cell with
  | none => exact absurd waits (by rw [(tracks.idle cell).2]; exact List.not_mem_nil)
  | some kept =>
    rw [cell] at holds counted
    obtain ⟨positive, -, -⟩ := holds
    have counted : admittedSinceExpiry s.log + s.waiting.length ≤ kept.value := counted
    have given : s.cell.expireAt s.now (s.now + limiter.windowSeconds) =
        some { kept with expires := some (s.now + limiter.windowSeconds) } := by
      unfold Cell.expireAt
      rw [tracks.read, cell]
      rfl
    unfold RateLimit.expire
    rw [given, left]
    have later : s.now < s.now + limiter.windowSeconds := lt_add_of_pos_right _ limiter.window_pos
    have lasts : ∀ time, some s.now = some time → s.now < time + limiter.windowSeconds := by
      intro time same
      cases same
      exact later
    cases answered with
    | false =>
      refine ⟨⟨positive, rfl, lasts⟩, ?_, ?_, Nat.zero_le 1, fun waiting => absurd rfl waiting⟩
      · show admittedSinceExpiry s.log + 0 ≤ kept.value
        omega
      · show admittedSinceExpiry s.log + 0 ≤ limiter.limit
        omega
    | true =>
      have one_more : admittedSinceExpiry (.returned (limiter.check 1) :: .expiring s.now :: s.log) =
          admittedSinceExpiry s.log + 1 := by
        rw [admitted_returned, if_pos limiter.limit_pos]
        rfl
      refine ⟨⟨positive, rfl, lasts⟩, ?_, ?_, Nat.zero_le 1, fun waiting => absurd rfl waiting⟩
      · show admittedSinceExpiry (.returned (limiter.check 1) :: .expiring s.now :: s.log) + 0 ≤ kept.value
        omega
      · show admittedSinceExpiry (.returned (limiter.check 1) :: .expiring s.now :: s.log) + 0 ≤ _
        omega

/-- **Every step keeps the invariant.** -/
theorem tracks_attempt (tracks : limiter.Tracks s) (event : AttemptStep T) :
    limiter.Tracks (limiter.step s event) := by
  cases event with
  | tick later =>
    by_cases forward : s.now ≤ later
    · rw [RateLimit.step, if_pos forward]
      exact tracks.tick forward
    · rw [RateLimit.step, if_neg forward]
      exact tracks
  | incr call answered =>
    by_cases waits : call ∈ s.waiting
    · rw [RateLimit.step, if_pos waits]
      exact tracks
    · rw [RateLimit.step, if_neg waits]
      cases cell : s.cell with
      | none => exact tracks.incr_first cell
      | some kept => exact tracks.incr_later cell
  | expire call answered =>
    by_cases waits : call ∈ s.waiting
    · rw [RateLimit.step, if_pos waits]
      exact tracks.expire waits
    · rw [RateLimit.step, if_neg waits]
      exact tracks
  | cutOff call => exact tracks.cutOff

/-! ### Runs -/

/-- **When a count ends.** The limit holds in every run; a call more than a window after the first of the
count is judged afresh exactly when the `EXPIRE` of that count is at least a window ago. -/
theorem rateLimit_iff (limiter : RateLimit T) (start : T) (steps : List (AttemptStep T)) :
    Always limiter.step (AtMostLimit limiter) { now := start } steps ∧
      (Throughout limiter.step (JudgedAfresh limiter) { now := start } steps ↔
        Throughout limiter.step (Covered limiter) { now := start } steps) := by
  constructor
  · have tracked : Always limiter.step limiter.Tracks { now := start } steps :=
      always_of_step (fun _ event tracks => tracks_attempt tracks event) (tracks_attempts_start start)
    exact tracked.mono fun s tracks => (Nat.le_add_right _ _).trans tracks.within
  · exact throughout_congr (P := limiter.Tracks) (fun _ event tracks => tracks_attempt tracks event)
      (fun _ event tracks => judgedAfresh_iff tracks event) (tracks_attempts_start start)

/-- One call a minute. -/
def oneAMinute : RateLimit Int where
  limit := 1
  windowSeconds := 60
  limit_pos := Nat.one_pos
  window_pos := by decide

/-- A call dies between `INCR` and `EXPIRE`; a thousand seconds later there is another. -/
def firstCallDies : List (AttemptStep Int) :=
  [.incr 0 true, .cutOff 0, .tick 1000, .incr 1 true]

theorem rateLimit_iff_firstCallDies :
    Always oneAMinute.step (AtMostLimit oneAMinute) { now := 0 } firstCallDies ∧
      (Throughout oneAMinute.step (JudgedAfresh oneAMinute) { now := 0 } firstCallDies ↔
        Throughout oneAMinute.step (Covered oneAMinute) { now := 0 } firstCallDies) :=
  rateLimit_iff oneAMinute 0 firstCallDies

/-- **It is told 2**, and refused. -/
theorem firstCallDies_blocks : ¬ ∀ (limiter : RateLimit Int) (start : Int)
    (steps : List (AttemptStep Int)),
    Always limiter.step (AtMostLimit limiter) { now := start } steps ∧
      Throughout limiter.step (JudgedAfresh limiter) { now := start } steps := by
  intro always
  obtain ⟨_, _, _, last, _⟩ := (always oneAMinute 0 firstCallDies).2
  obtain ⟨fresh, -⟩ := last (by decide) 0 rfl (by decide)
  exact absurd fresh (by decide)

/-! ### What such a call leaves -/

/-- The limit is reached, the key has no lifetime, and nobody is left who would give it one. -/
structure Blocked (limiter : RateLimit T) (s : Attempts T) : Prop where
  reached : ∃ kept, s.cell = some kept ∧ kept.expires = none ∧ limiter.limit ≤ kept.value
  nobody : s.waiting = []

/-- Every call is told more than the limit. -/
def Refuses (limiter : RateLimit T) (s : Attempts T) : AttemptStep T → Prop
  | .incr _ _ => limiter.check s.count =
      .error (.app (tooManyRequestsException "Too many attempts. Please try again later."))
  | _ => True

omit [IsOrderedAddMonoid T]

/-- **How it comes about**: the call that was told 1 is gone without its `EXPIRE`, and the limit is used
up. -/
theorem RateLimit.Tracks.blocked (tracks : limiter.Tracks s) (lost : lifetimeSet s.log = none)
    (nobody : s.waiting = []) (reached : limiter.limit ≤ stored s.cell) : Blocked limiter s := by
  have holds := tracks.holds
  cases cell : s.cell with
  | none =>
    rw [cell] at reached
    exact absurd limiter.limit_pos (Nat.not_le.mpr (Nat.lt_one_iff.mpr (Nat.le_zero.mp reached)))
  | some kept =>
    rw [cell] at holds reached
    obtain ⟨-, lifetime, -⟩ := holds
    rw [lost] at lifetime
    exact ⟨⟨kept, cell, lifetime, reached⟩, nobody⟩

theorem Blocked.incr_cell (blocked : Blocked limiter s) : ∃ value, limiter.limit ≤ value ∧
    s.cell.incr s.now = (value + 1, some { value := value + 1, expires := none }) := by
  obtain ⟨⟨⟨value, lifetime⟩, there, rfl, reached⟩, -⟩ := blocked
  refine ⟨value, reached, ?_⟩
  rw [there]
  rfl

theorem Blocked.refuses (blocked : Blocked limiter s) (event : AttemptStep T) :
    Refuses limiter s event := by
  cases event with
  | tick _ | expire _ _ | cutOff _ => exact trivial
  | incr call answered =>
    obtain ⟨value, reached, told⟩ := blocked.incr_cell
    have count : s.count = value + 1 := congrArg Prod.fst told
    show limiter.check s.count = _
    rw [count]
    exact if_pos (Nat.lt_succ_of_le reached)

theorem Blocked.step (blocked : Blocked limiter s) (event : AttemptStep T) :
    Blocked limiter (limiter.step s event) := by
  have nobody := blocked.nobody
  have none_waits : ∀ call, call ∉ s.waiting := fun call => by rw [nobody]; exact List.not_mem_nil
  cases event with
  | tick later =>
    by_cases forward : s.now ≤ later
    · rw [RateLimit.step, if_pos forward]
      obtain ⟨⟨kept, there, lifetime, reached⟩, -⟩ := blocked
      refine ⟨⟨kept, ?_, lifetime, reached⟩, nobody⟩
      show s.cell.read later = some kept
      rw [there]
      exact Option.filter_some_pos (by rw [Lasting.alive, lifetime]; rfl)
    · rw [RateLimit.step, if_neg forward]
      exact blocked
  | incr call answered =>
    rw [RateLimit.step, if_neg (none_waits call)]
    obtain ⟨value, reached, told⟩ := blocked.incr_cell
    have again : value + 1 ≠ 1 := by
      have := limiter.limit_pos
      omega
    unfold RateLimit.incr
    rw [told]
    have reached : limiter.limit ≤ value + 1 := Nat.le_succ_of_le reached
    cases answered with
    | false => exact ⟨⟨_, rfl, rfl, reached⟩, nobody⟩
    | true =>
      simp only [Bool.true_eq_false, if_false, if_neg again]
      exact ⟨⟨_, rfl, rfl, reached⟩, nobody⟩
  | expire call answered =>
    rw [RateLimit.step, if_neg (none_waits call)]
    exact blocked
  | cutOff call =>
    refine ⟨blocked.reached, ?_⟩
    show s.waiting.erase call = []
    rw [nobody]
    rfl

/-- **For ever.** -/
theorem Blocked.run (blocked : Blocked limiter s) (steps : List (AttemptStep T)) :
    Throughout limiter.step (Refuses limiter) s steps :=
  throughout_of_step (P := Blocked limiter) (fun _ event still => still.step event)
    (fun _ event still => still.refuses event) blocked

/-! ### A call that nothing interrupts -/

/-- **The two steps** are `enforce_rate_limit`. -/
theorem enforceRateLimit_alone (fresh : call ∉ s.waiting) :
    let next := run limiter.step s [.incr call true, .expire call true]
    next.cell = (enforceRateLimit limiter s.cell s.now).2 ∧
      next.log.head? = some (.returned (enforceRateLimit limiter s.cell s.now).1) := by
  intro next
  have ends : next = limiter.step (limiter.incr s call true) (.expire call true) := by
    show limiter.step (limiter.step s (.incr call true)) (.expire call true) = _
    rw [RateLimit.step, if_neg fresh]
  obtain ⟨⟨count, cell⟩, told⟩ : ∃ answer, s.cell.incr s.now = answer := ⟨_, rfl⟩
  rw [ends]
  by_cases one : count = 1
  · subst one
    have waits : limiter.incr s call true =
        { s with
          cell := cell
          waiting := call :: s.waiting
          log := .counted s.now 1 :: s.log } := by
      simp [RateLimit.incr, told]
    rw [waits, RateLimit.step, if_pos List.mem_cons_self]
    simp [RateLimit.expire, enforceRateLimit, told]
  · have judged : limiter.incr s call true =
        { s with
          cell := cell
          log := .returned (limiter.check count) :: .counted s.now count :: s.log } := by
      simp [RateLimit.incr, told, one]
    rw [judged, RateLimit.step, if_neg fresh]
    simp [enforceRateLimit, told, one]

end FoodDelivery.Shared
