/-
**A settlement that dies on the way, and is retried.**

An `Attempt` at an event is a run of `handle_event` that dies after a number of its actions: the
dedupe marker, the lookup, the commit of the row, the commit of the payment event. The marker is set
before anything is committed, the row is committed before the event, and the row's new reference
hides it from the retry.

* `attempts_settle`: what any number of attempts leave, in closed form. The row is written exactly
  when some attempt that got past the dedupe reached its first commit (`Writes`); the event is
  recorded exactly when some such attempt reached its second, and found the row (`Records`);
* `confirmations_record`: the calls of `confirm_card_payment` carry no marker and find the row by its
  order, so one call that awaits the payment and runs to its second commit is enough;
* `settlement_survives_iff` puts both together.
-/

import FoodDelivery.Lib.Histories
import FoodDelivery.Payments.Runs
import Mathlib.Data.List.Induction

set_option autoImplicit false

namespace FoodDelivery.Payments

open FoodDelivery.Lib

/-! ### Attempts at an event -/

/-- A delivery of the event: whether there is a Redis, and after how many actions it dies. -/
structure Attempt where
  redis : Bool
  actions : Nat
deriving DecidableEq, Repr

variable (event : StripeEvent)

/-- Whether the attempt asks Redis if the event has been seen. -/
def Attempt.gated (attempt : Attempt) : Bool := (event.dedupeId attempt.redis).isSome

/-- The commits of the attempt, when it gets past the dedupe and finds its row. -/
def Attempt.commits (attempt : Attempt) : Nat :=
  attempt.actions - if attempt.gated event then 2 else 1

/-- The attempt gets past the dedupe: no earlier one has set the marker. -/
def Passes (before : List Attempt) (attempt : Attempt) : Prop :=
  attempt.gated event = true → ∀ earlier ∈ before, earlier.gated event = true →
    earlier.actions = 0

/-- Some attempt that got past the dedupe reached its first commit. -/
def Writes : List Attempt → Prop :=
  Somewhere fun before attempt => Passes event before attempt ∧ 1 ≤ attempt.commits event

/-- Some attempt that got past the dedupe reached its second commit, and the reference it looked the
row up by was still there. -/
def Records : List Attempt → Prop :=
  Somewhere fun before attempt => Passes event before attempt ∧ 2 ≤ attempt.commits event ∧
    (event.refAfter event.ref = event.ref ∨ ¬ Writes event before)

/-- What an attempt leaves. -/
def World.attempt (w : World) (attempt : Attempt) : World :=
  (handleEvent attempt.redis event).cut attempt.actions w

def World.attempts (w : World) (attempts : List Attempt) : World :=
  attempts.foldl (World.attempt event) w

variable {event} {w : World} {payment : Payment} {orderId : Nat}

/-! ### One attempt -/

/-- The part of the handler behind the dedupe, when it dies after `n` actions. -/
theorem cut_applyEvent (settling : event.type ∈ settles) (paid : event.awaiting = false) (n : Nat)
    (w : World) : (applyEvent event).cut n w =
      match w.paymentByRef event.ref with
      | none => w
      | some payment =>
        if n ≤ 1 then w
        else if n = 2 then w.put (payment.settledBy event)
        else (w.put (payment.settledBy event)).record (succeededEvent payment) := by
  have known : ¬ event.type ∉ settles ++ fails := not_not.mpr (List.mem_append_left _ settling)
  have other := not_fails_of_settles settling
  have waits : ¬ event.awaiting = true := by
    rw [paid]
    exact Bool.false_ne_true
  unfold applyEvent
  rw [if_neg known]
  simp only [if_neg other, if_neg waits]
  cases found : w.paymentByRef event.ref with
  | none =>
    rcases n with _ | n
    · rfl
    · show Program.cut n (match w.paymentByRef event.ref with | none => _ | some payment => _) w = w
      rw [found]
      cases n <;> rfl
  | some payment =>
    have current : w.payment payment.orderId = some payment := (Table.find?_of_first? found).1
    rcases n with _ | n
    · rfl
    · show Program.cut n (match w.paymentByRef event.ref with | none => _ | some payment => _) w = _
      rw [found]
      rcases n with _ | _ | n
      · rfl
      · exact World.update_of_current current
      · dsimp only
        rw [if_neg (by omega), if_neg (by omega)]
        show Program.cut n _ ((w.update payment (payment.settledBy event)).record _) = _
        unfold Payment.settledBy
        rw [World.update_of_current current]
        cases n <;> rfl

/-- An attempt that does not get past the dedupe, or dies on it, changes nothing. -/
theorem attempt_of_seen {attempt : Attempt} {eventId : String}
    (gated : event.dedupeId attempt.redis = some eventId) (seen : seenKey eventId ∈ w.seen) :
    w.attempt event attempt = w := by
  unfold World.attempt handleEvent
  rw [gated]
  rcases attempt.actions with _ | n
  · rfl
  · show Program.cut n (if decide (seenKey eventId ∉ w.seen) = true then _ else _)
      (if seenKey eventId ∈ w.seen then w else _) = w
    rw [if_pos seen, if_neg (by simpa using seen)]
    cases n <;> rfl

/-- An attempt that sets the marker goes on with one action less. -/
theorem attempt_of_unseen {attempt : Attempt} {eventId : String}
    (gated : event.dedupeId attempt.redis = some eventId) (unseen : seenKey eventId ∉ w.seen)
    {n : Nat} (some_action : attempt.actions = n + 1) :
    w.attempt event attempt =
      (applyEvent event).cut n { w with seen := w.seen ++ [seenKey eventId] } := by
  unfold World.attempt handleEvent
  rw [gated, some_action]
  show Program.cut n (if decide (seenKey eventId ∉ w.seen) = true then _ else _)
    (if seenKey eventId ∈ w.seen then w else _) = _
  rw [if_neg unseen, if_pos (by simpa using unseen)]

/-- An attempt without a marker. -/
theorem attempt_of_ungated {attempt : Attempt} (ungated : event.dedupeId attempt.redis = none) :
    w.attempt event attempt = (applyEvent event).cut attempt.actions w := by
  unfold World.attempt handleEvent
  rw [ungated]

/-! ### Any number of attempts -/

/-- How far the attempts have come: what the row is, whether its reference still finds it, and what
has been announced. -/
structure Progress (event : StripeEvent) (payment : Payment) (start w : World)
    (attempts : List Attempt) : Prop where
  before : ¬ Writes event attempts →
    w.payment payment.orderId = some payment ∧ w.paymentByRef event.ref = some payment
  after : Writes event attempts → w.payment payment.orderId = some (payment.settledBy event) ∧
    (event.refAfter event.ref = event.ref →
      w.paymentByRef event.ref = some (payment.settledBy event))
  announced : w.Announced payment.orderId ↔
    start.Announced payment.orderId ∨ Records event attempts

variable {start next : World} {attempts : List Attempt} {attempt : Attempt}

theorem Progress.congr (progress : Progress event payment start w attempts)
    (payments : next.payments = w.payments) (outbox : next.outbox = w.outbox) :
    Progress event payment start next attempts := by
  have row : next.payment payment.orderId = w.payment payment.orderId := by
    unfold World.payment
    rw [payments]
  have byRef : next.paymentByRef event.ref = w.paymentByRef event.ref := by
    unfold World.paymentByRef
    rw [payments]
  have announced : next.Announced payment.orderId ↔ w.Announced payment.orderId := by
    unfold World.Announced World.eventsOf
    rw [outbox]
  exact ⟨by rw [row, byRef]; exact progress.before, by rw [row, byRef]; exact progress.after,
    announced.trans progress.announced⟩

theorem writes_append : Writes event (attempts ++ [attempt]) ↔
    Writes event attempts ∨ (Passes event attempts attempt ∧ 1 ≤ attempt.commits event) :=
  somewhere_append_singleton

theorem records_append : Records event (attempts ++ [attempt]) ↔
    Records event attempts ∨ (Passes event attempts attempt ∧ 2 ≤ attempt.commits event ∧
      (event.refAfter event.ref = event.ref ∨ ¬ Writes event attempts)) :=
  somewhere_append_singleton

/-- An attempt that is turned away, or dies before its first commit. -/
theorem Progress.idle (progress : Progress event payment start w attempts)
    (idle : Passes event attempts attempt → attempt.commits event = 0) :
    Progress event payment start w (attempts ++ [attempt]) := by
  have writes : Writes event (attempts ++ [attempt]) ↔ Writes event attempts := by
    rw [writes_append]
    refine or_iff_left ?_
    rintro ⟨passes, commits⟩
    rw [idle passes] at commits
    omega
  have records : Records event (attempts ++ [attempt]) ↔ Records event attempts := by
    rw [records_append]
    refine or_iff_left ?_
    rintro ⟨passes, commits, _⟩
    rw [idle passes] at commits
    omega
  exact ⟨fun none_yet => progress.before fun some_write => none_yet (writes.mpr some_write),
    fun some_write => progress.after (writes.mp some_write),
    progress.announced.trans (or_congr_right records.symm)⟩

theorem announced_record (recorded : PaymentEvent) (own : recorded.orderId = orderId)
    (succeeded : recorded.paymentStatus = .succeeded) : (w.record recorded).Announced orderId := by
  refine ⟨recorded, ?_, succeeded⟩
  rw [World.eventsOf_record, if_pos own]
  exact List.mem_append_right _ (List.mem_singleton.mpr rfl)

/-- A row that the reference finds is written, and announced with the second commit. -/
theorem Progress.write {row : Payment} (progress : Progress event payment start w attempts)
    (settling : event.type ∈ settles) (paid : event.awaiting = false)
    (lookup : w.paymentByRef event.ref = some row) (own : row.orderId = payment.orderId)
    (settled : row.settledBy event = payment.settledBy event)
    (found : event.refAfter event.ref = event.ref ∨ ¬ Writes event attempts)
    (passes : Passes event attempts attempt) {n : Nat} (behind : attempt.commits event = n - 1)
    (commits : 1 ≤ attempt.commits event) :
    Progress event payment start ((applyEvent event).cut n w) (attempts ++ [attempt]) := by
  have writes : Writes event (attempts ++ [attempt]) := writes_append.mpr (Or.inr ⟨passes, commits⟩)
  have ref : row.providerRef = event.ref := by
    simpa using (Table.find?_of_first? lookup).2
  have key : (payment.settledBy event).orderId = payment.orderId := rfl
  -- the written row, whichever commits follow
  have written : ∀ v : World, v.payments = (w.put (payment.settledBy event)).payments →
      v.payment payment.orderId = some (payment.settledBy event) ∧
        (event.refAfter event.ref = event.ref →
          v.paymentByRef event.ref = some (payment.settledBy event)) := by
    intro v same
    constructor
    · unfold World.payment
      rw [same]
      exact (World.payment_put w _ _).trans (if_pos key)
    · intro keeps
      unfold World.paymentByRef
      rw [same]
      refine Table.first?_put lookup (key.trans own.symm) (decide_eq_true ?_)
      rw [← settled]
      show event.refAfter row.providerRef = event.ref
      rw [ref, keeps]
  rw [cut_applyEvent settling paid, lookup]
  dsimp only
  rw [settled, if_neg (by omega)]
  by_cases once : n = 2
  · rw [if_pos once]
    refine ⟨fun none_yet => absurd writes none_yet, fun _ => written _ rfl, ?_⟩
    refine progress.announced.trans (or_congr_right ?_)
    rw [records_append]
    refine (or_iff_left ?_).symm
    rintro ⟨_, twice, _⟩
    omega
  · rw [if_neg once]
    refine ⟨fun none_yet => absurd writes none_yet, fun _ => written _ rfl, ?_⟩
    have announced := announced_record (w := w.put (payment.settledBy event)) (succeededEvent row)
      own rfl
    have records : Records event (attempts ++ [attempt]) :=
      records_append.mpr (Or.inr ⟨passes, by omega, found⟩)
    exact ⟨fun _ => Or.inr records, fun _ => announced⟩

/-- A row that the reference no longer finds is left alone. -/
theorem cut_elsewhere {row : Payment} (settling : event.type ∈ settles)
    (paid : event.awaiting = false) (found : w.payment orderId = some row)
    (hidden : row.providerRef ≠ event.ref) (n : Nat) :
    ((applyEvent event).cut n w).payment orderId = some row ∧
      ((applyEvent event).cut n w).eventsOf orderId = w.eventsOf orderId := by
  rw [cut_applyEvent settling paid]
  cases lookup : w.paymentByRef event.ref with
  | none => exact ⟨found, rfl⟩
  | some other =>
    have different : other.orderId ≠ orderId := by
      intro own
      obtain ⟨here, meets⟩ := Table.find?_of_first? lookup
      have same : some other = some row := by
        rw [← found, ← own]
        exact here.symm
      cases same
      exact hidden (by simpa using meets)
    have elsewhere : (other.settledBy event).orderId ≠ orderId := different
    dsimp only
    split
    · exact ⟨found, rfl⟩
    · split
      · exact ⟨by rw [World.payment_put, if_neg elsewhere, found], rfl⟩
      · refine ⟨by rw [World.payment_record, World.payment_put, if_neg elsewhere, found], ?_⟩
        rw [World.eventsOf_record, if_neg (show (succeededEvent other).orderId ≠ _ from different),
          List.append_nil, World.eventsOf_put]

/-- **An attempt that gets past the dedupe.** -/
theorem Progress.pass (progress : Progress event payment start w attempts)
    (settling : event.type ∈ settles) (paid : event.awaiting = false)
    (ref : payment.providerRef = event.ref) (passes : Passes event attempts attempt) {n : Nat}
    (behind : attempt.commits event = n - 1) :
    Progress event payment start ((applyEvent event).cut n w) (attempts ++ [attempt]) := by
  by_cases commits : 1 ≤ attempt.commits event
  · by_cases before : Writes event attempts
    · obtain ⟨row, byRef⟩ := progress.after before
      by_cases keeps : event.refAfter event.ref = event.ref
      · have again : (payment.settledBy event).settledBy event = payment.settledBy event := by
          unfold Payment.settledBy
          dsimp only
          rw [ref, keeps, keeps]
        exact progress.write settling paid (byRef keeps) rfl again (Or.inl keeps) passes behind
          commits
      · have hidden : (payment.settledBy event).providerRef ≠ event.ref := by
          show event.refAfter payment.providerRef ≠ event.ref
          rw [ref]
          exact keeps
        obtain ⟨still, events⟩ := cut_elsewhere settling paid row hidden n
        have writes : Writes event (attempts ++ [attempt]) := writes_append.mpr (Or.inl before)
        refine ⟨fun none_yet => absurd writes none_yet,
          fun _ => ⟨still, fun unchanged => absurd unchanged keeps⟩, ?_⟩
        have announced : ((applyEvent event).cut n w).Announced payment.orderId ↔
            w.Announced payment.orderId := by
          unfold World.Announced
          rw [events]
        refine announced.trans (progress.announced.trans (or_congr_right ?_))
        rw [records_append]
        refine (or_iff_left ?_).symm
        rintro ⟨_, _, unchanged | none_yet⟩
        · exact keeps unchanged
        · exact none_yet before
    · obtain ⟨row, byRef⟩ := progress.before before
      exact progress.write settling paid byRef rfl rfl (Or.inr before) passes behind commits
  · have none_reached : attempt.commits event = 0 := by omega
    have unchanged : (applyEvent event).cut n w = w := by
      have early : n ≤ 1 := by omega
      rw [cut_applyEvent settling paid]
      cases w.paymentByRef event.ref with
      | none => rfl
      | some other => exact if_pos early
    rw [unchanged]
    exact progress.idle fun _ => none_reached

/-- The marker is there when some attempt has asked for it. -/
def Marked (event : StripeEvent) (w : World) (attempts : List Attempt) : Prop :=
  ∀ eventId, event.dedupeId true = some eventId → (seenKey eventId ∈ w.seen ↔
    ∃ attempt ∈ attempts, attempt.gated event = true ∧ attempt.actions ≠ 0)

theorem seen_of_cut (settling : event.type ∈ settles) (paid : event.awaiting = false) (n : Nat)
    (w : World) : ((applyEvent event).cut n w).seen = w.seen := by
  rw [cut_applyEvent settling paid]
  cases w.paymentByRef event.ref with
  | none => rfl
  | some other =>
    dsimp only
    split
    · rfl
    · split
      · rfl
      · rfl

/-- An attempt at the gate has the event's one id. -/
theorem dedupeId_true {redis : Bool} {eventId : String}
    (gated : event.dedupeId redis = some eventId) : event.dedupeId true = some eventId := by
  cases redis with
  | true => exact gated
  | false => cases gated

/-- One more attempt that set no marker. -/
theorem marked_same (marked : Marked event w attempts) (seen : next.seen = w.seen)
    (silent : ¬ (attempt.gated event = true ∧ attempt.actions ≠ 0)) :
    Marked event next (attempts ++ [attempt]) := by
  intro eventId own
  rw [seen, marked eventId own]
  constructor
  · rintro ⟨earlier, member, gated, acted⟩
    exact ⟨earlier, List.mem_append_left _ member, gated, acted⟩
  · rintro ⟨earlier, member, gated, acted⟩
    rcases List.mem_append.mp member with before | last
    · exact ⟨earlier, before, gated, acted⟩
    · rw [List.mem_singleton.mp last] at gated acted
      exact absurd ⟨gated, acted⟩ silent

/-- **One more attempt.** -/
theorem progress_attempt (settling : event.type ∈ settles) (paid : event.awaiting = false)
    (ref : payment.providerRef = event.ref) (progress : Progress event payment start w attempts)
    (marked : Marked event w attempts) (attempt : Attempt) :
    Progress event payment start (w.attempt event attempt) (attempts ++ [attempt]) ∧
      Marked event (w.attempt event attempt) (attempts ++ [attempt]) := by
  cases gate : event.dedupeId attempt.redis with
  | none =>
    have ungated : attempt.gated event = false := by
      unfold Attempt.gated
      rw [gate]
      rfl
    rw [attempt_of_ungated gate]
    constructor
    · refine progress.pass settling paid ref (fun gated => ?_) ?_
      · rw [ungated] at gated
        cases gated
      · unfold Attempt.commits
        rw [ungated, if_neg Bool.false_ne_true]
    · refine marked_same marked (seen_of_cut settling paid _ w) fun both => ?_
      rw [ungated] at both
      cases both.1
  | some eventId =>
    have own := dedupeId_true gate
    have gated : attempt.gated event = true := by
      unfold Attempt.gated
      rw [gate]
      rfl
    by_cases seen : seenKey eventId ∈ w.seen
    · rw [attempt_of_seen gate seen]
      obtain ⟨earlier, member, earlierGated, acted⟩ := (marked eventId own).mp seen
      constructor
      · exact progress.idle fun passes => absurd (passes gated earlier member earlierGated) acted
      · intro otherId same
        cases own.symm.trans same
        refine ⟨fun _ => ⟨earlier, List.mem_append_left _ member, earlierGated, acted⟩, fun _ => seen⟩
    · cases count : attempt.actions with
      | zero =>
        have unchanged : w.attempt event attempt = w := by
          unfold World.attempt
          rw [count]
          cases handleEvent attempt.redis event <;> rfl
        rw [unchanged]
        constructor
        · refine progress.idle fun _ => ?_
          unfold Attempt.commits
          omega
        · exact marked_same marked rfl fun both => both.2 count
      | succ n =>
        rw [attempt_of_unseen gate seen count]
        have passes : Passes event attempts attempt := by
          intro _ earlier member earlierGated
          by_contra acted
          exact seen ((marked eventId own).mpr ⟨earlier, member, earlierGated, acted⟩)
        have behind : Progress event payment start
            { w with seen := w.seen ++ [seenKey eventId] } attempts := progress.congr rfl rfl
        constructor
        · refine behind.pass settling paid ref passes ?_
          unfold Attempt.commits
          rw [gated, if_pos rfl, count]
          omega
        · intro otherId same
          cases own.symm.trans same
          rw [seen_of_cut settling paid]
          refine ⟨fun _ => ⟨attempt, ?_, gated, by omega⟩, fun _ => ?_⟩
          · exact List.mem_append_right _ (List.mem_singleton.mpr rfl)
          · exact List.mem_append_right _ (List.mem_singleton.mpr rfl)

/-- **Any number of attempts**, from a row that the event finds and a marker that is not set. -/
theorem progress_attempts (settling : event.type ∈ settles) (paid : event.awaiting = false)
    (found : start.paymentByRef event.ref = some payment) (fresh : event.unseen true start = true)
    (attempts : List Attempt) :
    Progress event payment start (start.attempts event attempts) attempts ∧
      Marked event (start.attempts event attempts) attempts := by
  have ref : payment.providerRef = event.ref := by
    simpa using (Table.find?_of_first? found).2
  induction attempts using List.reverseRecOn with
  | nil =>
    refine ⟨⟨fun _ => ⟨(Table.find?_of_first? found).1, found⟩, fun some_write => ?_, ?_⟩, ?_⟩
    · exact absurd some_write somewhere_nil
    · exact (or_iff_left somewhere_nil).symm
    · intro eventId own
      unfold StripeEvent.unseen at fresh
      rw [own] at fresh
      have unseen : seenKey eventId ∉ start.seen := by simpa using fresh
      exact ⟨fun seen => absurd seen unseen, fun ⟨_, member, _⟩ => by cases member⟩
  | append_singleton attempts attempt ih =>
    have unfolded : start.attempts event (attempts ++ [attempt]) =
        (start.attempts event attempts).attempt event attempt := List.foldl_concat ..
    rw [unfolded]
    exact progress_attempt settling paid ref ih.1 ih.2 attempt

/-- The handler takes four actions: the marker, the lookup and two commits. -/
theorem handleEvent_short (redis : Bool) (event : StripeEvent) :
    (handleEvent redis event).Short 4 := by
  have behind : (applyEvent event).Short 3 := by
    unfold applyEvent
    split
    · trivial
    · refine Program.Short.bind (n := 1) (m := 2) (Program.Short.read _) fun found => ?_
      cases found with
      | none => trivial
      | some payment =>
        dsimp only
        split
        · exact fun _ => trivial
        · split
          · exact fun _ => trivial
          · exact fun _ _ => trivial
  unfold handleEvent
  split
  · exact behind.mono (by omega)
  · refine Program.Short.bind (n := 1) (m := 3) (Program.Short.modify _ _) fun fresh => ?_
    cases fresh with
    | true => exact behind
    | false => trivial

/-- An attempt that does not fail is one that takes all its actions. -/
theorem attempt_of_exec (redis : Bool) (w : World) :
    ((handleEvent redis event).exec w).1 = w.attempt event ⟨redis, 4⟩ :=
  (Program.cut_of_short (handleEvent_short redis event) w).symm

/-- The payment is SUCCEEDED and a SUCCEEDED event has been recorded for its order. -/
def World.Settled (w : World) (orderId : Nat) : Prop :=
  (w.payment orderId).map Payment.status = some .succeeded ∧ w.Announced orderId

/-- **What the attempts leave**, the last of which did not fail. -/
theorem attempts_settle (settling : event.type ∈ settles) (paid : event.awaiting = false)
    (found : start.paymentByRef event.ref = some payment) (fresh : event.unseen true start = true)
    (attempts : List Attempt) (redis : Bool) :
    (((handleEvent redis event).exec (start.attempts event attempts)).1).Settled payment.orderId ↔
      (payment.status = .succeeded ∨ Writes event (attempts ++ [⟨redis, 4⟩])) ∧
        (start.Announced payment.orderId ∨ Records event (attempts ++ [⟨redis, 4⟩])) := by
  have last : start.attempts event (attempts ++ [⟨redis, 4⟩]) =
      (start.attempts event attempts).attempt event ⟨redis, 4⟩ := List.foldl_concat ..
  have progress := (progress_attempts settling paid found fresh (attempts ++ [⟨redis, 4⟩])).1
  rw [last] at progress
  rw [attempt_of_exec]
  refine and_congr ?_ progress.announced
  by_cases writes : Writes event (attempts ++ [⟨redis, 4⟩])
  · rw [(progress.after writes).1]
    exact ⟨fun _ => Or.inr writes, fun _ => rfl⟩
  · rw [(progress.before writes).1]
    constructor
    · exact fun same => Or.inl (Option.some.inj same)
    · rintro (same | some_write)
      · exact congrArg some same
      · exact absurd some_write writes

/-! ### Calls of the confirmation -/

/-- A call of `confirm_card_payment`: the snapshot it brings, and after how many actions it dies. -/
structure Confirmation where
  order : OrderSnapshot
  actions : Nat

variable (gateway : Gateway) (provider : Option PaymentProvider)

/-- What a call leaves. -/
def World.confirmation (w : World) (call : Confirmation) : World :=
  (confirmCardPayment gateway call.order provider).cut call.actions w

def World.confirmations (w : World) (calls : List Confirmation) : World :=
  calls.foldl (World.confirmation gateway provider) w

/-- The call awaits the payment and reaches its second commit. -/
def Confirmation.Completes (payment : Payment) (call : Confirmation) : Prop :=
  awaitsCard call.order payment = true ∧ 5 ≤ call.actions

/-- The provider reports the payment paid, whichever of some references it is asked for, and answers
with one of them. -/
def ReportsPaid (references : List (Option String)) : Prop :=
  ∀ reference ∈ references, ∃ result, verification gateway provider reference = .ok result ∧
    result.ok = true ∧ orElse result.reference reference ∈ references

variable {gateway provider} {order : OrderSnapshot} {row : Payment} {result : ProviderResult}

/-- A call that has nothing to wait for. -/
theorem cut_confirm_idle (found : w.payment order.orderId = some row)
    (idle : awaitsCard order row ≠ true) (n : Nat) :
    (confirmCardPayment gateway order provider).cut n w = w := by
  unfold awaitsCard at idle
  have done : row.provider ≠ .card ∨ order.status ≠ some .paymentPending := by
    by_contra both
    exact idle (by simpa [not_or] using both)
  unfold confirmCardPayment
  rcases n with _ | n
  · rfl
  · show Program.cut n (match w.payment order.orderId with | none => _ | some payment => _) w = w
    rw [found]
    dsimp only
    rw [if_pos done]
    cases n <;> rfl

/-- A call that awaits the payment, and is told that it was paid. -/
theorem cut_confirm (found : w.payment order.orderId = some row)
    (awaits : awaitsCard order row = true)
    (answered : verification gateway provider row.providerRef = .ok result)
    (paid : result.ok = true) (n : Nat) :
    (confirmCardPayment gateway order provider).cut n w =
      let called := w.call (.verify order.orderId row.providerRef (.ok result))
      let written := called.put { row with
        status := .succeeded
        providerRef := orElse result.reference row.providerRef }
      if n ≤ 1 then w else if n = 2 then called else if n ≤ 4 then written
      else written.record (succeededEvent row) := by
  have same := World.orderId_of_payment found
  have both : row.provider = .card ∧ order.status = some .paymentPending :=
    of_decide_eq_true awaits
  have not_done : ¬ (row.provider ≠ .card ∨ order.status ≠ some .paymentPending) := by
    tauto
  unfold verification at answered
  have unpaid : ¬ result.ok = false := by
    rw [paid]
    exact Bool.noConfusion
  unfold confirmCardPayment
  rcases n with _ | n
  · rfl
  · show Program.cut n (match w.payment order.orderId with | none => _ | some payment => _) w = _
    rw [found]
    dsimp only
    rw [if_neg not_done, answered]
    rcases n with _ | _ | n
    · rfl
    · rfl
    · have current : (w.call (.verify order.orderId row.providerRef (.ok result))).payment
          row.orderId = some row := same ▸ found
      rw [if_neg (by omega), if_neg (by omega)]
      show Program.cut (n + 1) (if result.ok = false then _ else _) _ = _
      rw [if_neg unpaid]
      show Program.cut n _ (World.update _ row _) = _
      rw [World.update_of_current current]
      rcases n with _ | _ | n
      · rfl
      · rfl
      · rw [if_neg (by omega)]
        show Program.cut n _ (World.record _ _) = _
        simp only [id, World.payment_put, if_true, Option.getD_some, ← same]
        cases n <;> rfl

/-- How far the calls have come: the row can still be confirmed, and what has been announced. -/
structure Confirmed (references : List (Option String)) (payment : Payment) (start w : World)
    (calls : List Confirmation) : Prop where
  row : ∃ row, w.payment payment.orderId = some row ∧ row.provider = payment.provider ∧
    row.providerRef ∈ references
  announced : w.Announced payment.orderId ↔
    start.Announced payment.orderId ∨ ∃ call ∈ calls, call.Completes payment

variable {references : List (Option String)} {calls : List Confirmation} {call : Confirmation}

theorem completes_append : (∃ earlier ∈ calls ++ [call], earlier.Completes payment) ↔
    (∃ earlier ∈ calls, earlier.Completes payment) ∨ call.Completes payment := by
  simp only [List.mem_append, List.mem_singleton, or_and_right, exists_or, exists_eq_left]

/-- **One more call.** -/
theorem confirmed_confirmation (confirmed : Confirmed references payment start w calls)
    (own : call.order.orderId = payment.orderId)
    (reports : ReportsPaid gateway provider references) :
    Confirmed references payment start (w.confirmation gateway provider call) (calls ++ [call]) := by
  obtain ⟨row, found, method, held⟩ := confirmed.row
  rw [← own] at found
  have same : awaitsCard call.order row = awaitsCard call.order payment := by
    unfold awaitsCard
    rw [method]
  have key : row.orderId = payment.orderId := (World.orderId_of_payment found).trans own
  -- a call that records nothing leaves the announcements as they were
  have unrecorded : ∀ next : World, next.eventsOf payment.orderId = w.eventsOf payment.orderId →
      ¬ call.Completes payment → (next.Announced payment.orderId ↔
        start.Announced payment.orderId ∨
          ∃ earlier ∈ calls ++ [call], earlier.Completes payment) := by
    intro next events incomplete
    rw [completes_append, or_iff_left incomplete]
    unfold World.Announced
    rw [events]
    exact confirmed.announced
  unfold World.confirmation
  by_cases awaits : awaitsCard call.order row = true
  · obtain ⟨result, answered, paid, next_held⟩ := reports row.providerRef held
    rw [cut_confirm found awaits answered paid]
    dsimp only
    split
    · refine ⟨⟨row, own ▸ found, method, held⟩, unrecorded w rfl ?_⟩
      rintro ⟨_, acted⟩
      omega
    · split
      · refine ⟨⟨row, own ▸ found, method, held⟩, unrecorded _ rfl ?_⟩
        rintro ⟨_, acted⟩
        omega
      · split
        · refine ⟨⟨_, (World.payment_put _ _ _).trans (if_pos key), method, next_held⟩,
            unrecorded _ rfl ?_⟩
          rintro ⟨_, acted⟩
          omega
        · refine ⟨⟨_, (World.payment_put _ _ _).trans (if_pos key), method, next_held⟩, ?_⟩
          have complete : call.Completes payment := ⟨same ▸ awaits, by omega⟩
          refine ⟨fun _ => Or.inr (completes_append.mpr (Or.inr complete)), fun _ => ?_⟩
          exact announced_record (succeededEvent row) key rfl
  · rw [cut_confirm_idle found awaits]
    refine ⟨⟨row, own ▸ found, method, held⟩, unrecorded w rfl ?_⟩
    rintro ⟨awaited, _⟩
    exact awaits (same ▸ awaited)

/-- The call takes five actions: the lookup, the question, a commit, the refresh and a commit. -/
theorem confirmCardPayment_short : (confirmCardPayment gateway order provider).Short 5 := by
  refine Program.Short.bind (n := 1) (m := 4) (Program.Short.read _) fun found => ?_
  cases found with
  | none => trivial
  | some payment =>
    dsimp only
    split
    · trivial
    · have asks : ∀ record outcome, (callProvider record outcome).Short 1 := by
        intro record outcome w
        cases outcome <;> trivial
      refine Program.Short.bind (n := 1) (m := 3) (asks _ _) fun result => ?_
      split
      · trivial
      · exact fun _ _ _ => trivial

/-- **What the calls leave**, the last of which did not fail. -/
theorem confirmations_record (found : start.payment payment.orderId = some payment)
    (held : payment.providerRef ∈ references) (reports : ReportsPaid gateway provider references)
    (own : ∀ call ∈ calls, call.order.orderId = payment.orderId)
    (ownLast : order.orderId = payment.orderId) :
    (((confirmCardPayment gateway order provider).exec
        (start.confirmations gateway provider calls)).1).Announced payment.orderId ↔
      start.Announced payment.orderId ∨ (∃ call ∈ calls, call.Completes payment) ∨
        awaitsCard order payment = true := by
  have soFar : Confirmed references payment start (start.confirmations gateway provider calls)
      calls := by
    induction calls using List.reverseRecOn with
    | nil => exact ⟨⟨payment, found, rfl, held⟩, by simp [World.confirmations]⟩
    | append_singleton calls call ih =>
      have unfolded : start.confirmations gateway provider (calls ++ [call]) =
          (start.confirmations gateway provider calls).confirmation gateway provider call :=
        List.foldl_concat ..
      rw [unfolded]
      have earlier := ih fun other member => own other (List.mem_append_left _ member)
      exact confirmed_confirmation earlier
        (own call (List.mem_append_right _ (List.mem_singleton.mpr rfl))) reports
  have last : Confirmed references payment start
      ((start.confirmations gateway provider calls).confirmation gateway provider ⟨order, 5⟩)
      (calls ++ [⟨order, 5⟩]) := confirmed_confirmation soFar ownLast reports
  unfold World.confirmation at last
  rw [Program.cut_of_short confirmCardPayment_short] at last
  refine last.announced.trans ?_
  rw [completes_append]
  unfold Confirmation.Completes
  simp

/-- **When a settlement survives its crashes.** The first part is about the attempts at a settling
event that finds its payment and has not been seen, the second about the calls of the confirmation of
an order that its provider reports paid; the last of each runs without failure. -/
theorem settlement_survives_iff (w : World) (payment : Payment) (event : StripeEvent)
    (attempts : List Attempt) (redis : Bool) (gateway : Gateway) (provider : Option PaymentProvider)
    (references : List (Option String)) (calls : List Confirmation) (order : OrderSnapshot) :
    (event.type ∈ settles → event.awaiting = false →
      w.paymentByRef event.ref = some payment → event.unseen true w = true →
      ((((handleEvent redis event).exec (w.attempts event attempts)).1).Settled payment.orderId ↔
        (payment.status = .succeeded ∨ Writes event (attempts ++ [⟨redis, 4⟩])) ∧
          (w.Announced payment.orderId ∨ Records event (attempts ++ [⟨redis, 4⟩])))) ∧
    (w.payment payment.orderId = some payment → payment.providerRef ∈ references →
      ReportsPaid gateway provider references →
      (∀ call ∈ calls, call.order.orderId = payment.orderId) → order.orderId = payment.orderId →
      ((((confirmCardPayment gateway order provider).exec
          (w.confirmations gateway provider calls)).1).Announced payment.orderId ↔
        w.Announced payment.orderId ∨ (∃ call ∈ calls, call.Completes payment) ∨
          awaitsCard order payment = true)) := by
  constructor
  · intro settling paid found fresh
    exact attempts_settle settling paid found fresh attempts redis
  · intro found held reports own ownLast
    exact confirmations_record found held reports own ownLast

/-- A card payment that waits on Stripe's page. -/
def openPayment : Payment where
  orderId := 1
  provider := .card
  amount := 20000
  status := .authorized
  providerRef := some "cs_1"
  idempotencyKey := some "order-1"

/-- Its session is paid. -/
def completedEvent : StripeEvent where
  id := some "evt_1"
  type := .checkoutCompleted
  ref := some "cs_1"
  paymentIntent := some "pi_1"
  paymentStatus := some .paid

theorem settlement_survives_iff_openPayment :
    (((handleEvent true completedEvent).exec
        ((World.empty.put openPayment).attempts completedEvent [⟨true, 0⟩])).1).Settled 1 ∧
      (((confirmCardPayment standIn cardOrder none).exec
        ((World.empty.put openPayment).confirmations standIn none [⟨cardOrder, 3⟩])).1).Announced 1 := by
  constructor
  · refine ((settlement_survives_iff (World.empty.put openPayment) openPayment completedEvent
      [⟨true, 0⟩] true standIn none [some "cs_1"] [⟨cardOrder, 3⟩] cardOrder).1 (by decide)
      (by decide) (by decide) (by decide)).mpr ⟨Or.inr ?_, Or.inr ?_⟩
    · exact ⟨[⟨true, 0⟩], ⟨true, 4⟩, [], rfl, by unfold Passes; decide, by decide⟩
    · refine ⟨[⟨true, 0⟩], ⟨true, 4⟩, [], rfl, by unfold Passes; decide, by decide, Or.inr ?_⟩
      rintro ⟨before, attempt, after, split, _, commits⟩
      cases before with
      | nil =>
        cases split
        exact absurd commits (by decide)
      | cons first before => cases before <;> cases split
  · refine ((settlement_survives_iff (World.empty.put openPayment) openPayment completedEvent
      [⟨true, 0⟩] true standIn none [some "cs_1"] [⟨cardOrder, 3⟩] cardOrder).2 (by decide)
      (by decide) ?_ (by decide) (by decide)).mpr (Or.inr (Or.inr (by decide)))
    intro reference member
    rw [List.mem_singleton.mp member]
    exact ⟨_, rfl, rfl, by decide⟩

/-- **A paid session that is never settled.** The first delivery dies once the marker is set, and the
retry is taken for a duplicate. -/
theorem crashedDelivery_unsettled : ¬ ∀ (w : World) (event : StripeEvent) (payment : Payment)
    (attempts : List Attempt) (redis : Bool), event.type ∈ settles → event.awaiting = false →
    w.paymentByRef event.ref = some payment → event.unseen true w = true →
    (((handleEvent redis event).exec (w.attempts event attempts)).1).Settled payment.orderId := by
  intro settled
  have last := (settled (World.empty.put openPayment) completedEvent openPayment [⟨true, 1⟩] true
    (by decide) (by decide) (by decide) (by decide)).1
  have status : ((((handleEvent true completedEvent).exec
      ((World.empty.put openPayment).attempts completedEvent [⟨true, 1⟩])).1).payment 1).map
      Payment.status = some .authorized := by decide
  cases status.symm.trans last

end FoodDelivery.Payments
