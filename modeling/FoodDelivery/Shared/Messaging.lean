/-
**The Kafka poll loop of `EventConsumer`** (`shared/messaging.py`, `_run_kafka`).

A message is acknowledged by itself, when its handler returns; `commit()` commits the position of every
assigned partition, past whatever was handed out before.

`atLeastOnce_iff`: in every run, with restarts and rebalances anywhere, no committed offset passes a
message that was not acknowledged exactly when every commit finds everything handed out since the
consumer last resumed acknowledged. `handedAgain_iff`: what a committed offset has passed is never
handed out again, and everything else can be.
-/

import FoodDelivery.Lib.Runs
import Mathlib.Logic.Function.Basic

set_option autoImplicit false

namespace FoodDelivery.Shared

open FoodDelivery.Lib

/-! ### The consumer -/

structure Partition where
  topic : String
  number : Nat
deriving DecidableEq, Repr

/-- `not message.value`: there is nothing to hand to a handler. -/
def noValue (value : Option String) : Bool := value = none ∨ value = some ""

/-- The partitions of the topics and a consumer on them; `due` when it is about to commit. -/
structure EventConsumer where
  log : Partition → List (Option String)
  assigned : List Partition
  position : Partition → Nat
  committed : Partition → Nat
  acknowledged : List (Partition × Nat) := []
  due : Bool := false

/-- What happens next: a message is returned, and `_handle` says whether to acknowledge it; the consumer
commits; it resumes from the committed offsets, after a restart or a rebalance; a message is produced. -/
inductive PollStep where
  | next (partition : Partition) (outcome : Bool)
  | commit
  | resume (assigned : List Partition)
  | produce (partition : Partition) (value : Option String)

def EventConsumer.step (c : EventConsumer) : PollStep → EventConsumer
  | .next p outcome =>
    if c.due = false ∧ p ∈ c.assigned then
      match (c.log p)[c.position p]? with
      | none => c
      | some value =>
        let moved := { c with position := Function.update c.position p (c.position p + 1) }
        if noValue value then { moved with due := true }
        else if outcome then
          { moved with acknowledged := c.acknowledged ++ [(p, c.position p)], due := true }
        else moved
    else c
  | .commit =>
    if c.due then
      { c with
        committed := fun p => if p ∈ c.assigned then c.position p else c.committed p
        due := false }
    else c
  | .resume assigned => { c with assigned := assigned, position := c.committed, due := false }
  | .produce p value => { c with log := Function.update c.log p (c.log p ++ [value]) }

/-- A group that has committed nothing, on partitions as they stand. -/
def EventConsumer.start (log : Partition → List (Option String)) (assigned : List Partition) :
    EventConsumer where
  log := log
  assigned := assigned
  position := fun _ => 0
  committed := fun _ => 0

/-! ### What has to hold -/

/-- A message that has a value and whose handler has not returned True. -/
structure EventConsumer.Unacknowledged (c : EventConsumer) (p : Partition) (offset : Nat) : Prop where
  there : ∃ value, (c.log p)[offset]? = some value ∧ noValue value = false
  never : (p, offset) ∉ c.acknowledged

/-- **At least once**: no committed offset has passed a message that was not acknowledged. -/
def AtLeastOnce (c : EventConsumer) : Prop :=
  ∀ p offset, c.Unacknowledged p offset → c.committed p ≤ offset

/-- A commit finds everything handed out since the consumer last resumed acknowledged, in every assigned
partition. -/
def Settled (c : EventConsumer) : PollStep → Prop
  | .commit => c.due = true → ∀ p ∈ c.assigned, ∀ offset, c.committed p ≤ offset →
      offset < c.position p → ¬ c.Unacknowledged p offset
  | _ => True

/-! ### One step -/

variable {c : EventConsumer} {p : Partition} {offset : Nat}

/-- Offsets are where they can be. -/
structure Placed (c : EventConsumer) : Prop where
  committed : ∀ p, c.committed p ≤ c.position p
  position : ∀ p, c.position p ≤ (c.log p).length

/-- The outcomes of a message that is returned: the position moves past it, and it may be
acknowledged. -/
theorem step_next (c : EventConsumer) (p : Partition) (outcome : Bool) :
    c.step (.next p outcome) = c ∨ ∃ acknowledged due, c.position p < (c.log p).length ∧
      (∀ entry ∈ c.acknowledged, entry ∈ acknowledged) ∧
      c.step (.next p outcome) =
        { c with
          position := Function.update c.position p (c.position p + 1)
          acknowledged := acknowledged
          due := due } := by
  by_cases ready : c.due = false ∧ p ∈ c.assigned
  · cases found : (c.log p)[c.position p]? with
    | none => exact Or.inl (by simp [EventConsumer.step, found])
    | some value =>
      obtain ⟨inside, _⟩ := List.getElem?_eq_some_iff.mp found
      right
      simp only [EventConsumer.step, if_pos ready, found]
      by_cases empty : noValue value = true
      · exact ⟨c.acknowledged, true, inside, fun _ => id, if_pos empty⟩
      · rw [if_neg empty]
        cases outcome with
        | true => exact ⟨_, true, inside, fun _ => List.mem_append_left _, rfl⟩
        | false => exact ⟨c.acknowledged, c.due, inside, fun _ => id, rfl⟩
  · exact Or.inl (if_neg ready)

theorem placed_step (c : EventConsumer) (label : PollStep) (placed : Placed c) :
    Placed (c.step label) := by
  cases label with
  | next p outcome =>
    rcases step_next c p outcome with same | ⟨acknowledged, due, inside, _, moved⟩
    · rw [same]
      exact placed
    · rw [moved]
      constructor
      · intro q
        have before := placed.committed q
        by_cases own : q = p
        · subst own
          simp only [Function.update_self]
          omega
        · simpa [Function.update_of_ne own] using before
      · intro q
        by_cases own : q = p
        · subst own
          simp only [Function.update_self]
          omega
        · simpa [Function.update_of_ne own] using placed.position q
  | commit =>
    unfold EventConsumer.step
    dsimp only
    split_ifs
    · refine ⟨fun q => ?_, placed.position⟩
      dsimp only
      split_ifs
      · exact le_refl _
      · exact placed.committed q
    · exact placed
  | resume assigned =>
    exact ⟨fun q => le_refl _, fun q => (placed.committed q).trans (placed.position q)⟩
  | produce p value =>
    refine ⟨placed.committed, fun q => ?_⟩
    have before := placed.position q
    by_cases own : q = p
    · subst own
      simp only [EventConsumer.step, Function.update_self, List.length_append, List.length_singleton]
      omega
    · simpa [EventConsumer.step, Function.update_of_ne own] using before

theorem placed_start (log : Partition → List (Option String)) (assigned : List Partition) :
    Placed (.start log assigned) :=
  ⟨fun _ => le_refl 0, fun _ => Nat.zero_le _⟩

/-- **What a commit passes.** -/
theorem atLeastOnce_commit (safe : AtLeastOnce c) :
    AtLeastOnce (c.step .commit) ↔ Settled c .commit := by
  unfold EventConsumer.step Settled
  dsimp only
  split_ifs with due
  · constructor
    · intro after _ q member offset _ handed missed
      have kept : (if q ∈ c.assigned then c.position q else c.committed q) ≤ offset :=
        after q offset ⟨missed.there, missed.never⟩
      rw [if_pos member] at kept
      omega
    · intro settled q offset missed
      have before := safe q offset ⟨missed.there, missed.never⟩
      dsimp only
      split_ifs with member
      · by_contra handed
        exact settled due q member offset before (Nat.lt_of_not_le handed)
          ⟨missed.there, missed.never⟩
      · exact before
  · exact ⟨fun _ now => absurd now due, fun _ => safe⟩

/-- **One step of a settled run.** -/
theorem atLeastOnce_step (c : EventConsumer) (label : PollStep) (sound : Placed c ∧ AtLeastOnce c)
    (settled : Settled c label) : Placed (c.step label) ∧ AtLeastOnce (c.step label) := by
  obtain ⟨placed, safe⟩ := sound
  refine ⟨placed_step c label placed, ?_⟩
  cases label with
  | next p outcome =>
    rcases step_next c p outcome with same | ⟨acknowledged, due, _, grows, moved⟩
    · rw [same]
      exact safe
    · rw [moved]
      exact fun q offset missed =>
        safe q offset ⟨missed.there, fun old => missed.never (grows _ old)⟩
  | commit => exact (atLeastOnce_commit safe).mpr settled
  | resume assigned => exact fun q offset missed => safe q offset ⟨missed.there, missed.never⟩
  | produce p value =>
    intro q offset missed
    by_cases own : q = p
    · subst own
      obtain ⟨found, is_found, has⟩ := missed.there
      simp only [EventConsumer.step, Function.update_self] at is_found
      by_cases old : offset < (c.log q).length
      · rw [List.getElem?_append_left old] at is_found
        exact safe q offset ⟨⟨found, is_found, has⟩, missed.never⟩
      · exact ((placed.committed q).trans (placed.position q)).trans (Nat.le_of_not_lt old)
    · obtain ⟨found, is_found, has⟩ := missed.there
      simp only [EventConsumer.step, Function.update_of_ne own] at is_found
      exact safe q offset ⟨⟨found, is_found, has⟩, missed.never⟩

/-! ### Runs -/

/-- **When delivery is at least once**: exactly when every commit finds everything handed out since the
consumer last resumed acknowledged. -/
theorem atLeastOnce_iff (log : Partition → List (Option String)) (assigned : List Partition)
    (labels : List PollStep) :
    Always EventConsumer.step AtLeastOnce (.start log assigned) labels ↔
      Throughout EventConsumer.step Settled (.start log assigned) labels := by
  refine always_iff_throughout (Q := fun c => Placed c ∧ AtLeastOnce c) atLeastOnce_step
    (fun _ sound => sound.2) ?_ ⟨placed_start log assigned, fun _ _ _ => Nat.zero_le _⟩
  intro c label sound unsettled
  cases label with
  | commit => exact fun after => unsettled ((atLeastOnce_commit sound.2).mp after)
  | next p outcome => exact absurd trivial unsettled
  | resume assigned => exact absurd trivial unsettled
  | produce p value => exact absurd trivial unsettled

/-! ### What is handed out again -/

/-- The next message that the iteration returns of a partition is this one. -/
def EventConsumer.Next (c : EventConsumer) (p : Partition) (offset : Nat) : Prop :=
  c.due = false ∧ p ∈ c.assigned ∧ c.position p = offset ∧ offset < (c.log p).length

theorem committed_step (c : EventConsumer) (label : PollStep) (placed : Placed c) (p : Partition) :
    c.committed p ≤ (c.step label).committed p := by
  cases label with
  | next q outcome =>
    rcases step_next c q outcome with same | ⟨acknowledged, due, _, _, moved⟩
    · rw [same]
    · rw [moved]
  | commit =>
    unfold EventConsumer.step
    dsimp only
    split_ifs
    · dsimp only
      split_ifs
      · exact placed.committed p
      · exact le_refl _
    · exact le_refl _
  | resume assigned => exact le_refl _
  | produce q value => exact le_refl _

/-- Reading on reaches every offset that is not behind. -/
theorem next_reaches (ahead : Nat) (idle : c.due = false) (mine : p ∈ c.assigned)
    (inside : c.position p + ahead < (c.log p).length) :
    ∃ labels, (run EventConsumer.step c labels).Next p (c.position p + ahead) := by
  induction ahead generalizing c with
  | zero => exact ⟨[], idle, mine, rfl, inside⟩
  | succ ahead ih =>
    have here : c.position p < (c.log p).length := by omega
    -- whatever the handler says, a commit after it moves nothing that is ahead
    have moved : ∃ label : List PollStep, ∃ next, run EventConsumer.step c label = next ∧
        next.due = false ∧ next.assigned = c.assigned ∧ next.log = c.log ∧
        next.position p = c.position p + 1 := by
      have ready : c.due = false ∧ p ∈ c.assigned := ⟨idle, mine⟩
      have found := List.getElem?_eq_getElem here
      cases empty : noValue (c.log p)[c.position p] with
      | true =>
        refine ⟨[.next p false, .commit], _, rfl, ?_⟩
        simp [run, EventConsumer.step, ready, found, empty]
      | false =>
        refine ⟨[.next p false], _, rfl, ?_⟩
        simp [run, EventConsumer.step, ready, found, empty]
    obtain ⟨first, next, ran, still_idle, still_mine, same_log, forward⟩ := moved
    obtain ⟨rest, reaches⟩ := ih (c := next) still_idle (still_mine ▸ mine)
      (by rw [forward, same_log]; omega)
    refine ⟨first ++ rest, ?_⟩
    rw [run_append, ran]
    rw [forward] at reaches
    have same : c.position p + 1 + ahead = c.position p + (ahead + 1) := by omega
    exact same ▸ reaches

/-- **Passed is lost**: a message can still be handed out exactly when the committed offset of its
partition has not passed it. -/
theorem handedAgain_iff (placed : Placed c) (there : offset < (c.log p).length) :
    (∃ labels, (run EventConsumer.step (c.step (.resume [p])) labels).Next p offset) ↔
      c.committed p ≤ offset := by
  constructor
  · rintro ⟨labels, _, _, here, _⟩
    have behind : ∀ (labels : List PollStep) (c : EventConsumer), Placed c →
        c.committed p ≤ (run EventConsumer.step c labels).position p := by
      intro labels
      induction labels with
      | nil => exact fun c placed => placed.committed p
      | cons label labels ih =>
        exact fun c placed => (committed_step c label placed p).trans
          (ih (c.step label) (placed_step c label placed))
    have bound := behind labels _ (placed_step c (.resume [p]) placed)
    exact here ▸ bound
  · intro not_passed
    obtain ⟨ahead, rfl⟩ := Nat.exists_eq_add_of_le not_passed
    exact next_reaches (c := c.step (.resume [p])) ahead rfl (List.mem_singleton.mpr rfl) there

/-! ### A message that is stepped over -/

def orderEvents : Partition := ⟨"order-events", 0⟩

/-- Two messages of one partition. -/
def twoMessages (p : Partition) : List (Option String) :=
  if p = orderEvents then [some "first", some "second"] else []

/-- **A failure is committed over.** The handler of the first message raises; the second is
acknowledged, and its commit passes both. -/
theorem failed_then_committed : ¬ ∀ (log : Partition → List (Option String))
    (assigned : List Partition) (labels : List PollStep),
    Always EventConsumer.step AtLeastOnce (.start log assigned) labels := by
  intro always
  have last := (always twoMessages [orderEvents]
    [.next orderEvents false, .next orderEvents true, .commit]).last
  have kept := last orderEvents 0 ⟨⟨some "first", by decide, by decide⟩, by decide⟩
  exact absurd kept (by decide)

end FoodDelivery.Shared
