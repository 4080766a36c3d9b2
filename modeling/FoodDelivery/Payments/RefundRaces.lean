/-
**Refund commands that race.**

A refund command is delivered any number of times, to handlers that take their actions in any order
and may die after any of them. The guard of `refund_payment` reads the status, the provider is
called, and the status is written: a second handler that reads between the call and the commit, or
after a handler that died between them, calls again.

`refundedOnce_always_iff`: every order is refunded at most once, in every state of a run, exactly when
a refund call that moves money is made only by a handler that read the payment after every other
handler of the order whose call moved money had committed.
-/

import FoodDelivery.Payments.Deliveries

set_option autoImplicit false

namespace FoodDelivery.Payments

open FoodDelivery.Lib

/-! ### Money given back -/

/-- The call moved money of the order back. -/
def ProviderCall.movesBack (orderId : Nat) : ProviderCall → Bool
  | .refund own _ _ effective _ => own = orderId ∧ effective = true
  | _ => false

/-- How many refunds of an order have taken effect at the provider. -/
def World.refundsMade (w : World) (orderId : Nat) : Nat := w.calls.countP (·.movesBack orderId)

@[simp] theorem World.refundsMade_update (w : World) (before after : Payment) (orderId : Nat) :
    (w.update before after).refundsMade orderId = w.refundsMade orderId := by
  unfold World.update
  split
  · rfl
  · rfl

theorem World.refundsMade_call (w : World) (call : ProviderCall) (orderId : Nat) :
    (w.call call).refundsMade orderId =
      w.refundsMade orderId + if call.movesBack orderId then 1 else 0 := by
  unfold World.refundsMade
  rw [World.calls_call, List.countP_append, List.countP_singleton]

/-! ### The race -/

/-- One delivery of a refund command: its handler and the actions it has taken. `readAt` is when it
read the payment, `moved` whether its call moved money, and `committedAt` when it committed. -/
structure RefundDelivery where
  gateway : Gateway
  orderId : Nat
  program : Handler Unit
  taken : Nat := 0
  readAt : Nat := 0
  moved : Bool := false
  committedAt : Option Nat := none

structure RefundRace where
  world : World
  clock : Nat := 0
  deliveries : List RefundDelivery := []

inductive RefundLabel where
  | deliver (gateway : Gateway) (orderId : Nat)
  | act (i : Nat)
  | die (i : Nat)

/-- A delivery whose handler has not begun. -/
def RefundDelivery.fresh (gateway : Gateway) (orderId : Nat) : RefundDelivery where
  gateway := gateway
  orderId := orderId
  program := applyPaymentCommand gateway (refundCommand orderId)

/-- A delivery whose handler has taken one more action. -/
def RefundDelivery.acted (d : RefundDelivery) (clock : Nat) (w next : World)
    (left : Handler Unit) : RefundDelivery :=
  { d with
    program := left
    taken := d.taken + 1
    readAt := if d.taken = 1 then clock else d.readAt
    moved := d.moved || decide (w.refundsMade d.orderId < next.refundsMade d.orderId)
    committedAt := if d.taken = 3 then some clock else d.committedAt }

/-- A delivery whose handler died. -/
def RefundDelivery.died (d : RefundDelivery) : RefundDelivery :=
  { d with program := .raise (.other "CancelledError" "") }

def RefundRace.step (r : RefundRace) : RefundLabel → RefundRace
  | .deliver gateway orderId =>
    { r with
      clock := r.clock + 1
      deliveries := r.deliveries ++ [.fresh gateway orderId] }
  | .act i =>
    match r.deliveries[i]? with
    | none => r
    | some d =>
      match d.program with
      | .act update left =>
        { world := update r.world
          clock := r.clock + 1
          deliveries := r.deliveries.set i
            (d.acted r.clock r.world (update r.world) (left r.world)) }
      | _ => r
  | .die i =>
    match r.deliveries[i]? with
    | none => r
    | some d => { r with deliveries := r.deliveries.set i d.died }

/-- A database, a log with no calls in it yet, and no deliveries. -/
def RefundRace.start (w : World) : RefundRace where
  world := { w with calls := [] }

/-- **No order is refunded twice.** -/
def RefundedOnce (r : RefundRace) : Prop := ∀ orderId, r.world.refundsMade orderId ≤ 1

/-- The next action of the delivery's handler is a refund call that moves money. -/
def RefundDelivery.Moves (d : RefundDelivery) (w : World) : Prop :=
  w.refundsMade d.orderId < (d.program.advance w).1.refundsMade d.orderId

/-- **Who moves money has read after whoever moved it had committed.** -/
def ReadsBehind (r : RefundRace) : RefundLabel → Prop
  | .act i => ∀ d, r.deliveries[i]? = some d → d.Moves r.world →
    ∀ other ∈ r.deliveries, other.orderId = d.orderId → other.moved = true →
      ∃ time, other.committedAt = some time ∧ time < d.readAt
  | _ => True

/-! ### What one step can do -/

/-- The outcomes of a step. -/
inductive RefundRace.Steps (r : RefundRace) : RefundLabel → RefundRace → Prop
  | idle (label : RefundLabel) : r.Steps label r
  | delivered (gateway : Gateway) (orderId : Nat) :
    r.Steps (.deliver gateway orderId)
      { r with
        clock := r.clock + 1
        deliveries := r.deliveries ++ [.fresh gateway orderId] }
  | acted (i : Nat) (d : RefundDelivery) (update : World → World) (left : World → Handler Unit)
      (present : r.deliveries[i]? = some d) (running : d.program = .act update left) :
    r.Steps (.act i)
      { world := update r.world
        clock := r.clock + 1
        deliveries := r.deliveries.set i
          (d.acted r.clock r.world (update r.world) (left r.world)) }
  | died (i : Nat) (d : RefundDelivery) (present : r.deliveries[i]? = some d) :
    r.Steps (.die i) { r with deliveries := r.deliveries.set i d.died }

theorem RefundRace.steps (r : RefundRace) (label : RefundLabel) : r.Steps label (r.step label) := by
  cases label with
  | deliver gateway orderId => exact .delivered gateway orderId
  | act i =>
    unfold RefundRace.step
    dsimp only
    split
    · exact .idle _
    · rename_i d present
      split
      · rename_i update left running
        exact .acted i d update left present running
      · exact .idle _
  | die i =>
    unfold RefundRace.step
    dsimp only
    split
    · exact .idle _
    · rename_i d present
      exact .died i d present

/-- How many refunds an action of a delivery's handler makes: none, or one of its own order by its
third action. -/
theorem RefundMoves.refundsMade {gateway : Gateway} {orderId taken : Nat} {program : Handler Unit}
    {w next : World} (moves : RefundMoves gateway orderId w taken program next) (other : Nat) :
    next.refundsMade other = w.refundsMade other ∨
      (taken = 2 ∧ other = orderId ∧ next.refundsMade other = w.refundsMade other + 1) := by
  have called : ∀ (order : OrderSnapshot) (payment : Payment), order.orderId = orderId → taken = 2 →
      (w.call (refundCall gateway order none payment)).refundsMade other = w.refundsMade other ∨
        (taken = 2 ∧ other = orderId ∧
          (w.call (refundCall gateway order none payment)).refundsMade other =
            w.refundsMade other + 1) := by
    intro order payment own third
    rw [World.refundsMade_call]
    by_cases effective : (refundCall gateway order none payment).movesBack other = true
    · refine Or.inr ⟨third, ?_, by rw [if_pos effective]⟩
      unfold refundCall ProviderCall.movesBack at effective
      rw [← own]
      exact (of_decide_eq_true effective).1.symm
    · exact Or.inl (by rw [if_neg effective, Nat.add_zero])
  cases moves with
  | unknown raised absent => exact Or.inl rfl
  | known order found => exact Or.inl rfl
  | missing absent => exact Or.inl rfl
  | declined payment found kept => exact Or.inl rfl
  | passed order payment own found may => exact Or.inl rfl
  | answered order payment own same may => exact called order payment own rfl
  | lost order payment raised own => exact called order payment own rfl
  | committed payment same may => exact Or.inl (World.refundsMade_update _ _ _ _)
  | returned => exact Or.inl rfl

/-! ### What a guarded race keeps -/

/-- What is so of a delivery at any time. -/
structure RefundDelivery.Coherent (d : RefundDelivery) (w : World) (clock : Nat) : Prop where
  stage : RefundStage d.gateway d.orderId d.taken d.program
  read : d.readAt ≤ clock
  unmoved : d.taken ≤ 2 → d.moved = false
  present : 2 ≤ d.taken → d.program.Running → w.payment d.orderId ≠ none
  committed : ∀ time, d.committedAt = some time → time < clock ∧ w.Refunded d.orderId

theorem RefundDelivery.Coherent.frame {d : RefundDelivery} {w next : World} {clock later : Nat}
    (coherent : d.Coherent w clock) (passes : clock ≤ later)
    (present : w.payment d.orderId ≠ none → next.payment d.orderId ≠ none)
    (refunded : w.Refunded d.orderId → next.Refunded d.orderId) : d.Coherent next later where
  stage := coherent.stage
  read := le_trans coherent.read passes
  unmoved := coherent.unmoved
  present := fun second running => present (coherent.present second running)
  committed := by
    intro time at_time
    obtain ⟨before, done⟩ := coherent.committed time at_time
    exact ⟨lt_of_lt_of_le before passes, refunded done⟩

/-- An action keeps its own delivery coherent. -/
theorem RefundDelivery.Coherent.acted {d : RefundDelivery} {w : World} {clock : Nat}
    {update : World → World} {left : World → Handler Unit} (coherent : d.Coherent w clock)
    (running : d.program = .act update left) :
    (d.acted clock w (update w) (left w)).Coherent (update w) (clock + 1) := by
  have stage := coherent.stage
  rw [running] at stage
  have moves : RefundMoves d.gateway d.orderId w d.taken (left w) (update w) :=
    refundStage_advance stage trivial w
  refine
    { stage := moves.stage
      read := ?_
      unmoved := ?_
      present := ?_
      committed := ?_ }
  · show (if d.taken = 1 then clock else d.readAt) ≤ clock + 1
    have read := coherent.read
    split
    · omega
    · omega
  · intro early
    change d.taken + 1 ≤ 2 at early
    show (d.moved || _) = false
    rw [coherent.unmoved (by omega), Bool.false_or]
    refine decide_eq_false ?_
    rcases moves.refundsMade d.orderId with same | ⟨third, _, _⟩
    · omega
    · omega
  · intro second goes_on
    change 2 ≤ d.taken + 1 at second
    change (left w).Running at goes_on
    show (update w).payment d.orderId ≠ none
    refine moves.present ?_
    by_cases first : d.taken = 1
    · -- the handler goes on only if it found a payment
      generalize d.taken = taken, left w = program, update w = next at moves first goes_on
      cases moves with
      | missing absent => exact goes_on.elim
      | declined payment found kept => exact goes_on.elim
      | passed order payment own found may =>
        rw [found]
        exact Option.some_ne_none payment
      | _ => cases first
    · exact coherent.present (by omega) (by rw [running]; trivial)
  · intro time at_time
    change (if d.taken = 3 then some clock else d.committedAt) = some time at at_time
    show time < clock + 1 ∧ (update w).Refunded d.orderId
    by_cases commits : d.taken = 3
    · rw [if_pos commits] at at_time
      cases at_time
      refine ⟨Nat.lt_succ_self clock, ?_⟩
      have present := coherent.present (by omega) (by rw [running]; trivial)
      rw [commits] at moves
      exact moves.commits present
    · rw [if_neg commits] at at_time
      obtain ⟨before, refunded⟩ := coherent.committed time at_time
      exact ⟨by omega, moves.refunded refunded⟩

/-- **The invariant of a guarded race.** -/
structure RefundRace.Guarded (r : RefundRace) : Prop where
  once : RefundedOnce r
  coherent : ∀ d ∈ r.deliveries, d.Coherent r.world r.clock
  /-- Whoever has passed the guard read before anybody committed. -/
  ahead : ∀ d ∈ r.deliveries, d.taken = 2 → d.program.Running → ∀ other ∈ r.deliveries,
    other.orderId = d.orderId → ∀ time, other.committedAt = some time → d.readAt ≤ time
  mover : ∀ orderId, 0 < r.world.refundsMade orderId →
    ∃ d ∈ r.deliveries, d.orderId = orderId ∧ d.moved = true
  made : ∀ d ∈ r.deliveries, d.moved = true → 0 < r.world.refundsMade d.orderId

theorem guarded_startRefunds (w : World) : (RefundRace.start w).Guarded where
  once := fun _ => Nat.zero_le 1
  coherent := fun _ member => absurd member List.not_mem_nil
  ahead := fun _ member => absurd member List.not_mem_nil
  mover := fun _ some_made => absurd some_made (Nat.lt_irrefl 0)
  made := fun _ member => absurd member List.not_mem_nil

/-- A delivery that has moved money is still there when one of them is replaced by one that has
moved at least as much. -/
theorem moved_of_set {ds : List RefundDelivery} {i : Nat} {d new : RefundDelivery} {orderId : Nat}
    (present : ds[i]? = some d) (own : new.orderId = d.orderId)
    (keeps : d.moved = true → new.moved = true)
    (moved : ∃ d ∈ ds, d.orderId = orderId ∧ d.moved = true) :
    ∃ d ∈ ds.set i new, d.orderId = orderId ∧ d.moved = true := by
  obtain ⟨inside, _⟩ := List.getElem?_eq_some_iff.mp present
  obtain ⟨other, member, same, has_moved⟩ := moved
  obtain ⟨j, at_j⟩ := List.getElem?_of_mem member
  by_cases same_index : i = j
  · rw [← same_index, present] at at_j
    obtain rfl := Option.some.inj at_j
    exact ⟨new, List.mem_of_getElem? (List.getElem?_set_self inside), own.trans same,
      keeps has_moved⟩
  · refine ⟨other, List.mem_of_getElem? (i := j) ?_, same, has_moved⟩
    rw [List.getElem?_set_ne same_index]
    exact at_j

theorem RefundMoves.refundsMade_le {gateway : Gateway} {orderId taken : Nat}
    {program : Handler Unit} {w next : World}
    (moves : RefundMoves gateway orderId w taken program next) (other : Nat) :
    w.refundsMade other ≤ next.refundsMade other := by
  rcases moves.refundsMade other with same | ⟨_, _, more⟩
  · omega
  · omega

/-- While a payment can be refunded, nobody has committed its refund. -/
theorem RefundRace.Guarded.not_committed {r : RefundRace} (guarded : r.Guarded) {orderId : Nat}
    {payment : Payment} (found : r.world.payment orderId = some payment)
    (may : payment.status ∈ refundable) {d : RefundDelivery} (member : d ∈ r.deliveries)
    (own : d.orderId = orderId) : d.committedAt = none := by
  by_contra committed
  obtain ⟨time, at_time⟩ := Option.ne_none_iff_exists'.mp committed
  have refunded := ((guarded.coherent d member).committed time at_time).2
  rw [own] at refunded
  exact refunded.not_refundable found may

/-- A new delivery. -/
theorem RefundRace.Guarded.delivered {r : RefundRace} (guarded : r.Guarded) (gateway : Gateway)
    (orderId : Nat) :
    RefundRace.Guarded
      { r with
        clock := r.clock + 1
        deliveries := r.deliveries ++ [.fresh gateway orderId] } := by
  refine
    { once := guarded.once
      coherent := ?_
      ahead := ?_
      mover := ?_
      made := ?_ }
  · intro d member
    rcases List.mem_append.mp member with old | new
    · exact (guarded.coherent d old).frame (Nat.le_succ _) id id
    · rw [List.mem_singleton.mp new]
      exact
        { stage := .begun
          read := Nat.zero_le _
          unmoved := fun _ => rfl
          present := fun second => absurd second (Nat.not_succ_le_zero 1)
          committed := fun time at_time => by cases at_time }
  · intro d member second running other among own time at_time
    rcases List.mem_append.mp member with old | new
    · rcases List.mem_append.mp among with old_other | new_other
      · exact guarded.ahead d old second running other old_other own time at_time
      · rw [List.mem_singleton.mp new_other] at at_time
        cases at_time
    · rw [List.mem_singleton.mp new] at second
      cases second
  · intro other some_made
    obtain ⟨d, member, own, moved⟩ := guarded.mover other some_made
    exact ⟨d, List.mem_append_left _ member, own, moved⟩
  · intro d member moved
    rcases List.mem_append.mp member with old | new
    · exact guarded.made d old moved
    · rw [List.mem_singleton.mp new] at moved
      cases moved

/-- A handler that dies. -/
theorem RefundRace.Guarded.died {r : RefundRace} (guarded : r.Guarded) {i : Nat}
    {d : RefundDelivery} (present : r.deliveries[i]? = some d) :
    RefundRace.Guarded { r with deliveries := r.deliveries.set i d.died } := by
  have here := List.mem_of_getElem? present
  have coherent := guarded.coherent d here
  refine
    { once := guarded.once
      coherent := ?_
      ahead := ?_
      mover := fun orderId some_made =>
        moved_of_set present rfl id (guarded.mover orderId some_made)
      made := ?_ }
  · intro other member
    rcases (List.mem_or_eq_of_mem_set member).symm with rfl | old
    · exact
        { stage := .raised _ _
          read := coherent.read
          unmoved := coherent.unmoved
          present := fun _ running => running.elim
          committed := coherent.committed }
    · exact guarded.coherent other old
  · intro reader member second running other among own time at_time
    rcases (List.mem_or_eq_of_mem_set member).symm with rfl | old
    · exact running.elim
    · rcases (List.mem_or_eq_of_mem_set among).symm with rfl | old_other
      · exact guarded.ahead reader old second running d here own time at_time
      · exact guarded.ahead reader old second running other old_other own time at_time
  · intro other member moved
    rcases (List.mem_or_eq_of_mem_set member).symm with rfl | old
    · exact guarded.made d here moved
    · exact guarded.made other old moved

/-- Whoever moves money behind the others is the first: a refund made before would have been committed
before this handler read. -/
theorem RefundRace.Guarded.none_made {r : RefundRace} {i : Nat} {d : RefundDelivery}
    (guarded : r.Guarded) (behind : ReadsBehind r (.act i)) (present : r.deliveries[i]? = some d)
    (second : d.taken = 2) (running : d.program.Running) (moves : d.Moves r.world) :
    r.world.refundsMade d.orderId = 0 := by
  by_contra some_made
  have here := List.mem_of_getElem? present
  obtain ⟨other, member, own, moved⟩ := guarded.mover d.orderId (Nat.pos_of_ne_zero some_made)
  obtain ⟨time, at_time, before⟩ := behind d present moves other member own moved
  have after := guarded.ahead d here second running other member own time at_time
  omega

/-- Who goes on from the read has read a payment that can be refunded. -/
theorem refundable_of_goes_on {gateway : Gateway} {orderId : Nat} {program : Handler Unit}
    {w next : World} (moves : RefundMoves gateway orderId w 1 program next)
    (goes_on : program.Running) :
    ∃ payment, w.payment orderId = some payment ∧ payment.status ∈ refundable := by
  cases moves with
  | missing absent => exact goes_on.elim
  | declined payment found kept => exact goes_on.elim
  | passed order payment same found may => exact ⟨payment, found, may⟩

/-- Whoever goes on after an action has read before anybody has committed. -/
theorem RefundRace.Guarded.ahead_acted {r : RefundRace} {i : Nat} {d : RefundDelivery}
    {update : World → World} {left : World → Handler Unit} (guarded : r.Guarded)
    (here : d ∈ r.deliveries)
    (moves : RefundMoves d.gateway d.orderId r.world d.taken (left r.world) (update r.world))
    {reader other : RefundDelivery} {time : Nat}
    (member : reader ∈ r.deliveries.set i (d.acted r.clock r.world (update r.world) (left r.world)))
    (second : reader.taken = 2) (goes_on : reader.program.Running)
    (among : other ∈ r.deliveries.set i (d.acted r.clock r.world (update r.world) (left r.world)))
    (own : other.orderId = reader.orderId) (at_time : other.committedAt = some time) :
    reader.readAt ≤ time := by
  rcases (List.mem_or_eq_of_mem_set member).symm with rfl | old
  · change d.taken + 1 = 2 at second
    change (left r.world).Running at goes_on
    have first : d.taken = 1 := by omega
    rw [first] at moves
    -- it goes on only if it read a payment that nobody had refunded
    obtain ⟨payment, found, may⟩ := refundable_of_goes_on moves goes_on
    have none_committed : other.committedAt = none := by
      rcases (List.mem_or_eq_of_mem_set among).symm with rfl | old_other
      · show (if d.taken = 3 then some r.clock else d.committedAt) = none
        rw [if_neg (by omega)]
        exact guarded.not_committed found may here rfl
      · exact guarded.not_committed found may old_other own
    rw [none_committed] at at_time
    cases at_time
  · rcases (List.mem_or_eq_of_mem_set among).symm with rfl | old_other
    · change (if d.taken = 3 then some r.clock else d.committedAt) = some time at at_time
      split at at_time
      · cases at_time
        exact (guarded.coherent reader old).read
      · exact guarded.ahead reader old second goes_on d here own time at_time
    · exact guarded.ahead reader old second goes_on other old_other own time at_time

/-- An action of a handler, when its call moves money only behind the others. -/
theorem RefundRace.Guarded.acted {r : RefundRace} {i : Nat} {d : RefundDelivery}
    {update : World → World} {left : World → Handler Unit} (guarded : r.Guarded)
    (behind : ReadsBehind r (.act i)) (present : r.deliveries[i]? = some d)
    (running : d.program = .act update left) :
    RefundRace.Guarded
      { world := update r.world
        clock := r.clock + 1
        deliveries := r.deliveries.set i
          (d.acted r.clock r.world (update r.world) (left r.world)) } := by
  have here := List.mem_of_getElem? present
  obtain ⟨inside, _⟩ := List.getElem?_eq_some_iff.mp present
  have coherent := guarded.coherent d here
  have stage := coherent.stage
  rw [running] at stage
  have moves : RefundMoves d.gateway d.orderId r.world d.taken (left r.world) (update r.world) :=
    refundStage_advance stage trivial r.world
  refine
    { once := ?_
      coherent := ?_
      ahead := ?_
      mover := ?_
      made := ?_ }
  · intro orderId
    show (update r.world).refundsMade orderId ≤ 1
    rcases moves.refundsMade orderId with same | ⟨third, rfl, more⟩
    · rw [same]
      exact guarded.once orderId
    · have moves_now : d.Moves r.world := by
        unfold RefundDelivery.Moves
        rw [running]
        show r.world.refundsMade d.orderId < (update r.world).refundsMade d.orderId
        omega
      have none_made := guarded.none_made behind present third (by rw [running]; trivial) moves_now
      omega
  · intro other member
    rcases (List.mem_or_eq_of_mem_set member).symm with rfl | old
    · exact coherent.acted running
    · exact (guarded.coherent other old).frame (Nat.le_succ _) moves.present moves.refunded
  · intro reader member second goes_on other among own time at_time
    exact guarded.ahead_acted here moves member second goes_on among own at_time
  · intro orderId some_made
    change 0 < (update r.world).refundsMade orderId at some_made
    show ∃ d' ∈ r.deliveries.set i _, d'.orderId = orderId ∧ d'.moved = true
    rcases moves.refundsMade orderId with same | ⟨_, own, more⟩
    · rw [same] at some_made
      refine moved_of_set present rfl ?_ (guarded.mover orderId some_made)
      intro moved
      show (d.moved || _) = true
      rw [moved, Bool.true_or]
    · refine ⟨_, List.mem_of_getElem? (List.getElem?_set_self inside), own.symm, ?_⟩
      show (d.moved || decide (r.world.refundsMade d.orderId < _)) = true
      rw [← own, decide_eq_true (by omega), Bool.or_true]
  · intro other member moved
    show 0 < (update r.world).refundsMade other.orderId
    have grows := moves.refundsMade_le other.orderId
    rcases (List.mem_or_eq_of_mem_set member).symm with rfl | old
    · change (d.moved || decide (r.world.refundsMade d.orderId < _)) = true at moved
      change r.world.refundsMade d.orderId ≤ (update r.world).refundsMade d.orderId at grows
      show 0 < (update r.world).refundsMade d.orderId
      rcases (Bool.or_eq_true _ _).mp moved with before | now
      · have made := guarded.made d here before
        omega
      · have more := of_decide_eq_true now
        omega
    · have made := guarded.made other old moved
      omega

/-- **One step of a guarded race.** -/
theorem RefundRace.Guarded.step {r : RefundRace} {label : RefundLabel} (guarded : r.Guarded)
    (behind : ReadsBehind r label) : (r.step label).Guarded := by
  have steps := r.steps label
  revert steps
  generalize r.step label = next
  intro steps
  cases steps with
  | idle => exact guarded
  | delivered gateway orderId => exact guarded.delivered gateway orderId
  | acted i d update left present running => exact guarded.acted behind present running
  | died i d present => exact guarded.died present

/-- **A call that is not behind.** It is the second refund of its order. -/
theorem not_refundedOnce_of_ahead {r : RefundRace} {label : RefundLabel} (guarded : r.Guarded)
    (ahead : ¬ ReadsBehind r label) : ¬ RefundedOnce (r.step label) := by
  cases label with
  | deliver gateway orderId => exact absurd trivial ahead
  | die i => exact absurd trivial ahead
  | act i =>
    unfold ReadsBehind at ahead
    push Not at ahead
    obtain ⟨d, present, moves, other, member, own, moved, _⟩ := ahead
    have made := guarded.made other member moved
    rw [own] at made
    intro once
    have most := once d.orderId
    unfold RefundDelivery.Moves at moves
    have left : (r.step (.act i)).world = (d.program.advance r.world).1 := by
      unfold RefundRace.step
      dsimp only
      rw [present]
      dsimp only
      cases d.program with
      | act update left => rfl
      | ret value => rfl
      | raise raised => rfl
    rw [left] at most
    omega

/-- **When redelivery refunds once.** From any database, over any deliveries of refund commands,
interleaved in any way and dying anywhere, no order is refunded twice exactly when every refund call
that moves money is made by a handler that read the payment after every other handler of the order
whose call had moved money had committed. -/
theorem refundedOnce_always_iff (w : World) (labels : List RefundLabel) :
    Always RefundRace.step RefundedOnce (RefundRace.start w) labels ↔
      Throughout RefundRace.step ReadsBehind (RefundRace.start w) labels :=
  always_iff_throughout (Q := RefundRace.Guarded) (fun _ _ guarded behind => guarded.step behind)
    (fun _ guarded => guarded.once)
    (fun _ _ guarded ahead => not_refundedOnce_of_ahead guarded ahead) (guarded_startRefunds w)

/-- A card payment that has been collected through Stripe. -/
def collected : World :=
  { World.empty with
    snapshots := Table.empty.put cardOrder
    payments := Table.empty.put
      { orderId := 1, provider := .card, amount := 20000, status := .succeeded
        providerRef := some "pi_1" } }

/-- One command, delivered twice; both handlers read the payment before either commits. -/
def overlappingRefunds : List RefundLabel :=
  [ .deliver stripeTest 1, .deliver stripeTest 1,
    .act 0, .act 0, .act 1, .act 1, .act 0, .act 1, .act 0, .act 1 ]

/-- **The customer is refunded twice.** -/
theorem overlappingRefunds_twice :
    ¬ ∀ w labels, RefundedOnce (run RefundRace.step (RefundRace.start w) labels) := by
  intro once
  have most := once collected overlappingRefunds 1
  have two : (run RefundRace.step (RefundRace.start collected) overlappingRefunds).world.refundsMade
      1 = 2 := by decide
  omega

end FoodDelivery.Payments
