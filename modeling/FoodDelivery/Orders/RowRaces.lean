/-
**Eight operations racing on one order row.**

Every state change of an order is a transaction of three steps under READ COMMITTED: it reads the
row and decides, it flushes its `UPDATE` (which takes the row lock, and the release-stock call
follows the flush), and it commits. A read through `_locked_order` takes the lock itself, waits for
whoever holds it and so sees the last commit; a plain read waits for nobody. Only the columns that
differ from what was read are written (`overwrite`).

`rowSafe_always_iff`: a run in which no flushed transaction is left uncommitted keeps the row safe
(one payment command, one stock release, one ending event, only legal status changes) if and only if
no write of an unlocked operation finds the row already delivered, completed, cancelled or rejected.
The three operations that do not lock are the customer's cancel and the two expiry sweeps.
-/

import FoodDelivery.Lib.Runs
import FoodDelivery.Lib.Slots
import FoodDelivery.Orders.Actions

set_option autoImplicit false

namespace FoodDelivery.Orders

open FoodDelivery.Lib

/-! ### The transactions -/

/-- Where a transaction stands; `read` is the row as it read it. -/
inductive Phase where
  | waiting
  | decided (read : Order) (written : Written)
  | flushed (read : Order) (written : Written)
  | done
deriving DecidableEq

/-- One request, with its clock. -/
structure Tx where
  action : Action
  now : Timestamp
  phase : Phase := .waiting
deriving DecidableEq

/-- One order row and the transactions on it. `outbox`, `releases` and `changes` are what the run
has committed, called and changed so far; `tables` are the read-models the bodies look into. -/
structure Race where
  tables : State
  row : Order
  holder : Option Nat := none
  txs : List Tx
  outbox : List OutboxEvent := []
  releases : List StockRelease := []
  changes : List (OrderStatus × OrderStatus) := []

/-- The `UPDATE` of a transaction, on the row as it is at the commit: a column that still has the
value that was read is not in its `SET`, and the audit events it added are inserted. -/
def overwrite (read new row : Order) : Order :=
  { row with
    status := if new.status = read.status then row.status else new.status
    paymentStatus :=
      if new.paymentStatus = read.paymentStatus then row.paymentStatus else new.paymentStatus
    refundStatus :=
      if new.refundStatus = read.refundStatus then row.refundStatus else new.refundStatus
    refundAmount :=
      if new.refundAmount = read.refundAmount then row.refundAmount else new.refundAmount
    cancelledBy := if new.cancelledBy = read.cancelledBy then row.cancelledBy else new.cancelledBy
    cancelReason :=
      if new.cancelReason = read.cancelReason then row.cancelReason else new.cancelReason
    updatedAt := new.updatedAt
    events := row.events ++ new.events.drop read.events.length }

def Race.setPhase (r : Race) (i : Nat) (tx : Tx) (phase : Phase) : List Tx :=
  r.txs.set i { tx with phase := phase }

/-- The next step of transaction `i`; a transaction that has to wait stays where it is. -/
def Race.step (r : Race) (i : Nat) : Race :=
  match r.txs[i]? with
  | none => r
  | some tx =>
    match tx.phase with
    | .waiting =>
      if tx.action.locks = true ∧ r.holder ≠ none then r
      else
        match tx.action.body r.tables tx.now r.row with
        | .ok (some written) =>
          { r with
            holder := if tx.action.locks then some i else r.holder
            txs := r.setPhase i tx (.decided r.row written) }
        | _ => { r with txs := r.setPhase i tx .done }
    | .decided read written =>
      if r.holder = none ∨ r.holder = some i then
        { r with
          holder := some i
          txs := r.setPhase i tx (.flushed read written)
          releases := r.releases ++ written.release.toList }
      else r
    | .flushed read written =>
      let row := overwrite read written.order r.row
      { r with
        row := row
        holder := none
        txs := r.setPhase i tx .done
        outbox := r.outbox ++ written.outbox
        changes := r.changes ++ [(r.row.status, row.status)] }
    | .done => r

/-- A row and requests that have not begun. -/
def Race.start (tables : State) (row : Order) (requests : List (Action × Timestamp)) : Race where
  tables := tables
  row := row
  txs := requests.map fun request => { action := request.1, now := request.2 }

/-! ### What has to hold -/

/-- The payment commands among some outbox rows. -/
def commandsIn (outbox : List OutboxEvent) : List PaymentCommand :=
  outbox.filterMap OutboxEvent.command?

/-- The order events among some outbox rows that say CANCELLED or REJECTED. -/
def endingsIn (outbox : List OutboxEvent) : List OrderEvent :=
  (outbox.filterMap OutboxEvent.orderEvent?).filter fun event => ended event.status

/-- **A safe row**: at most one payment command, one stock release and one ending event so far, and
every committed status change in the table. -/
structure RowSafe (r : Race) : Prop where
  commands : (commandsIn r.outbox).length ≤ 1
  releases : r.releases.length ≤ 1
  endings : (endingsIn r.outbox).length ≤ 1
  legal : ∀ change ∈ r.changes, change.2 ∈ allowed change.1

/-- The write of an unlocked operation finds the row in a status it can still be cancelled from. -/
def FreshWrite (r : Race) (i : Nat) : Prop :=
  ∀ tx read written, r.txs[i]? = some tx → tx.phase = .decided read written →
    tx.action.locks = false → r.holder = none ∨ r.holder = some i →
    r.row.status ∉ settledStatuses

/-- Every write that was flushed has been committed. -/
def Race.Flushed (r : Race) : Prop :=
  ∀ tx ∈ r.txs, ∀ read written, tx.phase ≠ .flushed read written

/-! ### What one step can do -/

/-- The outcomes of the next step of transaction `i`. -/
inductive Race.Moves (r : Race) (i : Nat) : Race → Prop
  | idle : r.Moves i r
  | refused (tx : Tx) (present : r.txs[i]? = some tx) (phase : tx.phase = .waiting) :
    r.Moves i { r with txs := r.setPhase i tx .done }
  | read (tx : Tx) (written : Written) (present : r.txs[i]? = some tx)
      (phase : tx.phase = .waiting) (free : tx.action.locks = true → r.holder = none)
      (body : tx.action.body r.tables tx.now r.row = .ok (some written)) :
    r.Moves i
      { r with
        holder := if tx.action.locks then some i else r.holder
        txs := r.setPhase i tx (.decided r.row written) }
  | flush (tx : Tx) (read : Order) (written : Written) (present : r.txs[i]? = some tx)
      (phase : tx.phase = .decided read written) (free : r.holder = none ∨ r.holder = some i) :
    r.Moves i
      { r with
        holder := some i
        txs := r.setPhase i tx (.flushed read written)
        releases := r.releases ++ written.release.toList }
  | commit (tx : Tx) (read : Order) (written : Written) (present : r.txs[i]? = some tx)
      (phase : tx.phase = .flushed read written) :
    r.Moves i
      { r with
        row := overwrite read written.order r.row
        holder := none
        txs := r.setPhase i tx .done
        outbox := r.outbox ++ written.outbox
        changes := r.changes ++ [(r.row.status, (overwrite read written.order r.row).status)] }

theorem Race.moves (r : Race) (i : Nat) : r.Moves i (r.step i) := by
  unfold Race.step
  split
  · exact .idle
  · rename_i tx present
    split
    · rename_i phase
      split
      · exact .idle
      · rename_i free
        split
        · rename_i written body
          refine .read tx written present phase (fun locks => ?_) body
          by_contra held
          exact free ⟨locks, held⟩
        · exact .refused tx present phase
    · rename_i read written phase
      split
      · rename_i free
        exact .flush tx read written present phase free
      · exact .idle
    · rename_i read written phase
      exact .commit tx read written present phase
    · exact .idle

/-- A transaction after one of them took a step: the one that did, or another as it was. -/
theorem of_setPhase {r : Race} {i j : Nat} {tx other : Tx} {phase : Phase}
    (found : (r.setPhase i tx phase)[j]? = some other) :
    (j = i ∧ other = { tx with phase := phase }) ∨ (j ≠ i ∧ r.txs[j]? = some other) :=
  of_set found

theorem setPhase_self {r : Race} {i : Nat} {tx : Tx} (present : r.txs[i]? = some tx)
    (phase : Phase) : (r.setPhase i tx phase)[i]? = some { tx with phase := phase } := by
  obtain ⟨inside, _⟩ := List.getElem?_eq_some_iff.mp present
  exact List.getElem?_set_self inside

theorem setPhase_other (r : Race) {i j : Nat} (tx : Tx) (phase : Phase) (other : j ≠ i) :
    (r.setPhase i tx phase)[j]? = r.txs[j]? := by
  exact List.getElem?_set_ne (Ne.symm other)

/-! ### What holds in every race -/

/-- A transaction's decision was made on the row it read; one that locked still holds the lock and
its row, one that flushed holds the lock. -/
def Tx.Coherent (r : Race) (j : Nat) (tx : Tx) : Prop :=
  match tx.phase with
  | .decided read written =>
    Performed r.tables tx.now tx.action read written ∧
      (tx.action.locks = true → r.holder = some j ∧ r.row = read)
  | .flushed read written =>
    Performed r.tables tx.now tx.action read written ∧ r.holder = some j
  | _ => True

/-- **Locks are respected and every decision was made on a row that was read.** -/
def Coherent (r : Race) : Prop :=
  ∀ (j : Nat) (tx : Tx), r.txs[j]? = some tx → tx.Coherent r j

/-- What a step leaves alone of a transaction: the lock, and the row under the lock. -/
theorem Tx.Coherent.frame {r next : Race} {j : Nat} {tx : Tx} (coherent : tx.Coherent r j)
    (tables : next.tables = r.tables)
    (held : r.holder = some j → next.holder = some j ∧ next.row = r.row) : tx.Coherent next j := by
  unfold Tx.Coherent at coherent ⊢
  rw [tables]
  split
  · rename_i read written phase
    rw [phase] at coherent
    refine ⟨coherent.1, fun locks => ?_⟩
    obtain ⟨holds, same⟩ := coherent.2 locks
    exact ⟨(held holds).1, (held holds).2.trans same⟩
  · rename_i read written phase
    rw [phase] at coherent
    exact ⟨coherent.1, (held coherent.2).1⟩
  · trivial

theorem Coherent.decided {r : Race} {j : Nat} {tx : Tx} {read : Order} {written : Written}
    (coherent : Coherent r) (present : r.txs[j]? = some tx)
    (phase : tx.phase = .decided read written) :
    Performed r.tables tx.now tx.action read written ∧
      (tx.action.locks = true → r.holder = some j ∧ r.row = read) := by
  have here := coherent j tx present
  unfold Tx.Coherent at here
  rw [phase] at here
  exact here

theorem Coherent.flushed {r : Race} {j : Nat} {tx : Tx} {read : Order} {written : Written}
    (coherent : Coherent r) (present : r.txs[j]? = some tx)
    (phase : tx.phase = .flushed read written) :
    Performed r.tables tx.now tx.action read written ∧ r.holder = some j := by
  have here := coherent j tx present
  unfold Tx.Coherent at here
  rw [phase] at here
  exact here

theorem coherent_start (tables : State) (row : Order) (requests : List (Action × Timestamp)) :
    Coherent (Race.start tables row requests) := by
  intro j tx present
  unfold Race.start at present
  rw [List.getElem?_map, Option.map_eq_some_iff] at present
  obtain ⟨request, _, rfl⟩ := present
  trivial

/-- Every step of every transaction keeps the locks and the decisions. -/
theorem coherent_step {r : Race} (i : Nat) (coherent : Coherent r) : Coherent (r.step i) := by
  have moves := r.moves i
  revert moves
  generalize r.step i = next
  intro moves j other found
  cases moves with
  | idle => exact coherent j other found
  | refused tx present phase =>
    rcases of_setPhase found with ⟨_, rfl⟩ | ⟨_, old⟩
    · trivial
    · exact (coherent j other old).frame rfl fun held => ⟨held, rfl⟩
  | read tx written present phase free body =>
    rcases of_setPhase found with ⟨rfl, rfl⟩ | ⟨_, old⟩
    · exact ⟨performed_of_body body, fun locks => ⟨if_pos locks, rfl⟩⟩
    · refine (coherent j other old).frame rfl fun held => ⟨?_, rfl⟩
      -- a reader that locks found the lock free
      by_cases locks : tx.action.locks = true
      · rw [free locks] at held
        cases held
      · exact (if_neg locks).trans held
  | flush tx read written present phase free =>
    rcases of_setPhase found with ⟨rfl, rfl⟩ | ⟨different, old⟩
    · exact ⟨(coherent.decided present phase).1, rfl⟩
    · refine (coherent j other old).frame rfl fun held => ?_
      -- whoever else holds the lock would have kept this transaction waiting
      rcases free with nobody | itself
      · rw [nobody] at held
        cases held
      · rw [itself] at held
        cases held
        exact absurd rfl different
  | commit tx read written present phase =>
    rcases of_setPhase found with ⟨_, rfl⟩ | ⟨different, old⟩
    · trivial
    · refine (coherent j other old).frame rfl fun held => ?_
      rw [(coherent.flushed present phase).2] at held
      cases held
      exact absurd rfl different

/-! ### What a guarded race keeps -/

variable {tables : State} {now : Timestamp} {action : Action} {read row : Order} {written : Written}

/-- The status a commit leaves in the row is the one its action moves to. -/
theorem overwrite_status (performed : Performed tables now action read written) (row : Order) :
    (overwrite read written.order row).status = action.target := by
  show (if written.order.status = read.status then row.status else written.order.status) = _
  rw [performed.status, if_neg (ne_of_allowed performed.legal)]

/-- Stock goes back only with an ending. -/
theorem Performed.ended_of_released (performed : Performed tables now action read written)
    (released : written.release.isSome = true) : ended action.target = true := by
  rw [performed.released] at released
  obtain ⟨refund, recorded⟩ := Option.isSome_iff_exists.mp released
  exact Action.ended_of_refund recorded

theorem Performed.commands_length (performed : Performed tables now action read written) :
    (commandsIn written.outbox).length ≤ 1 := by
  unfold commandsIn
  rw [performed.commands, List.length_map]
  cases action.command read.status with
  | none => exact Nat.zero_le 1
  | some command => exact le_refl 1

/-- A transaction that commands a payment leaves a settled order. -/
theorem Performed.settled_of_commands (performed : Performed tables now action read written)
    (some_command : commandsIn written.outbox ≠ []) :
    action.target ∈ settledStatuses ∧ action.target ≠ .completed := by
  unfold commandsIn at some_command
  rw [performed.commands] at some_command
  cases commanded : action.command read.status with
  | none =>
    rw [commanded] at some_command
    exact absurd rfl some_command
  | some command => exact Action.settled_of_command commanded

theorem Performed.endings_length (performed : Performed tables now action read written) :
    (endingsIn written.outbox).length ≤ 1 := by
  unfold endingsIn
  rw [performed.announced]
  exact le_trans (List.length_filter_le _ _) (le_refl 1)

/-- A transaction that announces an ending leaves an ended order. -/
theorem Performed.ended_of_endings (performed : Performed tables now action read written)
    (some_ending : endingsIn written.outbox ≠ []) : ended action.target = true := by
  obtain ⟨event, member⟩ := List.exists_mem_of_ne_nil _ some_ending
  unfold endingsIn at member
  rw [performed.announced, List.mem_filter] at member
  obtain ⟨announced, ends⟩ := member
  rw [show event = _ from List.mem_singleton.mp announced] at ends
  rw [← performed.status]
  exact ends

/-- A flushed transaction that has called release-stock. -/
def Race.Releasing (r : Race) : Prop :=
  ∃ (j : Nat) (tx : Tx) (read : Order) (written : Written), r.txs[j]? = some tx ∧
    tx.phase = .flushed read written ∧ written.release.isSome = true

/-- **The invariant of a guarded race.** The flushed transaction is still legal on the row, and what
has been committed and called fits the row's status. -/
structure Guarded (r : Race) : Prop extends RowSafe r where
  coherent : Coherent r
  flushed : ∀ (j : Nat) (tx : Tx) (read : Order) (written : Written), r.txs[j]? = some tx →
    tx.phase = .flushed read written → tx.action.target ∈ allowed r.row.status
  commanded : commandsIn r.outbox ≠ [] → r.row.status ∈ settledStatuses
  released : r.releases ≠ [] → ended r.row.status = true ∨ r.Releasing
  announced : endingsIn r.outbox ≠ [] → ended r.row.status = true

theorem guarded_start (tables : State) (row : Order) (requests : List (Action × Timestamp)) :
    Guarded (Race.start tables row requests) where
  commands := Nat.zero_le 1
  releases := Nat.zero_le 1
  endings := Nat.zero_le 1
  legal := fun _ member => absurd member List.not_mem_nil
  coherent := coherent_start tables row requests
  flushed := by
    intro j tx read written present phase
    have here := ((coherent_start tables row requests).flushed present phase).2
    cases here
  commanded := fun some_command => absurd rfl some_command
  released := fun some_release => absurd rfl some_release
  announced := fun some_ending => absurd rfl some_ending

/-- A transaction that reads its row, whatever it decides, keeps the invariant. -/
theorem Guarded.decide {r next : Race} {i : Nat} {tx : Tx} {phase : Phase} (guarded : Guarded r)
    (coherent : Coherent next) (present : r.txs[i]? = some tx) (waiting : tx.phase = .waiting)
    (not_flushed : ∀ read written, phase ≠ .flushed read written)
    (txs : next.txs = r.setPhase i tx phase) (row : next.row = r.row)
    (outbox : next.outbox = r.outbox) (releases : next.releases = r.releases)
    (changes : next.changes = r.changes) : Guarded next where
  commands := outbox ▸ guarded.commands
  releases := releases ▸ guarded.releases
  endings := outbox ▸ guarded.endings
  legal := changes ▸ guarded.legal
  coherent := coherent
  flushed := by
    intro j other read written found flushed
    rw [txs] at found
    rw [row]
    rcases of_setPhase found with ⟨_, rfl⟩ | ⟨_, old⟩
    · exact absurd flushed (not_flushed read written)
    · exact guarded.flushed j other read written old flushed
  commanded := by
    rw [outbox, row]
    exact guarded.commanded
  released := by
    rw [releases, row]
    intro some_release
    refine (guarded.released some_release).imp_right fun releasing => ?_
    obtain ⟨j, other, read, written, found, flushed, released⟩ := releasing
    refine ⟨j, other, read, written, ?_, flushed, released⟩
    have different : j ≠ i := by
      rintro rfl
      rw [present] at found
      cases found
      rw [waiting] at flushed
      cases flushed
    rw [txs, setPhase_other r tx phase different, found]
  announced := by
    rw [outbox, row]
    exact guarded.announced

/-- Whoever has flushed holds the lock. -/
theorem Coherent.flushed_eq {r : Race} {i j : Nat} {tx other : Tx} {read : Order} {written : Written}
    (coherent : Coherent r) (held : r.holder = some i) (present : r.txs[i]? = some tx)
    (found : r.txs[j]? = some other) (flushed : other.phase = .flushed read written) : other = tx := by
  have same := held.symm.trans (coherent.flushed found flushed).2
  obtain rfl := Option.some_inj.mp same
  exact Option.some_inj.mp (found.symm.trans present)

/-- While a transaction can flush, no other has. -/
theorem Coherent.no_flushed {r : Race} {i : Nat} {tx : Tx} {read : Order} {written : Written}
    (coherent : Coherent r) (present : r.txs[i]? = some tx)
    (phase : tx.phase = .decided read written) (free : r.holder = none ∨ r.holder = some i)
    {j : Nat} {other : Tx} {read' : Order} {written' : Written} (found : r.txs[j]? = some other) :
    other.phase ≠ .flushed read' written' := by
  intro flushed
  rcases free with nobody | itself
  · have held := (coherent.flushed found flushed).2
    rw [nobody] at held
    cases held
  · obtain rfl := coherent.flushed_eq itself present found flushed
    rw [phase] at flushed
    cases flushed

/-- **A fresh write is legal** on the row as it stands when it is flushed. -/
theorem Guarded.legal_of_fresh {r : Race} {i : Nat} {tx : Tx} (guarded : Guarded r)
    (fresh : FreshWrite r i) (present : r.txs[i]? = some tx)
    (phase : tx.phase = .decided read written) (free : r.holder = none ∨ r.holder = some i) :
    tx.action.target ∈ allowed r.row.status := by
  obtain ⟨performed, locked⟩ := guarded.coherent.decided present phase
  -- the guard for a transaction that did not lock, the lock for one that did
  cases locks : tx.action.locks with
  | true =>
    rw [(locked locks).2]
    exact performed.legal
  | false =>
    rw [Action.target_of_unlocked locks]
    exact (cancelled_allowed_iff _).mpr (fresh tx read written present phase locks free)

/-- While a transaction can move the row on, nothing has announced its end. -/
theorem Guarded.none_ended {r : Race} {target : OrderStatus} (guarded : Guarded r)
    (legal : target ∈ allowed r.row.status) : endingsIn r.outbox = [] := by
  by_contra some_ending
  have ends := guarded.announced some_ending
  rw [not_ended_of_allowed legal] at ends
  cases ends

/-- And nothing has given its stock back, but a transaction that is flushed. -/
theorem Guarded.releasing {r : Race} {target : OrderStatus} (guarded : Guarded r)
    (legal : target ∈ allowed r.row.status) (some_release : r.releases ≠ []) : r.Releasing := by
  rcases guarded.released some_release with ends | releasing
  · rw [not_ended_of_allowed legal] at ends
    cases ends
  · exact releasing

theorem Guarded.flush {r : Race} {i : Nat} {tx : Tx} (guarded : Guarded r) (fresh : FreshWrite r i)
    (present : r.txs[i]? = some tx) (phase : tx.phase = .decided read written)
    (free : r.holder = none ∨ r.holder = some i)
    (coherent : Coherent
      { r with
        holder := some i
        txs := r.setPhase i tx (.flushed read written)
        releases := r.releases ++ written.release.toList }) :
    Guarded
      { r with
        holder := some i
        txs := r.setPhase i tx (.flushed read written)
        releases := r.releases ++ written.release.toList } := by
  have legal := guarded.legal_of_fresh fresh present phase free
  have none_released : r.releases = [] := by
    by_contra some_release
    obtain ⟨j, other, read', written', found, flushed, _⟩ := guarded.releasing legal some_release
    exact guarded.coherent.no_flushed present phase free found flushed
  refine
    { guarded.toRowSafe with
      coherent
      releases := ?_
      flushed := ?_
      commanded := guarded.commanded
      released := ?_
      announced := guarded.announced }
  · show (r.releases ++ written.release.toList).length ≤ 1
    rw [none_released, List.nil_append]
    cases written.release with
    | none => exact Nat.zero_le 1
    | some release => exact le_refl 1
  · intro j other read' written' found flushed
    rcases of_setPhase found with ⟨_, rfl⟩ | ⟨_, old⟩
    · exact legal
    · exact absurd flushed (guarded.coherent.no_flushed present phase free old)
  · intro some_release
    change r.releases ++ written.release.toList ≠ [] at some_release
    rw [none_released, List.nil_append] at some_release
    refine Or.inr ⟨i, _, read, written, setPhase_self present _, rfl, ?_⟩
    cases released : written.release with
    | none =>
      rw [released] at some_release
      exact absurd rfl some_release
    | some release => rfl

/-- A command before a commit leaves only the step from DELIVERED to COMPLETED, which has none. -/
theorem Guarded.completes {r : Race} (guarded : Guarded r)
    (performed : Performed tables now action read written)
    (legal : action.target ∈ allowed r.row.status) (some_command : commandsIn r.outbox ≠ []) :
    action.target = .completed ∧ commandsIn written.outbox = [] := by
  have target := (allowed_of_settled (guarded.commanded some_command) legal).2
  refine ⟨target, ?_⟩
  by_contra another
  exact (performed.settled_of_commands another).2 target

theorem Guarded.commit {r : Race} {i : Nat} {tx : Tx} (guarded : Guarded r)
    (present : r.txs[i]? = some tx) (phase : tx.phase = .flushed read written)
    (coherent : Coherent
      { r with
        row := overwrite read written.order r.row
        holder := none
        txs := r.setPhase i tx .done
        outbox := r.outbox ++ written.outbox
        changes := r.changes ++ [(r.row.status, (overwrite read written.order r.row).status)] }) :
    Guarded
      { r with
        row := overwrite read written.order r.row
        holder := none
        txs := r.setPhase i tx .done
        outbox := r.outbox ++ written.outbox
        changes := r.changes ++ [(r.row.status, (overwrite read written.order r.row).status)] } := by
  obtain ⟨performed, held⟩ := guarded.coherent.flushed present phase
  have legal := guarded.flushed i tx read written present phase
  have moved := overwrite_status performed r.row
  have commands_append : commandsIn (r.outbox ++ written.outbox) =
      commandsIn r.outbox ++ commandsIn written.outbox := List.filterMap_append
  have endings_append : endingsIn (r.outbox ++ written.outbox) = endingsIn written.outbox := by
    have split : endingsIn (r.outbox ++ written.outbox) =
        endingsIn r.outbox ++ endingsIn written.outbox := by
      simp [endingsIn]
    rw [split, guarded.none_ended legal, List.nil_append]
  refine
    { coherent
      commands := ?_
      releases := guarded.releases
      endings := ?_
      legal := ?_
      flushed := ?_
      commanded := ?_
      released := ?_
      announced := ?_ }
  · show (commandsIn (r.outbox ++ written.outbox)).length ≤ 1
    rw [commands_append]
    by_cases no_command : commandsIn r.outbox = []
    · rw [no_command, List.nil_append]
      exact performed.commands_length
    · rw [(guarded.completes performed legal no_command).2, List.append_nil]
      exact guarded.commands
  · show (endingsIn (r.outbox ++ written.outbox)).length ≤ 1
    rw [endings_append]
    exact performed.endings_length
  · intro change member
    rcases List.mem_append.mp member with old | new
    · exact guarded.legal change old
    · rw [List.mem_singleton.mp new, moved]
      exact legal
  · intro j other read' written' found flushed
    have nobody := (coherent.flushed found flushed).2
    cases nobody
  · intro some_command
    show (overwrite read written.order r.row).status ∈ settledStatuses
    rw [moved]
    by_cases no_command : commandsIn r.outbox = []
    · change commandsIn (r.outbox ++ written.outbox) ≠ [] at some_command
      rw [commands_append, no_command, List.nil_append] at some_command
      exact (performed.settled_of_commands some_command).1
    · rw [(guarded.completes performed legal no_command).1]
      decide
  · intro some_release
    refine Or.inl ?_
    show ended (overwrite read written.order r.row).status = true
    rw [moved]
    -- whoever has released holds the lock, so it is the transaction that commits
    obtain ⟨j, other, read', written', found, flushed, calls⟩ := guarded.releasing legal some_release
    obtain rfl := guarded.coherent.flushed_eq held present found flushed
    rw [phase] at flushed
    cases flushed
    exact performed.ended_of_released calls
  · intro some_ending
    change endingsIn (r.outbox ++ written.outbox) ≠ [] at some_ending
    rw [endings_append] at some_ending
    show ended (overwrite read written.order r.row).status = true
    rw [moved]
    exact performed.ended_of_endings some_ending

/-- **One step of a guarded race.** -/
theorem guarded_step {r : Race} {i : Nat} (guarded : Guarded r) (fresh : FreshWrite r i) :
    Guarded (r.step i) := by
  have coherent := coherent_step i guarded.coherent
  have moves := r.moves i
  revert moves coherent
  generalize r.step i = next
  intro coherent moves
  cases moves with
  | idle => exact guarded
  | refused tx present phase =>
    exact guarded.decide coherent present phase (by simp) rfl rfl rfl rfl rfl
  | read tx written present phase free body =>
    exact guarded.decide coherent present phase (by simp) rfl rfl rfl rfl rfl
  | flush tx read written present phase free =>
    exact guarded.flush fresh present phase free coherent
  | commit tx read written present phase => exact guarded.commit present phase coherent

/-! ### What a missed guard leads to -/

/-- A flushed write that is not legal on the row it is about to change. -/
def Race.Doomed (r : Race) : Prop :=
  Coherent r ∧ ∃ (i : Nat) (tx : Tx) (read : Order) (written : Written), r.txs[i]? = some tx ∧
    tx.phase = .flushed read written ∧ tx.action.target ∉ allowed r.row.status

theorem doomed_of_stale {r : Race} {i : Nat} (coherent : Coherent r) (stale : ¬ FreshWrite r i) :
    (r.step i).Doomed := by
  unfold FreshWrite at stale
  push Not at stale
  obtain ⟨tx, read, written, present, phase, unlocked, free, settled⟩ := stale
  refine ⟨coherent_step i coherent, i, { tx with phase := .flushed read written }, read, written, ?_⟩
  have flushes : r.step i =
      { r with
        holder := some i
        txs := r.setPhase i tx (.flushed read written)
        releases := r.releases ++ written.release.toList } := by
    unfold Race.step
    simp only [present, phase, if_pos free]
  rw [flushes]
  refine ⟨setPhase_self present _, rfl, ?_⟩
  show tx.action.target ∉ allowed r.row.status
  rw [Action.target_of_unlocked unlocked, cancelled_allowed_iff]
  exact not_not.mpr settled

/-- It stays so until it is committed, and then the row is unsafe. -/
theorem doomed_persists (r : Race) (j : Nat) (doomed : r.Doomed) :
    (r.step j).Doomed ∨ ¬ RowSafe (r.step j) := by
  obtain ⟨coherent, i, tx, read, written, present, phase, illegal⟩ := doomed
  have after := coherent_step j coherent
  have moves := r.moves j
  revert moves after
  generalize r.step j = next
  intro after moves
  -- a transaction that reads its row is another one
  have elsewhere : ∀ other : Tx, r.txs[j]? = some other → other.phase = .waiting → i ≠ j := by
    rintro other found waiting rfl
    rw [present] at found
    cases found
    rw [phase] at waiting
    cases waiting
  cases moves with
  | idle => exact Or.inl ⟨coherent, i, tx, read, written, present, phase, illegal⟩
  | refused other found waiting =>
    refine Or.inl ⟨after, i, tx, read, written, ?_, phase, illegal⟩
    exact (setPhase_other r other _ (elsewhere other found waiting)).trans present
  | read other decision found waiting free body =>
    refine Or.inl ⟨after, i, tx, read, written, ?_, phase, illegal⟩
    exact (setPhase_other r other _ (elsewhere other found waiting)).trans present
  | flush other read' written' found decided free =>
    exact absurd phase (coherent.no_flushed found decided free present)
  | commit other read' written' found flushed =>
    obtain ⟨performed, held⟩ := coherent.flushed present phase
    obtain rfl := coherent.flushed_eq held present found flushed
    rw [phase] at flushed
    cases flushed
    refine Or.inr fun safe => illegal ?_
    rw [← overwrite_status performed r.row]
    exact safe.legal _ (List.mem_append_right _ (List.mem_singleton.mpr rfl))

/-- **When overlapping requests are safe.** A run that leaves no flushed write uncommitted keeps the
row safe exactly when no operation that read without the lock writes a row that has been delivered,
completed, cancelled or rejected since. -/
theorem rowSafe_always_iff (tables : State) (row : Order) (requests : List (Action × Timestamp))
    (labels : List Nat) (flushed : (run Race.step (Race.start tables row requests) labels).Flushed) :
    Always Race.step RowSafe (Race.start tables row requests) labels ↔
      Throughout Race.step FreshWrite (Race.start tables row requests) labels := by
  refine always_iff_throughout_of_doomed (Q := Guarded)
    (fun r i guarded fresh => guarded_step guarded fresh) (fun r guarded => guarded.toRowSafe)
    (fun r i guarded stale => doomed_of_stale guarded.coherent stale)
    doomed_persists (guarded_start tables row requests) ?_
  rintro ⟨_, i, tx, read, written, present, phase, _⟩
  exact flushed tx (List.mem_of_getElem? present) read written phase

/-- A card order that has been paid for, before the kitchen has seen it. -/
def paidOrder : Order where
  id := 1
  customerId := 7
  restaurantId := 3
  addressId := 5
  status := .paymentSuccess
  paymentMethod := .card
  paymentStatus := .success
  subtotal := 20000
  total := 20000
  createdAt := 0
  updatedAt := 0
  items := []
  events := []

/-- Its customer taps cancel twice. -/
def doubleCancel : List (Action × Timestamp) :=
  [(.cancelByCustomer ⟨7, "customer"⟩ "", 10), (.cancelByCustomer ⟨7, "customer"⟩ "", 10)]

theorem rowSafe_always_iff_doubleCancel :
    Always Race.step RowSafe (Race.start .empty paidOrder doubleCancel) [0, 0, 0, 1] ↔
      Throughout Race.step FreshWrite (Race.start .empty paidOrder doubleCancel) [0, 0, 0, 1] := by
  refine rowSafe_always_iff .empty paidOrder doubleCancel [0, 0, 0, 1] ?_
  have finished : ∀ tx ∈ (run Race.step (Race.start .empty paidOrder doubleCancel) [0, 0, 0, 1]).txs,
      tx.phase = .done := by decide
  intro tx member read written
  rw [finished tx member]
  exact Phase.noConfusion

/-- **Two refunds for one order.** Both requests read the row before either writes it. -/
theorem doubleCancel_refunds_twice :
    ¬ ∀ (tables : State) (row : Order) (requests : List (Action × Timestamp)) (labels : List Nat),
      RowSafe (run Race.step (Race.start tables row requests) labels) := by
  intro safe
  have one := (safe .empty paidOrder doubleCancel [0, 1, 0, 0, 1, 1]).commands
  have two : (commandsIn (run Race.step (Race.start .empty paidOrder doubleCancel)
      [0, 1, 0, 0, 1, 1]).outbox).length = 2 := by decide
  omega

end FoodDelivery.Orders
