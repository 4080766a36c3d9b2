/-
**The kitchen is told once.**

An order's restaurant owner gets an `order.new` notification from the transaction that makes the order
count as paid: the one that places it, for cash, or a `mark_paid`, for a card. A `Kitchen` is one
order with the transaction that places it and any number of others racing on its row (`Race`); until
the order is committed none of the others finds it, and any of them may be cut off between two steps,
which is why its event is delivered again.

`toldOnce_always`: in every state of every interleaving there is at most one `order.new` row for the
order, at most one committed `mark_paid` has changed its status, and a `mark_paid` that found it past
PAYMENT_PENDING has written nothing. The invariant (`Kept`) is that a notice, or a payment that was
booked, means that the row is no longer PAYMENT_PENDING; nothing moves it back, and a `mark_paid` that
found it so has held the row since.
-/

import FoodDelivery.Orders.RowRaces
import FoodDelivery.Orders.Runs

set_option autoImplicit false

namespace FoodDelivery.Orders

open FoodDelivery.Lib

/-! ### The notice -/

/-- The notification-events payload of a row, when that is its topic. -/
def OutboxEvent.notification? : OutboxEvent → Option Notification
  | .notificationEvents payload => some payload
  | _ => none

/-- The `order.new` rows for an order. -/
def noticesOf (orderId : Nat) (outbox : List OutboxEvent) : List Notification :=
  (outbox.filterMap OutboxEvent.notification?).filter fun notice =>
    notice.type = "order.new" ∧ notice.orderId = some orderId

@[simp] theorem noticesOf_append (orderId : Nat) (first second : List OutboxEvent) :
    noticesOf orderId (first ++ second) = noticesOf orderId first ++ noticesOf orderId second := by
  simp [noticesOf]

@[simp] theorem noticesOf_orderEvent (orderId : Nat) (tables : State) (order : Order)
    (rest : List OutboxEvent) :
    noticesOf orderId (emitStatus tables order :: rest) = noticesOf orderId rest := rfl

@[simp] theorem noticesOf_command (orderId : Nat) (order : Order) (action : PaymentAction)
    (rest : List OutboxEvent) :
    noticesOf orderId (requestPaymentAction order action :: rest) = noticesOf orderId rest := rfl

@[simp] theorem noticesOf_nil (orderId : Nat) : noticesOf orderId [] = [] := rfl

theorem noticesOf_notifyRestaurant (orderId : Nat) (tables : State) (order : Order) :
    (noticesOf orderId (notifyRestaurant tables order)).length ≤ 1 := by
  have one : (notifyRestaurant tables order).length ≤ 1 := by
    unfold notifyRestaurant
    split
    · exact Nat.zero_le 1
    · exact le_refl 1
  unfold noticesOf
  exact (List.length_filter_le _ _).trans ((List.length_filterMap_le _ _).trans one)

/-- How a state change announces an order that counts as paid: at most once, and only `mark_paid`
does. -/
structure Notifies (orderId : Nat) (action : Action) (written : Written) : Prop where
  once : (noticesOf orderId written.outbox).length ≤ 1
  paying : noticesOf orderId written.outbox ≠ [] → action = .markPaid

theorem Notifies.silent {orderId : Nat} {action : Action} {written : Written}
    (none_there : noticesOf orderId written.outbox = []) : Notifies orderId action written where
  once := by simp [none_there]
  paying := fun some_there => absurd none_there some_there

variable {tables : State} {now : Timestamp} {order : Order} {written : Written}

/-- The rows of a refund or settle command, or none. -/
theorem noticesOf_ite (orderId : Nat) (condition : Prop) [Decidable condition] (order : Order)
    (action : PaymentAction) :
    noticesOf orderId (if condition then [requestPaymentAction order action] else []) = [] := by
  split <;> rfl

/-- **Only `mark_paid` tells the kitchen.** -/
theorem notifies_of_body {action : Action} (orderId : Nat)
    (body : action.body tables now order = .ok (some written)) :
    Notifies orderId action written := by
  cases action with
  | markPaid =>
    change markPaid tables now order = _ at body
    unfold markPaid at body
    split at body
    · cases body
    · obtain ⟨moved, _, body⟩ := bind_eq_ok.mp body
      cases body
      exact ⟨by simpa using noticesOf_notifyRestaurant orderId tables _, fun _ => rfl⟩
  | cancelByCustomer user authHeader =>
    obtain ⟨seen, _, rest⟩ := bind_eq_ok.mp body
    dsimp only at rest
    split at rest
    · cases rest
    · obtain ⟨moved, _, rest⟩ := bind_eq_ok.mp rest
      cases rest
      exact .silent (by simp [noticesOf_ite])
  | acceptByRestaurant user =>
    obtain ⟨snapshot, _, rest⟩ := bind_eq_ok.mp body
    obtain ⟨moved, _, rest⟩ := bind_eq_ok.mp rest
    cases rest
    exact .silent (by simp)
  | rejectByRestaurant user reason authHeader =>
    obtain ⟨snapshot, _, rest⟩ := bind_eq_ok.mp body
    obtain ⟨moved, _, rest⟩ := bind_eq_ok.mp rest
    cases rest
    exact .silent (by simp)
  | advanceStatus user target =>
    obtain ⟨snapshot, _, rest⟩ := bind_eq_ok.mp body
    obtain ⟨moved, _, rest⟩ := bind_eq_ok.mp rest
    split at rest
    · cases rest
      exact .silent (by simp [noticesOf_ite])
    · cases rest
      exact .silent (by simp [noticesOf_ite])
  | driverAdvance target =>
    obtain ⟨moved, _, rest⟩ := bind_eq_ok.mp body
    cases rest
    exact .silent (by simp [noticesOf_ite])
  | expireUnpaidOrders =>
    change expireUnpaidOrder tables now order = _ at body
    unfold expireUnpaidOrder at body
    split at body
    · obtain ⟨moved, _, rest⟩ := bind_eq_ok.mp body
      cases rest
      exact .silent (by simp)
    · cases body
  | expirePendingAcceptances =>
    change expirePendingAcceptance tables now order = _ at body
    unfold expirePendingAcceptance at body
    split at body
    · obtain ⟨moved, _, rest⟩ := bind_eq_ok.mp body
      cases rest
      exact .silent (by simp)
    · cases body

/-- **What placing an order tells the kitchen**: at most one notice, and none of an order that waits
for its payment. -/
theorem notices_of_placeOrder {placed : Order} (orderId : Nat) (created : placed.status = .created)
    (place : placeOrder tables placed = .ok written) :
    (noticesOf orderId written.outbox).length ≤ 1 ∧
      (noticesOf orderId written.outbox ≠ [] → written.order.status ≠ .paymentPending) ∧
      written.order.status ≠ .created := by
  have order_eq := (placeOrder_ok created place).1
  obtain ⟨_, rest⟩ := bind_applyTransition_ok.mp place
  dsimp only at rest
  split at rest
  · rename_i cash
    obtain ⟨moved, _, rest⟩ := bind_eq_ok.mp rest
    cases rest
    rw [if_pos cash] at order_eq
    have paid := congrArg Order.status order_eq
    dsimp only at paid
    refine ⟨by simpa using noticesOf_notifyRestaurant orderId tables _, fun _ => ?_, ?_⟩
    · simp [paid]
    · simp [paid]
  · cases rest
    exact ⟨by simp, by simp, by simp⟩

/-! ### The order and everybody who works on it -/

/-- A read of the row by a transaction, and the status it found. -/
structure RowRead where
  tx : Nat
  action : Action
  status : OrderStatus
deriving DecidableEq

/-- A committed write of the row, and the status before and after it. -/
structure RowWrite where
  tx : Nat
  action : Action
  before : OrderStatus
  after : OrderStatus
deriving DecidableEq

/-- The read that the next step of transaction `i` makes. -/
def Race.reading (r : Race) (i : Nat) : Option RowRead :=
  match r.txs[i]? with
  | none => none
  | some tx =>
    match tx.phase with
    | .waiting =>
      if tx.action.locks = true ∧ r.holder ≠ none then none
      else some ⟨i, tx.action, r.row.status⟩
    | _ => none

/-- The write that it commits. -/
def Race.writing (r : Race) (i : Nat) : Option RowWrite :=
  match r.txs[i]? with
  | none => none
  | some tx =>
    match tx.phase with
    | .flushed read written =>
      some ⟨i, tx.action, r.row.status, (overwrite read written.order r.row).status⟩
    | _ => none

/-- Transaction `i` is over without a commit: it found no order, or it was cut off. -/
def Race.abandon (r : Race) (i : Nat) : Race :=
  match r.txs[i]? with
  | none => r
  | some tx =>
    { r with
      holder := if r.holder = some i then none else r.holder
      txs := r.setPhase i tx .done }

/-- An order, `placing` what `create_order_from_checkout` has decided to commit, and the other
transactions on its row; `reads` and `writes` are what these have read and committed so far. -/
structure Kitchen where
  placing : Except Raised Written
  committed : Bool := false
  race : Race
  reads : List RowRead := []
  writes : List RowWrite := []

/-- Whose turn it is: the commit of the new order, the next step of a transaction, or its end. -/
inductive Turn where
  | create
  | advance (i : Nat)
  | abandon (i : Nat)

def Kitchen.step (k : Kitchen) : Turn → Kitchen
  | .create =>
    match k.committed, k.placing with
    | false, .ok written =>
      { k with
        committed := true
        race := { k.race with row := written.order, outbox := k.race.outbox ++ written.outbox } }
    | _, _ => k
  | .advance i =>
    if k.committed = true then
      { k with
        race := k.race.step i
        reads := k.reads ++ (k.race.reading i).toList
        writes := k.writes ++ (k.race.writing i).toList }
    else { k with race := k.race.abandon i }
  | .abandon i => { k with race := k.race.abandon i }

/-- A checkout that is about to commit, and requests that have not begun. The row stands there with
what was inserted; nobody sees it before the commit. -/
def Kitchen.start (tables : State) (placed : Order) (requests : List (Action × Timestamp)) :
    Kitchen where
  placing := placeOrder tables placed
  race := Race.start tables placed requests

/-- The committed `mark_paid` calls that have changed the order's status. -/
def Kitchen.payments (k : Kitchen) : List RowWrite :=
  k.writes.filter fun write => write.action = .markPaid ∧ write.after ≠ write.before

/-- **The kitchen is told once**: one notice, one payment, and nothing from a `mark_paid` that found
the order past PAYMENT_PENDING. -/
structure ToldOnce (orderId : Nat) (k : Kitchen) : Prop where
  notices : (noticesOf orderId k.race.outbox).length ≤ 1
  payments : k.payments.length ≤ 1
  untouched : ∀ read ∈ k.reads, read.action = .markPaid → read.status ≠ .paymentPending →
    ∀ write ∈ k.writes, write.tx ≠ read.tx

/-! ### The invariant -/

/-- What a transaction has decided, until it is over. -/
def Tx.decision (tx : Tx) : Option (Order × Written) :=
  match tx.phase with
  | .decided read written => some (read, written)
  | .flushed read written => some (read, written)
  | _ => none

/-- Nothing has told the kitchen yet, and no payment was booked. -/
def Kitchen.Silent (orderId : Nat) (k : Kitchen) : Prop :=
  noticesOf orderId k.race.outbox = [] ∧ k.payments = []

structure Kitchen.Kept (orderId : Nat) (k : Kitchen) : Prop extends ToldOnce orderId k where
  coherent : Coherent k.race
  unseen : k.committed = false → k.race.outbox = [] ∧ k.writes = [] ∧
    ∀ (j : Nat) (tx : Tx), k.race.txs[j]? = some tx → tx.decision = none
  placing : ∀ written, k.placing = .ok written →
    (noticesOf orderId written.outbox).length ≤ 1 ∧
      (noticesOf orderId written.outbox ≠ [] → written.order.status ≠ .paymentPending) ∧
      written.order.status ≠ .created
  begun : k.committed = true → k.race.row.status ≠ .created
  decided : ∀ (j : Nat) (tx : Tx) (read : Order) (written : Written), k.race.txs[j]? = some tx →
    tx.decision = some (read, written) →
    read.status ≠ .created ∧ Notifies orderId tx.action written
  held : ∀ (j : Nat) (tx : Tx) (read : Order) (written : Written), k.race.txs[j]? = some tx →
    tx.phase = .flushed read written → tx.action.locks = true → k.race.row = read
  past : k.race.row.status = .paymentPending → k.committed = true → k.Silent orderId
  finished : ∀ read ∈ k.reads, read.action = .markPaid → read.status ≠ .paymentPending →
    ∃ tx, k.race.txs[read.tx]? = some tx ∧ tx.phase = .done
  wrote : ∀ write ∈ k.writes, ∃ tx, k.race.txs[write.tx]? = some tx ∧ tx.phase = .done

/-! ### What one turn can do -/

/-- The outcomes of a turn. -/
inductive Kitchen.Moves (k : Kitchen) : Kitchen → Prop
  | idle : k.Moves k
  | create (written : Written) (open_ : k.committed = false) (placing : k.placing = .ok written) :
    k.Moves
      { k with
        committed := true
        race := { k.race with row := written.order, outbox := k.race.outbox ++ written.outbox } }
  | abandon (i : Nat) (tx : Tx) (present : k.race.txs[i]? = some tx) :
    k.Moves
      { k with
        race :=
          { k.race with
            holder := if k.race.holder = some i then none else k.race.holder
            txs := k.race.setPhase i tx .done } }
  | refused (i : Nat) (tx : Tx) (committed : k.committed = true)
      (present : k.race.txs[i]? = some tx) (phase : tx.phase = .waiting) :
    k.Moves
      { k with
        race := { k.race with txs := k.race.setPhase i tx .done }
        reads := k.reads ++ [⟨i, tx.action, k.race.row.status⟩] }
  | read (i : Nat) (tx : Tx) (written : Written) (committed : k.committed = true)
      (present : k.race.txs[i]? = some tx) (phase : tx.phase = .waiting)
      (body : tx.action.body k.race.tables tx.now k.race.row = .ok (some written)) :
    k.Moves
      { k with
        race :=
          { k.race with
            holder := if tx.action.locks then some i else k.race.holder
            txs := k.race.setPhase i tx (.decided k.race.row written) }
        reads := k.reads ++ [⟨i, tx.action, k.race.row.status⟩] }
  | flush (i : Nat) (tx : Tx) (read : Order) (written : Written) (committed : k.committed = true)
      (present : k.race.txs[i]? = some tx) (phase : tx.phase = .decided read written) :
    k.Moves
      { k with
        race :=
          { k.race with
            holder := some i
            txs := k.race.setPhase i tx (.flushed read written)
            releases := k.race.releases ++ written.release.toList } }
  | commit (i : Nat) (tx : Tx) (read : Order) (written : Written) (committed : k.committed = true)
      (present : k.race.txs[i]? = some tx) (phase : tx.phase = .flushed read written) :
    k.Moves
      { k with
        race :=
          { k.race with
            row := overwrite read written.order k.race.row
            holder := none
            txs := k.race.setPhase i tx .done
            outbox := k.race.outbox ++ written.outbox
            changes := k.race.changes ++
              [(k.race.row.status, (overwrite read written.order k.race.row).status)] }
        writes := k.writes ++ [⟨i, tx.action, k.race.row.status,
          (overwrite read written.order k.race.row).status⟩] }

theorem Kitchen.moves_abandon (k : Kitchen) (i : Nat) :
    k.Moves { k with race := k.race.abandon i } := by
  unfold Race.abandon
  split
  · exact .idle
  · rename_i tx present
    exact .abandon i tx present

theorem Kitchen.moves_advance (k : Kitchen) (i : Nat) (committed : k.committed = true) :
    k.Moves
      { k with
        race := k.race.step i
        reads := k.reads ++ (k.race.reading i).toList
        writes := k.writes ++ (k.race.writing i).toList } := by
  unfold Race.step
  split
  · rename_i absent
    simpa [Race.reading, Race.writing, absent] using Kitchen.Moves.idle
  · rename_i tx present
    split
    · rename_i waiting
      split
      · rename_i held
        simpa [Race.reading, Race.writing, present, waiting, held] using Kitchen.Moves.idle
      · rename_i free
        have reading : k.race.reading i = some ⟨i, tx.action, k.race.row.status⟩ := by
          simp [Race.reading, present, waiting, free]
        have writing : k.race.writing i = none := by simp [Race.writing, present, waiting]
        rw [reading, writing]
        split
        · rename_i written body
          simpa using Kitchen.Moves.read i tx written committed present waiting body
        · simpa using Kitchen.Moves.refused i tx committed present waiting
    · rename_i read written decided
      have reading : k.race.reading i = none := by simp [Race.reading, present, decided]
      have writing : k.race.writing i = none := by simp [Race.writing, present, decided]
      rw [reading, writing]
      split
      · simpa using Kitchen.Moves.flush i tx read written committed present decided
      · simpa using Kitchen.Moves.idle
    · rename_i read written flushed
      have reading : k.race.reading i = none := by simp [Race.reading, present, flushed]
      have writing : k.race.writing i = some ⟨i, tx.action, k.race.row.status,
          (overwrite read written.order k.race.row).status⟩ := by
        simp [Race.writing, present, flushed]
      rw [reading, writing]
      simpa using Kitchen.Moves.commit i tx read written committed present flushed
    · rename_i finished
      simpa [Race.reading, Race.writing, present, finished] using Kitchen.Moves.idle

theorem Kitchen.moves (k : Kitchen) (turn : Turn) : k.Moves (k.step turn) := by
  cases turn with
  | create =>
    unfold Kitchen.step
    dsimp only
    split
    · rename_i written open_ placing
      exact .create written open_ placing
    · exact .idle
  | advance i =>
    unfold Kitchen.step
    dsimp only
    split
    · rename_i committed
      exact k.moves_advance i committed
    · exact k.moves_abandon i
  | abandon i => exact k.moves_abandon i

/-! ### One turn keeps it -/

variable {orderId : Nat} {k : Kitchen}

theorem coherent_abandon {r : Race} (i : Nat) (coherent : Coherent r) : Coherent (r.abandon i) := by
  unfold Race.abandon
  split
  · exact coherent
  · rename_i tx present
    intro j other found
    rcases of_setPhase found with ⟨_, rfl⟩ | ⟨different, old⟩
    · trivial
    · refine (coherent j other old).frame rfl fun held => ⟨?_, rfl⟩
      show (if r.holder = some i then none else r.holder) = some j
      rw [if_neg, held]
      rw [held]
      exact fun same => different (Option.some.inj same)

/-- A transaction that has decided nothing fits any row. -/
theorem coherent_of_undecided (r : Race) {j : Nat} {tx : Tx} (undecided : tx.decision = none) :
    tx.Coherent r j := by
  cases phase : tx.phase with
  | decided read written => simp [Tx.decision, phase] at undecided
  | flushed read written => simp [Tx.decision, phase] at undecided
  | waiting | done => simp [Tx.Coherent, phase]

theorem Kitchen.Kept.coherent_step (kept : k.Kept orderId) (turn : Turn) :
    Coherent (k.step turn).race := by
  cases turn with
  | create =>
    unfold Kitchen.step
    dsimp only
    split
    · rename_i written open_ placing
      intro j tx present
      exact coherent_of_undecided _ ((kept.unseen open_).2.2 j tx present)
    · exact kept.coherent
  | advance i =>
    unfold Kitchen.step
    dsimp only
    split
    · exact Orders.coherent_step i kept.coherent
    · exact coherent_abandon i kept.coherent
  | abandon i => exact coherent_abandon i kept.coherent

/-- Who is done is not a transaction that is still going. -/
theorem ne_of_done {r : Race} {i j : Nat} {tx : Tx} (present : r.txs[i]? = some tx)
    (going : tx.phase ≠ .done) (done : ∃ other, r.txs[j]? = some other ∧ other.phase = .done) :
    j ≠ i := by
  rintro rfl
  obtain ⟨other, found, finished⟩ := done
  rw [present] at found
  cases found
  exact going finished

/-- Who is done stays done while another takes a step. -/
theorem done_setPhase {r : Race} {i j : Nat} {tx : Tx} {phase : Phase}
    (present : r.txs[i]? = some tx) (alive : tx.phase ≠ .done ∨ phase = .done)
    (done : ∃ other, r.txs[j]? = some other ∧ other.phase = .done) :
    ∃ other, (r.setPhase i tx phase)[j]? = some other ∧ other.phase = .done := by
  by_cases same : j = i
  · subst same
    refine ⟨_, setPhase_self present phase, ?_⟩
    exact alive.resolve_left fun going => ne_of_done present going done rfl
  · obtain ⟨other, found, finished⟩ := done
    exact ⟨other, (setPhase_other r tx phase same).trans found, finished⟩

/-- **A step that commits nothing**: it moves one transaction on, and may record what it read. -/
theorem Kitchen.Kept.frame (kept : k.Kept orderId) {i : Nat} {tx : Tx} {phase : Phase}
    (present : k.race.txs[i]? = some tx) {race : Race} {reads : List RowRead}
    (coherent : Coherent race) (txs : race.txs = k.race.setPhase i tx phase)
    (row : race.row = k.race.row) (outbox : race.outbox = k.race.outbox)
    (alive : tx.phase ≠ .done ∨ phase = .done)
    (unseen : k.committed = false → ({ tx with phase := phase } : Tx).decision = none)
    (decided : ∀ read written, ({ tx with phase := phase } : Tx).decision = some (read, written) →
      read.status ≠ .created ∧ Notifies orderId tx.action written)
    (held : ∀ read written, phase = .flushed read written → tx.action.locks = true →
      k.race.row = read)
    (extra : ∀ read ∈ reads, read ∈ k.reads ∨ (read.tx = i ∧ tx.phase ≠ .done ∧
      (read.action = .markPaid → read.status ≠ .paymentPending → phase = .done))) :
    Kitchen.Kept orderId { k with race := race, reads := reads } where
  coherent := coherent
  notices := by
    rw [outbox]
    exact kept.notices
  payments := kept.payments
  untouched := by
    intro read member paying past write written
    rcases extra read member with old | ⟨rfl, going, _⟩
    · exact kept.untouched read old paying past write written
    · -- a transaction that has written is done
      exact ne_of_done present going (kept.wrote write written)
  unseen := by
    intro open_
    obtain ⟨quiet, none_written, undecided⟩ := kept.unseen open_
    refine ⟨outbox.trans quiet, none_written, fun j other found => ?_⟩
    rw [txs] at found
    rcases of_setPhase found with ⟨_, rfl⟩ | ⟨_, old⟩
    · exact unseen open_
    · exact undecided j other old
  placing := kept.placing
  begun := by
    rw [row]
    exact kept.begun
  decided := by
    intro j other read written found decision
    rw [txs] at found
    rcases of_setPhase found with ⟨_, rfl⟩ | ⟨_, old⟩
    · exact decided read written decision
    · exact kept.decided j other read written old decision
  held := by
    intro j other read written found flushed locks
    rw [row]
    rw [txs] at found
    rcases of_setPhase found with ⟨_, rfl⟩ | ⟨_, old⟩
    · exact held read written flushed locks
    · exact kept.held j other read written old flushed locks
  past := by
    intro pending committed
    rw [row] at pending
    unfold Kitchen.Silent
    rw [outbox]
    exact kept.past pending committed
  finished := by
    intro read member paying past
    rw [txs]
    rcases extra read member with old | ⟨rfl, _, refused⟩
    · exact done_setPhase present alive (kept.finished read old paying past)
    · exact ⟨_, setPhase_self present phase, refused paying past⟩
  wrote := by
    intro write member
    rw [txs]
    exact done_setPhase present alive (kept.wrote write member)

/-- A commit moves the row to its action's target, which is neither CREATED nor PAYMENT_PENDING. -/
theorem advanced_of_legal {current target : OrderStatus} (legal : target ∈ allowed current)
    (begun : current ≠ .created) : target ≠ .created ∧ target ≠ .paymentPending := by
  revert legal begun
  cases current <;> cases target <;> decide

theorem Kitchen.Kept.create (kept : k.Kept orderId) (open_ : k.committed = false)
    (placing : k.placing = .ok written)
    (coherent : Coherent
      { k.race with row := written.order, outbox := k.race.outbox ++ written.outbox }) :
    Kitchen.Kept orderId
      { k with
        committed := true
        race := { k.race with row := written.order, outbox := k.race.outbox ++ written.outbox } } := by
  obtain ⟨quiet, none_written, undecided⟩ := kept.unseen open_
  obtain ⟨once, waiting, begun⟩ := kept.placing written placing
  have outbox : k.race.outbox ++ written.outbox = written.outbox := by simp [quiet]
  have none_decided : ∀ (j : Nat) (tx : Tx) (read : Order) (written : Written),
      k.race.txs[j]? = some tx → tx.decision ≠ some (read, written) := by
    intro j tx read written found decision
    rw [undecided j tx found] at decision
    cases decision
  refine
    { kept with
      coherent
      notices := by rw [outbox]; exact once
      unseen := fun closed => by cases closed
      begun := fun _ => begun
      decided := fun j tx read written found decision =>
        absurd decision (none_decided j tx read written found)
      held := ?_
      past := ?_ }
  · intro j tx read written found flushed _
    refine absurd ?_ (none_decided j tx read written found)
    simp [Tx.decision, flushed]
  · intro pending _
    constructor
    · show noticesOf orderId (k.race.outbox ++ written.outbox) = []
      rw [outbox]
      by_contra told
      exact waiting told pending
    · show k.writes.filter _ = []
      rw [none_written, List.filter_nil]

/-- **What a commit adds**: a `mark_paid` has held the row since it found it PAYMENT_PENDING, so it is
the first to tell the kitchen; nobody else does. -/
theorem Kitchen.Kept.adds (kept : k.Kept orderId) {i : Nat} {tx : Tx} {read : Order}
    (committed : k.committed = true) (present : k.race.txs[i]? = some tx)
    (phase : tx.phase = .flushed read written) :
    tx.action ≠ .markPaid ∧ noticesOf orderId written.outbox = [] ∨ k.Silent orderId := by
  have decision : tx.decision = some (read, written) := by simp [Tx.decision, phase]
  have notifies := (kept.decided i tx read written present decision).2
  by_cases pays : tx.action = .markPaid
  · have performed := (kept.coherent.flushed present phase).1
    have row := kept.held i tx read written present phase (by rw [pays]; rfl)
    have demanded := performed.demanded
    rw [pays] at demanded
    exact Or.inr (kept.past ((congrArg Order.status row).trans demanded) committed)
  · refine Or.inl ⟨pays, ?_⟩
    by_contra told
    exact pays (notifies.paying told)

/-- So there is still at most one notice. -/
theorem Kitchen.Kept.notices_commit (kept : k.Kept orderId) {i : Nat} {tx : Tx} {read : Order}
    (committed : k.committed = true) (present : k.race.txs[i]? = some tx)
    (phase : tx.phase = .flushed read written) :
    (noticesOf orderId (k.race.outbox ++ written.outbox)).length ≤ 1 := by
  have decision : tx.decision = some (read, written) := by simp [Tx.decision, phase]
  rw [noticesOf_append]
  rcases kept.adds committed present phase with ⟨_, none_there⟩ | ⟨none_yet, _⟩
  · rw [none_there, List.append_nil]
    exact kept.notices
  · rw [none_yet, List.nil_append]
    exact (kept.decided i tx read written present decision).2.once

/-- And at most one payment. -/
theorem Kitchen.Kept.payments_commit (kept : k.Kept orderId) {i : Nat} {tx : Tx} {read : Order}
    (committed : k.committed = true) (present : k.race.txs[i]? = some tx)
    (phase : tx.phase = .flushed read written) (race : Race) (before after : OrderStatus) :
    ({ k with race := race, writes := k.writes ++ [⟨i, tx.action, before, after⟩] } :
      Kitchen).payments.length ≤ 1 := by
  show ((k.writes ++ [_]).filter _).length ≤ 1
  rw [List.filter_append]
  rcases kept.adds committed present phase with ⟨other, _⟩ | ⟨_, none_yet⟩
  · simpa [other, Kitchen.payments] using kept.payments
  · unfold Kitchen.payments at none_yet
    rw [none_yet, List.nil_append]
    exact List.length_filter_le _ _

theorem Kitchen.Kept.commit (kept : k.Kept orderId) {i : Nat} {tx : Tx} {read : Order}
    (committed : k.committed = true) (present : k.race.txs[i]? = some tx)
    (phase : tx.phase = .flushed read written) {race : Race} (coherent : Coherent race)
    (txs : race.txs = k.race.setPhase i tx .done) (nobody : race.holder = none)
    (row : race.row = overwrite read written.order k.race.row)
    (outbox : race.outbox = k.race.outbox ++ written.outbox) :
    Kitchen.Kept orderId
      { k with
        race := race
        writes := k.writes ++ [⟨i, tx.action, k.race.row.status, race.row.status⟩] } := by
  have decision : tx.decision = some (read, written) := by simp [Tx.decision, phase]
  have begun := (kept.decided i tx read written present decision).1
  have performed := (kept.coherent.flushed present phase).1
  have status : race.row.status = tx.action.target := by
    rw [row]
    exact overwrite_status performed k.race.row
  obtain ⟨not_created, not_pending⟩ := advanced_of_legal performed.legal begun
  refine
    { coherent
      notices := ?_
      payments := ?_
      untouched := ?_
      unseen := fun open_ => ?_
      placing := kept.placing
      begun := fun _ => ?_
      decided := ?_
      held := ?_
      past := ?_
      finished := ?_
      wrote := ?_ }
  · show (noticesOf orderId race.outbox).length ≤ 1
    rw [outbox]
    exact kept.notices_commit committed present phase
  · exact kept.payments_commit committed present phase race _ _
  · intro found member paying past write written
    rcases List.mem_append.mp written with old | new
    · exact kept.untouched found member paying past write old
    · -- who found the order past PAYMENT_PENDING is done, and this one was not
      rw [List.mem_singleton.mp new]
      exact (ne_of_done present (by simp [phase]) (kept.finished found member paying past)).symm
  · rw [committed] at open_
    cases open_
  · rw [status]
    exact not_created
  · intro j other read' written' found decision'
    rw [txs] at found
    rcases of_setPhase found with ⟨_, rfl⟩ | ⟨_, old⟩
    · cases decision'
    · exact kept.decided j other read' written' old decision'
  · intro j other read' written' found flushed _
    have holds := (coherent.flushed found flushed).2
    rw [nobody] at holds
    cases holds
  · intro pending _
    exact absurd (status.symm.trans pending) not_pending
  · intro found member paying past
    show ∃ other, race.txs[found.tx]? = some other ∧ _
    rw [txs]
    exact done_setPhase present (Or.inr rfl) (kept.finished found member paying past)
  · intro write member
    show ∃ other, race.txs[write.tx]? = some other ∧ _
    rw [txs]
    rcases List.mem_append.mp member with old | new
    · exact done_setPhase present (Or.inr rfl) (kept.wrote write old)
    · rw [List.mem_singleton.mp new]
      exact ⟨_, setPhase_self present _, rfl⟩

/-- **One turn.** -/
theorem Kitchen.kept_step (turn : Turn) (kept : k.Kept orderId) : (k.step turn).Kept orderId := by
  have coherent := kept.coherent_step turn
  have moves := k.moves turn
  revert moves coherent
  generalize k.step turn = next
  intro coherent moves
  cases moves with
  | idle => exact kept
  | create written open_ placing => exact kept.create open_ placing coherent
  | abandon i tx present =>
    exact kept.frame present coherent rfl rfl rfl (Or.inr rfl) (fun _ => rfl)
      (fun _ _ decision => by cases decision) (fun _ _ flushed => by cases flushed)
      fun _ member => Or.inl member
  | refused i tx committed present waiting =>
    refine kept.frame present coherent rfl rfl rfl (Or.inr rfl) (fun _ => rfl)
      (fun _ _ decision => by cases decision) (fun _ _ flushed => by cases flushed)
      fun read member => ?_
    rcases List.mem_append.mp member with old | new
    · exact Or.inl old
    · rw [List.mem_singleton.mp new]
      exact Or.inr ⟨rfl, by simp [waiting], fun _ _ => rfl⟩
  | read i tx written committed present waiting body =>
    refine kept.frame present coherent rfl rfl rfl (Or.inl (by simp [waiting]))
      (fun open_ => ?_) (fun read written' decision => ?_) (fun _ _ flushed => by cases flushed)
      fun read member => ?_
    · rw [committed] at open_
      cases open_
    · cases decision
      exact ⟨kept.begun committed, notifies_of_body orderId body⟩
    · rcases List.mem_append.mp member with old | new
      · exact Or.inl old
      · rw [List.mem_singleton.mp new]
        refine Or.inr ⟨rfl, by simp [waiting], fun paying past => absurd ?_ past⟩
        -- a `mark_paid` that goes on has found the order waiting for its payment
        have demanded := (performed_of_body body).demanded
        dsimp only at paying
        rw [paying] at demanded
        exact demanded
  | flush i tx read written committed present decided =>
    have decision : tx.decision = some (read, written) := by simp [Tx.decision, decided]
    refine kept.frame present coherent rfl rfl rfl (Or.inl (by simp [decided]))
      (fun open_ => ?_) (fun read' written' same => ?_) (fun read' written' flushed locks => ?_)
      fun _ member => Or.inl member
    · rw [committed] at open_
      cases open_
    · cases same
      exact kept.decided i tx read written present decision
    · cases flushed
      exact ((kept.coherent.decided present decided).2 locks).2
  | commit i tx read written committed present flushed =>
    exact kept.commit committed present flushed coherent rfl rfl rfl rfl

theorem Kitchen.kept_start (tables : State) (id customerId : Nat) (request : CheckoutRequest)
    (validated : ValidatedOrder) (now : Timestamp) (requests : List (Action × Timestamp)) :
    (Kitchen.start tables (newOrder id customerId request validated now) requests).Kept id where
  coherent := coherent_start tables _ requests
  notices := Nat.zero_le 1
  payments := Nat.zero_le 1
  untouched := by simp [Kitchen.start]
  unseen := by
    intro _
    refine ⟨rfl, rfl, fun j tx found => ?_⟩
    simp only [Kitchen.start, Race.start, List.getElem?_map, Option.map_eq_some_iff] at found
    obtain ⟨request, _, rfl⟩ := found
    rfl
  placing := fun _ place => notices_of_placeOrder id rfl place
  begun := fun committed => by cases committed
  decided := by
    intro j tx read written found decision
    simp only [Kitchen.start, Race.start, List.getElem?_map, Option.map_eq_some_iff] at found
    obtain ⟨request, _, rfl⟩ := found
    cases decision
  held := by
    intro j tx read written found flushed
    simp only [Kitchen.start, Race.start, List.getElem?_map, Option.map_eq_some_iff] at found
    obtain ⟨request, _, rfl⟩ := found
    cases flushed
  past := fun _ committed => by cases committed
  finished := by simp [Kitchen.start]
  wrote := by simp [Kitchen.start]

/-- **The kitchen is told once.** For every order and payment method, and every interleaving of the
commit that places it with any number of payments, state changes and sweeps, any of them cut off
anywhere: at most one `order.new` notice is committed, at most one `mark_paid` changes the status,
and a `mark_paid` that finds the order past PAYMENT_PENDING writes nothing. -/
theorem toldOnce_always (tables : State) (id customerId : Nat) (request : CheckoutRequest)
    (validated : ValidatedOrder) (now : Timestamp) (requests : List (Action × Timestamp))
    (turns : List Turn) :
    Always Kitchen.step (ToldOnce id)
      (Kitchen.start tables (newOrder id customerId request validated now) requests) turns := by
  have kept : Always Kitchen.step (Kitchen.Kept id)
      (Kitchen.start tables (newOrder id customerId request validated now) requests) turns :=
    always_of_step (fun _ turn kept => Kitchen.kept_step turn kept)
      (Kitchen.kept_start tables id customerId request validated now requests)
  exact kept.mono fun _ kept => kept.toToldOnce

end FoodDelivery.Orders
