/-
**The operations of the delivery service as overlapping transactions**, under READ COMMITTED.

A driver's action reads its row `FOR UPDATE` and holds it until its commit; a pick of a driver reads the
busy drivers with no lock; an assignment inserts, and the unique order id refuses the second; an
override reads its row with no lock and writes, at its commit, the columns that differ from what it
read. `run_alone` says that a transaction with nothing in between is the operation of `State.step`.
-/

import FoodDelivery.Deliveries.Runs
import FoodDelivery.Lib.Slots

set_option autoImplicit false

namespace FoodDelivery.Deliveries

open FoodDelivery.Lib

/-! ### Transactions -/

/-- What a transaction does. -/
inductive Request where
  | assign (orderId : Nat) (redis : Option Nearby)
  | accept (driverId orderId : Nat)
  | reject (driverId orderId : Nat) (redis : Option Nearby)
  | pickup (driverId orderId : Nat)
  | deliver (driverId orderId : Nat)
  | reassign (caller : Identity) (orderId newDriverId : Nat)

/-- The operation that it is, with nothing in between. -/
def Request.operation : Request → Operation
  | .assign orderId redis => .assignForOrder orderId redis
  | .accept driverId orderId => .acceptAssignment driverId orderId
  | .reject driverId orderId redis => .rejectAssignment driverId orderId redis
  | .pickup driverId orderId => .pickup driverId orderId
  | .deliver driverId orderId => .deliver driverId orderId
  | .reassign caller orderId newDriverId => .reassignDeliveryForOrder caller orderId newDriverId

def Request.orderId : Request → Nat
  | .assign orderId _ | .accept _ orderId | .reject _ orderId _ | .pickup _ orderId
  | .deliver _ orderId | .reassign _ orderId _ => orderId

/-- It reads its row `FOR UPDATE`. -/
def Request.locks : Request → Bool
  | .accept _ _ | .reject _ _ _ | .pickup _ _ | .deliver _ _ => true
  | .assign _ _ | .reassign _ _ _ => false

/-- It puts a driver on the delivery, picked or named. -/
def Request.assigns : Request → Bool
  | .assign _ _ | .reject _ _ _ | .reassign _ _ _ => true
  | .accept _ _ | .pickup _ _ | .deliver _ _ => false

/-- What Redis answers to a pick. -/
def Request.redis : Request → Option Nearby
  | .assign _ redis | .reject _ _ redis => redis
  | _ => none

/-- Who is passed over in a pick. -/
def Request.exclude : Request → Option Nat
  | .reject driverId _ _ => some driverId
  | _ => none

/-- Where a transaction stands. `loaded` is the row as it read it, none for an insert, and `base` the
delivery that a driver is being picked for. -/
inductive Phase where
  | waiting
  | picking (loaded : Option Delivery) (base : Delivery)
  | choosing (loaded : Option Delivery) (base : Delivery)
  | writing (loaded : Option Delivery) (written : Written)
  | done

structure Transaction where
  request : Request
  now : Timestamp
  phase : Phase := .waiting

/-- The order whose row a transaction holds. -/
def Transaction.holds (t : Transaction) : Option Nat :=
  match t.phase with
  | .waiting | .done => none
  | .picking _ _ | .choosing _ _ | .writing _ _ =>
    if t.request.locks then some t.request.orderId else none

/-- The database and the transactions on it. -/
structure Race where
  db : State
  transactions : List Transaction

/-- Somebody holds the row of an order. -/
def Race.held (r : Race) (orderId : Nat) : Bool :=
  r.transactions.any fun t => t.holds = some orderId

/-! ### One step -/

/-- What a driver's action has to write, once it has its row. -/
def Phase.ofBody (row : Except Raised Delivery) (body : Delivery → Except Raised Written) : Phase :=
  match row with
  | .error _ => .done
  | .ok delivery =>
    match body delivery with
    | .error _ => .done
    | .ok written => .writing (some delivery) written

/-- What a transaction has read after its first read. -/
def Transaction.begin (db : State) (t : Transaction) : Phase :=
  match t.request with
  | .assign orderId _ =>
    match db.deliveries.find? orderId with
    | some _ => .done
    | none => .picking none (newDelivery orderId (db.snapshots.find? orderId))
  | .accept driverId orderId => .ofBody (ownedActive db driverId orderId) (accepted t.now)
  | .reject driverId orderId _ =>
    match ownedActive db driverId orderId with
    | .error _ => .done
    | .ok delivery =>
      match released delivery with
      | .error _ => .done
      | .ok free => .picking (some delivery) free
  | .pickup driverId orderId => .ofBody (ownedActive db driverId orderId) (pickedUp t.now)
  | .deliver driverId orderId => .ofBody (ownedActive db driverId orderId) (delivered t.now)
  | .reassign caller orderId newDriverId =>
    match db.deliveries.find? orderId with
    | none => .done
    | some delivery =>
      match ownedOrder db caller orderId, activeDriver db newDriverId with
      | .ok (), .ok () =>
        .writing (some delivery)
          (reassigned (db.snapshots.find? orderId) newDriverId t.now delivery)
      | _, _ => .done

/-- What the status of a delivery reads while a driver is picked for it: nothing, when it is new. -/
def statusRead (loaded : Option Delivery) (base : Delivery) : Option DeliveryStatus :=
  loaded.map fun _ => base.status

/-- The name on an offer. -/
def Transaction.restaurantName (db : State) (t : Transaction) : Option String :=
  (db.snapshots.find? t.request.orderId).bind OrderSnapshot.restaurantName

/-- An `UPDATE` of the columns that differ from what was loaded. -/
def overwrite (loaded written current : Delivery) : Delivery where
  orderId := current.orderId
  driverId := if written.driverId = loaded.driverId then current.driverId else written.driverId
  status := if written.status = loaded.status then current.status else written.status
  restaurantName :=
    if written.restaurantName = loaded.restaurantName then current.restaurantName
    else written.restaurantName
  items := if written.items = loaded.items then current.items else written.items
  orderTotal := if written.orderTotal = loaded.orderTotal then current.orderTotal else written.orderTotal
  assignedAt := if written.assignedAt = loaded.assignedAt then current.assignedAt else written.assignedAt
  acceptedAt := if written.acceptedAt = loaded.acceptedAt then current.acceptedAt else written.acceptedAt
  pickedUpAt := if written.pickedUpAt = loaded.pickedUpAt then current.pickedUpAt else written.pickedUpAt
  deliveredAt :=
    if written.deliveredAt = loaded.deliveredAt then current.deliveredAt else written.deliveredAt

/-- What a transaction that is at its commit commits; an insert of an order id that is there is refused
and rolled back. -/
def Transaction.commits (db : State) (t : Transaction) : Option Written :=
  match t.phase, db.deliveries.find? t.request.orderId with
  | .writing none written, none => some written
  | .writing (some loaded) written, some current =>
    some { written with delivery := overwrite loaded written.delivery current }
  | _, _ => none

/-- A transaction that needs a row somebody else holds waits: a driver's action at its first read, an
override at its `UPDATE`. -/
def Race.waits (r : Race) (t : Transaction) : Bool :=
  match t.phase with
  | .waiting => t.request.locks && r.held t.request.orderId
  | .writing (some _) _ => !t.request.locks && r.held t.request.orderId
  | _ => false

/-- Where a transaction goes from where it stands. -/
def Transaction.advance (db : State) (t : Transaction) : Phase :=
  match t.phase with
  | .waiting => t.begin db
  | .picking loaded base =>
    match pickNearest db (db.snapshots.find? t.request.orderId) t.request.redis t.request.exclude with
    | .error _ => .done
    | .ok none => .choosing loaded base
    | .ok (some driver) =>
      .writing loaded (offer base (statusRead loaded base) (t.restaurantName db) (some driver) t.now)
  | .choosing loaded base =>
    .writing loaded (offer base (statusRead loaded base) (t.restaurantName db)
      (pickAny db t.request.exclude) t.now)
  | .writing _ _ => .done
  | .done => .done

/-- The next step of transaction `i`. -/
def Race.step (r : Race) (i : Nat) : Race :=
  match r.transactions[i]? with
  | none => r
  | some t =>
    if r.waits t then r
    else
      { db := (t.commits r.db).elim r.db r.db.commit
        transactions := r.transactions.set i { t with phase := t.advance r.db } }

/-- A database without deliveries, and transactions that have not begun. -/
def Race.start (db : State) (requests : List (Request × Timestamp)) : Race where
  db := { db with deliveries := .empty }
  transactions := requests.map fun request => { request := request.1, now := request.2 }

/-! ### A transaction with nothing in between -/

variable {db : State} {t : Transaction}

@[simp] theorem overwrite_self (loaded written : Delivery) (own : written.orderId = loaded.orderId) :
    overwrite loaded written loaded = written := by
  obtain ⟨orderId, driverId, status, name, items, total, assigned, accepted, picked, delivered⟩ := written
  simp only at own
  simp only [overwrite, ite_eq_right_iff, own, Delivery.mk.injEq, true_and]
  refine ⟨?_, ?_, ?_, ?_, ?_, ?_, ?_, ?_, ?_⟩ <;> exact fun same => same.symm

/-- It waits for nobody. -/
theorem waits_alone (db : State) (t : Transaction) : (Race.mk db [t]).waits t = false := by
  obtain ⟨request, now, phase⟩ := t
  cases phase with
  | waiting => simp [Race.waits, Race.held, Transaction.holds]
  | writing loaded written =>
    cases loaded with
    | none => rfl
    | some row => cases locks : request.locks <;> simp [Race.waits, Race.held, Transaction.holds, locks]
  | _ => rfl

theorem step_alone (db : State) (t : Transaction) :
    (Race.mk db [t]).step 0 =
      ⟨(t.commits db).elim db db.commit, [{ t with phase := t.advance db }]⟩ := by
  unfold Race.step
  simp only [List.getElem?_cons_zero, waits_alone]
  rfl

/-- One that has nothing more to do does nothing. -/
theorem step_done (db : State) (request : Request) (now : Timestamp) :
    (Race.mk db [⟨request, now, .done⟩]).step 0 = ⟨db, [⟨request, now, .done⟩]⟩ := by
  rw [step_alone]
  rfl

/-- One that has read and decided commits what it decided. -/
theorem step_writing (db : State) (request : Request) (now : Timestamp) {delivery : Delivery}
    {written : Written} (found : db.deliveries.find? request.orderId = some delivery)
    (own : written.delivery.orderId = request.orderId) :
    (Race.mk db [⟨request, now, .writing (some delivery) written⟩]).step 0 =
      ⟨db.commit written, [⟨request, now, .done⟩]⟩ := by
  have same : overwrite delivery written.delivery delivery = written.delivery :=
    overwrite_self delivery written.delivery (own.trans (Table.key_of_find? found).symm)
  rw [step_alone]
  simp [Transaction.commits, Transaction.advance, found, same]

theorem step_inserting (db : State) (request : Request) (now : Timestamp) (written : Written)
    (absent : db.deliveries.find? request.orderId = none) :
    (Race.mk db [⟨request, now, .writing none written⟩]).step 0 =
      ⟨db.commit written, [⟨request, now, .done⟩]⟩ := by
  rw [step_alone]
  simp [Transaction.commits, Transaction.advance, absent]

/-- A pick, from where the busy drivers are read to the commit. -/
theorem run_picking (db : State) (request : Request) (now : Timestamp) (loaded : Option Delivery)
    (base : Delivery) (found : db.deliveries.find? request.orderId = loaded)
    (own : base.orderId = request.orderId) :
    (run Race.step (Race.mk db [⟨request, now, .picking loaded base⟩]) [0, 0, 0]).db =
      orElse db (do
        let driver ← pickDriver db (db.snapshots.find? request.orderId) request.redis request.exclude
        return db.commit (offer base (statusRead loaded base)
          ((db.snapshots.find? request.orderId).bind OrderSnapshot.restaurantName) driver now)) := by
  have commits : ∀ written : Written, written.delivery.orderId = request.orderId →
      (Race.mk db [⟨request, now, .writing loaded written⟩]).step 0 =
        ⟨db.commit written, [⟨request, now, .done⟩]⟩ := by
    intro written same
    cases loaded with
    | none => exact step_inserting db request now written found
    | some delivery => exact step_writing db request now found same
  simp only [run, List.foldl_cons, List.foldl_nil]
  unfold pickDriver
  cases near : pickNearest db (db.snapshots.find? request.orderId) request.redis request.exclude with
  | error raised =>
    rw [step_alone]
    simp [Transaction.commits, Transaction.advance, near, step_done, orElse, bind, Except.bind]
  | ok driver =>
    cases driver with
    | some driver =>
      rw [step_alone]
      simp [Transaction.commits, Transaction.advance, near, commits, own, step_done, orElse, bind,
        Except.bind, pure, Except.pure, Transaction.restaurantName]
    | none =>
      have picked : (Race.mk db [⟨request, now, .picking loaded base⟩]).step 0 =
          ⟨db, [⟨request, now, .choosing loaded base⟩]⟩ := by
        rw [step_alone]
        simp [Transaction.commits, Transaction.advance, near]
      have chosen : (Race.mk db [⟨request, now, .choosing loaded base⟩]).step 0 =
          ⟨db, [⟨request, now, .writing loaded (offer base (statusRead loaded base)
            ((db.snapshots.find? request.orderId).bind OrderSnapshot.restaurantName)
            (pickAny db request.exclude) now)⟩]⟩ := by
        rw [step_alone]
        rfl
      simp [picked, chosen, commits, own, orElse, bind, Except.bind, pure, Except.pure]

/-- A driver's action, from its read to its commit. -/
theorem run_body (db : State) (request : Request) (now : Timestamp)
    (row : Except Raised Delivery) (body : Delivery → Except Raised Written)
    (found : ∀ delivery, row = .ok delivery → db.deliveries.find? request.orderId = some delivery)
    (own : ∀ delivery written, row = .ok delivery → body delivery = .ok written →
      written.delivery.orderId = request.orderId) :
    (run Race.step (Race.mk db [⟨request, now, .ofBody row body⟩]) [0, 0, 0]).db =
      orElse db (do
        let delivery ← row
        let written ← body delivery
        return db.commit written) := by
  simp only [run, List.foldl_cons, List.foldl_nil]
  cases row with
  | error raised => simp [Phase.ofBody, step_done, orElse, bind, Except.bind]
  | ok delivery =>
    cases decided : body delivery with
    | error raised => simp [Phase.ofBody, decided, step_done, orElse, bind, Except.bind]
    | ok written =>
      have committed := step_writing db request now (found delivery rfl) (own delivery written rfl decided)
      simp [Phase.ofBody, decided, committed, step_done, orElse, bind, Except.bind, pure, Except.pure]

/-- The row that a driver's action finds is the order's. -/
theorem row_of_ownedActive {db : State} {driverId orderId : Nat} {delivery : Delivery}
    (owned : ownedActive db driverId orderId = .ok delivery) :
    db.deliveries.find? orderId = some delivery ∧ delivery.orderId = orderId := by
  have found := (ownedActive_ok.mp owned).1
  exact ⟨found, Table.key_of_find? found⟩

/-- An assignment that has begun, run to its end, -/
theorem run_assign (db : State) (orderId : Nat) (redis : Option Nearby) (now : Timestamp) :
    (run Race.step (Race.mk db [⟨.assign orderId redis, now,
      Transaction.begin db ⟨.assign orderId redis, now, .waiting⟩⟩]) [0, 0, 0]).db =
      orElse db (assignForOrder db orderId redis now) := by
  unfold assignForOrder
  cases found : db.deliveries.find? orderId with
  | some delivery => simp [Transaction.begin, found, run, step_done, orElse]
  | none =>
    have picked := run_picking db (.assign orderId redis) now none
      (newDelivery orderId (db.snapshots.find? orderId)) found rfl
    simp only [Transaction.begin, found]
    exact picked

/-- a rejection, -/
theorem run_reject (db : State) (driverId orderId : Nat) (redis : Option Nearby) (now : Timestamp) :
    (run Race.step (Race.mk db [⟨.reject driverId orderId redis, now,
      Transaction.begin db ⟨.reject driverId orderId redis, now, .waiting⟩⟩]) [0, 0, 0]).db =
      orElse db (rejectAssignment db driverId orderId redis now) := by
  unfold rejectAssignment
  cases owned : ownedActive db driverId orderId with
  | error raised => simp [Transaction.begin, owned, run, step_done, orElse, bind, Except.bind]
  | ok delivery =>
    cases let_go : released delivery with
    | error raised =>
      simp [Transaction.begin, owned, let_go, run, step_done, orElse, bind, Except.bind]
    | ok free =>
      obtain ⟨found, same⟩ := row_of_ownedActive owned
      have own : free.orderId = orderId := by
        rw [(released_ok.mp let_go).2]
        exact same
      have picked := run_picking db (.reject driverId orderId redis) now (some delivery) free found own
      simp only [Transaction.begin, owned, let_go]
      rw [picked]
      show _ = orElse db (released delivery >>= _)
      rw [let_go]
      rfl

/-- and a reassignment. -/
theorem run_reassign (db : State) (caller : Identity) (orderId newDriverId : Nat) (now : Timestamp) :
    (run Race.step (Race.mk db [⟨.reassign caller orderId newDriverId, now,
      Transaction.begin db ⟨.reassign caller orderId newDriverId, now, .waiting⟩⟩]) [0, 0, 0]).db =
      orElse db (reassignDeliveryForOrder db caller orderId newDriverId now) := by
  unfold reassignDeliveryForOrder
  cases found : db.deliveries.find? orderId with
  | none => simp [Transaction.begin, found, run, step_done, orElse]
  | some delivery =>
    cases owned : ownedOrder db caller orderId with
    | error raised =>
      simp [Transaction.begin, found, owned, run, step_done, orElse, bind, Except.bind]
    | ok manages =>
      cases active : activeDriver db newDriverId with
      | error raised =>
        simp [Transaction.begin, found, owned, active, run, step_done, orElse, bind, Except.bind]
      | ok works =>
        have own := (reassigned_orderId (db.snapshots.find? orderId) newDriverId now delivery).trans
          (Table.key_of_find? found)
        have committed := step_writing db (.reassign caller orderId newDriverId) now found own
        simp [Transaction.begin, found, owned, active, run, committed, step_done, orElse, bind,
          Except.bind, pure, Except.pure]

/-- **With nothing in between, a transaction is the operation.** -/
theorem run_alone (db : State) (request : Request) (now : Timestamp) :
    (run Race.step (Race.mk db [⟨request, now, .waiting⟩]) [0, 0, 0, 0]).db =
      db.step (request.operation, now) := by
  have begun : run Race.step (Race.mk db [⟨request, now, .waiting⟩]) [0, 0, 0, 0] =
      run Race.step (Race.mk db [⟨request, now, Transaction.begin db ⟨request, now, .waiting⟩⟩])
        [0, 0, 0] := by
    show run Race.step ((Race.mk db [⟨request, now, .waiting⟩]).step 0) [0, 0, 0] = _
    rw [step_alone]
    rfl
  rw [begun]
  cases request with
  | assign orderId redis => exact run_assign db orderId redis now
  | accept driverId orderId =>
    refine run_body db (.accept driverId orderId) now (ownedActive db driverId orderId) (accepted now)
      (fun delivery owned => (row_of_ownedActive owned).1) ?_
    intro delivery written owned decided
    rw [(accepted_ok.mp decided).2]
    exact (row_of_ownedActive owned).2
  | reject driverId orderId redis => exact run_reject db driverId orderId redis now
  | pickup driverId orderId =>
    refine run_body db (.pickup driverId orderId) now (ownedActive db driverId orderId) (pickedUp now)
      (fun delivery owned => (row_of_ownedActive owned).1) ?_
    intro delivery written owned decided
    rw [(pickedUp_ok.mp decided).2]
    exact (row_of_ownedActive owned).2
  | deliver driverId orderId =>
    refine run_body db (.deliver driverId orderId) now (ownedActive db driverId orderId) (delivered now)
      (fun delivery owned => (row_of_ownedActive owned).1) ?_
    intro delivery written owned decided
    rw [(delivered_ok.mp decided).2]
    exact (row_of_ownedActive owned).2
  | reassign caller orderId newDriverId => exact run_reassign db caller orderId newDriverId now

end FoodDelivery.Deliveries
