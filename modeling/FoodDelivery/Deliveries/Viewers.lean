/-
**Who sees the way of an order.**

The caller of a poll is checked against the snapshot of the order, which has its customer from the order
events. `tracking_private`: in every run, whoever gets past the check may see the order, and so may whoever
is answered.
-/

import FoodDelivery.Deliveries.Tracking

set_option autoImplicit false

namespace FoodDelivery.Deliveries

open FoodDelivery.Lib

variable {settings : TrackingSettings} {t : Tracking} {poll : Poll}

/-! ### Who is answered -/

section Private

variable {customer : Nat → Nat}

/-- An order event names the customer of its order. -/
def NamesCustomer (customer : Nat → Nat) (_ : Tracking) : TrackingStep → Prop
  | .operate (.applyOrderEvent payload _) => ∀ orderId ∈ payload.orderId,
      payload.customerId = some (customer orderId)
  | _ => True

/-- A caller who may see an order: its customer, a restaurant or an admin. -/
def MaySee (customer : Nat → Nat) (caller : Identity) (orderId : Nat) : Prop :=
  caller.role ∈ ["admin", "restaurant"] ∨ caller.userId = customer orderId

/-- Snapshots have the customers of their orders; and polls that were let through, and answers, are of
callers who may see the order. -/
structure Private (customer : Nat → Nat) (t : Tracking) : Prop where
  snapshots : ∀ orderId snapshot, t.db.snapshots.find? orderId = some snapshot →
    snapshot.customerId = customer orderId
  polls : ∀ poll ∈ t.polls, poll.phase.passed = true → MaySee customer poll.caller poll.orderId
  answers : ∀ answer ∈ t.answers, MaySee customer answer.caller answer.orderId

theorem snapshots_body {db next : State} {driverId target : Nat}
    {body : Delivery → Except Raised Written}
    (outcome : (do
      let delivery ← ownedActive db driverId target
      let written ← body delivery
      return db.commit written) = .ok next) : next.snapshots = db.snapshots := by
  obtain ⟨delivery, written, -, -, -, rfl⟩ := ownAction_ok outcome
  rfl

theorem snapshots_assign {db next : State} {target : Nat} {redis : Option Nearby} {now : Timestamp}
    (outcome : assignForOrder db target redis now = .ok next) : next.snapshots = db.snapshots := by
  rcases assignForOrder_ok outcome with rfl | ⟨-, driver, -, rfl⟩ <;> rfl

theorem snapshots_orElse {db : State} {outcome : Except Raised State}
    (keeps : ∀ next, outcome = .ok next → next.snapshots = db.snapshots) :
    (orElse db outcome).snapshots = db.snapshots := by
  cases outcome with
  | ok next => exact keeps next rfl
  | error raised => rfl

/-- **Only an order event writes a snapshot**, its order's. -/
theorem snapshots_step (db : State) (op : Operation) (now : Timestamp) :
    (db.step (op, now)).snapshots = db.snapshots ∨
      ∃ payload redis orderId, op = .applyOrderEvent payload redis ∧ payload.orderId = some orderId ∧
        (db.step (op, now)).snapshots = db.snapshots.put
          (((db.snapshots.find? orderId).getD
            { orderId := orderId, customerId := payload.customerId.getD 0 }).update payload) := by
  cases op with
  | assignForOrder target redis => exact Or.inl (snapshots_orElse fun _ => snapshots_assign)
  | acceptAssignment driverId target => exact Or.inl (snapshots_orElse fun _ => snapshots_body)
  | rejectAssignment driverId target redis =>
    refine Or.inl (snapshots_orElse fun next outcome => ?_)
    obtain ⟨delivery, driver, -, -, -, -, rfl⟩ := rejectAssignment_ok outcome
    rfl
  | pickup driverId target => exact Or.inl (snapshots_orElse fun _ => snapshots_body)
  | deliver driverId target => exact Or.inl (snapshots_orElse fun _ => snapshots_body)
  | reassignDeliveryForOrder caller target newDriverId =>
    refine Or.inl (snapshots_orElse fun next outcome => ?_)
    obtain ⟨delivery, -, -, -, rfl⟩ := reassignDeliveryForOrder_ok outcome
    rfl
  | applyOrderEvent payload redis =>
    cases about : payload.orderId with
    | none =>
      left
      show (applyOrderEvent db payload redis now).1.snapshots = db.snapshots
      simp only [applyOrderEvent, about]
    | some orderId =>
      refine Or.inr ⟨payload, redis, orderId, rfl, about, ?_⟩
      show (applyOrderEvent db payload redis now).1.snapshots = _
      simp only [applyOrderEvent, about]
      split_ifs
      · split
        · rename_i assigned outcome
          have kept := snapshots_assign outcome
          exact kept
        · rfl
      · rfl
  | applyUserEvent payload =>
    left
    show (applyUserEvent db payload).snapshots = db.snapshots
    unfold applyUserEvent
    split
    · rfl
    · split_ifs <;> rfl
  | applyRestaurantEvent payload =>
    left
    show (applyRestaurantEvent db payload).snapshots = db.snapshots
    unfold applyRestaurantEvent
    split <;> rfl

theorem private_operate (hidden : Private customer t) (op : Operation)
    (names : NamesCustomer customer t (.operate op)) : Private customer (t.operate op) := by
  obtain ⟨-, -, polls, answers, -⟩ := operate_frame t op
  refine ⟨fun orderId snapshot found => ?_, by rw [polls]; exact hidden.polls,
    by rw [answers]; exact hidden.answers⟩
  rw [operate_db] at found
  rcases snapshots_step t.db op t.now with same | ⟨payload, redis, target, rfl, about, written⟩
  · rw [same] at found
    exact hidden.snapshots orderId snapshot found
  · have named : payload.customerId = some (customer target) := names target about
    have key : (((t.db.snapshots.find? target).getD
        { orderId := target, customerId := payload.customerId.getD 0 }).update payload).orderId =
          target := by
      cases stored : t.db.snapshots.find? target with
      | none => rfl
      | some before =>
        have key : before.orderId = target := Table.key_of_find? stored
        exact key
    rw [written, Table.find?_put, key] at found
    split_ifs at found with own
    · cases found
      rw [← own]
      show payload.customerId.getD _ = _
      rw [named]
      rfl
    · exact hidden.snapshots orderId snapshot found

/-- A poll that goes on without being let through anew. -/
theorem Private.moved (hidden : Private customer t) {i : Nat} {phase : PollPhase}
    (passed : phase.passed = true → MaySee customer poll.caller poll.orderId) :
    Private customer (t.moved i poll phase) := by
  refine ⟨hidden.snapshots, fun other member through => ?_, hidden.answers⟩
  rcases List.mem_or_eq_of_mem_set member with member | rfl
  · exact hidden.polls other member through
  · exact passed through

theorem Private.answer (hidden : Private customer t) {i : Nat} (listed : poll ∈ t.polls)
    (through : poll.phase.passed = true) (journey : Journey) (routed : Option Routed) :
    Private customer (t.answer i poll journey routed) := by
  have moved : Private customer (t.moved i poll .answered) := hidden.moved fun passed => by cases passed
  refine ⟨moved.snapshots, moved.polls, fun answer member => ?_⟩
  rcases List.mem_append.mp member with member | member
  · exact hidden.answers answer member
  · cases List.mem_singleton.mp member
    exact hidden.polls poll listed through

theorem maySee_of_allowed (hidden : Private customer t) {delivery : Option Delivery}
    (allowed : trackingAllowed poll.caller delivery (t.db.snapshots.find? poll.orderId) = .ok ()) :
    MaySee customer poll.caller poll.orderId := by
  unfold trackingAllowed at allowed
  split_ifs at allowed with unknown trusted own
  · exact Or.inl trusted
  · right
    obtain ⟨snapshot, found, same⟩ := Option.map_eq_some_iff.mp own
    exact same.symm.trans (hidden.snapshots poll.orderId snapshot found)

theorem private_step (hidden : Private customer t) (label : TrackingStep)
    (names : NamesCustomer customer t label) : Private customer (t.step settings label) := by
  have done := stepped settings t label
  generalize t.step settings label = next at done
  cases done with
  | same => exact hidden
  | ticked later onward => exact ⟨hidden.snapshots, hidden.polls, hidden.answers⟩
  | operated op => exact private_operate hidden op names
  | deleted k orderId listed => exact ⟨hidden.snapshots, hidden.polls, hidden.answers⟩
  | located turn location => exact ⟨hidden.snapshots, hidden.polls, hidden.answers⟩
  | arrived caller orderId =>
    refine ⟨hidden.snapshots, fun poll member through => ?_, hidden.answers⟩
    rcases List.mem_append.mp member with member | member
    · exact hidden.polls poll member through
    · cases List.mem_singleton.mp member
      cases through
  | went i poll reply move found fits =>
    have listed : poll ∈ t.polls := List.mem_of_getElem? found
    have before := hidden.polls poll listed
    cases fits with
    | reads => exact hidden.moved fun passed => by cases passed
    | passes delivery held allowed =>
      exact hidden.moved fun _ => maySee_of_allowed hidden allowed
    | onward phase leg passed clear => exact hidden.moved fun through => before (passed through)
    | sends journey held =>
      have moved : Private customer (t.moved i poll (.requesting journey)) :=
        hidden.moved fun _ => before (by rw [held]; rfl)
      exact ⟨moved.snapshots, moved.polls, moved.answers⟩
    | suppresses journey held =>
      have moved : Private customer (t.moved i poll
          (.storing journey (haversineRoute settings.odometer journey.waypoints))) :=
        hidden.moved fun _ => before (by rw [held]; rfl)
      exact ⟨moved.snapshots, moved.polls, moved.answers⟩
    | bare journey passed => exact hidden.answer listed passed journey none
    | cached journey routed held stored => exact hidden.answer listed (by rw [held]; rfl) journey _
    | stores journey estimate held =>
      have answered : Private customer (t.answer i poll journey (some (t.routed journey estimate))) :=
        hidden.answer listed (by rw [held]; rfl) journey _
      exact ⟨answered.snapshots, answered.polls, answered.answers⟩
  | raised i poll raised found =>
    have listed : poll ∈ t.polls := List.mem_of_getElem? found
    refine hidden.moved fun through => hidden.polls poll listed ?_
    cases held : poll.phase <;> rw [held] at through <;> first | rfl | cases through

/-- **Nobody else's order.** In every run whose order events name the customers of their orders, a poll
that gets past the check (and with it every answer, every request for a route and every estimate that is
kept) is an admin's, a restaurant's or the customer's of that order. -/
theorem tracking_private (settings : TrackingSettings) (customer : Nat → Nat) (now : Timestamp)
    (labels : List TrackingStep)
    (names : Throughout (Tracking.step settings) (NamesCustomer customer)
      { now := now, db := .empty } labels) :
    Always (Tracking.step settings)
      (fun t => (∀ poll ∈ t.polls, poll.phase.passed = true →
          MaySee customer poll.caller poll.orderId) ∧
        ∀ answer ∈ t.answers, MaySee customer answer.caller answer.orderId)
      { now := now, db := .empty } labels := by
  have started : Private customer { now := now, db := .empty } :=
    ⟨fun _ _ found => (by cases found), fun _ member => (by cases member),
      fun _ member => (by cases member)⟩
  have always : Always (Tracking.step settings) (Private customer) { now := now, db := .empty } labels :=
    always_of_throughout (fun _ label hidden held => private_step hidden label held) started names
  exact always.mono fun _ hidden => ⟨hidden.polls, hidden.answers⟩

/-- Customer 7 orders, and so does a stranger ask. -/
def watched : List TrackingStep :=
  [.operate (.applyOrderEvent { orderId := some 1, status := some "PREPARING", customerId := some 7 } none),
    .poll ⟨7, "customer"⟩ 1, .poll ⟨8, "customer"⟩ 1, .goOn 0 .failed, .goOn 1 .failed, .goOn 0 .failed,
    .goOn 1 .failed, .goOn 0 .failed, .goOn 1 .failed]

theorem tracking_private_watched :
    Always (Tracking.step (.standard .still some))
      (fun t => (∀ poll ∈ t.polls, poll.phase.passed = true →
          MaySee (fun _ => 7) poll.caller poll.orderId) ∧
        ∀ answer ∈ t.answers, MaySee (fun _ => 7) answer.caller answer.orderId)
      { now := 0, db := .empty } watched :=
  tracking_private (.standard .still some) (fun _ => 7) 0 watched
    ⟨fun _ _ => rfl, trivial, trivial, trivial, trivial, trivial, trivial, trivial, trivial, trivial⟩

end Private

end FoodDelivery.Deliveries
