/-
**What the orders service's messages do to payments**, when their handlers run to completion.

A command comes to one operation of the service on the order's snapshot (`exec_applyPaymentCommand`);
an order event writes its snapshot and creates at most the payment of its own order
(`books_applyOrderEvent`). `World.Books` is what matters about such a step to the other services: the
payment of an order and the events recorded for it.
-/

import FoodDelivery.Payments.Growth

set_option autoImplicit false

namespace FoodDelivery.Payments

open FoodDelivery.Lib

/-- **What a step can do to the books of one order.** `creates` is whether it may create the payment,
and `captures` whether it may settle it without recording an event. -/
structure World.Books (orderId : Nat) (creates captures : Prop) (w next : World) : Prop where
  kept : w.payment orderId ≠ none → next.payment orderId ≠ none
  created : next.payment orderId ≠ none → w.payment orderId ≠ none ∨ creates
  events : w.eventsOf orderId <+: next.eventsOf orderId
  recorded : next.eventsOf orderId ≠ [] → w.eventsOf orderId ≠ [] ∨ w.payment orderId ≠ none
  earned : next.Succeeded orderId → w.Succeeded orderId ∨ captures ∨
    next.Announced orderId

theorem World.Books.same {orderId : Nat} {creates captures : Prop} {w next : World}
    (row : next.payment orderId = w.payment orderId)
    (events : next.eventsOf orderId = w.eventsOf orderId) :
    World.Books orderId creates captures w next where
  kept := fun present => row ▸ present
  created := fun present => Or.inl (row ▸ present)
  events := events ▸ List.prefix_refl _
  recorded := fun some_event => Or.inl (events ▸ some_event)
  earned := fun succeeded => Or.inl (by unfold World.Succeeded; rw [← row]; exact succeeded)

/-- Where a step starts from matters only as far as the books go. -/
theorem World.Books.congr {orderId : Nat} {creates captures : Prop} {w stored next : World}
    (books : World.Books orderId creates captures stored next)
    (row : stored.payment orderId = w.payment orderId)
    (events : stored.eventsOf orderId = w.eventsOf orderId) :
    World.Books orderId creates captures w next where
  kept := fun present => books.kept (row ▸ present)
  created := fun present => (books.created present).imp_left fun before => row ▸ before
  events := events ▸ books.events
  recorded := fun some_event =>
    (books.recorded some_event).imp (fun before => events ▸ before) fun before => row ▸ before
  earned := fun succeeded => by
    refine (books.earned succeeded).imp_left fun before => ?_
    unfold World.Succeeded at before ⊢
    rw [← row]
    exact before

theorem World.Books.mono {orderId : Nat} {creates captures mayCreate mayCapture : Prop}
    {w next : World} (books : World.Books orderId creates captures w next)
    (creating : creates → mayCreate) (capturing : captures → mayCapture) :
    World.Books orderId mayCreate mayCapture w next :=
  { books with
    created := fun present => (books.created present).imp_right creating
    earned := fun succeeded => (books.earned succeeded).imp_right (Or.imp_left capturing) }

/-- The operation may create the payment of an order. -/
def Operation.Creates (op : Operation) (orderId : Nat) : Prop :=
  ∃ gateway order provider, op = .createPaymentForOrder gateway order provider ∧
    order.orderId = orderId

/-- The operation may capture the payment of an order. -/
def Operation.Captures (op : Operation) (orderId : Nat) : Prop :=
  ∃ order, op = .capturePayment order ∧ order.orderId = orderId

section

variable {op : Operation} {orderId : Nat} {w next : World}

/-- A payment that is left with a status other than SUCCEEDED, and no event. -/
theorem books_of_unpaid {creates captures : Prop} {payment : Payment}
    (row : next.payment orderId = some payment) (unpaid : payment.status ≠ .succeeded)
    (present : w.payment orderId ≠ none ∨ creates)
    (events : next.eventsOf orderId = w.eventsOf orderId) :
    World.Books orderId creates captures w next where
  kept := fun _ => by rw [row]; exact Option.some_ne_none payment
  created := fun _ => present
  events := events ▸ List.prefix_refl _
  recorded := fun some_event => Or.inl (events ▸ some_event)
  earned := fun succeeded => by
    unfold World.Succeeded at succeeded
    rw [row] at succeeded
    exact absurd (Option.some.inj succeeded) unpaid

/-- A payment that is settled with its event. -/
theorem books_of_paid {creates captures : Prop} {payment after : Payment}
    (found : w.payment orderId = some payment) (row : next.payment orderId = some after)
    (events : next.eventsOf orderId = w.eventsOf orderId ++ [succeededEvent payment]) :
    World.Books orderId creates captures w next where
  kept := fun _ => by rw [row]; exact Option.some_ne_none after
  created := fun _ => Or.inl (by rw [found]; exact Option.some_ne_none payment)
  events := events ▸ List.prefix_append _ _
  recorded := fun _ => Or.inr (by rw [found]; exact Option.some_ne_none payment)
  earned := fun _ => by
    refine Or.inr (Or.inr ⟨succeededEvent payment, ?_, rfl⟩)
    rw [events]
    exact List.mem_append_right _ (List.mem_singleton.mpr rfl)

theorem reauthorized_unpaid (payment : Payment) (result : ProviderResult) :
    (payment.reauthorized result).status ≠ .succeeded := by
  unfold Payment.reauthorized
  cases result.ok
  · exact fun same => by cases same
  · exact fun same => by cases same

/-- **The books of an order over one operation.** -/
theorem books_of_touched (touched : Touched op orderId w next) :
    World.Books orderId (op.Creates orderId) (op.Captures orderId) w next := by
  have present : ∀ payment, w.payment orderId = some payment →
      w.payment orderId ≠ none ∨ op.Creates orderId := by
    intro payment found
    rw [found]
    exact Or.inl (Option.some_ne_none payment)
  cases touched with
  | same row events => exact .same row events
  | created gateway order provider result operation own absent answered row events =>
    refine books_of_unpaid row ?_ (Or.inr ⟨gateway, order, provider, operation, own⟩) events
    unfold newPayment
    cases result.ok
    · exact fun same => by cases same
    · exact fun same => by cases same
  | captured order payment operation own found may row events =>
    exact
      { kept := fun _ => by rw [row]; exact Option.some_ne_none _
        created := fun _ => present payment found
        events := events ▸ List.prefix_refl _
        recorded := fun some_event => Or.inl (events ▸ some_event)
        earned := fun _ => Or.inr (Or.inl ⟨order, operation, own⟩) }
  | retried gateway order provider payment result operation own found may answered row events =>
    exact books_of_unpaid row (reauthorized_unpaid payment result) (present payment found) events
  | resumed gateway order provider payment result operation own found may answered row events =>
    exact books_of_unpaid row (reauthorized_unpaid payment result) (present payment found) events
  | confirmed gateway order provider payment result operation own found may answered paid row
      events =>
    exact books_of_paid found row events
  | refunded gateway order provider payment result operation own found may answered row events
      calls =>
    exact books_of_unpaid row (fun same => by cases same) (present payment found) events
  | failed redis event payment operation acts found kind row events =>
    exact books_of_unpaid row (fun same => by cases same) (present payment found) events
  | awaited redis event payment operation acts found kind waits row events =>
    exact
      { kept := fun _ => by rw [row]; exact Option.some_ne_none _
        created := fun _ => present payment found
        events := events ▸ List.prefix_refl _
        recorded := fun some_event => Or.inl (events ▸ some_event)
        earned := fun succeeded => by
          refine Or.inl ?_
          unfold World.Succeeded at succeeded ⊢
          rw [row] at succeeded
          rw [found]
          exact succeeded }
  | settled redis event payment operation acts found kind paid row events =>
    exact books_of_paid found row events

end

/-! ### The two handlers -/

variable (gateway : Gateway) (orderId : Nat) (w : World)

/-- The operation a command stands for. -/
def commandOperation (action : PaymentAction) (order : OrderSnapshot) : Operation :=
  match action with
  | .settle => .capturePayment order
  | .refund => .refundPayment gateway order none

/-- **A command** does its operation on the order's snapshot, when there is one. -/
theorem exec_applyPaymentCommand (action : PaymentAction) :
    ((applyPaymentCommand gateway { orderId := some orderId, action := some action }).exec w).1 =
      match w.snapshots.find? orderId with
      | none => w
      | some order => w.step (commandOperation gateway action order) := by
  unfold applyPaymentCommand
  rw [Program.exec_read_bind]
  cases w.snapshots.find? orderId with
  | none => rfl
  | some order =>
    cases action with
    | settle =>
      dsimp only
      rw [Program.exec_bind]
      show _ = ((capturePayment order).exec w).1
      cases (capturePayment order).exec w with
      | mk next result => cases result <;> rfl
    | refund =>
      dsimp only
      rw [Program.exec_bind]
      show _ = ((refundPayment gateway order none).exec w).1
      cases (refundPayment gateway order none).exec w with
      | mk next result => cases result <;> rfl

theorem books_applyPaymentCommand (action : PaymentAction) (other : Nat) :
    World.Books other False (action = .settle ∧ other = orderId) w
      ((applyPaymentCommand gateway { orderId := some orderId, action := some action }).exec w).1 := by
  rw [exec_applyPaymentCommand]
  cases found : w.snapshots.find? orderId with
  | none => exact .same rfl rfl
  | some order =>
    have own : order.orderId = orderId := Table.key_of_find? found
    have books := books_of_touched (w.touched (commandOperation gateway action order) other)
    refine books.mono ?_ ?_
    · rintro ⟨_, _, _, operation, _⟩
      cases action <;> cases operation
    · rintro ⟨captured, operation, same⟩
      cases action with
      | settle =>
        cases operation
        exact ⟨rfl, same.symm.trans own⟩
      | refund => cases operation

/-- The commit of a snapshot changes neither payments nor events. -/
theorem exec_commitSnapshot (found : Option OrderSnapshot) (after : OrderSnapshot) :
    ((commitSnapshot found after).exec w).1.payments = w.payments ∧
      ((commitSnapshot found after).exec w).1.outbox = w.outbox ∧
      ∃ committed, ((commitSnapshot found after).exec w).2 = .ok committed := by
  unfold commitSnapshot
  split
  · rw [Program.exec_modify]
    split
    · exact ⟨rfl, rfl, _, rfl⟩
    · exact ⟨rfl, rfl, _, rfl⟩
  · rw [Program.exec_modify]
    dsimp only
    split
    · exact ⟨rfl, rfl, _, rfl⟩
    · exact ⟨rfl, rfl, _, rfl⟩

theorem snapshotAfter_orderId (payload : OrderEvent) {found : Option OrderSnapshot}
    (lookup : w.snapshots.find? orderId = found) :
    (snapshotAfter orderId payload found).orderId = orderId := by
  unfold snapshotAfter
  cases found with
  | none => rfl
  | some order =>
    show order.orderId = orderId
    exact Table.key_of_find? lookup

/-- **An order event** leaves payments and events alone, or creates the payment of its order. -/
theorem exec_applyOrderEvent {payload : OrderEvent} (own : payload.orderId = some orderId) :
    ∃ stored : World, stored.payments = w.payments ∧ stored.outbox = w.outbox ∧
      (((applyOrderEvent gateway payload).exec w).1 = stored ∨
        ∃ order : OrderSnapshot, order.orderId = orderId ∧
          ((applyOrderEvent gateway payload).exec w).1 =
            stored.step (.createPaymentForOrder gateway order none)) := by
  unfold applyOrderEvent
  rw [own]
  dsimp only
  rw [Program.exec_read_bind, Program.exec_bind]
  generalize lookup : w.snapshots.find? orderId = found
  have same := snapshotAfter_orderId orderId w payload lookup
  generalize snapshotAfter orderId payload found = order at same ⊢
  obtain ⟨payments, outbox, committed, result⟩ := exec_commitSnapshot w found order
  generalize (commitSnapshot found order).exec w = done at payments outbox result ⊢
  obtain ⟨stored, outcome⟩ := done
  dsimp only at payments outbox result
  subst result
  refine ⟨stored, payments, outbox, ?_⟩
  dsimp only
  split
  · split
    · refine Or.inr ⟨order, same, ?_⟩
      rw [Program.exec_bind]
      show _ = ((createPaymentForOrder gateway order none).exec stored).1
      cases (createPaymentForOrder gateway order none).exec stored with
      | mk next result => cases result <;> rfl
    · exact Or.inl rfl
  · exact Or.inl rfl

theorem books_applyOrderEvent {payload : OrderEvent} (own : payload.orderId = some orderId)
    (other : Nat) :
    World.Books other (other = orderId) False w ((applyOrderEvent gateway payload).exec w).1 := by
  obtain ⟨stored, payments, outbox, left⟩ := exec_applyOrderEvent gateway orderId w own
  have row : stored.payment other = w.payment other := by
    unfold World.payment
    rw [payments]
  have events : stored.eventsOf other = w.eventsOf other := by
    unfold World.eventsOf
    rw [outbox]
  rcases left with same | ⟨order, mine, created⟩
  · rw [same]
    exact .same row events
  · rw [created]
    have books := books_of_touched (stored.touched (.createPaymentForOrder gateway order none) other)
    have mine_only : World.Books other (other = orderId) False stored
        (stored.step (.createPaymentForOrder gateway order none)) := by
      refine books.mono ?_ ?_
      · rintro ⟨_, _, _, operation, same⟩
        cases operation
        exact same.symm.trans mine
      · rintro ⟨_, operation, _⟩
        cases operation
    exact mine_only.congr row events

end FoodDelivery.Payments
