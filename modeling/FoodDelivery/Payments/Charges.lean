/-
**No double charge, and when there is one.**

An order can have three Checkout Sessions, one for each of its idempotency keys, and the customer can pay
each of them as long as it is open; the order's row remembers one reference, and a refund is of that.
`Till` is the service together with the sessions that Stripe has for one order.

`noDoubleCharge_iff`: after any history, what was collected and not returned is at most the total, and
nothing when the row says REFUNDED, if and only if at most one session has been paid and not been found
by a refund command since (`Unreturned`), and none when the row was last left by a refund
(`LeftRefunded`). It is proved from what one move does to the money that is held (`held_step`) and to a
row that says REFUNDED (`refunded_step`). In `paidTwice` the customer pays the abandoned session as well.
-/

import FoodDelivery.Lib.Histories
import FoodDelivery.Payments.Till
import Mathlib.Algebra.Order.Ring.Int
import Mathlib.Data.Finset.Card
import Mathlib.Data.Nat.Cast.Order.Ring
import Mathlib.Tactic.Linarith

set_option autoImplicit false

namespace FoodDelivery.Payments

open FoodDelivery.Lib

/-! ### What has to hold -/

/-- The money that the sessions have taken, -/
def takenBy (sessions : Sessions) : Money :=
  ((sessions.rows.filter Session.paid).map Session.amount).sum

/-- and what has been given back. -/
def returnedBy (sessions : Sessions) : Money :=
  ((sessions.rows.filter Session.refunded).map Session.amount).sum

/-- **No double charge.** -/
structure NoDoubleCharge (order : CardOrder) (till : Till) : Prop where
  charged : takenBy till.sessions - returnedBy till.sessions ≤ order.total
  refunded : till.service.Refunded order.orderId →
    takenBy till.sessions - returnedBy till.sessions = 0

/-- Every event has been handled. -/
def Quiet (till : Till) : Prop := till.owed = []

/-! ### Payments and refunds of a session -/

/-- The session of a key is paid. -/
def Pays (till : Till) (key : String) (move : Move) : Prop :=
  move = .pay key ∧ ∃ s, till.sessions.find? key = some s ∧ s.payable = true

/-- A refund command finds the order's row in a status it acts on. -/
def RefundsRow (order : CardOrder) (till : Till) (move : Move) : Prop :=
  ∃ status exchange payment, move = .refund status exchange ∧
    till.service.payment order.orderId = some payment ∧ payment.status ∈ refundable

/-- The row holds the id of a session or of its intent then, and Stripe gets the call. -/
def Returns (account : Account) (order : CardOrder) (till : Till) (key : String) (move : Move) :
    Prop :=
  ∃ status exchange payment s, move = .refund status exchange ∧ exchange ≠ .lost ∧
    till.service.payment order.orderId = some payment ∧ payment.status ∈ refundable ∧
    till.sessions.find? key = some s ∧ account.names payment.providerRef s = true

/-- The row gets another status: a new session is opened for it, Stripe says that the one it holds has
been paid, or an event finds it. -/
def Rewrites (account : Account) (order : CardOrder) (till : Till) (move : Move) : Prop :=
  ∃ payment, till.service.payment order.orderId = some payment ∧
    ((∃ status exchange, move = .resume status exchange ∧
        awaitsCard (order.snapshot status) payment = true) ∨
      (∃ status exchange, move = .confirm status exchange ∧
        awaitsCard (order.snapshot status) payment = true ∧ exchange ≠ .lost ∧
        ∃ s ∈ till.sessions.rows, s.paid = true ∧ account.names payment.providerRef s = true) ∨
      ∃ redis event, move = .deliver redis event ∧ event.ActsOn redis till.service payment ∧
        (event.type ∈ fails ∨ (event.type ∈ settles ∧ event.awaiting = false)))

variable (account : Account) (order : CardOrder)

/-- A history, from before the order's first authorisation. -/
def Till.after (moves : List Move) : Till := run (Till.step account order) .empty moves

/-- **A session that has been paid**, and since then no refund command has found the row refundable under
one of the session's ids and got through to Stripe. -/
def Unreturned (moves : List Move) (key : String) : Prop :=
  Since (fun before move => Pays (Till.after account order before) key move)
    (fun before move => Returns account order (Till.after account order before) key move) moves

/-- **The row has been refunded**, and has not got another status since. -/
def LeftRefunded (moves : List Move) : Prop :=
  Since (fun before move => RefundsRow order (Till.after account order before) move)
    (fun before move => Rewrites account order (Till.after account order before) move) moves

/-! ### The money that is held -/

/-- The session of a key has been paid and not been refunded. -/
def Held (sessions : Sessions) (key : String) : Prop :=
  ∃ s, sessions.find? key = some s ∧ s.held = true

section Held

variable {sessions : Sessions} {key : String}

theorem held_put {s : Session} : Held (sessions.put s) key ↔
    (s.key = key ∧ s.held = true) ∨ (s.key ≠ key ∧ Held sessions key) := by
  unfold Held
  rw [Table.find?_put]
  by_cases own : s.key = key
  · simp [own]
  · simp [own]

/-- Opening a session takes no money. -/
theorem held_open (opened : String) (amount : Money) :
    Held (sessions.put (sessionFor sessions opened amount)) key ↔ Held sessions key := by
  rw [held_put, key_sessionFor]
  by_cases own : opened = key
  · subst own
    unfold Held sessionFor
    cases sessions.find? opened with
    | none => simp [Session.held]
    | some s => simp
  · simp [own]

theorem held_of_giveBack (reference : Option String) (s : Session) :
    (account.giveBack reference s).held = (s.held && !account.names reference s) := by
  unfold Account.giveBack
  by_cases given : (s.held && account.names reference s) = true
  · rw [if_pos given]
    rw [Bool.and_eq_true] at given
    simp [Session.held, given.2]
  · rw [if_neg given]
    cases held : s.held
    · rfl
    · simpa [held] using given

theorem held_giveBack (reference : Option String) :
    Held (sessions.modify (account.giveBack reference) (account.key_giveBack reference)) key ↔
      Held sessions key ∧
        ¬ ∃ s, sessions.find? key = some s ∧ account.names reference s = true := by
  unfold Held
  rw [Table.find?_modify]
  cases sessions.find? key with
  | none => simp
  | some s => simp [held_of_giveBack]

/-- What a refund call takes effect on: when no session is held under the reference, on nothing. -/
theorem held_refund (exchange : Exchange) (payment : Payment) (card : payment.provider = .card)
    (snapshot : OrderSnapshot) :
    Held (book account order exchange sessions
        (refundCall (account.gateway sessions exchange) snapshot none payment)) key ↔
      Held sessions key ∧ ¬ (exchange ≠ .lost ∧
        ∃ s, sessions.find? key = some s ∧ account.names payment.providerRef s = true) := by
  have moves : (providerOr none (account.gateway sessions exchange) payment.provider).moves
      payment.providerRef snapshot.total = (exchange ≠ .lost && sessions.rows.any fun s =>
        s.held && account.names payment.providerRef s) := by
    rw [card]
    show (providerFor (account.gateway sessions exchange) .card).moves _ _ = _
    rw [account.providerFor_card]
    exact account.moves_eq sessions exchange _ _
  unfold refundCall book
  rw [moves]
  dsimp only
  by_cases effective : (exchange ≠ .lost && sessions.rows.any fun s =>
      s.held && account.names payment.providerRef s) = true
  · rw [if_pos effective, held_giveBack]
    rw [Bool.and_eq_true, decide_eq_true_eq] at effective
    simp [effective.1]
  · rw [if_neg effective]
    refine (and_iff_left_of_imp ?_).symm
    rintro ⟨s, found, held⟩ ⟨reached, other, same, named⟩
    rw [found, Option.some_inj] at same
    subst same
    refine effective ?_
    rw [decide_eq_true reached, Bool.true_and, List.any_eq_true]
    exact ⟨s, (Table.find?_eq_some.mp found).1, by rw [held, named]; rfl⟩

end Held

section Step

variable {account order} {till : Till} {key : String}

/-- Calls that are not refunds take no money and give none back. -/
theorem held_booked {exchange : Exchange} {calls : List ProviderCall}
    (others : ∀ call ∈ calls, call.Other) (sessions : Sessions) :
    Held (calls.foldl (book account order exchange) sessions) key ↔ Held sessions key := by
  induction calls generalizing sessions with
  | nil => rfl
  | cons call calls ih =>
    rw [List.foldl_cons, ih fun other member => others other (.tail _ member)]
    have other := others call (.head _)
    cases call with
    | authorize orderId opened outcome =>
      rw [book]
      split
      · rfl
      · exact held_open opened order.total
    | verify orderId reference outcome => rfl
    | refund orderId reference amount effective outcome => exact other.elim

/-- Neither does an operation that is no refund. -/
theorem held_serve {exchange : Exchange} {op : Operation}
    (other : ∀ gateway order provider, op ≠ .refundPayment gateway order provider) :
    Held (till.serve account order exchange op).sessions key ↔ Held till.sessions key := by
  obtain ⟨calls, made, others⟩ := calls_other till.service other
  rw [sessions_serve made]
  exact held_booked others till.sessions

theorem not_pays {move : Move} (other : ∀ paid, move ≠ .pay paid) : ¬ Pays till key move :=
  fun pays => other key pays.1

theorem not_returns {move : Move} (other : ∀ status exchange, move ≠ .refund status exchange) :
    ¬ Returns account order till key move := by
  rintro ⟨status, exchange, _, _, same, _⟩
  exact other status exchange same

/-- A payment takes the money of its session. -/
theorem held_pay (sound : Sound order till) (paid : String) :
    Held (till.pay account paid).sessions key ↔ Pays till key (.pay paid) ∨ Held till.sessions key := by
  unfold Till.pay Pays
  by_cases same : paid = key
  · subst same
    cases found : till.sessions.find? paid with
    | none => simp
    | some s =>
      have own : s.key = paid := Table.key_of_find? found
      dsimp only
      by_cases payable : s.payable = true
      · have unrefunded : s.refunded ≠ true := by
          intro refunded
          have before := (sound.fair s (Table.find?_eq_some.mp found).1).2 refunded
          simp [Session.payable, before] at payable
        rw [if_pos payable, held_put]
        simp [own, payable, Session.held, unrefunded]
      · rw [if_neg payable]
        simp [payable]
  · have other : ¬ Move.pay paid = Move.pay key := fun equal => same (Move.pay.inj equal)
    cases found : till.sessions.find? paid with
    | none => simp [other]
    | some s =>
      have own : s.key = paid := Table.key_of_find? found
      dsimp only
      split
      · rw [held_put]
        simp [own, same]
      · simp [other]

/-- A session that expires holds nothing. -/
theorem held_expire (expired : String) :
    Held (till.expire expired).sessions key ↔ Held till.sessions key := by
  unfold Till.expire
  cases found : till.sessions.find? expired with
  | none => rfl
  | some s =>
    have own : s.key = expired := Table.key_of_find? found
    dsimp only
    split
    · rw [held_put]
      by_cases same : expired = key
      · subst same
        simp [own, Held, found, Session.held]
      · simp [own, same]
    · rfl

/-- A refund command that finds a session under the row's reference gives its money back. -/
theorem held_refundCommand (sound : Sound order till) (status : Option OrderStatus)
    (exchange : Exchange) :
    Held (till.step account order (.refund status exchange)).sessions key ↔
      Held till.sessions key ∧ ¬ Returns account order till key (.refund status exchange) := by
  have made := calls_refund (account.gateway till.sessions exchange) (order.snapshot status)
    till.service
  rw [show (till.step account order (.refund status exchange)).sessions = _ from sessions_serve made]
  have returns : Returns account order till key (.refund status exchange) ↔
      ∃ payment, till.service.payment order.orderId = some payment ∧ payment.status ∈ refundable ∧
        exchange ≠ .lost ∧
        ∃ s, till.sessions.find? key = some s ∧ account.names payment.providerRef s = true := by
    constructor
    · rintro ⟨_, _, payment, s, same, reached, found, may, there, named⟩
      cases same
      exact ⟨payment, found, may, reached, s, there, named⟩
    · rintro ⟨payment, found, may, reached, s, there, named⟩
      exact ⟨status, exchange, payment, s, rfl, reached, found, may, there, named⟩
  rw [returns]
  show Held ((((till.service.payment order.orderId).filter _).toList.map _).foldl _ _) key ↔ _
  cases found : till.service.payment order.orderId with
  | none => simp
  | some payment =>
    by_cases may : payment.status ∈ refundable
    · have one : ((some payment).filter fun payment => decide (payment.status ∈ refundable)) =
          some payment := by
        simp [Option.filter, may]
      rw [one]
      refine (held_refund account order exchange payment (sound.card payment found) _).trans ?_
      simp [may]
    · have none_made : ((some payment).filter fun payment =>
          decide (payment.status ∈ refundable)) = none := by
        simp [Option.filter, may]
      rw [none_made]
      simp [may]

/-- **What a move does to the money that is held**: a payment takes it, a refund command that finds the
session gives it back. -/
theorem held_step (sound : Sound order till) (move : Move) :
    Held (till.step account order move).sessions key ↔
      Pays till key move ∨ (Held till.sessions key ∧ ¬ Returns account order till key move) := by
  by_cases pays : ∃ paid, move = .pay paid
  · obtain ⟨paid, rfl⟩ := pays
    have others : ¬ Returns account order till key (.pay paid) := not_returns (by simp)
    rw [and_iff_left others]
    exact held_pay sound paid
  · have unpaid : ¬ Pays till key move := not_pays fun paid same => pays ⟨paid, same⟩
    rw [or_iff_right unpaid]
    by_cases refunds : ∃ status exchange, move = .refund status exchange
    · obtain ⟨status, exchange, rfl⟩ := refunds
      exact held_refundCommand sound status exchange
    · have others : ¬ Returns account order till key move :=
        not_returns fun status exchange same => refunds ⟨status, exchange, same⟩
      rw [and_iff_left others]
      cases move with
      | pay paid => exact absurd ⟨paid, rfl⟩ pays
      | refund status exchange => exact absurd ⟨status, exchange, rfl⟩ refunds
      | expire expired => exact held_expire expired
      | create status exchange => exact held_serve (by simp)
      | retry status exchange => exact held_serve (by simp)
      | resume status exchange => exact held_serve (by simp)
      | confirm status exchange => exact held_serve (by simp)
      | deliver redis event => exact held_serve (by simp)

end Step

/-! ### What the till is short of -/

section Balance

variable {order} {till : Till} {sessions : Sessions}

/-- The keys of the sessions whose money is held. -/
def heldKeys (sessions : Sessions) : Finset String :=
  ((sessions.rows.filter Session.held).map Session.key).toFinset

theorem mem_heldKeys {key : String} : key ∈ heldKeys sessions ↔ Held sessions key := by
  unfold heldKeys Held
  simp only [List.mem_toFinset, List.mem_map, List.mem_filter, Table.find?_eq_some]
  constructor
  · rintro ⟨s, ⟨member, held⟩, own⟩
    exact ⟨s, ⟨member, own⟩, held⟩
  · rintro ⟨s, ⟨member, own⟩, held⟩
    exact ⟨s, ⟨member, held⟩, own⟩

theorem card_heldKeys : (heldKeys sessions).card = (sessions.rows.filter Session.held).length := by
  have distinct : ((sessions.rows.filter Session.held).map Session.key).Nodup :=
    sessions.unique.sublist (List.filter_sublist.map _)
  rw [heldKeys, List.toFinset_card_of_nodup distinct, List.length_map]

/-- Of fair sessions, the money that was taken and not returned is a total for each that is held. -/
theorem balance_of_fair (rows : List Session) (fair : ∀ s ∈ rows, s.Fair order) :
    ((rows.filter Session.paid).map Session.amount).sum -
        ((rows.filter Session.refunded).map Session.amount).sum =
      order.total * ((rows.filter Session.held).length : Int) := by
  induction rows with
  | nil => simp
  | cons s rows ih =>
    have rest := ih fun other member => fair other (.tail _ member)
    obtain ⟨amount, refunds⟩ := fair s (.head _)
    by_cases paid : s.paid = true
    · by_cases refunded : s.refunded = true
      · have unheld : s.held = false := by simp [Session.held, refunded]
        simp only [List.filter_cons, paid, refunded, unheld, if_true, List.map_cons, List.sum_cons,
          Bool.false_eq_true, if_false]
        linarith
      · have held : s.held = true := by simp [Session.held, paid, refunded]
        simp only [List.filter_cons, paid, refunded, held, if_true, List.map_cons, List.sum_cons,
          Bool.false_eq_true, if_false, List.length_cons, Nat.cast_add, Nat.cast_one, mul_add,
          mul_one, amount]
        linarith
    · have unrefunded : ¬ s.refunded = true := fun refunded => paid (refunds refunded)
      have unheld : ¬ s.held = true := by simp [Session.held, paid]
      simpa only [List.filter_cons, paid, unrefunded, unheld, if_false, Bool.false_eq_true] using rest

theorem balance_eq (sound : Sound order till) :
    takenBy till.sessions - returnedBy till.sessions =
      order.total * ((heldKeys till.sessions).card : Int) := by
  rw [card_heldKeys]
  exact balance_of_fair till.sessions.rows sound.fair

/-- **No double charge, by the sessions**: at most one is held, and none when the row says REFUNDED. -/
theorem noDoubleCharge_iff_held (sound : Sound order till) : NoDoubleCharge order till ↔
    (∀ key key', Held till.sessions key → Held till.sessions key' → key = key') ∧
      (till.service.Refunded order.orderId → ∀ key, ¬ Held till.sessions key) := by
  have balance := balance_eq sound
  have one : takenBy till.sessions - returnedBy till.sessions ≤ order.total ↔
      ∀ key key', Held till.sessions key → Held till.sessions key' → key = key' := by
    rw [balance, mul_le_iff_le_one_right order.total_pos, Nat.cast_le_one, Finset.card_le_one]
    simp only [mem_heldKeys]
    exact ⟨fun all key key' held held' => all key held key' held',
      fun all key held key' held' => all key key' held held'⟩
  have none_held : takenBy till.sessions - returnedBy till.sessions = 0 ↔
      ∀ key, ¬ Held till.sessions key := by
    rw [balance, mul_eq_zero, or_iff_right order.total_pos.ne', Nat.cast_eq_zero,
      Finset.card_eq_zero, Finset.eq_empty_iff_forall_notMem]
    simp only [mem_heldKeys]
  constructor
  · rintro ⟨charged, refunded⟩
    exact ⟨one.mp charged, fun says_so => none_held.mp (refunded says_so)⟩
  · rintro ⟨atMostOne, refunded⟩
    exact ⟨one.mpr atMostOne, fun says_so => none_held.mpr (refunded says_so)⟩

end Balance

/-! ### The status of the row -/

section Refunded

variable {account order} {till : Till} {w : World} {orderId : Nat} {payment : Payment}

theorem World.refunded_of_payment (found : w.payment orderId = some payment) :
    w.Refunded orderId ↔ payment.status = .refunded := by
  unfold World.Refunded
  rw [found, Option.map_some, Option.some_inj]

theorem World.not_refunded_of_absent (absent : w.payment orderId = none) :
    ¬ w.Refunded orderId := by
  unfold World.Refunded
  rw [absent]
  simp

theorem Payment.status_reauthorized (payment : Payment) (result : ProviderResult) :
    (payment.reauthorized result).status ≠ .refunded := by
  unfold Payment.reauthorized
  dsimp only
  split
  · decide
  · decide

/-- An answer that is written to the row with another status. -/
theorem refunded_answered {record : Except Raised ProviderResult → ProviderCall}
    {outcome : Except Raised ProviderResult} (row : ProviderResult → Payment)
    (own : ∀ result, (row result).orderId = orderId)
    (status : ∀ result, (row result).status ≠ .refunded) :
    (w.answered record outcome fun result called => called.put (row result)).Refunded orderId ↔
      w.Refunded orderId ∧ ¬ ∃ result, outcome = .ok result := by
  unfold World.answered
  cases outcome with
  | error raised => simp [World.Refunded]
  | ok result =>
    have written := World.refunded_of_payment
      ((World.payment_put (w.call (record (.ok result))) (row result) orderId).trans
        (if_pos (own result)))
    simp [written, status]

theorem refunded_create (gateway : Gateway) (snapshot : OrderSnapshot)
    (provider : Option PaymentProvider) :
    (w.step (.createPaymentForOrder gateway snapshot provider)).Refunded snapshot.orderId ↔
      w.Refunded snapshot.orderId := by
  rw [World.step, exec_createPaymentForOrder]
  cases absent : w.payment snapshot.orderId with
  | some payment => rfl
  | none =>
    have unrefunded := World.not_refunded_of_absent absent
    dsimp only
    rw [refunded_answered (newPayment snapshot _) (fun _ => rfl)]
    · simp [unrefunded]
    · intro result
      unfold newPayment
      dsimp only
      split
      · decide
      · decide

theorem refunded_retry (gateway : Gateway) (snapshot : OrderSnapshot)
    (provider : Option PaymentProvider) :
    (w.step (.retryPayment gateway snapshot provider)).Refunded snapshot.orderId ↔
      w.Refunded snapshot.orderId := by
  rw [World.step, exec_retryPayment]
  cases found : w.payment snapshot.orderId with
  | none => rfl
  | some payment =>
    dsimp only
    have own := World.orderId_of_payment found
    split
    · rename_i failed
      have unrefunded : ¬ w.Refunded snapshot.orderId := by
        rw [World.refunded_of_payment found, failed]
        decide
      rw [refunded_answered payment.reauthorized (fun _ => own) payment.status_reauthorized]
      simp [unrefunded]
    · rfl

/-- The answers of the account's provider. -/
theorem answered_card (exchange : Exchange) (snapshot : OrderSnapshot) (key : String) :
    ∃ result, authorization (account.gateway till.sessions exchange) snapshot none .card key =
      .ok result := by
  unfold authorization
  show ∃ result, (providerFor _ .card).authorize _ _ _ = .ok result
  rw [account.providerFor_card]
  exact (stripeProvider_answers _ _).1 _ _ _

theorem refunded_resume (status : Option OrderStatus) (exchange : Exchange) :
    (till.service.step (.resumeCardPayment (account.gateway till.sessions exchange)
        (order.snapshot status) none)).Refunded order.orderId ↔
      till.service.Refunded order.orderId ∧ ¬ ∃ payment,
        till.service.payment order.orderId = some payment ∧
        awaitsCard (order.snapshot status) payment = true := by
  rw [World.step, exec_resumeCardPayment, order.orderId_snapshot]
  cases found : till.service.payment order.orderId with
  | none => simp
  | some payment =>
    dsimp only
    by_cases awaits : awaitsCard (order.snapshot status) payment = true
    · have own := World.orderId_of_payment found
      rw [if_pos awaits, refunded_answered payment.reauthorized (fun _ => own) payment.status_reauthorized]
      simp [awaits, answered_card]
    · rw [if_neg awaits]
      simp [awaits]

theorem refunded_confirm (status : Option OrderStatus) (exchange : Exchange) :
    (till.service.step (.confirmCardPayment (account.gateway till.sessions exchange)
        (order.snapshot status) none)).Refunded order.orderId ↔
      till.service.Refunded order.orderId ∧ ¬ ∃ payment,
        till.service.payment order.orderId = some payment ∧
        awaitsCard (order.snapshot status) payment = true ∧ exchange ≠ .lost ∧
        ∃ s ∈ till.sessions.rows, s.paid = true ∧ account.names payment.providerRef s = true := by
  rw [World.step, exec_confirmCardPayment, order.orderId_snapshot]
  cases found : till.service.payment order.orderId with
  | none => simp
  | some payment =>
    dsimp only
    by_cases awaits : awaitsCard (order.snapshot status) payment = true
    · obtain ⟨result, answered, ok⟩ :=
        account.verify_eq till.sessions exchange payment.providerRef
      have asked : verification (account.gateway till.sessions exchange) none payment.providerRef =
          .ok result := by
        unfold verification
        show (providerFor _ .card).verify _ = _
        rw [account.providerFor_card]
        exact answered
      have paid : result.ok = true ↔ exchange ≠ .lost ∧
          ∃ s ∈ till.sessions.rows, s.paid = true ∧ account.names payment.providerRef s = true := by
        rw [ok]
        simp
      rw [if_pos awaits, asked]
      unfold World.answered
      dsimp only
      by_cases verified : result.ok = true
      · rw [if_pos verified]
        have same := World.orderId_of_payment found
        simp [World.Refunded, same, awaits, ← paid, verified]
      · rw [if_neg verified]
        simp [World.Refunded, awaits, ← paid, verified]
    · rw [if_neg awaits]
      simp [awaits]

theorem refunded_refund (sound : Sound order till) (status : Option OrderStatus)
    (exchange : Exchange) :
    (till.service.step (.refundPayment (account.gateway till.sessions exchange)
        (order.snapshot status) none)).Refunded order.orderId ↔
      (∃ payment, till.service.payment order.orderId = some payment ∧
        payment.status ∈ refundable) ∨ till.service.Refunded order.orderId := by
  rw [World.step, exec_refundPayment, order.orderId_snapshot]
  cases found : till.service.payment order.orderId with
  | none => simp
  | some payment =>
    dsimp only
    by_cases may : payment.status ∈ refundable
    · have same := World.orderId_of_payment found
      obtain ⟨result, answered⟩ : ∃ result, refundAnswer (account.gateway till.sessions exchange)
          (order.snapshot status) none payment = .ok result := by
        unfold refundAnswer
        rw [sound.card payment found]
        show ∃ result, (providerFor _ .card).refund _ _ = .ok result
        rw [account.providerFor_card]
        exact (stripeProvider_answers _ _).2.2 _ _
      rw [if_pos may, answered]
      simp [World.answered, World.Refunded, same, may]
    · rw [if_neg may]
      simp [may]

theorem refunded_event (redis : Bool) (event : StripeEvent) :
    (w.step (.handleEvent redis event)).Refunded orderId ↔
      w.Refunded orderId ∧ ¬ ∃ payment, w.payment orderId = some payment ∧
        event.ActsOn redis w payment ∧
        (event.type ∈ fails ∨ (event.type ∈ settles ∧ event.awaiting = false)) := by
  by_cases rewrites : ∃ payment, w.payment orderId = some payment ∧
      event.ActsOn redis w payment ∧
      (event.type ∈ fails ∨ (event.type ∈ settles ∧ event.awaiting = false))
  · obtain ⟨payment, found, acts, kind⟩ := rewrites
    have own := World.orderId_of_payment found
    have row : (w.step (.handleEvent redis event)).payment orderId =
        some (payment.afterEvent event) := by
      rw [← own]
      exact payment_of_event acts (List.mem_append.mpr (kind.symm.imp_left And.left))
    have status : (payment.afterEvent event).status ≠ .refunded := by
      unfold Payment.afterEvent
      by_cases failing : event.type ∈ fails
      · rw [if_pos failing]
        exact PaymentTxStatus.noConfusion
      · have paid := (kind.resolve_left failing).2
        simp [failing, paid, Payment.settledBy]
    have unrefunded : ¬ (w.step (.handleEvent redis event)).Refunded orderId := by
      rw [World.refunded_of_payment row]
      exact status
    exact iff_of_false unrefunded fun kept => kept.2 ⟨payment, found, acts, kind⟩
  · rw [and_iff_left rewrites]
    have touched := w.touched (.handleEvent redis event) orderId
    cases touched with
    | same row _ =>
      unfold World.Refunded
      rw [row]
    | awaited _ _ payment _ _ found _ _ row _ =>
      rw [World.refunded_of_payment row, World.refunded_of_payment found]
    | failed _ _ payment operation acts found kind _ _ =>
      cases operation
      exact absurd ⟨payment, found, acts, Or.inl kind⟩ rewrites
    | settled _ _ payment operation acts found kind paid _ _ =>
      cases operation
      exact absurd ⟨payment, found, acts, Or.inr ⟨kind, paid⟩⟩ rewrites
    | created _ _ _ _ operation => cases operation
    | captured _ _ operation => cases operation
    | retried _ _ _ _ _ operation => cases operation
    | resumed _ _ _ _ _ operation => cases operation
    | confirmed _ _ _ _ _ operation => cases operation
    | refunded _ _ _ _ _ operation => cases operation

/-- **What a move does to a row that says REFUNDED.** -/
theorem refunded_step (sound : Sound order till) (move : Move) :
    (till.step account order move).service.Refunded order.orderId ↔
      RefundsRow order till move ∨
        (till.service.Refunded order.orderId ∧ ¬ Rewrites account order till move) := by
  cases move with
  | create status exchange =>
    refine (refunded_create _ (order.snapshot status) none).trans ?_
    simp [RefundsRow, Rewrites]
  | retry status exchange =>
    refine (refunded_retry _ (order.snapshot status) none).trans ?_
    simp [RefundsRow, Rewrites]
  | resume status exchange =>
    refine (refunded_resume status exchange).trans ?_
    simp [RefundsRow, Rewrites]
  | confirm status exchange =>
    refine (refunded_confirm status exchange).trans ?_
    simp [RefundsRow, Rewrites]
  | refund status exchange =>
    refine (refunded_refund sound status exchange).trans ?_
    simp [RefundsRow, Rewrites]
  | deliver redis event =>
    refine (refunded_event redis event).trans ?_
    simp [RefundsRow, Rewrites]
  | pay key =>
    show (till.pay account key).service.Refunded _ ↔ _
    rw [service_pay]
    simp [RefundsRow, Rewrites]
  | expire key =>
    show (till.expire key).service.Refunded _ ↔ _
    rw [service_expire]
    simp [RefundsRow, Rewrites]

end Refunded

/-! ### Whole histories -/

section Histories

variable {account order}

theorem sound_after (moves : List Move) : Sound order (Till.after account order moves) := by
  have always : Always (Till.step account order) (Sound order) .empty moves :=
    always_of_step (fun _ move sound => sound_step sound move) sound_empty
  exact always.last

/-- The sessions that are held are the ones that have been paid and not returned. -/
theorem held_after (moves : List Move) (key : String) :
    Held (Till.after account order moves).sessions key ↔ Unreturned account order moves key := by
  have unheld : ¬ Held Till.empty.sessions key := by
    rintro ⟨s, found, _⟩
    cases found
  exact run_iff_since (Sound order) (fun till => Held till.sessions key)
    (fun _ move _ sound => sound_step sound move) sound_empty unheld
    fun _ move _ sound => held_step sound move

/-- The row says REFUNDED when a refund left it so. -/
theorem refunded_after (moves : List Move) :
    (Till.after account order moves).service.Refunded order.orderId ↔
      LeftRefunded account order moves := by
  have unrefunded : ¬ Till.empty.service.Refunded order.orderId :=
    World.not_refunded_of_absent rfl
  exact run_iff_since (Sound order) (fun till => till.service.Refunded order.orderId)
    (fun _ move _ sound => sound_step sound move) sound_empty unrefunded
    fun _ move _ sound => refunded_step sound move

end Histories

/-- **When no order is charged twice**: after every history, if and only if at most one session has been
paid and not returned since, and none when a refund has left the row REFUNDED. -/
theorem noDoubleCharge_iff (moves : List Move) :
    NoDoubleCharge order (Till.after account order moves) ↔
      (∀ key key', Unreturned account order moves key → Unreturned account order moves key' →
          key = key') ∧
        (LeftRefunded account order moves → ∀ key, ¬ Unreturned account order moves key) := by
  rw [noDoubleCharge_iff_held (sound_after moves), refunded_after]
  simp only [held_after]

/-! ### Two tabs -/

/-- Ids that are the keys, with Stripe's prefixes. -/
def testAccount : Account where
  settings := { stripeSecretKey := some "sk_test_1" }
  keyed := by decide
  session := fun key => "cs_" ++ key
  intent := fun key => "pi_" ++ key
  session_cs := fun key => by simp [sessionId?]
  intent_pi := fun key => by simp [sessionId?]
  intent_ne := fun key same => by
    have letters := congrArg String.toList same
    rw [String.toList_append] at letters
    cases letters
  session_injective := fun key other same => String.append_right_inj "cs_" |>.mp same
  intent_injective := fun key other same => String.append_right_inj "pi_" |>.mp same

def testOrder : CardOrder where
  orderId := 1
  customerId := 7
  total := 20000
  total_pos := by decide

/-- The customer leaves the first page, resumes, and pays on both; Stripe delivers everything. -/
def paidTwice : List Move :=
  [ .create (some .paymentPending) .answered, .resume (some .paymentPending) .answered,
    .pay "order-1", .pay "order-1-resume" ] ++
    ((testAccount.receipts "order-1" ++ testAccount.receipts "order-1-resume").map (.deliver true))

/-- **Charged twice**: the row remembers the second session, and the first is never looked at again. -/
theorem paidTwice_charges_twice : ¬ ∀ (account : Account) (order : CardOrder) (moves : List Move),
    Quiet (Till.after account order moves) →
      NoDoubleCharge order (Till.after account order moves) := by
  intro never
  have quiet : (Till.after testAccount testOrder paidTwice).owed = [] := by decide
  have charged := (never testAccount testOrder paidTwice quiet).charged
  have twice : takenBy (Till.after testAccount testOrder paidTwice).sessions -
      returnedBy (Till.after testAccount testOrder paidTwice).sessions = 40000 := by decide
  rw [twice] at charged
  exact absurd charged (by decide)

end FoodDelivery.Payments
