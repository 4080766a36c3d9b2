/-
**Refund commands that are acknowledged.**

The messages about one order come on two topics, each in its order: a message is delivered, any
number of times and to handlers that run at the same time, until it is acknowledged, and it is
acknowledged only on behalf of a handler that returned. Every handler takes its actions one by one
and may die after any of them.

`refunded_of_acknowledged`: a refund command that is acknowledged has been carried out, so an order
that was sent one has its payment REFUNDED once every message is acknowledged. Two things have to be
avoided on the way: that a refund command is acknowledged for a handler that found the order but no
payment yet, because it read between the two commits of `_apply_order_event`; and that the commit of
a settle command overwrites a refund.
-/

import FoodDelivery.Payments.Deliveries
import FoodDelivery.Payments.Growth

set_option autoImplicit false

namespace FoodDelivery.Payments

open FoodDelivery.Lib
open FoodDelivery.Lib.Program (Within)

/-! ### The messages and their handlers -/

/-- What is published about one order: the payloads of `order-events` and the actions of
`payment-commands`, each oldest first. -/
structure Inbox where
  orderId : Nat
  events : List OrderEvent
  commands : List PaymentAction

inductive Message where
  | orderEvent (payload : OrderEvent)
  | paymentCommand (action : PaymentAction)
deriving DecidableEq

/-- `_HANDLERS`. -/
def Message.handler (message : Message) (gateway : Gateway) (orderId : Nat) : Handler Unit :=
  match message with
  | .orderEvent payload => applyOrderEvent gateway payload
  | .paymentCommand action =>
    applyPaymentCommand gateway { orderId := some orderId, action := some action }

/-- One delivery of a message: its place in its topic, its handler, and how many actions that has
taken. `foundNothing` is whether its second action found no payment. -/
structure Delivery where
  gateway : Gateway
  message : Message
  offset : Nat
  program : Handler Unit
  taken : Nat := 0
  foundNothing : Bool := false

/-- The world, how many messages of each topic are acknowledged, and the deliveries so far. -/
structure Consumption where
  world : World
  eventsAcked : Nat := 0
  commandsAcked : Nat := 0
  deliveries : List Delivery := []

inductive ConsumerLabel where
  | deliverEvent (gateway : Gateway)
  | deliverCommand (gateway : Gateway)
  | act (i : Nat)
  | die (i : Nat)
  | acknowledge (i : Nat)

/-- A delivery whose handler has not begun. -/
def Inbox.deliver (inbox : Inbox) (gateway : Gateway) (message : Message) (offset : Nat) :
    Delivery where
  gateway := gateway
  message := message
  offset := offset
  program := message.handler gateway inbox.orderId

/-- A delivery whose handler has taken one more action, in the world it found. -/
def Delivery.acted (d : Delivery) (orderId : Nat) (w : World) (left : Handler Unit) : Delivery :=
  { d with
    program := left
    taken := d.taken + 1
    foundNothing := if d.taken = 1 then decide (w.payment orderId = none) else d.foundNothing }

/-- A delivery whose handler died. -/
def Delivery.died (d : Delivery) : Delivery :=
  { d with program := .raise (.other "CancelledError" "") }

/-- A topic moves past a message, if it still waits for it. -/
def Consumption.acknowledged (c : Consumption) (d : Delivery) : Consumption :=
  match d.message with
  | .orderEvent _ =>
    if d.offset = c.eventsAcked then { c with eventsAcked := c.eventsAcked + 1 } else c
  | .paymentCommand _ =>
    if d.offset = c.commandsAcked then { c with commandsAcked := c.commandsAcked + 1 } else c

def Consumption.step (inbox : Inbox) (c : Consumption) : ConsumerLabel → Consumption
  | .deliverEvent gateway =>
    match inbox.events[c.eventsAcked]? with
    | none => c
    | some payload =>
      { c with
        deliveries := c.deliveries ++ [inbox.deliver gateway (.orderEvent payload) c.eventsAcked] }
  | .deliverCommand gateway =>
    match inbox.commands[c.commandsAcked]? with
    | none => c
    | some action =>
      { c with
        deliveries :=
          c.deliveries ++ [inbox.deliver gateway (.paymentCommand action) c.commandsAcked] }
  | .act i =>
    match c.deliveries[i]? with
    | none => c
    | some d =>
      match d.program with
      | .act update left =>
        { c with
          world := update c.world
          deliveries := c.deliveries.set i (d.acted inbox.orderId c.world (left c.world)) }
      | _ => c
  | .die i =>
    match c.deliveries[i]? with
    | none => c
    | some d => { c with deliveries := c.deliveries.set i d.died }
  | .acknowledge i =>
    match c.deliveries[i]? with
    | none => c
    | some d => if d.program.Returned then c.acknowledged d else c

/-- Nothing stored, nothing delivered. -/
def Consumption.start : Consumption where
  world := .empty

/-! ### What has to hold, and when it does -/

/-- Every message has been acknowledged. -/
def Consumption.Finished (inbox : Inbox) (c : Consumption) : Prop :=
  c.eventsAcked = inbox.events.length ∧ c.commandsAcked = inbox.commands.length

/-- The provider authorises the payment: when one is created, it is AUTHORIZED. -/
def Authorises (inbox : Inbox) (c : Consumption) (label : ConsumerLabel) : Prop :=
  c.world.payment inbox.orderId = none → (c.step inbox label).world.payment inbox.orderId = none ∨
    ((c.step inbox label).world.payment inbox.orderId).map Payment.status = some .authorized

/-- **No refund is swallowed or undone**: a refund command is not acknowledged for a handler that
found no payment, and a settle does not commit over a REFUNDED payment. -/
def Heeds (inbox : Inbox) (c : Consumption) : ConsumerLabel → Prop
  | .acknowledge i => ∀ d ∈ c.deliveries[i]?, d.message = .paymentCommand .refund →
    d.program.Returned → d.offset = c.commandsAcked → d.foundNothing = false
  | .act i => ∀ d ∈ c.deliveries[i]?, d.message = .paymentCommand .settle → d.taken = 2 →
    d.program.Running → ¬ c.world.Refunded inbox.orderId
  | _ => True

instance (inbox : Inbox) (c : Consumption) (label : ConsumerLabel) :
    Decidable (Authorises inbox c label) :=
  inferInstanceAs (Decidable (_ → _ ∨ _))

instance (inbox : Inbox) (c : Consumption) : ∀ label, Decidable (Heeds inbox c label)
  | .acknowledge i => inferInstanceAs (Decidable (∀ d ∈ c.deliveries[i]?,
      d.message = .paymentCommand .refund → d.program.Returned → d.offset = c.commandsAcked →
        d.foundNothing = false))
  | .act i => inferInstanceAs (Decidable (∀ d ∈ c.deliveries[i]?,
      d.message = .paymentCommand .settle → d.taken = 2 → d.program.Running →
        ¬ c.world.Refunded inbox.orderId))
  | .deliverEvent _ | .deliverCommand _ | .die _ => .isTrue trivial

/-! ### What one step can do -/

/-- The outcomes of a step. -/
inductive Consumption.Steps (inbox : Inbox) (c : Consumption) : ConsumerLabel → Consumption → Prop
  | idle (label : ConsumerLabel) : c.Steps inbox label c
  | delivered (label : ConsumerLabel) (gateway : Gateway) (message : Message) (offset : Nat)
      (place : ∀ action, message = .paymentCommand action →
        inbox.commands[offset]? = some action) :
    c.Steps inbox label
      { c with deliveries := c.deliveries ++ [inbox.deliver gateway message offset] }
  | acted (i : Nat) (d : Delivery) (update : World → World) (left : World → Handler Unit)
      (present : c.deliveries[i]? = some d) (running : d.program = .act update left) :
    c.Steps inbox (.act i)
      { c with
        world := update c.world
        deliveries := c.deliveries.set i (d.acted inbox.orderId c.world (left c.world)) }
  | died (i : Nat) (d : Delivery) (present : c.deliveries[i]? = some d) :
    c.Steps inbox (.die i) { c with deliveries := c.deliveries.set i d.died }
  | acknowledgedEvent (i : Nat) :
    c.Steps inbox (.acknowledge i) { c with eventsAcked := c.eventsAcked + 1 }
  | acknowledgedCommand (i : Nat) (d : Delivery) (action : PaymentAction)
      (present : c.deliveries[i]? = some d) (message : d.message = .paymentCommand action)
      (returned : d.program.Returned) (next : d.offset = c.commandsAcked) :
    c.Steps inbox (.acknowledge i) { c with commandsAcked := c.commandsAcked + 1 }

theorem Consumption.steps (inbox : Inbox) (c : Consumption) (label : ConsumerLabel) :
    c.Steps inbox label (c.step inbox label) := by
  cases label with
  | deliverEvent gateway =>
    unfold Consumption.step
    dsimp only
    split
    · exact .idle _
    · exact .delivered _ _ _ _ fun action event => by cases event
  | deliverCommand gateway =>
    unfold Consumption.step
    dsimp only
    split
    · exact .idle _
    · rename_i action place
      refine .delivered _ _ _ _ fun other command => ?_
      cases command
      exact place
  | act i =>
    unfold Consumption.step
    dsimp only
    split
    · exact .idle _
    · rename_i d present
      split
      · rename_i update left running
        exact .acted i d update left present running
      · exact .idle _
  | die i =>
    unfold Consumption.step
    dsimp only
    split
    · exact .idle _
    · rename_i d present
      exact .died i d present
  | acknowledge i =>
    unfold Consumption.step Consumption.acknowledged
    dsimp only
    split
    · exact .idle _
    · rename_i d present
      split
      · rename_i returned
        split
        · split
          · exact .acknowledgedEvent i
          · exact .idle _
        · rename_i action message
          split
          · rename_i next
            exact .acknowledgedCommand i d action present message returned next
          · exact .idle _
      · exact .idle _

/-! ### What a step leaves of the payment -/

/-- Every payment that is there stays as it is. -/
def World.KeepsPayments (w next : World) : Prop :=
  ∀ orderId payment, w.payment orderId = some payment → next.payment orderId = some payment

/-- **The handler of an order event changes no payment that is there.** -/
theorem applyOrderEvent_keepsPayments (gateway : Gateway) (payload : OrderEvent) :
    (applyOrderEvent gateway payload).Within World.KeepsPayments := by
  have reflexive : ∀ w : World, w.KeepsPayments w := fun _ _ _ => id
  refine applyOrderEvent_within gateway reflexive (fun _ _ _ _ => id) ?_ ?_ payload
  · intro payment
    refine Within.modify fun w => ?_
    split
    · rename_i absent
      intro orderId row found
      rw [World.payment_put]
      split
      · rename_i same
        rw [same, found] at absent
        cases absent
      · exact found
    · exact reflexive w
  · intro found after
    unfold commitSnapshot
    split
    · refine Within.modify fun w => ?_
      split
      · exact fun _ _ => id
      · exact reflexive w
    · refine Within.modify fun w => ?_
      split
      · exact reflexive w
      · exact fun _ _ => id

/-- The payment of an order stays there, and stays REFUNDED. -/
structure World.Steady (orderId : Nat) (w next : World) : Prop where
  present : w.payment orderId ≠ none → next.payment orderId ≠ none
  refunded : w.Refunded orderId → next.Refunded orderId

/-- Statuses of a payment whose authorisation was granted, under these handlers. -/
def grantedStatuses : List PaymentTxStatus := [.authorized, .succeeded, .refunded]

/-- The payment of an order, when there is one, was authorised. -/
def World.Granted (orderId : Nat) (w : World) : Prop :=
  ∀ payment, w.payment orderId = some payment → payment.status ∈ grantedStatuses

/-- Such a payment can be refunded or has been. -/
theorem World.Granted.refunded {orderId : Nat} {w : World} {payment : Payment}
    (granted : w.Granted orderId) (found : w.payment orderId = some payment)
    (kept : payment.status ∉ refundable) : w.Refunded orderId := by
  have status := granted payment found
  unfold World.Refunded
  rw [found]
  show some payment.status = some .refunded
  revert status kept
  generalize payment.status = status
  cases status <;> decide

/-! ### What a run keeps -/

/-- What is so of a delivery at any time. -/
def Delivery.Coherent (orderId : Nat) (w : World) (d : Delivery) : Prop :=
  match d.message with
  | .orderEvent _ => d.program.Within World.KeepsPayments
  | .paymentCommand .settle => SettleStage d.gateway orderId d.taken d.program
  | .paymentCommand .refund =>
    RefundStage d.gateway orderId d.taken d.program ∧
      (2 ≤ d.taken → d.program.Running → w.payment orderId ≠ none) ∧
      (d.taken = 4 → d.program.Running → w.Refunded orderId) ∧
      (d.program.Returned → d.foundNothing = false → w.Refunded orderId)

theorem Delivery.Coherent.frame {orderId : Nat} {w next : World} {d : Delivery}
    (coherent : d.Coherent orderId w) (steady : w.Steady orderId next) :
    d.Coherent orderId next := by
  unfold Delivery.Coherent at coherent ⊢
  split
  · rename_i message
    rw [message] at coherent
    exact coherent
  · rename_i message
    rw [message] at coherent
    exact coherent
  · rename_i message
    rw [message] at coherent
    obtain ⟨stage, present, committed, returned⟩ := coherent
    exact ⟨stage, fun second running => steady.present (present second running),
      fun fourth running => steady.refunded (committed fourth running),
      fun ended found => steady.refunded (returned ended found)⟩

/-- **The invariant of a run that heeds its refunds.** -/
structure Consumption.Guarded (inbox : Inbox) (c : Consumption) : Prop where
  granted : c.world.Granted inbox.orderId
  coherent : ∀ d ∈ c.deliveries, d.Coherent inbox.orderId c.world
  place : ∀ d ∈ c.deliveries, ∀ action, d.message = .paymentCommand action →
    inbox.commands[d.offset]? = some action
  /-- A refund command that is acknowledged has been carried out. -/
  done : ∀ n, n < c.commandsAcked → inbox.commands[n]? = some .refund →
    c.world.Refunded inbox.orderId

theorem guarded_startConsumption (inbox : Inbox) : Consumption.start.Guarded inbox where
  granted := fun _ found => by cases found
  coherent := fun _ member => absurd member List.not_mem_nil
  place := fun _ member => absurd member List.not_mem_nil
  done := fun n before => absurd before (Nat.not_lt_zero n)

/-- Writing a status to the payment of an order, where a later status is not taken back. -/
theorem steady_of_status {orderId : Nat} {w next : World} {writes : Prop} [Decidable writes]
    {status : PaymentTxStatus} (status_granted : status ∈ grantedStatuses)
    (keeps : writes → w.Refunded orderId → status = .refunded) (granted : w.Granted orderId)
    (row : next.payment orderId =
      if writes then (w.payment orderId).map fun row => { row with status := status }
      else w.payment orderId) :
    w.Steady orderId next ∧ next.Granted orderId := by
  by_cases written : writes
  · rw [if_pos written] at row
    refine ⟨⟨fun present => ?_, fun refunded => ?_⟩, fun payment found => ?_⟩
    · rw [row]
      exact fun gone => present (Option.map_eq_none_iff.mp gone)
    · have same := keeps written refunded
      obtain ⟨payment, found, _⟩ := Option.map_eq_some_iff.mp refunded
      unfold World.Refunded
      rw [row, found]
      exact congrArg some same
    · rw [row] at found
      obtain ⟨before, _, rfl⟩ := Option.map_eq_some_iff.mp found
      exact status_granted
  · rw [if_neg written] at row
    refine ⟨⟨fun present => row ▸ present, fun refunded => ?_⟩, fun payment found => ?_⟩
    · unfold World.Refunded
      rw [row]
      exact refunded
    · exact granted payment (row.symm.trans found)

/-- Where an action leaves the handler of a refund: with a payment there, with the payment REFUNDED
once it has committed, and so when it returns, unless it had found none. -/
theorem RefundMoves.standing {gateway : Gateway} {orderId taken : Nat} {program : Handler Unit}
    {w next : World} (moves : RefundMoves gateway orderId w taken program next)
    (granted : w.Granted orderId) (present : 2 ≤ taken → w.payment orderId ≠ none)
    (committed : taken = 4 → w.Refunded orderId) :
    (2 ≤ taken + 1 → program.Running → next.payment orderId ≠ none) ∧
      (taken + 1 = 4 → program.Running → next.Refunded orderId) ∧
      ∀ foundNothing : Bool, program.Returned →
        (if taken = 1 then decide (w.payment orderId = none) else foundNothing) = false →
        next.Refunded orderId := by
  cases moves with
  | unknown raised absent =>
    exact ⟨fun second => absurd second (by omega), fun fourth => absurd fourth (by omega),
      fun _ ended => ended.elim⟩
  | known order found =>
    exact ⟨fun second => absurd second (by omega), fun fourth => absurd fourth (by omega),
      fun _ ended => ended.elim⟩
  | missing absent =>
    refine ⟨fun _ goes_on => goes_on.elim, fun fourth => absurd fourth (by omega), ?_⟩
    intro foundNothing _ found
    rw [if_pos rfl, absent] at found
    cases found
  | declined payment found kept =>
    exact ⟨fun _ goes_on => goes_on.elim, fun fourth => absurd fourth (by omega),
      fun _ _ _ => granted.refunded found kept⟩
  | passed order payment own found may =>
    refine ⟨fun _ _ => ?_, fun fourth => absurd fourth (by omega), fun _ ended => ended.elim⟩
    rw [found]
    exact Option.some_ne_none payment
  | answered order payment own same may =>
    exact ⟨fun _ _ => present (by omega), fun fourth => absurd fourth (by omega),
      fun _ ended => ended.elim⟩
  | lost order payment raised own =>
    exact ⟨fun _ goes_on => goes_on.elim, fun fourth => absurd fourth (by omega),
      fun _ ended => ended.elim⟩
  | committed payment same may =>
    have moves : RefundMoves gateway orderId w 3 (reread payment)
        (w.update payment { payment with status := .refunded }) := .committed payment same may
    have done := moves.commits (present (by omega))
    refine ⟨fun _ _ gone => ?_, fun _ _ => done, fun _ ended => ended.elim⟩
    unfold World.Refunded at done
    rw [gone] at done
    cases done
  | returned =>
    exact ⟨fun _ goes_on => goes_on.elim, fun fourth => absurd fourth (by omega),
      fun _ _ _ => committed rfl⟩

/-- **One action of any handler**: it keeps the payment, and its own delivery is as it should be. -/
theorem Delivery.Coherent.acted {orderId : Nat} {w : World} {d : Delivery}
    {update : World → World} {left : World → Handler Unit} (coherent : d.Coherent orderId w)
    (granted : w.Granted orderId) (running : d.program = .act update left)
    (authorised : w.payment orderId = none → (update w).payment orderId = none ∨
      ((update w).payment orderId).map Payment.status = some .authorized)
    (heeds : d.message = .paymentCommand .settle → d.taken = 2 → ¬ w.Refunded orderId) :
    w.Steady orderId (update w) ∧ (update w).Granted orderId ∧
      (d.acted orderId w (left w)).Coherent orderId (update w) := by
  unfold Delivery.Coherent at coherent ⊢
  show _ ∧ _ ∧ (match d.message with
    | .orderEvent _ => _
    | .paymentCommand .settle => _
    | .paymentCommand .refund => _)
  rw [running] at coherent
  cases message : d.message with
  | orderEvent payload =>
    rw [message] at coherent
    have here := coherent w
    refine ⟨⟨fun present => ?_, fun refunded => ?_⟩, fun payment found => ?_, here.2⟩
    · obtain ⟨payment, found⟩ := Option.ne_none_iff_exists'.mp present
      rw [here.1 orderId payment found]
      exact Option.some_ne_none payment
    · obtain ⟨payment, found, status⟩ := Option.map_eq_some_iff.mp refunded
      unfold World.Refunded
      rw [here.1 orderId payment found]
      exact congrArg some status
    · cases before : w.payment orderId with
      | none =>
        -- a payment that is created is authorised
        rcases authorised before with still | status
        · rw [still] at found
          cases found
        · rw [found] at status
          rw [Option.some.inj status]
          decide
      | some old =>
        rw [here.1 orderId old before] at found
        cases found
        exact granted _ before
  | paymentCommand action =>
    cases action with
    | settle =>
      rw [message] at coherent
      obtain ⟨stage, row⟩ := settleStage_advance coherent trivial w
      obtain ⟨steady, still⟩ := steady_of_status (by decide)
        (fun writes refunded => absurd refunded (heeds message writes.1)) granted (row orderId)
      exact ⟨steady, still, stage⟩
    | refund =>
      rw [message] at coherent
      obtain ⟨stage, present, committed, returned⟩ := coherent
      have moves : RefundMoves d.gateway orderId w d.taken (left w) (update w) :=
        refundStage_advance stage trivial w
      obtain ⟨steady, still⟩ := steady_of_status (by decide) (fun _ _ => rfl) granted
        (moves.payment orderId)
      obtain ⟨present_next, committed_next, returned_next⟩ := moves.standing granted
        (fun second => present second trivial) (fun fourth => committed fourth trivial)
      exact ⟨steady, still, moves.stage, present_next, committed_next,
        returned_next d.foundNothing⟩

/-- A new delivery is as it should be. -/
theorem coherent_deliver (inbox : Inbox) (gateway : Gateway) (message : Message) (offset : Nat)
    (w : World) : (inbox.deliver gateway message offset).Coherent inbox.orderId w := by
  cases message with
  | orderEvent payload => exact applyOrderEvent_keepsPayments gateway payload
  | paymentCommand action =>
    cases action with
    | settle => exact .begun
    | refund =>
      exact ⟨.begun, fun second => absurd second (Nat.not_succ_le_zero 1),
        fun fourth => absurd fourth (Nat.succ_ne_zero 3).symm, fun ended => ended.elim⟩

/-- So is one whose handler died. -/
theorem coherent_died (orderId : Nat) (w : World) (d : Delivery) : d.died.Coherent orderId w := by
  unfold Delivery.Coherent
  show (match d.message with
    | .orderEvent _ => _
    | .paymentCommand .settle => _
    | .paymentCommand .refund => _)
  cases d.message with
  | orderEvent payload => trivial
  | paymentCommand action =>
    cases action with
    | settle => exact .raised _ _
    | refund =>
      exact ⟨.raised _ _, fun _ running => running.elim, fun _ running => running.elim,
        fun ended => ended.elim⟩

/-- **One step of a run that heeds its refunds.** -/
theorem Consumption.Guarded.step {inbox : Inbox} {c : Consumption} {label : ConsumerLabel}
    (guarded : c.Guarded inbox) (authorised : Authorises inbox c label)
    (heeds : Heeds inbox c label) : (c.step inbox label).Guarded inbox := by
  have steps := c.steps inbox label
  unfold Authorises at authorised
  revert steps authorised
  generalize c.step inbox label = next
  intro authorised steps
  cases steps with
  | idle => exact guarded
  | delivered _ gateway message offset place =>
    refine ⟨guarded.granted, fun d member => ?_, fun d member => ?_, guarded.done⟩
    · rcases List.mem_append.mp member with old | new
      · exact guarded.coherent d old
      · rw [List.mem_singleton.mp new]
        exact coherent_deliver inbox gateway message offset c.world
    · rcases List.mem_append.mp member with old | new
      · exact guarded.place d old
      · rw [List.mem_singleton.mp new]
        exact place
  | acted i d update left present running =>
    have here := List.mem_of_getElem? present
    have settles : d.message = .paymentCommand .settle → d.taken = 2 →
        ¬ c.world.Refunded inbox.orderId := by
      intro settle second
      exact heeds d present settle second (by rw [running]; trivial)
    obtain ⟨steady, granted, coherent⟩ :=
      (guarded.coherent d here).acted guarded.granted running authorised settles
    refine ⟨granted, fun other member => ?_, fun other member => ?_, fun n before command => ?_⟩
    · rcases List.mem_or_eq_of_mem_set member with old | rfl
      · exact (guarded.coherent other old).frame steady
      · exact coherent
    · rcases List.mem_or_eq_of_mem_set member with old | rfl
      · exact guarded.place other old
      · exact guarded.place d here
    · exact steady.refunded (guarded.done n before command)
  | died i d present =>
    have here := List.mem_of_getElem? present
    refine ⟨guarded.granted, fun other member => ?_, fun other member => ?_, guarded.done⟩
    · rcases List.mem_or_eq_of_mem_set member with old | rfl
      · exact guarded.coherent other old
      · exact coherent_died inbox.orderId c.world d
    · rcases List.mem_or_eq_of_mem_set member with old | rfl
      · exact guarded.place other old
      · exact guarded.place d here
  | acknowledgedEvent i => exact ⟨guarded.granted, guarded.coherent, guarded.place, guarded.done⟩
  | acknowledgedCommand i d action present message returned last =>
    have here := List.mem_of_getElem? present
    refine ⟨guarded.granted, guarded.coherent, guarded.place, fun n before command => ?_⟩
    by_cases earlier : n < c.commandsAcked
    · exact guarded.done n earlier command
    · -- it is this message's own acknowledgement, for a handler that found the payment
      have this_one : n = d.offset := by
        have bound : n < c.commandsAcked + 1 := before
        omega
      have place := guarded.place d here action message
      rw [← this_one, command] at place
      obtain rfl := Option.some.inj place
      have found : d.foundNothing = false := heeds d present message returned last
      have coherent := guarded.coherent d here
      unfold Delivery.Coherent at coherent
      rw [message] at coherent
      exact coherent.2.2.2 returned found

/-- **When a refund command is carried out.** Whatever was published about an order, a refund among
it, and however the messages are delivered, repeated and interleaved: if the provider authorises the
payment, no refund command is acknowledged for a handler that found no payment, and no settle commits
over a refund, then the payment is REFUNDED in every state where all messages are acknowledged. -/
theorem refunded_of_acknowledged (inbox : Inbox) (labels : List ConsumerLabel)
    (asked : .refund ∈ inbox.commands)
    (authorises : Throughout (Consumption.step inbox) (Authorises inbox) .start labels)
    (heeds : Throughout (Consumption.step inbox) (Heeds inbox) .start labels) :
    Always (Consumption.step inbox)
      (fun c => c.Finished inbox → c.world.Refunded inbox.orderId) .start labels := by
  have guarded : Always (Consumption.step inbox) (Consumption.Guarded inbox) .start labels := by
    refine always_of_throughout (G := fun c label => Authorises inbox c label ∧ Heeds inbox c label)
      (fun c label guarded both => guarded.step both.1 both.2) (guarded_startConsumption inbox) ?_
    exact authorises.and heeds
  refine guarded.mono fun c guarded finished => ?_
  obtain ⟨n, place⟩ := List.getElem?_of_mem asked
  obtain ⟨inside, _⟩ := List.getElem?_eq_some_iff.mp place
  exact guarded.done n (by rw [finished.2]; exact inside) place

/-- A cash order that its customer cancels at once. -/
def cancelledAtOnce : Inbox where
  orderId := 1
  events :=
    [ { orderId := some 1, customerId := some 7, status := some .paymentSuccess
        total := some 20000, paymentMethod := some .cod },
      { orderId := some 1, customerId := some 7, status := some .cancelled
        total := some 20000, paymentMethod := some .cod } ]
  commands := [.refund]

/-- One message after the other. -/
def oneByOne : List ConsumerLabel :=
  [ .deliverEvent standIn, .act 0, .act 0, .act 0, .act 0, .act 0, .act 0, .acknowledge 0,
    .deliverCommand standIn, .act 1, .act 1, .act 1, .act 1, .act 1, .acknowledge 1,
    .deliverEvent standIn, .act 2, .act 2, .acknowledge 2 ]

theorem refunded_of_acknowledged_oneByOne :
    Always (Consumption.step cancelledAtOnce)
      (fun c => c.Finished cancelledAtOnce → c.world.Refunded 1) .start oneByOne :=
  refunded_of_acknowledged cancelledAtOnce oneByOne (by decide) (by decide) (by decide)

/-- The command comes between the two commits of the first order event. -/
def betweenCommits : List ConsumerLabel :=
  [ .deliverEvent standIn, .act 0, .act 0,
    .deliverCommand standIn, .act 1, .act 1, .acknowledge 1,
    .act 0, .act 0, .act 0, .act 0, .acknowledge 0,
    .deliverEvent standIn, .act 2, .act 2, .acknowledge 2 ]

/-- **A refund command that is swallowed.** -/
theorem betweenCommits_not_refunded :
    ¬ ∀ inbox labels, .refund ∈ inbox.commands →
      Throughout (Consumption.step inbox) (Authorises inbox) .start labels →
      Always (Consumption.step inbox)
        (fun c => c.Finished inbox → c.world.Refunded inbox.orderId) .start labels := by
  intro always
  have last := (always cancelledAtOnce betweenCommits (by decide) (by decide)).last
  have finished : (run (Consumption.step cancelledAtOnce) .start betweenCommits).Finished
      cancelledAtOnce := by
    unfold Consumption.Finished
    decide
  have kept : ¬ (run (Consumption.step cancelledAtOnce) .start betweenCommits).world.Refunded 1 := by
    decide
  exact kept (last finished)

end FoodDelivery.Payments
