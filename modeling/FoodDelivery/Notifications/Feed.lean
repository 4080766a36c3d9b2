/-
**Whether the feed shows each step once** (`services/notifications/app/consumer.py`, `_handle_order`, over
`shared/messaging.py`).

The order events arrive at least once: any of them is handed to a handler any number of times, at any
time. A handler looks the customer up and sends, it commits its rows, and its event is acknowledged. One
that dies takes no further step; one that is given up after the timeout may still commit. Nothing tells a
second handler that the rows are there.

`feed_iff`: once every event has been acknowledged, every customer's feed has exactly one row for each
event of theirs if and only if no handler committed for an event that another one had committed for.
`lostAcknowledgement_repeats`: the handler that dies between its commit and the acknowledgement.
-/

import FoodDelivery.Lib.Replays
import FoodDelivery.Lib.Sql
import FoodDelivery.Notifications.Templates
import FoodDelivery.Orders.Model

set_option autoImplicit false

namespace FoodDelivery.Notifications

open FoodDelivery.Lib

/-! ### Deliveries -/

/-- An event of `_emit_status`, as `OrderStatusEvent` takes it. -/
def statusEvent (event : Orders.OrderEvent) : OrderStatusEvent where
  orderId := event.orderId
  status := event.status.value
  customerId := event.customerId

inductive AttemptPhase where
  | handling
  | committed
  | acknowledged
deriving DecidableEq, Repr

/-- A handler at work on the event at a place of the topic, and the rows it will commit. -/
structure Attempt where
  place : Nat
  rows : List OrderNotification
  phase : AttemptPhase := .handling

/-- The service's tables and the handlers; `places` are those whose handlers have committed, in order. -/
structure Inbox where
  directory : Directory
  notifications : List OrderNotification := []
  attempts : List Attempt := []
  places : List Nat := []

/-- An event is handed to a handler, whose sends succeed or not; a handler commits; its event is
acknowledged; or contacts, preferences and devices change. -/
inductive Delivery where
  | deliver (place : Nat) (send : Rendered → String → Bool)
  | commit (i : Nat)
  | acknowledge (i : Nat)
  | change (directory : Directory)

/-- The next step, with `log` on the topic. -/
def Inbox.step (log : List Orders.OrderEvent) (s : Inbox) : Delivery → Inbox
  | .deliver place send =>
    match log[place]? with
    | none => s
    | some event =>
      let rows := s.directory.handleOrderStatus send (statusEvent event)
      { s with attempts := s.attempts ++ [{ place := place, rows := rows }] }
  | .commit i =>
    match s.attempts[i]? with
    | none => s
    | some attempt =>
      if attempt.phase = .handling then
        { s with
          notifications := s.notifications ++ attempt.rows
          attempts := s.attempts.set i { attempt with phase := .committed }
          places := s.places ++ [attempt.place] }
      else s
  | .acknowledge i =>
    match s.attempts[i]? with
    | none => s
    | some attempt =>
      if attempt.phase = .committed then
        { s with attempts := s.attempts.set i { attempt with phase := .acknowledged } }
      else s
  | .change directory => { s with directory := directory }

/-- Nothing has been delivered yet. -/
def Inbox.start (directory : Directory) : Inbox where
  directory := directory

/-! ### What has to hold -/

/-- Every event has been acknowledged. -/
def AllAcknowledged (log : List Orders.OrderEvent) (s : Inbox) : Prop :=
  ∀ place < log.length, ∃ attempt ∈ s.attempts, attempt.place = place ∧ attempt.phase = .acknowledged

/-- **Each step once**: a customer's feed is one row for each of their events, in some order. -/
def ShowsEachOnce (log : List Orders.OrderEvent) (s : Inbox) : Prop := ∀ customer,
  (feedOf s.notifications customer).Perm
    ((log.filter fun event => event.customerId = customer).map fun event => feedRow (statusEvent event))

/-- A handler that commits is the first to commit for its event. -/
def FirstCommit (s : Inbox) : Delivery → Prop
  | .commit i => ∀ attempt, s.attempts[i]? = some attempt → attempt.phase = .handling →
    attempt.place ∉ s.places
  | _ => True

/-! ### What is in the feed -/

variable {log : List Orders.OrderEvent} {s : Inbox}

/-- The feed is what was committed, and what is acknowledged was committed. -/
structure Inbox.Sound (log : List Orders.OrderEvent) (s : Inbox) : Prop where
  feed : feedRows s.notifications = (handledAt log s.places).map fun event => feedRow (statusEvent event)
  inside : ∀ place ∈ s.places, place < log.length
  rows : ∀ attempt ∈ s.attempts, ∃ event, log[attempt.place]? = some event ∧
    feedRows attempt.rows = [feedRow (statusEvent event)]
  settled : ∀ attempt ∈ s.attempts, attempt.phase ≠ .handling → attempt.place ∈ s.places

theorem sound_start (directory : Directory) : (Inbox.start directory).Sound log where
  feed := rfl
  inside _ member := by cases member
  rows _ member := by cases member
  settled _ member := by cases member

theorem feedRows_append (first second : List OrderNotification) :
    feedRows (first ++ second) = feedRows first ++ feedRows second :=
  List.filter_append first second

/-- **The outcomes of a step**: nothing but the directory changes, a handler begins, a handler commits, or
an event is acknowledged. -/
theorem step_cases (log : List Orders.OrderEvent) (s : Inbox) (delivery : Delivery) :
    ((∃ directory, s.step log delivery = { s with directory := directory }) ∧
      ∀ i attempt, delivery = .commit i → s.attempts[i]? = some attempt → attempt.phase ≠ .handling) ∨
    (∃ place send event, delivery = .deliver place send ∧ log[place]? = some event ∧
      s.step log delivery =
        { s with
          attempts := s.attempts ++
            [{ place := place, rows := s.directory.handleOrderStatus send (statusEvent event) }] }) ∨
    (∃ i attempt, delivery = .commit i ∧ s.attempts[i]? = some attempt ∧ attempt.phase = .handling ∧
      s.step log delivery =
        { s with
          notifications := s.notifications ++ attempt.rows
          attempts := s.attempts.set i { attempt with phase := .committed }
          places := s.places ++ [attempt.place] }) ∨
    ∃ i attempt, delivery = .acknowledge i ∧ s.attempts[i]? = some attempt ∧ attempt.phase = .committed ∧
      s.step log delivery =
        { s with attempts := s.attempts.set i { attempt with phase := .acknowledged } } := by
  cases delivery with
  | change directory => exact Or.inl ⟨⟨directory, rfl⟩, by rintro _ _ ⟨⟩⟩
  | deliver place send =>
    cases found : log[place]? with
    | none => exact Or.inl ⟨⟨s.directory, by simp [Inbox.step, found]⟩, by rintro _ _ ⟨⟩⟩
    | some event => exact Or.inr (Or.inl ⟨place, send, event, rfl, found, by simp [Inbox.step, found]⟩)
  | commit i =>
    by_cases handling : ∃ attempt, s.attempts[i]? = some attempt ∧ attempt.phase = .handling
    · obtain ⟨attempt, found, phase⟩ := handling
      exact Or.inr (Or.inr (Or.inl ⟨i, attempt, rfl, found, phase, by simp [Inbox.step, found, phase]⟩))
    · refine Or.inl ⟨⟨s.directory, ?_⟩, ?_⟩
      · cases found : s.attempts[i]? with
        | none => simp [Inbox.step, found]
        | some attempt =>
          have other : attempt.phase ≠ .handling := fun phase => handling ⟨attempt, found, phase⟩
          simp [Inbox.step, found, other]
      · rintro _ attempt ⟨⟩ found phase
        exact handling ⟨attempt, found, phase⟩
  | acknowledge i =>
    by_cases committed : ∃ attempt, s.attempts[i]? = some attempt ∧ attempt.phase = .committed
    · obtain ⟨attempt, found, phase⟩ := committed
      exact Or.inr (Or.inr (Or.inr ⟨i, attempt, rfl, found, phase, by simp [Inbox.step, found, phase]⟩))
    · refine Or.inl ⟨⟨s.directory, ?_⟩, by rintro _ _ ⟨⟩⟩
      cases found : s.attempts[i]? with
      | none => simp [Inbox.step, found]
      | some attempt =>
        have other : attempt.phase ≠ .committed := fun phase => committed ⟨attempt, found, phase⟩
        simp [Inbox.step, found, other]

section Sound

variable {i place : Nat} {attempt : Attempt} {event : Orders.OrderEvent}

/-- A handler begins. -/
theorem Inbox.Sound.deliver (sound : s.Sound log) (found : log[place]? = some event)
    (send : Rendered → String → Bool) :
    Inbox.Sound log
      { s with
        attempts := s.attempts ++
          [{ place := place, rows := s.directory.handleOrderStatus send (statusEvent event) }] } where
  feed := sound.feed
  inside := sound.inside
  rows attempt member := by
    rcases List.mem_append.mp member with earlier | new
    · exact sound.rows attempt earlier
    · rw [List.mem_singleton.mp new]
      exact ⟨event, found, feed_handleOrderStatus _ send _⟩
  settled attempt member settled := by
    rcases List.mem_append.mp member with earlier | new
    · exact sound.settled attempt earlier settled
    · rw [List.mem_singleton.mp new] at settled
      exact absurd rfl settled

/-- What a handler has to commit is committed. -/
theorem Inbox.Sound.commit (sound : s.Sound log) (member : attempt ∈ s.attempts) :
    Inbox.Sound log
      { s with
        notifications := s.notifications ++ attempt.rows
        places := s.places ++ [attempt.place] } := by
  obtain ⟨event, found, own⟩ := sound.rows attempt member
  refine ⟨?_, fun place inside => ?_, sound.rows, fun other member settled => ?_⟩
  · show feedRows (s.notifications ++ attempt.rows) = (handledAt log (s.places ++ [_])).map _
    rw [feedRows_append, sound.feed, own, handledAt_append found, List.map_append, List.map_singleton]
  · rcases List.mem_append.mp inside with earlier | new
    · exact sound.inside place earlier
    · rw [List.mem_singleton.mp new]
      exact (List.getElem?_eq_some_iff.mp found).1
  · exact List.mem_append_left _ (sound.settled other member settled)

/-- A handler whose rows are committed goes on to another phase. -/
theorem Inbox.Sound.advance (sound : s.Sound log) (member : attempt ∈ s.attempts)
    (committed : attempt.place ∈ s.places) (phase : AttemptPhase) :
    Inbox.Sound log { s with attempts := s.attempts.set i { attempt with phase := phase } } where
  feed := sound.feed
  inside := sound.inside
  rows other there := by
    rcases List.mem_or_eq_of_mem_set there with earlier | rfl
    · exact sound.rows other earlier
    · exact sound.rows attempt member
  settled other there settled := by
    rcases List.mem_or_eq_of_mem_set there with earlier | rfl
    · exact sound.settled other earlier settled
    · exact committed

/-- **One step.** -/
theorem Inbox.Sound.step (sound : s.Sound log) (delivery : Delivery) : (s.step log delivery).Sound log := by
  rcases step_cases log s delivery with ⟨⟨directory, same⟩, -⟩ | ⟨place, send, event, -, found, begun⟩ |
    ⟨i, attempt, -, found, -, done⟩ | ⟨i, attempt, -, found, committed, done⟩
  · rw [same]
    exact ⟨sound.feed, sound.inside, sound.rows, sound.settled⟩
  · rw [begun]
    exact sound.deliver found send
  · rw [done]
    have member := List.mem_of_getElem? found
    exact (sound.commit member).advance member (List.mem_append_right _ (List.mem_singleton_self _)) _
  · rw [done]
    have member := List.mem_of_getElem? found
    refine sound.advance member (sound.settled attempt member ?_) _
    rw [committed]
    decide

end Sound

/-! ### Commits -/

/-- The places stay different exactly with a first commit. -/
theorem nodup_step (distinct : s.places.Nodup) (delivery : Delivery) :
    (s.step log delivery).places.Nodup ↔ FirstCommit s delivery := by
  rcases step_cases log s delivery with ⟨⟨directory, same⟩, idle⟩ | ⟨_, _, _, rfl, -, begun⟩ |
    ⟨i, attempt, rfl, found, handling, done⟩ | ⟨_, _, rfl, -, -, done⟩
  · rw [same]
    refine iff_of_true distinct ?_
    cases delivery with
    | commit i => exact fun attempt found handling => absurd handling (idle i attempt rfl found)
    | deliver | acknowledge | change => trivial
  · rw [begun]
    exact iff_of_true distinct trivial
  · rw [done, ← List.concat_eq_append, List.nodup_concat]
    constructor
    · rintro ⟨first, -⟩ other found' -
      obtain rfl := Option.some_inj.mp (found.symm.trans found')
      exact first
    · exact fun first => ⟨first attempt found handling, distinct⟩
  · rw [done]
    exact iff_of_true distinct trivial

/-- **The places of a run are different** exactly when every commit was a first one. -/
theorem nodup_run_iff (directory : Directory) (deliveries : List Delivery) :
    (run (Inbox.step log) (.start directory) deliveries).places.Nodup ↔
      Throughout (Inbox.step log) FirstCommit (.start directory) deliveries := by
  have distinct_always : Always (Inbox.step log) (fun s => s.places.Nodup) (.start directory) deliveries ↔
      Throughout (Inbox.step log) FirstCommit (.start directory) deliveries :=
    always_iff_throughout (Q := fun s => s.places.Nodup)
      (fun s delivery distinct first => (nodup_step distinct delivery).mpr first)
      (fun _ distinct => distinct)
      (fun s delivery distinct missed after => missed ((nodup_step distinct delivery).mp after))
      List.nodup_nil
  refine Iff.trans ⟨fun last => ?_, Always.last⟩ distinct_always
  refine always_of_last (P := fun s : Inbox => s.places.Nodup) (fun s delivery distinct => ?_) last
  rcases step_cases log s delivery with ⟨⟨directory, same⟩, -⟩ | ⟨_, _, _, -, -, begun⟩ |
    ⟨_, _, -, -, -, done⟩ | ⟨_, _, -, -, -, done⟩
  · rw [same] at distinct
    exact distinct
  · rw [begun] at distinct
    exact distinct
  · rw [done] at distinct
    exact distinct.sublist (List.sublist_append_left _ _)
  · rw [done] at distinct
    exact distinct

/-! ### The feeds -/

theorem feedOf_eq (notifications : List OrderNotification) (customer : Nat) :
    feedOf notifications customer =
      (feedRows notifications).filter fun row => row.userId = customer := by
  rw [feedRows, List.filter_filter]
  rfl

/-- The feeds, customer by customer, are the events exactly when they are together. -/
theorem showsEachOnce_iff : ShowsEachOnce log s ↔
    (feedRows s.notifications).Perm (log.map fun event => feedRow (statusEvent event)) := by
  rw [perm_iff_filter fun row : OrderNotification => row.userId]
  refine forall_congr' fun customer => ?_
  rw [feedOf_eq, List.filter_map]
  rfl

/-- **One row for each status change**, once every event has been acknowledged: exactly when no handler
committed for an event that another one had committed for. -/
theorem feed_iff (log : List Orders.OrderEvent) (directory : Directory) (deliveries : List Delivery)
    (all : AllAcknowledged log (run (Inbox.step log) (.start directory) deliveries)) :
    ShowsEachOnce log (run (Inbox.step log) (.start directory) deliveries) ↔
      Throughout (Inbox.step log) FirstCommit (.start directory) deliveries := by
  have sound : (run (Inbox.step log) (.start directory) deliveries).Sound log :=
    (always_of_step (P := fun s : Inbox => s.Sound log) (fun _ delivery sound => sound.step delivery)
      (sound_start directory)).last
  rw [showsEachOnce_iff, sound.feed, ← nodup_run_iff]
  refine perm_handled_iff _ sound.inside fun place inside => ?_
  obtain ⟨attempt, member, rfl, acknowledged⟩ := all place inside
  exact sound.settled attempt member (by rw [acknowledged]; decide)

/-- A restaurant accepts an order, and its customer is nobody the service knows. -/
def acceptedOrder : Orders.OrderEvent where
  orderId := 1
  status := .restaurantAccepted
  customerId := 7
  customerName := "Alex R."
  restaurantId := 3
  restaurantName := some "Spice Garden"
  total := 50000
  paymentMethod := .cod
  paymentStatus := .pending
  destinationLatitude := none
  destinationLongitude := none

def emptyDirectory : Directory where
  contacts := .empty
  preferences := .empty
  devices := { table := .empty, lastId := 0 }

/-- The first handler commits and dies; the event is handed out again, and that is acknowledged. -/
def lostAcknowledgement : List Delivery :=
  [ .deliver 0 fun _ _ => true, .commit 0, .deliver 0 fun _ _ => true, .commit 1, .acknowledge 1 ]

/-- **One status change, two rows.** -/
theorem lostAcknowledgement_repeats : ¬ ∀ (log : List Orders.OrderEvent) (directory : Directory)
    (deliveries : List Delivery),
    AllAcknowledged log (run (Inbox.step log) (.start directory) deliveries) →
    ShowsEachOnce log (run (Inbox.step log) (.start directory) deliveries) := by
  intro always
  have acknowledged : AllAcknowledged [acceptedOrder]
      (run (Inbox.step [acceptedOrder]) (.start emptyDirectory) lostAcknowledgement) := by
    intro place inside
    obtain rfl : place = 0 := Nat.lt_one_iff.mp inside
    exact ⟨_, List.mem_cons_of_mem _ List.mem_cons_self, rfl, rfl⟩
  have length := (always _ _ _ acknowledged 7).length_eq
  revert length
  decide

/-- An event that is handled once. -/
theorem feed_iff_acceptedOrder :
    AllAcknowledged [acceptedOrder] (run (Inbox.step [acceptedOrder]) (.start emptyDirectory)
      [.deliver 0 fun _ _ => true, .commit 0, .acknowledge 0]) ∧
    (ShowsEachOnce [acceptedOrder] (run (Inbox.step [acceptedOrder]) (.start emptyDirectory)
        [.deliver 0 fun _ _ => true, .commit 0, .acknowledge 0]) ↔
      Throughout (Inbox.step [acceptedOrder]) FirstCommit (.start emptyDirectory)
        [.deliver 0 fun _ _ => true, .commit 0, .acknowledge 0]) := by
  have acknowledged : AllAcknowledged [acceptedOrder] (run (Inbox.step [acceptedOrder])
      (.start emptyDirectory) [.deliver 0 fun _ _ => true, .commit 0, .acknowledge 0]) := by
    intro place inside
    obtain rfl : place = 0 := Nat.lt_one_iff.mp inside
    exact ⟨_, List.mem_cons_self, rfl, rfl⟩
  exact ⟨acknowledged, feed_iff [acceptedOrder] emptyDirectory _ acknowledged⟩

end FoodDelivery.Notifications
