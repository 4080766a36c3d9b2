/-
**The tracking view, any number of polls at once** (`tracking_for_order`,
`services/delivery/app/eta.py`, `GoogleRoutesProvider`).

A poll reads the delivery, the order's snapshot and the driver's position; takes the estimate in Redis
under the order's key, or asks for a route and stores the answer there for a while. A change of the
delivery deletes the key after its commit. A 403 of the Routes API sets a flag that stops the requests of
every poll that looks at it. All of it in any order, while drivers move, time passes and any poll or
deletion may die.

`pollMove_fits` says what the next command of a poll can come to, `step_row` and `operate_frame` what an
operation leaves alone, and `stepped` what a step of the whole is.
-/

import FoodDelivery.Deliveries.Routing
import FoodDelivery.Deliveries.Runs
import FoodDelivery.Lib.Expiring
import Mathlib.Algebra.Order.Group.Int

set_option autoImplicit false

namespace FoodDelivery.Deliveries

open FoodDelivery.Lib

/-! ### Polls -/

/-- The value under `cache_key`. The JSON there holds the estimate; the delivery it was computed for, and
when it was stored, are for the record. -/
structure Routed where
  estimate : RouteEstimate
  delivery : Option Delivery
  storedAt : Timestamp
deriving DecidableEq

/-- Where a poll stands: what it has in hand when its next command is executed. -/
inductive PollPhase where
  | started
  | found (delivery : Option Delivery)
  | permitted (delivery : Option Delivery) (snapshot : Option OrderSnapshot)
  | looking (journey : Journey)
  | checking (journey : Journey)
  | cleared (journey : Journey)
  | requesting (journey : Journey)
  | suppressing (journey : Journey)
  | storing (journey : Journey) (estimate : RouteEstimate)
  | answered
  | failed (raised : Raised)
deriving DecidableEq

structure Poll where
  caller : Identity
  orderId : Nat
  phase : PollPhase := .started
deriving DecidableEq

/-- What a poll was answered: when, to whom, from which journey and by which estimate. -/
structure Answer where
  caller : Identity
  orderId : Nat
  time : Timestamp
  journey : Journey
  routed : Option Routed
deriving DecidableEq

def Answer.read (answer : Answer) : TrackingRead :=
  answer.journey.read answer.orderId (answer.routed.map Routed.estimate)

/-- `redis` is whether there is one, `apiKey` whether a Google key is configured. -/
structure TrackingSettings where
  redis : Bool
  apiKey : Bool
  deliveryEtaCacheSeconds : Timestamp
  odometer : Odometer
  geohash : Point → Option Point
  cache_pos : 0 < deliveryEtaCacheSeconds

/-- The settings as they come, with a key. -/
def TrackingSettings.standard (odometer : Odometer) (geohash : Point → Option Point) :
    TrackingSettings where
  redis := true
  apiKey := true
  deliveryEtaCacheSeconds := 30
  odometer := odometer
  geohash := geohash
  cache_pos := by decide

/-- The database, the keys in Redis and the polls; the orders whose key is to be deleted, the requests
that have been sent to the Routes API and the answers that have been given. -/
structure Tracking where
  now : Timestamp
  db : State
  location : Scripts Presence Nat PresenceRequest := { store := {} }
  eta : Keyspace Nat Routed Timestamp := fun _ => none
  mapsDisabled : Cell Unit Timestamp := none
  polls : List Poll := []
  deleting : List Nat := []
  requests : Nat := 0
  answers : List Answer := []

/-- What the next command of a poll comes to. -/
inductive PollMove where
  | goes (phase : PollPhase)
  | sends (journey : Journey)
  | suppresses (journey : Journey)
  | answers (journey : Journey) (routed : Option Routed)
  | stores (journey : Journey) (estimate : RouteEstimate)

/-- The next command of a poll. `reply` is what comes back from the Routes API, if that is what it waits
for. -/
def Tracking.pollMove (settings : TrackingSettings) (t : Tracking) (poll : Poll)
    (reply : RoutesReply) : PollMove :=
  match poll.phase with
  | .started => .goes (.found (t.db.deliveries.find? poll.orderId))
  | .found delivery =>
    let snapshot := t.db.snapshots.find? poll.orderId
    match trackingAllowed poll.caller delivery snapshot with
    | .error raised => .goes (.failed raised)
    | .ok () => .goes (.permitted delivery snapshot)
  | .permitted delivery snapshot =>
    match journeyOf (if settings.redis then some t.location.store else none) delivery snapshot with
    | .error raised => .goes (.failed raised)
    | .ok journey =>
      if journey.waypoints.length < 2 then .answers journey none else .goes (.looking journey)
  | .looking journey =>
    match if settings.redis then t.eta.get poll.orderId t.now else none with
    | some routed => .answers journey (some routed)
    | none =>
      if settings.apiKey then .goes (.checking journey)
      else .goes (.storing journey (haversineRoute settings.odometer journey.waypoints))
  | .checking journey =>
    if settings.redis ∧ (t.mapsDisabled.read t.now).isSome then
      .goes (.storing journey (haversineRoute settings.odometer journey.waypoints))
    else .goes (.cleared journey)
  | .cleared journey => .sends journey
  | .requesting journey =>
    match reply with
    | .forbidden => .goes (.suppressing journey)
    | .failed => .goes (.storing journey (haversineRoute settings.odometer journey.waypoints))
    | .route distanceMeters seconds =>
      .goes (.storing journey (googleRoute settings.odometer distanceMeters seconds))
  | .suppressing journey => .suppresses journey
  | .storing journey estimate => .stores journey estimate
  | .answered => .goes .answered
  | .failed raised => .goes (.failed raised)

def Tracking.moved (t : Tracking) (i : Nat) (poll : Poll) (phase : PollPhase) : Tracking :=
  { t with polls := t.polls.set i { poll with phase := phase } }

def Tracking.answer (t : Tracking) (i : Nat) (poll : Poll) (journey : Journey)
    (routed : Option Routed) : Tracking :=
  { t.moved i poll .answered with
    answers := t.answers ++ [⟨poll.caller, poll.orderId, t.now, journey, routed⟩] }

/-- The estimate of a poll, as it is stored. -/
def Tracking.routed (t : Tracking) (journey : Journey) (estimate : RouteEstimate) : Routed where
  estimate := estimate
  delivery := journey.delivery
  storedAt := t.now

def Tracking.move (settings : TrackingSettings) (t : Tracking) (i : Nat) (poll : Poll) :
    PollMove → Tracking
  | .goes phase => t.moved i poll phase
  | .sends journey => { t.moved i poll (.requesting journey) with requests := t.requests + 1 }
  | .suppresses journey =>
    { t.moved i poll
        (.storing journey (haversineRoute settings.odometer journey.waypoints)) with
      mapsDisabled :=
        if settings.redis then some { value := (), expires := some (t.now + mapsDisabledTtlSeconds) }
        else t.mapsDisabled }
  | .answers journey routed => t.answer i poll journey routed
  | .stores journey estimate =>
    let routed := t.routed journey estimate
    { t.answer i poll journey (some routed) with
      eta :=
        if settings.redis then
          t.eta.setEx poll.orderId routed (t.now + settings.deliveryEtaCacheSeconds)
        else t.eta }

/-- Where a poll goes when its next command of Redis or of the database raises. What the request to Google
raises is a reply that failed. -/
def PollPhase.raising (raised : Raised) : PollPhase → PollPhase
  | .cleared journey => .cleared journey
  | .requesting journey => .requesting journey
  | .answered => .answered
  | .failed earlier => .failed earlier
  | _ => .failed raised

/-! ### Runs -/

/-- The operations that end with `invalidate`: the order, and what the operation comes to. -/
def invalidating (db : State) (op : Operation) (now : Timestamp) : Option (Nat × Except Raised State) :=
  match op with
  | .acceptAssignment driverId orderId => some (orderId, acceptAssignment db driverId orderId now)
  | .rejectAssignment driverId orderId redis =>
    some (orderId, rejectAssignment db driverId orderId redis now)
  | .pickup driverId orderId => some (orderId, pickup db driverId orderId now)
  | .deliver driverId orderId => some (orderId, deliver db driverId orderId now)
  | .reassignDeliveryForOrder caller orderId newDriverId =>
    some (orderId, reassignDeliveryForOrder db caller orderId newDriverId now)
  | _ => none

/-- What happens next: time passes; an operation of the service commits, or fails; a key is deleted; a
driver's call sends a command; a poll arrives, or goes on; its next command raises. -/
inductive TrackingStep where
  | tick (later : Timestamp)
  | operate (op : Operation)
  | invalidate (k : Nat)
  | locate (turn : Turn Nat PresenceRequest)
  | poll (caller : Identity) (orderId : Nat)
  | goOn (i : Nat) (reply : RoutesReply)
  | raises (i : Nat) (raised : Raised)

/-- An operation, and the deletion it leaves to be done. -/
def Tracking.operate (t : Tracking) (op : Operation) : Tracking :=
  match invalidating t.db op t.now with
  | some (orderId, .ok next) => { t with db := next, deleting := orderId :: t.deleting }
  | some (_, .error _) => t
  | none => { t with db := t.db.step (op, t.now) }

def Tracking.step (settings : TrackingSettings) (t : Tracking) : TrackingStep → Tracking
  | .tick later => if t.now ≤ later then { t with now := later } else t
  | .operate op => t.operate op
  | .invalidate k =>
    match t.deleting[k]? with
    | none => t
    | some orderId =>
      { t with
        eta := t.eta.del orderId
        deleting := t.deleting.eraseIdx k }
  | .locate turn => { t with location := (presence settings.geohash).step t.location turn }
  | .poll caller orderId => { t with polls := t.polls ++ [{ caller := caller, orderId := orderId }] }
  | .goOn i reply =>
    match t.polls[i]? with
    | none => t
    | some poll => t.move settings i poll (t.pollMove settings poll reply)
  | .raises i raised =>
    match t.polls[i]? with
    | none => t
    | some poll => t.moved i poll (poll.phase.raising raised)

variable {settings : TrackingSettings} {t : Tracking} {poll : Poll}

/-! ### What a poll has in hand -/

/-- The delivery it has read, while it is under way. -/
def PollPhase.delivery? : PollPhase → Option (Option Delivery)
  | .started | .answered | .failed _ => none
  | .found delivery | .permitted delivery _ => some delivery
  | .looking journey | .checking journey | .cleared journey | .requesting journey
  | .suppressing journey | .storing journey _ => some journey.delivery

/-- It has been let through, and is under way. -/
def PollPhase.passed : PollPhase → Bool
  | .started | .found _ | .answered | .failed _ => false
  | _ => true

/-- It has looked at the flag, and its request is the next thing it sends. -/
def PollPhase.isCleared : PollPhase → Bool
  | .cleared _ => true
  | _ => false

/-- **What the next command of a poll can come to.** -/
inductive PollMove.Fits (settings : TrackingSettings) (t : Tracking) (poll : Poll) : PollMove → Prop
  | reads : Fits settings t poll (.goes (.found (t.db.deliveries.find? poll.orderId)))
  | passes (delivery : Option Delivery) (held : poll.phase = .found delivery)
      (allowed : trackingAllowed poll.caller delivery (t.db.snapshots.find? poll.orderId) = .ok ()) :
    Fits settings t poll (.goes (.permitted delivery (t.db.snapshots.find? poll.orderId)))
  | onward (phase : PollPhase)
      (same : phase.delivery? = none ∨ phase.delivery? = poll.phase.delivery?)
      (passed : phase.passed = true → poll.phase.passed = true)
      (clear : phase.isCleared = true → settings.redis = true → t.mapsDisabled.read t.now = none) :
    Fits settings t poll (.goes phase)
  | sends (journey : Journey) (held : poll.phase = .cleared journey) :
    Fits settings t poll (.sends journey)
  | suppresses (journey : Journey) (held : poll.phase = .suppressing journey) :
    Fits settings t poll (.suppresses journey)
  | bare (journey : Journey) (passed : poll.phase.passed = true) :
    Fits settings t poll (.answers journey none)
  | cached (journey : Journey) (routed : Routed) (held : poll.phase = .looking journey)
      (found : t.eta.get poll.orderId t.now = some routed) :
    Fits settings t poll (.answers journey (some routed))
  | stores (journey : Journey) (estimate : RouteEstimate)
      (held : poll.phase = .storing journey estimate) :
    Fits settings t poll (.stores journey estimate)

theorem journeyOf_delivery {redis : Option Presence} {delivery : Option Delivery}
    {snapshot : Option OrderSnapshot} {journey : Journey}
    (built : journeyOf redis delivery snapshot = .ok journey) : journey.delivery = delivery := by
  obtain ⟨restaurant, -, rest⟩ := bind_eq_ok.mp built
  obtain ⟨destination, -, rest⟩ := bind_eq_ok.mp rest
  cases rest
  rfl

theorem pollMove_fits (settings : TrackingSettings) (t : Tracking) (poll : Poll)
    (reply : RoutesReply) : (t.pollMove settings poll reply).Fits settings t poll := by
  unfold Tracking.pollMove
  cases held : poll.phase with
  | started => exact .reads
  | found delivery =>
    dsimp only
    split
    · exact .onward _ (Or.inl rfl) (fun passed => by cases passed) fun clear => by cases clear
    · rename_i allowed
      exact .passes delivery held allowed
  | permitted delivery snapshot =>
    dsimp only
    split
    · exact .onward _ (Or.inl rfl) (fun passed => by cases passed) fun clear => by cases clear
    · rename_i journey built
      have same := journeyOf_delivery built
      split_ifs
      · exact .bare journey (by rw [held]; rfl)
      · refine .onward _ (Or.inr ?_) (fun _ => by rw [held]; rfl) fun clear => by cases clear
        rw [held]
        exact congrArg some same
  | looking journey =>
    dsimp only
    split
    · rename_i routed found
      split_ifs at found
      exact .cached journey routed held found
    · split_ifs
      · exact .onward _ (Or.inr (by rw [held]; rfl)) (fun _ => by rw [held]; rfl)
          fun clear => by cases clear
      · exact .onward _ (Or.inr (by rw [held]; rfl)) (fun _ => by rw [held]; rfl)
          fun clear => by cases clear
  | checking journey =>
    dsimp only
    split_ifs with suppressed
    · exact .onward _ (Or.inr (by rw [held]; rfl)) (fun _ => by rw [held]; rfl)
        fun clear => by cases clear
    · refine .onward _ (Or.inr (by rw [held]; rfl)) (fun _ => by rw [held]; rfl) fun _ redis => ?_
      exact Option.not_isSome_iff_eq_none.mp fun set => suppressed ⟨redis, set⟩
  | cleared journey => exact .sends journey held
  | requesting journey =>
    dsimp only
    split <;> exact .onward _ (Or.inr (by rw [held]; rfl)) (fun _ => by rw [held]; rfl)
      fun clear => by cases clear
  | suppressing journey => exact .suppresses journey held
  | storing journey estimate => exact .stores journey estimate held
  | answered => exact .onward _ (Or.inl rfl) (fun passed => by cases passed) fun clear => by cases clear
  | failed raised =>
    exact .onward _ (Or.inl rfl) (fun passed => by cases passed) fun clear => by cases clear

/-- A poll whose command raises has nothing in hand it did not have. -/
theorem delivery?_raising (poll : Poll) (raised : Raised) :
    (poll.phase.raising raised).delivery? = none ∨
      (poll.phase.raising raised).delivery? = poll.phase.delivery? := by
  cases poll.phase with
  | cleared journey => exact Or.inr rfl
  | requesting journey => exact Or.inr rfl
  | _ => exact Or.inl rfl

/-! ### What an operation leaves alone -/

/-- The order whose delivery an operation is about. -/
def Operation.order? : Operation → Option Nat
  | .assignForOrder orderId _ => some orderId
  | .acceptAssignment _ orderId => some orderId
  | .rejectAssignment _ orderId _ => some orderId
  | .pickup _ orderId => some orderId
  | .deliver _ orderId => some orderId
  | .reassignDeliveryForOrder _ orderId _ => some orderId
  | .applyOrderEvent payload _ => payload.orderId
  | .applyUserEvent _ => none
  | .applyRestaurantEvent _ => none

section Frame

variable {db next : State} {now : Timestamp} {orderId target : Nat}

theorem row_commit {written : Written} (own : written.delivery.orderId = target)
    (other : target ≠ orderId) :
    (db.commit written).deliveries.find? orderId = db.deliveries.find? orderId := by
  rw [find?_commit, own, if_neg other]

theorem row_body {driverId : Nat} {body : Delivery → Except Raised Written}
    (keeps : ∀ delivery written, body delivery = .ok written →
      written.delivery.orderId = delivery.orderId)
    (outcome : (do
      let delivery ← ownedActive db driverId target
      let written ← body delivery
      return db.commit written) = .ok next) (other : target ≠ orderId) :
    next.deliveries.find? orderId = db.deliveries.find? orderId := by
  obtain ⟨delivery, written, found, -, decided, rfl⟩ := ownAction_ok outcome
  exact row_commit ((keeps delivery written decided).trans (Table.key_of_find? found)) other

theorem row_assign {redis : Option Nearby}
    (outcome : assignForOrder db target redis now = .ok next) (other : target ≠ orderId) :
    next.deliveries.find? orderId = db.deliveries.find? orderId := by
  rcases assignForOrder_ok outcome with rfl | ⟨-, driver, -, rfl⟩
  · rfl
  · exact row_commit (offer_orderId _ _ _ _ _) other

theorem row_orElse {outcome : Except Raised State}
    (keeps : ∀ next, outcome = .ok next →
      next.deliveries.find? orderId = db.deliveries.find? orderId) :
    (orElse db outcome).deliveries.find? orderId = db.deliveries.find? orderId := by
  cases outcome with
  | ok next => exact keeps next rfl
  | error raised => rfl

/-- **An operation leaves the deliveries of other orders alone.** -/
theorem step_row (db : State) (op : Operation) (now : Timestamp) (other : op.order? ≠ some orderId) :
    (db.step (op, now)).deliveries.find? orderId = db.deliveries.find? orderId := by
  have apart : ∀ {target : Nat}, op.order? = some target → target ≠ orderId :=
    fun about same => other (same ▸ about)
  cases op with
  | assignForOrder target redis =>
    exact row_orElse fun _ outcome => row_assign outcome (apart rfl)
  | acceptAssignment driverId target =>
    refine row_orElse fun _ outcome => row_body ?_ outcome (apart rfl)
    intro delivery written decided
    rw [(accepted_ok.mp decided).2]
  | rejectAssignment driverId target redis =>
    refine row_orElse fun _ outcome => ?_
    obtain ⟨delivery, driver, found, -, -, -, rfl⟩ := rejectAssignment_ok outcome
    have key : delivery.orderId = target := Table.key_of_find? found
    exact row_commit ((offer_orderId _ _ _ _ _).trans key) (apart rfl)
  | pickup driverId target =>
    refine row_orElse fun _ outcome => row_body ?_ outcome (apart rfl)
    intro delivery written decided
    rw [(pickedUp_ok.mp decided).2]
  | deliver driverId target =>
    refine row_orElse fun _ outcome => row_body ?_ outcome (apart rfl)
    intro delivery written decided
    rw [(delivered_ok.mp decided).2]
  | reassignDeliveryForOrder caller target newDriverId =>
    refine row_orElse fun _ outcome => ?_
    obtain ⟨delivery, found, -, -, rfl⟩ := reassignDeliveryForOrder_ok outcome
    exact row_commit ((reassigned_orderId _ _ _ _).trans (Table.key_of_find? found)) (apart rfl)
  | applyOrderEvent payload redis =>
    show (applyOrderEvent db payload redis now).1.deliveries.find? orderId = _
    unfold applyOrderEvent
    split
    · rfl
    · rename_i target about
      dsimp only
      split_ifs
      · split
        · rename_i assigned outcome
          have kept := row_assign outcome (apart about)
          exact kept
        · rfl
      · rfl
  | applyUserEvent payload =>
    show (applyUserEvent db payload).deliveries.find? orderId = _
    unfold applyUserEvent
    split
    · rfl
    · split_ifs
      · rfl
      · rfl
  | applyRestaurantEvent payload =>
    show (applyRestaurantEvent db payload).deliveries.find? orderId = _
    unfold applyRestaurantEvent
    split
    · rfl
    · rfl

end Frame

/-- The operations that delete the key do to the database what their step does. -/
theorem operate_db (t : Tracking) (op : Operation) : (t.operate op).db = t.db.step (op, t.now) := by
  have steps : ∀ orderId result, invalidating t.db op t.now = some (orderId, result) →
      t.db.step (op, t.now) = orElse t.db result := by
    intro orderId result ends
    cases op <;> cases ends <;> rfl
  unfold Tracking.operate
  split
  · rename_i orderId next ends
    exact (steps orderId _ ends).symm
  · rename_i orderId raised ends
    exact (steps orderId _ ends).symm
  · rfl

/-- An operation touches the database and the deletions to be done, and nothing else. -/
theorem operate_frame (t : Tracking) (op : Operation) :
    (t.operate op).now = t.now ∧ (t.operate op).eta = t.eta ∧ (t.operate op).polls = t.polls ∧
      (t.operate op).answers = t.answers ∧ (t.operate op).mapsDisabled = t.mapsDisabled ∧
      (t.operate op).requests = t.requests ∧ ∀ orderId ∈ t.deleting, orderId ∈ (t.operate op).deleting := by
  unfold Tracking.operate
  split
  · exact ⟨rfl, rfl, rfl, rfl, rfl, rfl, fun _ member => List.mem_cons_of_mem _ member⟩
  · exact ⟨rfl, rfl, rfl, rfl, rfl, rfl, fun _ member => member⟩
  · exact ⟨rfl, rfl, rfl, rfl, rfl, rfl, fun _ member => member⟩

/-! ### What a step does -/

/-- The steps, by what there is to them. -/
inductive Stepped (settings : TrackingSettings) (t : Tracking) : TrackingStep → Tracking → Prop
  | same (label : TrackingStep) : Stepped settings t label t
  | ticked (later : Timestamp) (onward : t.now ≤ later) :
    Stepped settings t (.tick later) { t with now := later }
  | operated (op : Operation) : Stepped settings t (.operate op) (t.operate op)
  | deleted (k orderId : Nat) (listed : t.deleting[k]? = some orderId) :
    Stepped settings t (.invalidate k)
      { t with eta := t.eta.del orderId, deleting := t.deleting.eraseIdx k }
  | located (turn : Turn Nat PresenceRequest) (location : Scripts Presence Nat PresenceRequest) :
    Stepped settings t (.locate turn) { t with location := location }
  | arrived (caller : Identity) (orderId : Nat) :
    Stepped settings t (.poll caller orderId)
      { t with polls := t.polls ++ [{ caller := caller, orderId := orderId }] }
  | went (i : Nat) (poll : Poll) (reply : RoutesReply) (move : PollMove)
      (found : t.polls[i]? = some poll) (fits : move.Fits settings t poll) :
    Stepped settings t (.goOn i reply) (t.move settings i poll move)
  | raised (i : Nat) (poll : Poll) (raised : Raised) (found : t.polls[i]? = some poll) :
    Stepped settings t (.raises i raised) (t.moved i poll (poll.phase.raising raised))

theorem stepped (settings : TrackingSettings) (t : Tracking) (label : TrackingStep) :
    Stepped settings t label (t.step settings label) := by
  cases label with
  | tick later =>
    by_cases onward : t.now ≤ later
    · rw [show t.step settings (.tick later) = { t with now := later } from if_pos onward]
      exact .ticked later onward
    · rw [show t.step settings (.tick later) = t from if_neg onward]
      exact .same _
  | operate op => exact .operated op
  | invalidate k =>
    cases listed : t.deleting[k]? with
    | none =>
      simp only [Tracking.step, listed]
      exact .same _
    | some orderId =>
      simp only [Tracking.step, listed]
      exact .deleted k orderId listed
  | locate turn => exact .located turn _
  | poll caller orderId => exact .arrived caller orderId
  | goOn i reply =>
    cases found : t.polls[i]? with
    | none =>
      simp only [Tracking.step, found]
      exact .same _
    | some poll =>
      simp only [Tracking.step, found]
      exact .went i poll reply _ found (pollMove_fits settings t poll reply)
  | raises i raised =>
    cases found : t.polls[i]? with
    | none =>
      simp only [Tracking.step, found]
      exact .same _
    | some poll =>
      simp only [Tracking.step, found]
      exact .raised i poll raised found

end FoodDelivery.Deliveries
