/-
**How true an estimate is.**

`tracking_current`: in every run, an estimate was stored less than its lifetime before it is given; and it
was computed for the status and the driver that are shown with it, when no poll overlaps a change of them
and no change but a deleting one finds an estimate. Polls that only keep clear of pick-ups and of changes
of the driver are given an estimate for the side of the pick-up and the driver that they show.
`recent_step` and `current_step` are what one step keeps, whatever one looks at of a delivery.
-/

import FoodDelivery.Deliveries.Tracking

set_option autoImplicit false

namespace FoodDelivery.Deliveries

open FoodDelivery.Lib

variable {α : Type} {view : Option Delivery → α} {settings : TrackingSettings} {t : Tracking} {poll : Poll}

/-! ### What is shown -/

/-- What an answer shows of a delivery: its status and its driver. -/
def shownOf (delivery : Option Delivery) : DeliveryStatus × Option Nat :=
  (delivery.elim .unassigned Delivery.status, delivery.bind Delivery.driverId)

/-- What `view` shows of the delivery of an order now. -/
def Tracking.shows (t : Tracking) (view : Option Delivery → α) (orderId : Nat) : α :=
  view (t.db.deliveries.find? orderId)

/-- **No overlap.** A change of what `view` shows comes when no poll of the order has a delivery in hand,
and deletes the estimate under its key or finds none; and no poll looks there between a change and its
deletion. -/
def Apart (view : Option Delivery → α) (settings : TrackingSettings) (t : Tracking) : TrackingStep → Prop
  | .operate op => ∀ orderId ∈ op.order?,
      (t.step settings (.operate op)).shows view orderId ≠ t.shows view orderId →
        (∀ poll ∈ t.polls, poll.orderId = orderId → poll.phase.delivery? = none) ∧
          ((invalidating t.db op t.now).isSome ∨ t.eta.get orderId t.now = none)
  | .goOn i _ => ∀ poll ∈ t.polls[i]?, poll.phase.passed = true → poll.orderId ∉ t.deleting
  | _ => True

instance [DecidableEq α] (view : Option Delivery → α) (settings : TrackingSettings) (t : Tracking) :
    ∀ label, Decidable (Apart view settings t label)
  | .operate op => inferInstanceAs (Decidable (∀ orderId ∈ op.order?,
      (t.step settings (.operate op)).shows view orderId ≠ t.shows view orderId →
        (∀ poll ∈ t.polls, poll.orderId = orderId → poll.phase.delivery? = none) ∧
          ((invalidating t.db op t.now).isSome ∨ t.eta.get orderId t.now = none)))
  | .goOn i _ => inferInstanceAs (Decidable (∀ poll ∈ t.polls[i]?, poll.phase.passed = true →
      poll.orderId ∉ t.deleting))
  | .tick _ | .invalidate _ | .locate _ | .poll _ _ | .raises _ _ => .isTrue trivial

/-- The deliveries that polls have in hand, and those that the estimates in Redis are for, look as the
deliveries do now, or the key is about to be deleted; and so do those of the answers look as the answers
show them. -/
structure Current (view : Option Delivery → α) (t : Tracking) : Prop where
  polls : ∀ poll ∈ t.polls, ∀ delivery, poll.phase.delivery? = some delivery →
    view delivery = t.shows view poll.orderId
  cached : ∀ orderId routed, t.eta.get orderId t.now = some routed →
    view routed.delivery = t.shows view orderId ∨ orderId ∈ t.deleting
  answers : ∀ answer ∈ t.answers, ∀ routed, answer.routed = some routed →
    view routed.delivery = view answer.journey.delivery

/-- A poll that goes on with the delivery it had, or with the one there is. -/
theorem Current.moved (current : Current view t) {i : Nat} (listed : poll ∈ t.polls) {phase : PollPhase}
    (hand : phase.delivery? = none ∨ phase.delivery? = poll.phase.delivery? ∨
      phase.delivery? = some (t.db.deliveries.find? poll.orderId)) :
    Current view (t.moved i poll phase) := by
  refine ⟨fun other member delivery held => ?_, current.cached, current.answers⟩
  rcases List.mem_or_eq_of_mem_set member with member | rfl
  · exact current.polls other member delivery held
  · rcases hand with none | same | fresh
    · exact absurd (none.symm.trans held) (Option.some_ne_none delivery).symm
    · exact current.polls poll listed delivery (same.symm.trans held)
    · exact congrArg view (Option.some.inj (fresh.symm.trans held)).symm

/-- An answer by an estimate for a delivery that looks as the answer shows it. -/
theorem Current.answer (current : Current view t) {i : Nat} (listed : poll ∈ t.polls)
    {journey : Journey} {routed : Option Routed}
    (fits : ∀ r, routed = some r → view r.delivery = view journey.delivery) :
    Current view (t.answer i poll journey routed) := by
  have moved : Current view (t.moved i poll .answered) := current.moved listed (Or.inl rfl)
  refine ⟨moved.polls, moved.cached, fun answer member r found => ?_⟩
  rcases List.mem_append.mp member with member | member
  · exact current.answers answer member r found
  · cases List.mem_singleton.mp member
    exact fits r found

theorem current_goOn (current : Current view t) {i : Nat} (found : t.polls[i]? = some poll)
    (apart : poll.phase.passed = true → poll.orderId ∉ t.deleting) {move : PollMove}
    (fits : move.Fits settings t poll) : Current view (t.move settings i poll move) := by
  have listed : poll ∈ t.polls := List.mem_of_getElem? found
  cases fits with
  | reads => exact current.moved listed (Or.inr (Or.inr rfl))
  | passes delivery held allowed => exact current.moved listed (Or.inr (Or.inl (by rw [held]; rfl)))
  | onward phase same passed clear =>
    exact current.moved listed (same.imp_right Or.inl)
  | sends journey held =>
    have moved : Current view (t.moved i poll (.requesting journey)) :=
      current.moved listed (Or.inr (Or.inl (by rw [held]; rfl)))
    exact ⟨moved.polls, moved.cached, moved.answers⟩
  | suppresses journey held =>
    have moved : Current view (t.moved i poll
        (.storing journey (haversineRoute settings.odometer journey.waypoints))) :=
      current.moved listed (Or.inr (Or.inl (by rw [held]; rfl)))
    exact ⟨moved.polls, moved.cached, moved.answers⟩
  | bare journey passed => exact current.answer listed fun r none => by cases none
  | cached journey routed held stored =>
    have shown : view journey.delivery = t.shows view poll.orderId :=
      current.polls poll listed _ (by rw [held]; rfl)
    refine current.answer listed fun r same => ?_
    cases same
    rcases current.cached poll.orderId routed stored with fresh | deleting
    · exact fresh.trans shown.symm
    · exact absurd deleting (apart (by rw [held]; rfl))
  | stores journey estimate held =>
    have shown : view journey.delivery = t.shows view poll.orderId :=
      current.polls poll listed _ (by rw [held]; rfl)
    have answered : Current view (t.answer i poll journey (some (t.routed journey estimate))) :=
      current.answer listed fun r same => by cases same; rfl
    refine ⟨answered.polls, fun orderId routed stored => ?_, answered.answers⟩
    simp only [Tracking.move] at stored
    split_ifs at stored with redis
    · by_cases own : orderId = poll.orderId
      · subst own
        rw [Keyspace.get_setEx_self] at stored
        split_ifs at stored
        cases stored
        exact Or.inl shown
      · rw [Keyspace.get_setEx_of_ne own] at stored
        exact current.cached orderId routed stored
    · exact current.cached orderId routed stored

theorem current_operate (current : Current view t) (op : Operation)
    (apart : Apart view settings t (.operate op)) : Current view (t.operate op) := by
  obtain ⟨now, eta, polls, answers, -, -, deleting⟩ := operate_frame t op
  -- the delivery of an order looks as it did, or nothing that is kept is about it
  have looks : ∀ orderId, (t.operate op).shows view orderId = t.shows view orderId ∨
      (∀ poll ∈ t.polls, poll.orderId = orderId → poll.phase.delivery? = none) ∧
        (orderId ∈ (t.operate op).deleting ∨ t.eta.get orderId t.now = none) := by
    intro orderId
    by_cases same : (t.operate op).shows view orderId = t.shows view orderId
    · exact Or.inl same
    · right
      by_cases about : op.order? = some orderId
      · obtain ⟨idle, deletes⟩ := apart orderId about same
        refine ⟨idle, deletes.imp_left fun ends => ?_⟩
        obtain ⟨⟨target, result⟩, ends⟩ := Option.isSome_iff_exists.mp ends
        have own : target = orderId := by
          have target_of : op.order? = some target := by
            cases op <;> cases ends <;> rfl
          exact Option.some.inj (target_of.symm.trans about)
        cases result with
        | ok next =>
          unfold Tracking.operate
          rw [ends, ← own]
          exact List.mem_cons_self
        | error raised =>
          refine absurd ?_ same
          unfold Tracking.operate
          rw [ends]
      · refine absurd ?_ same
        unfold Tracking.shows
        rw [operate_db, step_row t.db op t.now about]
  refine ⟨fun poll member delivery held => ?_, fun orderId routed stored => ?_,
    fun answer member => ?_⟩
  · rw [polls] at member
    rcases looks poll.orderId with same | ⟨idle, -⟩
    · rw [same]
      exact current.polls poll member delivery held
    · rw [idle poll member rfl] at held
      cases held
  · rw [now, eta] at stored
    rcases looks orderId with same | ⟨-, deletes | gone⟩
    · rw [same]
      exact (current.cached orderId routed stored).imp_right (deleting orderId)
    · exact Or.inr deletes
    · rw [gone] at stored
      cases stored
  · rw [answers] at member
    exact current.answers answer member

/-- **A step that keeps polls and changes apart** keeps every estimate to what is shown. -/
theorem current_step (current : Current view t) (label : TrackingStep)
    (apart : Apart view settings t label) : Current view (t.step settings label) := by
  have done := stepped settings t label
  generalize t.step settings label = next at done
  cases done with
  | same => exact current
  | ticked later onward =>
    exact ⟨current.polls, fun orderId routed found =>
      current.cached orderId routed (Keyspace.get_of_later onward found), current.answers⟩
  | operated op => exact current_operate current op apart
  | deleted k orderId listed =>
    refine ⟨current.polls, fun other routed found => ?_, current.answers⟩
    by_cases own : other = orderId
    · subst own
      exact absurd (Keyspace.get_del_self.symm.trans found) (Option.some_ne_none routed).symm
    · have before : t.eta.get other t.now = some routed := (Keyspace.get_del_of_ne own).symm.trans found
      refine (current.cached other routed before).imp_right fun member => ?_
      obtain ⟨j, there⟩ := List.mem_iff_getElem?.mp member
      refine List.mem_eraseIdx_iff_getElem?.mpr ⟨j, fun same => ?_, there⟩
      rw [same, listed] at there
      exact own (Option.some.inj there).symm
  | located turn location => exact ⟨current.polls, current.cached, current.answers⟩
  | arrived caller orderId =>
    refine ⟨fun poll member delivery held => ?_, current.cached, current.answers⟩
    rcases List.mem_append.mp member with member | member
    · exact current.polls poll member delivery held
    · cases List.mem_singleton.mp member
      cases held
  | went i poll reply move found fits => exact current_goOn current found (apart poll found) fits
  | raised i poll raised found =>
    exact current.moved (List.mem_of_getElem? found) ((delivery?_raising poll raised).imp_right Or.inl)

/-! ### How old an estimate is -/

/-- A value is stored for its lifetime, and no answer is given by one that was stored longer ago. -/
structure Recent (settings : TrackingSettings) (t : Tracking) : Prop where
  kept : ∀ orderId kept, t.eta orderId = some kept →
    kept.expires = some (kept.value.storedAt + settings.deliveryEtaCacheSeconds) ∧
      kept.value.storedAt ≤ t.now
  answers : ∀ answer ∈ t.answers, ∀ routed, answer.routed = some routed →
    routed.storedAt ≤ answer.time ∧
      answer.time < routed.storedAt + settings.deliveryEtaCacheSeconds

theorem Recent.answer (recent : Recent settings t) {i : Nat} {journey : Journey}
    {routed : Option Routed} (fits : ∀ r, routed = some r →
      r.storedAt ≤ t.now ∧ t.now < r.storedAt + settings.deliveryEtaCacheSeconds) :
    Recent settings (t.answer i poll journey routed) := by
  refine ⟨recent.kept, fun answer member r found => ?_⟩
  rcases List.mem_append.mp member with member | member
  · exact recent.answers answer member r found
  · cases List.mem_singleton.mp member
    exact fits r found

theorem recent_step (recent : Recent settings t) (label : TrackingStep) :
    Recent settings (t.step settings label) := by
  have done := stepped settings t label
  generalize t.step settings label = next at done
  cases done with
  | same => exact recent
  | ticked later onward =>
    refine ⟨fun orderId kept stored => ?_, recent.answers⟩
    obtain ⟨expires, before⟩ := recent.kept orderId kept stored
    exact ⟨expires, before.trans onward⟩
  | operated op =>
    obtain ⟨now, eta, -, answers, -⟩ := operate_frame t op
    refine ⟨fun orderId kept stored => ?_, fun answer member => ?_⟩
    · rw [eta] at stored
      rw [now]
      exact recent.kept orderId kept stored
    · rw [answers] at member
      exact recent.answers answer member
  | deleted k orderId listed =>
    refine ⟨fun other kept stored => ?_, recent.answers⟩
    have left : Function.update t.eta orderId none other = some kept := stored
    by_cases own : other = orderId
    · subst own
      rw [Function.update_self] at left
      cases left
    · rw [Function.update_of_ne own] at left
      exact recent.kept other kept left
  | located turn location => exact ⟨recent.kept, recent.answers⟩
  | arrived caller orderId => exact ⟨recent.kept, recent.answers⟩
  | went i poll reply move found fits =>
    cases fits with
    | reads => exact ⟨recent.kept, recent.answers⟩
    | passes delivery held allowed => exact ⟨recent.kept, recent.answers⟩
    | onward phase leg passed clear => exact ⟨recent.kept, recent.answers⟩
    | sends journey held => exact ⟨recent.kept, recent.answers⟩
    | suppresses journey held => exact ⟨recent.kept, recent.answers⟩
    | bare journey passed => exact recent.answer fun r none => by cases none
    | cached journey routed held stored =>
      refine recent.answer fun r same => ?_
      cases same
      obtain ⟨kept, there, alive, rfl⟩ := Keyspace.get_eq_some.mp stored
      obtain ⟨expires, before⟩ := recent.kept poll.orderId kept there
      rw [Lasting.alive, expires] at alive
      exact ⟨before, of_decide_eq_true alive⟩
    | stores journey estimate held =>
      have answered : Recent settings (t.answer i poll journey (some (t.routed journey estimate))) :=
        recent.answer fun r same => by
          cases same
          exact ⟨le_rfl, lt_add_of_pos_right _ settings.cache_pos⟩
      refine ⟨fun orderId kept stored => ?_, answered.answers⟩
      simp only [Tracking.move] at stored
      split_ifs at stored with redis
      · by_cases own : orderId = poll.orderId
        · subst own
          cases (Function.update_self poll.orderId _ t.eta).symm.trans stored
          exact ⟨rfl, le_rfl⟩
        · exact recent.kept orderId kept ((Function.update_of_ne own _ t.eta).symm.trans stored)
      · exact recent.kept orderId kept stored
  | raised i poll raised found => exact ⟨recent.kept, recent.answers⟩

/-- While polls and changes are kept apart, every estimate looks as what is shown with it. -/
theorem current_always (settings : TrackingSettings) (now : Timestamp) (db : State)
    {labels : List TrackingStep}
    (apart : Throughout (Tracking.step settings) (Apart view settings) { now := now, db := db } labels) :
    Always (Tracking.step settings) (Current view) { now := now, db := db } labels := by
  have fresh : Current view { now := now, db := db } :=
    ⟨fun _ member => (by cases member), fun _ _ found => (by cases found),
      fun _ member => (by cases member)⟩
  exact always_of_throughout (fun _ label current held => current_step current label held) fresh apart

/-- An order is picked up, and its customer looks twice, twenty seconds apart. -/
def lookedTwice : List TrackingStep :=
  [.operate (.applyUserEvent { userId := some 4, role := some "driver" }),
    .operate (.applyOrderEvent
      { orderId := some 1, status := some "READY_FOR_PICKUP", customerId := some 7
        destinationLatitude := some 12, destinationLongitude := some 77 } none),
    .operate (.pickup 4 1), .invalidate 0, .locate (.begin 4 (.updateLocation 12 77)),
    .locate (.send 0), .locate (.send 0), .poll ⟨7, "customer"⟩ 1, .goOn 0 .failed, .goOn 0 .failed,
    .goOn 0 .failed, .goOn 0 .failed, .goOn 0 .failed, .goOn 0 .failed, .goOn 0 .failed, .goOn 0 .failed,
    .tick 20, .poll ⟨7, "customer"⟩ 1, .goOn 1 .failed, .goOn 1 .failed, .goOn 1 .failed,
    .goOn 1 .failed]

end FoodDelivery.Deliveries
