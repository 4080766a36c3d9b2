/-
**What the delivery-events rows say** (`services/delivery/app/service.py`, `_announce_status`).

The payload is written out before the flush, from the attributes of the object in the session. Its status
is null on a new delivery for which no driver was found, because nothing has assigned the attribute and
the column default comes with the flush. And an override, which reads its row with no lock, announces
the columns it means to leave alone as it read them.

`truthful_iff`: in a run of overlapping transactions every delivery-events row says what the row of its
order says at the same commit if and only if every insert has a driver and every update leaves alone
only what is still as it was read. A transaction with nothing in between is the operation (`run_alone`).
-/

import FoodDelivery.Deliveries.Transactions

set_option autoImplicit false

namespace FoodDelivery.Deliveries

open FoodDelivery.Lib

/-! ### The runs -/

/-- What can happen: a request comes in, a transaction takes its next step, or the consumer has changed
the read-models. -/
inductive Happening where
  | arrives (request : Request) (now : Timestamp)
  | steps (i : Nat)
  | learns (snapshots : Table Nat OrderSnapshot OrderSnapshot.orderId)
      (drivers : Table Nat Driver Driver.id)
      (restaurants : Table Nat RestaurantSnapshot RestaurantSnapshot.restaurantId)

def Race.happens (r : Race) : Happening → Race
  | .arrives request now =>
    { r with transactions := r.transactions ++ [{ request := request, now := now }] }
  | .steps i => r.step i
  | .learns snapshots drivers restaurants =>
    { r with
      db := { r.db with snapshots := snapshots, drivers := drivers, restaurants := restaurants } }

/-! ### What has to hold -/

/-- The delivery-events rows of `next` that `s` does not have. -/
def newEvents (s next : State) : List DeliveryEvent :=
  (next.outbox.drop s.outbox.length).filterMap OutboxEvent.deliveryEvent?

/-- **An event tells the truth**: it has the status and the driver of the row of its order. -/
def TellsTruth (s : State) (event : DeliveryEvent) : Prop :=
  ∃ delivery, s.deliveries.find? event.orderId = some delivery ∧
    event.status = some delivery.status ∧ event.driverId = delivery.driverId

/-- Whatever is committed tells the truth. -/
def Truthful (r : Race) (happening : Happening) : Prop :=
  ∀ event ∈ newEvents r.db (r.happens happening).db, TellsTruth (r.happens happening).db event

/-- The values that a transaction leaves alone are still what it read. -/
def LeavesAsRead (loaded written current : Delivery) : Prop :=
  (written.status = loaded.status → current.status = loaded.status) ∧
    (written.driverId = loaded.driverId → current.driverId = loaded.driverId)

/-- What goes well at a commit over the row that is there now: an insert has a driver, an update leaves
alone what is as it was read. -/
def CarefulWrite (written : Delivery) : Option Delivery → Option Delivery → Prop
  | none, none => written.driverId ≠ none
  | some loaded, some current => LeavesAsRead loaded written current
  | none, some _ | some _, none => True

/-- Whatever is committed is committed with that care. -/
def Careful (r : Race) (happening : Happening) : Prop :=
  ∀ i t loaded written, happening = .steps i → r.transactions[i]? = some t →
    t.phase = .writing loaded written → r.waits t = false →
    CarefulWrite written.delivery loaded (r.db.deliveries.find? t.request.orderId)

/-! ### What a transaction has prepared -/

/-- What is written is about the order of the request, and is announced as the session sees it. -/
def Transaction.Prepared (t : Transaction) : Prop :=
  match t.phase with
  | .waiting | .done => True
  | .picking loaded base | .choosing loaded base =>
    base.orderId = t.request.orderId ∧ (loaded = none → base.driverId = none)
  | .writing loaded written =>
    written.delivery.orderId = t.request.orderId ∧
      written.Announces (announcement loaded written.delivery)

variable {r : Race} {t : Transaction} {db : State}

theorem ofBody_prepared {row : Except Raised Delivery} {body : Delivery → Except Raised Written}
    (found : ∀ delivery, row = .ok delivery → db.deliveries.find? t.request.orderId = some delivery)
    (keeps : ∀ delivery written, body delivery = .ok written →
      written.delivery.orderId = delivery.orderId ∧ written.Announces written.delivery.event) :
    Transaction.Prepared { t with phase := .ofBody row body } := by
  cases row with
  | error raised => trivial
  | ok delivery =>
    cases decided : body delivery with
    | error raised => simp [Transaction.Prepared, Phase.ofBody, decided]
    | ok written =>
      obtain ⟨own, announces⟩ := keeps delivery written decided
      simp only [Transaction.Prepared, Phase.ofBody, decided]
      refine ⟨own.trans (Table.key_of_find? (found delivery rfl)), ?_⟩
      rw [announcement_old]
      exact announces

theorem begin_prepared (db : State) (t : Transaction) :
    Transaction.Prepared { t with phase := t.begin db } := by
  obtain ⟨request, now, phase⟩ := t
  cases request with
  | assign orderId redis =>
    unfold Transaction.begin
    dsimp only
    split
    · trivial
    · exact ⟨rfl, fun _ => rfl⟩
  | accept driverId orderId =>
    refine ofBody_prepared (t := ⟨.accept driverId orderId, now, phase⟩)
      (fun delivery owned => (ownedActive_ok.mp owned).1) fun delivery written decided => ?_
    rw [(accepted_ok.mp decided).2]
    exact ⟨rfl, rfl⟩
  | reject driverId orderId redis =>
    unfold Transaction.begin
    dsimp only
    split
    · trivial
    · rename_i delivery owned
      split
      · trivial
      · rename_i free let_go
        have key : delivery.orderId = orderId := Table.key_of_find? (ownedActive_ok.mp owned).1
        rw [(released_ok.mp let_go).2]
        exact ⟨key, fun missing => by cases missing⟩
  | pickup driverId orderId =>
    refine ofBody_prepared (t := ⟨.pickup driverId orderId, now, phase⟩)
      (fun delivery owned => (ownedActive_ok.mp owned).1) fun delivery written decided => ?_
    rw [(pickedUp_ok.mp decided).2]
    exact ⟨rfl, rfl⟩
  | deliver driverId orderId =>
    refine ofBody_prepared (t := ⟨.deliver driverId orderId, now, phase⟩)
      (fun delivery owned => (ownedActive_ok.mp owned).1) fun delivery written decided => ?_
    rw [(delivered_ok.mp decided).2]
    exact ⟨rfl, rfl⟩
  | reassign caller orderId newDriverId =>
    unfold Transaction.begin
    dsimp only
    split
    · trivial
    · rename_i delivery found
      split
      · refine ⟨(reassigned_orderId _ _ _ _).trans (Table.key_of_find? found), ?_⟩
        rw [announcement_old]
        exact reassigned_announces _ _ _ _
      · trivial

/-- An offer is announced as the session sees it, of a new delivery and of one that was released. -/
theorem offer_prepared {loaded : Option Delivery} {base : Delivery} (name : Option String)
    (driver : Option Driver) (now : Timestamp) (nobody : loaded = none → base.driverId = none) :
    (offer base (statusRead loaded base) name driver now).Announces
      (announcement loaded (offer base (statusRead loaded base) name driver now).delivery) := by
  cases loaded with
  | none => exact offer_announces_new (nobody rfl) name driver now
  | some delivery =>
    rw [announcement_old]
    exact offer_announces base name driver now

theorem advance_prepared (db : State) (prepared : t.Prepared) :
    Transaction.Prepared { t with phase := t.advance db } := by
  obtain ⟨request, now, phase⟩ := t
  cases phase with
  | waiting => exact begin_prepared db ⟨request, now, .waiting⟩
  | picking loaded base =>
    obtain ⟨own, nobody⟩ := prepared
    simp only [Transaction.advance]
    split
    · trivial
    · exact ⟨own, nobody⟩
    · exact ⟨(offer_orderId _ _ _ _ _).trans own, offer_prepared _ _ _ nobody⟩
  | choosing loaded base =>
    obtain ⟨own, nobody⟩ := prepared
    exact ⟨(offer_orderId _ _ _ _ _).trans own, offer_prepared _ _ _ nobody⟩
  | writing loaded written => trivial
  | done => trivial

def AllPrepared (r : Race) : Prop := ∀ t ∈ r.transactions, t.Prepared

theorem allPrepared_happens (r : Race) (happening : Happening) (prepared : AllPrepared r) :
    AllPrepared (r.happens happening) := by
  cases happening with
  | arrives request now =>
    intro t member
    rcases List.mem_append.mp member with old | new
    · exact prepared t old
    · rw [List.mem_singleton.mp new]
      trivial
  | steps i =>
    unfold Race.happens Race.step
    dsimp only
    split
    · exact prepared
    · rename_i t found
      split_ifs
      · exact prepared
      · intro other member
        rcases List.mem_or_eq_of_mem_set member with old | rfl
        · exact prepared other old
        · exact advance_prepared r.db (prepared t (List.mem_of_getElem? found))
  | learns snapshots drivers restaurants => exact prepared

/-! ### What a step commits -/

/-- **What a happening commits**: nothing, or what a transaction has written. -/
theorem happens_cases (r : Race) (happening : Happening) :
    ((r.happens happening).db.outbox = r.db.outbox ∧
      ∀ i t loaded written, happening = .steps i → r.transactions[i]? = some t →
        t.phase = .writing loaded written → r.waits t = false → t.commits r.db = none) ∨
      ∃ i t loaded written final, happening = .steps i ∧ r.transactions[i]? = some t ∧
        t.phase = .writing loaded written ∧ r.waits t = false ∧ t.commits r.db = some final ∧
        (r.happens happening).db = r.db.commit final := by
  cases happening with
  | arrives request now => exact Or.inl ⟨rfl, fun _ _ _ _ other => by cases other⟩
  | learns snapshots drivers restaurants => exact Or.inl ⟨rfl, fun _ _ _ _ other => by cases other⟩
  | steps i =>
    unfold Race.happens Race.step
    dsimp only
    cases found : r.transactions[i]? with
    | none =>
      refine Or.inl ⟨rfl, ?_⟩
      rintro _ _ _ _ ⟨rfl⟩ there
      rw [found] at there
      cases there
    | some t =>
      dsimp only
      by_cases waits : r.waits t = true
      · rw [if_pos waits]
        refine Or.inl ⟨rfl, ?_⟩
        rintro _ _ _ _ ⟨rfl⟩ there _ free
        rw [found] at there
        cases there
        rw [waits] at free
        cases free
      · rw [if_neg waits]
        cases commits : t.commits r.db with
        | none =>
          refine Or.inl ⟨rfl, ?_⟩
          rintro _ _ _ _ ⟨rfl⟩ there _ _
          rw [found] at there
          cases there
          exact commits
        | some final =>
          obtain ⟨loaded, written, writing⟩ : ∃ loaded written, t.phase = .writing loaded written := by
            unfold Transaction.commits at commits
            cases phase : t.phase with
            | writing loaded written => exact ⟨loaded, written, rfl⟩
            | _ => simp [phase] at commits
          exact Or.inr ⟨i, t, loaded, written, final, rfl, found, writing, by simpa using waits,
            commits, rfl⟩

/-- The events of a commit are those of its outbox rows. -/
theorem newEvents_commit {final : Written} :
    newEvents db (db.commit final) = final.outbox.filterMap OutboxEvent.deliveryEvent? := by
  simp [newEvents, State.commit]

/-- **When a commit tells the truth**: its row has the status and the driver that were announced. -/
theorem tellsTruth_commit {final : Written} {event : DeliveryEvent} (announces : final.Announces event)
    (keyed : event.orderId = final.delivery.orderId) :
    (∀ other ∈ newEvents db (db.commit final), TellsTruth (db.commit final) other) ↔
      event.status = some final.delivery.status ∧ event.driverId = final.delivery.driverId := by
  have row : (db.commit final).deliveries.find? event.orderId = some final.delivery := by
    rw [find?_commit, if_pos keyed.symm]
  rw [newEvents_commit, announces]
  simp only [List.mem_singleton, forall_eq, TellsTruth, row, Option.some_inj, exists_eq_left']

/-- **One commit**, from what the transaction has prepared. -/
theorem truthful_commit {loaded : Option Delivery} {written final : Written}
    (prepared : t.Prepared) (writing : t.phase = .writing loaded written)
    (commits : t.commits db = some final) :
    (∀ event ∈ newEvents db (db.commit final), TellsTruth (db.commit final) event) ↔
      CarefulWrite written.delivery loaded (db.deliveries.find? t.request.orderId) := by
  unfold Transaction.Prepared at prepared
  rw [writing] at prepared
  obtain ⟨own, announces⟩ := prepared
  have keyed := announcement_orderId loaded written.delivery
  unfold Transaction.commits at commits
  rw [writing] at commits
  cases present : db.deliveries.find? t.request.orderId with
  | none =>
    cases loaded with
    | some loaded => simp [present] at commits
    | none =>
      rw [present] at commits
      cases commits
      rw [tellsTruth_commit announces keyed]
      by_cases nobody : written.delivery.driverId = none
      · simp [CarefulWrite, announcement, nobody]
      · simp [CarefulWrite, announcement, nobody, Delivery.event]
  | some current =>
    cases loaded with
    | none => simp [present] at commits
    | some loaded =>
      rw [present] at commits
      cases commits
      have same : current.orderId = written.delivery.orderId :=
        (Table.key_of_find? present).trans own.symm
      have overwritten : (announcement (some loaded) written.delivery).orderId =
          (overwrite loaded written.delivery current).orderId := keyed.trans same.symm
      rw [tellsTruth_commit (by exact announces) overwritten, announcement_old]
      unfold CarefulWrite LeavesAsRead Delivery.event overwrite
      by_cases status : written.delivery.status = loaded.status
      · by_cases driver : written.delivery.driverId = loaded.driverId
        · simp [status, driver, eq_comm]
        · simp [status, driver, eq_comm]
      · by_cases driver : written.delivery.driverId = loaded.driverId
        · simp [status, driver, eq_comm]
        · simp [status, driver]

/-- What commits nothing has nothing to be careful with. -/
theorem careful_of_refused {loaded : Option Delivery} {written : Written}
    (writing : t.phase = .writing loaded written) (refused : t.commits db = none) :
    CarefulWrite written.delivery loaded (db.deliveries.find? t.request.orderId) := by
  unfold Transaction.commits at refused
  rw [writing] at refused
  cases present : db.deliveries.find? t.request.orderId with
  | none =>
    cases loaded with
    | none => simp [present] at refused
    | some loaded => trivial
  | some current =>
    cases loaded with
    | none => trivial
    | some loaded => simp [present] at refused

/-- **One step** commits the truth exactly when it is careful. -/
theorem truthful_step (r : Race) (happening : Happening) (prepared : AllPrepared r) :
    Truthful r happening ↔ Careful r happening := by
  rcases happens_cases r happening with ⟨same, refused⟩ | ⟨i, t, loaded, written, final, rfl, found,
    writing, free, commits, committed⟩
  · have nothing : newEvents r.db (r.happens happening).db = [] := by
      simp [newEvents, same]
    refine iff_of_true ?_ ?_
    · unfold Truthful
      simp [nothing]
    · intro i t loaded written steps found writing free
      exact careful_of_refused writing (refused i t loaded written steps found writing free)
  · unfold Truthful
    rw [committed, truthful_commit (prepared t (List.mem_of_getElem? found)) writing commits]
    constructor
    · rintro well _ _ _ _ ⟨rfl⟩ there wrote _
      rw [found] at there
      cases there
      rw [writing] at wrote
      cases wrote
      exact well
    · intro careful
      exact careful i t loaded written rfl found writing free

/-- **When every delivery-events row tells the truth.** From any database, in any run of overlapping
requests, and whatever the read-models and Redis say on the way: if and only if every delivery that is
inserted has a driver, and every update leaves alone only what is still as it was read. -/
theorem truthful_iff (db : State) (happenings : List Happening) :
    Throughout Race.happens Truthful ⟨db, []⟩ happenings ↔
      Throughout Race.happens Careful ⟨db, []⟩ happenings :=
  throughout_congr allPrepared_happens truthful_step fun _ member => by cases member

/-- An order that is ready, and no driver anywhere. -/
def nobodyFree : List Happening :=
  [.arrives (.assign 1 none) 0, .steps 0, .steps 0, .steps 0, .steps 0]

/-- **The delivery is stored as UNASSIGNED and announced with a null status.** -/
theorem nobodyFree_untrue :
    ¬ ∀ db happenings, Throughout Race.happens Truthful ⟨db, []⟩ happenings := by
  intro truthful
  obtain ⟨_, _, _, _, last, _⟩ := truthful .empty nobodyFree
  obtain ⟨delivery, _, status, _⟩ := last ⟨1, none, none⟩ (by decide)
  cases status

end FoodDelivery.Deliveries
