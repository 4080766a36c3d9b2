/-
**One active delivery for each driver.**

Whoever picks a driver reads the busy ones with no lock, and an override does not read them at all. So
two transactions can each put one driver on the delivery of its own order.

`oneActive_always_iff`: in any interleaving, no driver is ever on two active deliveries exactly when
every assignment, rejection and override finds, at its commit, that the driver it puts on has no active
delivery of another order. A driver's own actions never matter: they hold their row and keep its driver.
`oneActive_oneAtATime_iff`: with no overlap, whoever is picked is free, and only overrides matter.
-/

import FoodDelivery.Deliveries.Transactions

set_option autoImplicit false

namespace FoodDelivery.Deliveries

open FoodDelivery.Lib

/-! ### What has to hold -/

/-- **One active delivery per driver.** -/
def OneActive (db : State) : Prop :=
  ∀ first ∈ db.deliveries.rows, ∀ second ∈ db.deliveries.rows, ∀ driverId : Nat,
    first.active → second.active → first.driverId = some driverId →
      second.driverId = some driverId → first = second

/-- A driver has an active delivery of another order. -/
def BusyElsewhere (db : State) (orderId driverId : Nat) : Prop :=
  ∃ other ∈ db.deliveries.rows, other.active ∧ other.driverId = some driverId ∧
    other.orderId ≠ orderId

/-- What is about to be committed leaves its driver with no other active delivery. -/
def Written.Spares (written : Written) (db : State) : Prop :=
  ∀ driverId, written.delivery.active → written.delivery.driverId = some driverId →
    ¬ BusyElsewhere db written.delivery.orderId driverId

/-- An assignment, a rejection or an override that is about to commit puts on a driver who has no
active delivery of another order. -/
def Uncontended (r : Race) (i : Nat) : Prop :=
  ∀ t written, r.transactions[i]? = some t → r.waits t = false → t.request.assigns = true →
    t.commits r.db = some written → written.Spares r.db

/-- **What a commit does to the drivers.** -/
theorem oneActive_commit {db : State} {written : Written} (one : OneActive db) :
    OneActive (db.commit written) ↔ written.Spares db := by
  have new : written.delivery ∈ (db.commit written).deliveries.rows := Table.mem_put.mpr (Or.inl rfl)
  constructor
  · rintro after driverId active driver ⟨other, member, busy, same, different⟩
    have kept : other ∈ (db.commit written).deliveries.rows :=
      Table.mem_put.mpr (Or.inr ⟨member, different⟩)
    have equal := after other kept written.delivery new driverId busy active same driver
    exact different (congrArg Delivery.orderId equal)
  · intro spares first first_row second second_row driverId first_active second_active mine same
    rcases Table.mem_put.mp first_row with rfl | ⟨first_old, first_other⟩
    · rcases Table.mem_put.mp second_row with rfl | ⟨second_old, second_other⟩
      · rfl
      · exact absurd ⟨second, second_old, second_active, same, second_other⟩
          (spares driverId first_active mine)
    · rcases Table.mem_put.mp second_row with rfl | ⟨second_old, _⟩
      · exact absurd ⟨first, first_old, first_active, mine, first_other⟩
          (spares driverId second_active same)
      · exact one first first_old second second_old driverId first_active second_active mine same

/-- A row is written with the same driver, and active only if it was. -/
structure Keeps (row : Delivery) (written : Written) : Prop where
  order : written.delivery.orderId = row.orderId
  driver : written.delivery.driverId = row.driverId
  active : written.delivery.active → row.active

theorem accepted_keeps {now : Timestamp} {row : Delivery} {written : Written}
    (decided : accepted now row = .ok written) : Keeps row written := by
  obtain ⟨offered, rfl⟩ := accepted_ok.mp decided
  exact ⟨rfl, rfl, fun _ => by simp [Delivery.active, offered, activeStatuses]⟩

theorem pickedUp_keeps {now : Timestamp} {row : Delivery} {written : Written}
    (decided : pickedUp now row = .ok written) : Keeps row written := by
  obtain ⟨open_, rfl⟩ := pickedUp_ok.mp decided
  refine ⟨rfl, rfl, fun _ => ?_⟩
  rcases List.mem_pair.mp open_ with status | status <;>
    simp [Delivery.active, status, activeStatuses]

theorem delivered_keeps {now : Timestamp} {row : Delivery} {written : Written}
    (decided : delivered now row = .ok written) : Keeps row written := by
  obtain ⟨out, rfl⟩ := delivered_ok.mp decided
  exact ⟨rfl, rfl, fun _ => by simp [Delivery.active, out, activeStatuses]⟩

/-- And so takes nobody new. -/
theorem Keeps.spares {db : State} {written : Written} {row : Delivery} (keeps : Keeps row written)
    (one : OneActive db) (found : db.deliveries.find? row.orderId = some row) :
    written.Spares db := by
  rintro driverId busy mine ⟨other, member, also, same, different⟩
  have present := (Table.find?_eq_some.mp found).1
  have equal := one other member row present driverId also (keeps.active busy) same
    (keeps.driver.symm.trans mine)
  rw [equal] at different
  exact different keeps.order.symm

/-! ### The invariant -/

/-- A transaction that holds its row has it as it is. -/
def Transaction.Loads (t : Transaction) (db : State) (loaded : Option Delivery) : Prop :=
  t.request.locks = true → ∃ row, loaded = some row ∧ db.deliveries.find? t.request.orderId = some row

/-- What a transaction has read and decided fits its request. -/
def Transaction.Sound (db : State) (t : Transaction) : Prop :=
  match t.phase with
  | .waiting | .done => True
  | .picking loaded base | .choosing loaded base =>
    t.Loads db loaded ∧ base.orderId = t.request.orderId ∧ t.request.assigns = true
  | .writing loaded written =>
    t.Loads db loaded ∧ written.delivery.orderId = t.request.orderId ∧
      (t.request.assigns = false → t.request.locks = true ∧
        ∃ row, loaded = some row ∧ Keeps row written)

/-- **No driver is on two active deliveries, and locks are respected.** -/
structure Sound (r : Race) : Prop where
  one : OneActive r.db
  exclusive : ∀ (i j : Nat) (t u : Transaction) (orderId : Nat), r.transactions[i]? = some t →
    r.transactions[j]? = some u → t.holds = some orderId → u.holds = some orderId → i = j
  each : ∀ t ∈ r.transactions, t.Sound r.db

theorem sound_start (db : State) (requests : List (Request × Timestamp)) :
    Sound (Race.start db requests) where
  one := fun first member => by cases member
  exclusive := by
    intro i j t u orderId found _ holds
    obtain ⟨request, _, rfl⟩ := List.mem_map.mp (List.mem_of_getElem? found)
    cases holds
  each := by
    intro t member
    obtain ⟨request, _, rfl⟩ := List.mem_map.mp member
    trivial

/-! ### One transaction -/

variable {db : State} {t u : Transaction} {r : Race} {i j orderId : Nat}

theorem ofBody_sound {row : Except Raised Delivery} {body : Delivery → Except Raised Written}
    (locks : t.request.locks = true)
    (found : ∀ delivery, row = .ok delivery →
      db.deliveries.find? t.request.orderId = some delivery)
    (keeps : ∀ delivery written, body delivery = .ok written → Keeps delivery written) :
    Transaction.Sound db { t with phase := .ofBody row body } := by
  cases row with
  | error raised => trivial
  | ok delivery =>
    have present := found delivery rfl
    cases decided : body delivery with
    | error raised => simp [Transaction.Sound, Phase.ofBody, decided]
    | ok written =>
      have kept := keeps delivery written decided
      simp only [Transaction.Sound, Phase.ofBody, decided]
      exact ⟨fun _ => ⟨delivery, rfl, present⟩, kept.order.trans (Table.key_of_find? present),
        fun _ => ⟨locks, delivery, rfl, kept⟩⟩

/-- What a first read leaves. -/
theorem begin_sound (db : State) (t : Transaction) :
    Transaction.Sound db { t with phase := t.begin db } := by
  obtain ⟨request, now, phase⟩ := t
  cases request with
  | assign orderId redis =>
    unfold Transaction.begin
    dsimp only
    split
    · trivial
    · exact ⟨fun locks => (by cases locks), rfl, rfl⟩
  | accept driverId orderId =>
    exact ofBody_sound (t := ⟨.accept driverId orderId, now, phase⟩) rfl
      (fun delivery owned => (ownedActive_ok.mp owned).1) fun _ _ => accepted_keeps
  | reject driverId orderId redis =>
    unfold Transaction.begin
    dsimp only
    split
    · trivial
    · rename_i delivery owned
      split
      · trivial
      · rename_i free let_go
        obtain ⟨found, _⟩ := ownedActive_ok.mp owned
        have key : delivery.orderId = orderId := Table.key_of_find? found
        have own : free.orderId = orderId := by
          rw [(released_ok.mp let_go).2]
          exact key
        exact ⟨fun _ => ⟨delivery, rfl, found⟩, own, rfl⟩
  | pickup driverId orderId =>
    exact ofBody_sound (t := ⟨.pickup driverId orderId, now, phase⟩) rfl
      (fun delivery owned => (ownedActive_ok.mp owned).1) fun _ _ => pickedUp_keeps
  | deliver driverId orderId =>
    exact ofBody_sound (t := ⟨.deliver driverId orderId, now, phase⟩) rfl
      (fun delivery owned => (ownedActive_ok.mp owned).1) fun _ _ => delivered_keeps
  | reassign caller orderId newDriverId =>
    unfold Transaction.begin
    dsimp only
    split
    · trivial
    · rename_i delivery found
      split
      · refine ⟨fun locks => (by cases locks), ?_, fun picks => (by cases picks)⟩
        exact (reassigned_orderId _ _ _ _).trans (Table.key_of_find? found)
      · trivial

/-- **What a transaction goes to fits its request as well.** -/
theorem advance_sound (sound : t.Sound db) :
    Transaction.Sound db { t with phase := t.advance db } := by
  obtain ⟨request, now, phase⟩ := t
  cases phase with
  | waiting => exact begin_sound db ⟨request, now, .waiting⟩
  | picking loaded base =>
    obtain ⟨loads, own, assigns⟩ := sound
    simp only [Transaction.advance]
    split
    · trivial
    · exact ⟨loads, own, assigns⟩
    · refine ⟨loads, (offer_orderId _ _ _ _ _).trans own, fun keeps => ?_⟩
      exact absurd (keeps.symm.trans assigns) Bool.false_ne_true
  | choosing loaded base =>
    obtain ⟨loads, own, assigns⟩ := sound
    refine ⟨loads, (offer_orderId _ _ _ _ _).trans own, fun keeps => ?_⟩
    exact absurd (keeps.symm.trans assigns) Bool.false_ne_true
  | writing loaded written => trivial
  | done => trivial

/-- A transaction holds the row of its own order. -/
theorem holds_eq (holds : t.holds = some orderId) :
    t.request.locks = true ∧ t.request.orderId = orderId := by
  unfold Transaction.holds at holds
  split at holds
  · cases holds
  · cases holds
  all_goals
    split_ifs at holds with locks
    exact ⟨locks, Option.some.inj holds⟩

/-- And does not let go of it before it is done. -/
theorem holds_of_advance
    (holds : Transaction.holds { t with phase := t.advance db } = some orderId) :
    t.phase = .waiting ∨ t.holds = some orderId := by
  obtain ⟨locks, own⟩ := holds_eq holds
  obtain ⟨request, now, phase⟩ := t
  cases phase with
  | waiting => exact Or.inl rfl
  | done => cases holds
  | _ => exact Or.inr ((if_pos locks).trans (congrArg some own))

/-- A holder's row is there, as it was read. -/
theorem Transaction.Sound.held (sound : t.Sound db) (holds : t.holds = some orderId) :
    (db.deliveries.find? orderId).isSome := by
  obtain ⟨locks, own⟩ := holds_eq holds
  obtain ⟨request, now, phase⟩ := t
  have found : ∀ loaded, Transaction.Loads ⟨request, now, phase⟩ db loaded →
      (db.deliveries.find? orderId).isSome := by
    intro loaded loads
    obtain ⟨row, _, present⟩ := loads locks
    rw [← own, present]
    rfl
  cases phase with
  | waiting => cases holds
  | done => cases holds
  | picking loaded base => exact found loaded sound.1
  | choosing loaded base => exact found loaded sound.1
  | writing loaded written => exact found loaded sound.1

/-- What a transaction knows stays so while its order's row does. -/
theorem Transaction.Sound.frame {next : State} (sound : t.Sound db)
    (same : ∀ orderId, t.holds = some orderId →
      next.deliveries.find? orderId = db.deliveries.find? orderId) : t.Sound next := by
  obtain ⟨request, now, phase⟩ := t
  have loads : ∀ loaded, Transaction.holds ⟨request, now, phase⟩ =
      (if request.locks then some request.orderId else none) →
      Transaction.Loads ⟨request, now, phase⟩ db loaded →
      Transaction.Loads ⟨request, now, phase⟩ next loaded := by
    intro loaded holder here locks
    obtain ⟨row, is_row, present⟩ := here locks
    have held := holder.trans (if_pos locks)
    exact ⟨row, is_row, (same request.orderId held).trans present⟩
  cases phase with
  | waiting => trivial
  | done => trivial
  | picking loaded base => exact ⟨loads loaded rfl sound.1, sound.2⟩
  | choosing loaded base => exact ⟨loads loaded rfl sound.1, sound.2⟩
  | writing loaded written => exact ⟨loads loaded rfl sound.1, sound.2⟩

/-! ### One commit -/

/-- The outcomes of a commit: an insert where there is no row, or an `UPDATE` of the row there is. -/
theorem commits_eq {written : Written} (commits : t.commits db = some written) :
    (t.phase = .writing none written ∧ db.deliveries.find? t.request.orderId = none) ∨
      ∃ loaded decided current, t.phase = .writing (some loaded) decided ∧
        db.deliveries.find? t.request.orderId = some current ∧
        written = { decided with delivery := overwrite loaded decided.delivery current } := by
  unfold Transaction.commits at commits
  split at commits
  · rename_i phase absent
    cases commits
    exact Or.inl ⟨phase, absent⟩
  · rename_i loaded decided current phase present
    exact Or.inr ⟨loaded, decided, current, phase, present, (Option.some.inj commits).symm⟩
  · cases commits

theorem commits_orderId {written : Written} (sound : t.Sound db)
    (commits : t.commits db = some written) : written.delivery.orderId = t.request.orderId := by
  rcases commits_eq commits with ⟨phase, _⟩ | ⟨loaded, decided, current, _, present, rfl⟩
  · unfold Transaction.Sound at sound
    rw [phase] at sound
    exact sound.2.1
  · have key : current.orderId = t.request.orderId := Table.key_of_find? present
    exact key

/-- A commit ends its transaction. -/
theorem advance_of_commits {written : Written} (commits : t.commits db = some written) :
    t.advance db = .done := by
  unfold Transaction.advance
  rcases commits_eq commits with ⟨phase, _⟩ | ⟨loaded, decided, current, phase, _⟩ <;> rw [phase]

/-- A driver's own action takes nobody new. -/
theorem spares_of_keeps {written : Written} (one : OneActive db) (sound : t.Sound db)
    (keeps : t.request.assigns = false) (commits : t.commits db = some written) :
    written.Spares db := by
  rcases commits_eq commits with ⟨phase, absent⟩ | ⟨loaded, decided, current, phase, present, rfl⟩
  · unfold Transaction.Sound at sound
    rw [phase] at sound
    obtain ⟨_, row, is_row, _⟩ := sound.2.2 keeps
    cases is_row
  · unfold Transaction.Sound at sound
    rw [phase] at sound
    obtain ⟨loads, own, rest⟩ := sound
    obtain ⟨locks, row, is_row, kept⟩ := rest keeps
    cases is_row
    -- the row is the one that was read: nobody else could write it
    have same : current = loaded := by
      obtain ⟨row, is_row, found⟩ := loads locks
      cases is_row
      exact Option.some.inj (present.symm.trans found)
    subst same
    have equal : overwrite current decided.delivery current = decided.delivery :=
      overwrite_self current decided.delivery (own.trans (Table.key_of_find? present).symm)
    rw [equal]
    refine kept.spares one ?_
    rw [← kept.order, own]
    exact present

/-- Nobody writes the row that another transaction holds. -/
theorem commits_other (sound : Sound r) (ti : r.transactions[i]? = some t)
    (tj : r.transactions[j]? = some u) (other : j ≠ i) (free : r.waits t = false) {written : Written}
    (commits : t.commits r.db = some written) (holds : u.holds = some orderId) :
    t.request.orderId ≠ orderId := by
  rintro rfl
  have held : r.held t.request.orderId = true :=
    List.any_eq_true.mpr ⟨u, List.mem_of_getElem? tj, by simpa using holds⟩
  rcases commits_eq commits with ⟨phase, absent⟩ | ⟨loaded, decided, current, phase, present, _⟩
  · have there := (sound.each u (List.mem_of_getElem? tj)).held holds
    rw [absent] at there
    cases there
  · cases locks : t.request.locks with
    | true =>
      have mine : t.holds = some t.request.orderId := by simp [Transaction.holds, phase, locks]
      exact other (sound.exclusive j i u t _ tj ti holds mine)
    | false => simp [Race.waits, phase, locks, held] at free

/-! ### One step -/

/-- **What a step keeps whatever it commits.** -/
theorem sound_of_step (sound : Sound r) (ti : r.transactions[i]? = some t) (free : r.waits t = false)
    (one : OneActive ((t.commits r.db).elim r.db r.db.commit)) :
    Sound
      { db := (t.commits r.db).elim r.db r.db.commit
        transactions := r.transactions.set i { t with phase := t.advance r.db } } where
  one := one
  exclusive := by
    -- whoever begins finds its row free, whoever goes on had it
    have apart : ∀ k u orderId, k ≠ i → r.transactions[k]? = some u → u.holds = some orderId →
        Transaction.holds { t with phase := t.advance r.db } ≠ some orderId := by
      intro k u orderId different found holds mine
      rcases holds_of_advance mine with waiting | before
      · obtain ⟨locks, own⟩ := holds_eq mine
        have held : r.held t.request.orderId = true := by
          refine List.any_eq_true.mpr ⟨u, List.mem_of_getElem? found, ?_⟩
          rw [show t.request.orderId = orderId from own]
          simpa using holds
        have locks' : t.request.locks = true := locks
        simp [Race.waits, waiting, locks', held] at free
      · exact different (sound.exclusive k i u t orderId found ti holds before)
    intro j k u v orderId found_u found_v holds_u holds_v
    rcases of_set found_u with ⟨rfl, rfl⟩ | ⟨other_u, old_u⟩
    · rcases of_set found_v with ⟨rfl, rfl⟩ | ⟨other_v, old_v⟩
      · rfl
      · exact absurd holds_u (apart k v orderId other_v old_v holds_v)
    · rcases of_set found_v with ⟨rfl, rfl⟩ | ⟨other_v, old_v⟩
      · exact absurd holds_v (apart j u orderId other_u old_u holds_u)
      · exact sound.exclusive j k u v orderId old_u old_v holds_u holds_v
  each := by
    intro u member
    obtain ⟨j, found⟩ := List.mem_iff_getElem?.mp member
    have sound_t := sound.each t (List.mem_of_getElem? ti)
    rcases of_set found with ⟨rfl, rfl⟩ | ⟨other, old⟩
    · cases commits : t.commits r.db with
      | none => exact advance_sound sound_t
      | some written =>
        rw [advance_of_commits commits]
        trivial
    · refine (sound.each u (List.mem_of_getElem? old)).frame fun orderId holds => ?_
      cases commits : t.commits r.db with
      | none => rfl
      | some written =>
        have different := commits_other sound ti old other free commits holds
        rw [← commits_orderId sound_t commits] at different
        exact (find?_commit r.db written orderId).trans (if_neg different)

/-- **One step of an uncontended race.** -/
theorem sound_step (r : Race) (i : Nat) (sound : Sound r) (uncontended : Uncontended r i) :
    Sound (r.step i) := by
  unfold Race.step
  split
  · exact sound
  · rename_i t present
    split_ifs with waits
    · exact sound
    · have free : r.waits t = false := eq_false_of_ne_true waits
      refine sound_of_step sound present free ?_
      cases commits : t.commits r.db with
      | none => exact sound.one
      | some written =>
        refine (oneActive_commit sound.one).mpr ?_
        by_cases assigns : t.request.assigns = true
        · exact uncontended t written present free assigns commits
        · exact spares_of_keeps sound.one (sound.each t (List.mem_of_getElem? present))
            (eq_false_of_ne_true assigns) commits

/-- A contended commit puts a driver on two deliveries. -/
theorem not_oneActive_of_contended (r : Race) (i : Nat) (sound : Sound r)
    (contended : ¬ Uncontended r i) : ¬ OneActive (r.step i).db := by
  unfold Uncontended at contended
  push Not at contended
  obtain ⟨t, written, present, free, _, commits, taken⟩ := contended
  have stepped : (r.step i).db = r.db.commit written := by
    unfold Race.step
    simp [present, free, commits]
  rw [stepped]
  exact fun one => taken ((oneActive_commit sound.one).mp one)

/-! ### Runs -/

/-- **When no driver is ever on two active deliveries**: exactly when every assignment, rejection and
override that commits puts on a driver who then has no active delivery of another order. -/
theorem oneActive_always_iff (db : State) (requests : List (Request × Timestamp)) (labels : List Nat) :
    Always Race.step (fun r => OneActive r.db) (Race.start db requests) labels ↔
      Throughout Race.step Uncontended (Race.start db requests) labels :=
  always_iff_throughout sound_step (fun _ sound => sound.one) not_oneActive_of_contended
    (sound_start db requests)

/-! ### One at a time -/

/-- An override that takes effect names a driver who has no active delivery of another order. -/
def Considerate (s : State) (label : Operation × Timestamp) : Prop :=
  match label.1 with
  | .reassignDeliveryForOrder _ orderId newDriverId =>
    (∃ delivery, Overrides s orderId delivery label.1) → ¬ BusyElsewhere s orderId newDriverId
  | _ => True

/-- A driver who was picked, or none, leaves nobody with two. -/
theorem offer_spares {s : State} {base : Delivery} {driver : Option Driver} (exclude : Option Nat)
    (status : Option DeliveryStatus) (name : Option String) (now : Timestamp) (nobody : base.driverId = none)
    (free : ∀ picked, driver = some picked → Free s exclude picked) :
    (offer base status name driver now).Spares s := by
  rintro driverId _ mine ⟨other, member, busy, same, _⟩
  cases driver with
  | none =>
    have none_some := nobody.symm.trans mine
    cases none_some
  | some picked =>
    have named : picked.id = driverId := Option.some.inj mine
    exact (free picked rfl).idle (mem_busyDriverIds.mpr ⟨other, member, busy, named ▸ same⟩)

theorem assign_oneActive {s next : State} {orderId : Nat} {redis : Option Nearby} {now : Timestamp}
    (one : OneActive s) (outcome : assignForOrder s orderId redis now = .ok next) :
    OneActive next := by
  rcases assignForOrder_ok outcome with rfl | ⟨_, driver, picked, rfl⟩
  · exact one
  · refine (oneActive_commit one).mpr (offer_spares none _ _ now rfl ?_)
    rintro driver rfl
    exact pickDriver_ok picked

theorem reject_oneActive {s next : State} {driverId orderId : Nat} {redis : Option Nearby}
    {now : Timestamp} (one : OneActive s)
    (outcome : rejectAssignment s driverId orderId redis now = .ok next) : OneActive next := by
  obtain ⟨delivery, driver, _, _, _, picked, rfl⟩ := rejectAssignment_ok outcome
  refine (oneActive_commit one).mpr (offer_spares (some driverId) _ _ now rfl ?_)
  rintro driver rfl
  exact pickDriver_ok picked

/-- A driver's own action, whichever it is. -/
theorem body_oneActive {s next : State} {driverId orderId : Nat}
    {body : Delivery → Except Raised Written} (one : OneActive s)
    (keeps : ∀ delivery written, body delivery = .ok written → Keeps delivery written)
    (outcome : (do
      let delivery ← ownedActive s driverId orderId
      let written ← body delivery
      return s.commit written) = .ok next) : OneActive next := by
  obtain ⟨delivery, written, found, _, decided, rfl⟩ := ownAction_ok outcome
  refine (oneActive_commit one).mpr ((keeps delivery written decided).spares one ?_)
  rw [Table.key_of_find? found]
  exact found

theorem reassigned_driver (snapshot : Option OrderSnapshot) (newDriverId : Nat) (now : Timestamp)
    (delivery : Delivery) :
    (reassigned snapshot newDriverId now delivery).delivery.driverId = some newDriverId ∧
      (reassigned snapshot newDriverId now delivery).delivery.active := by
  cases snapshot <;> exact ⟨rfl, rfl⟩

theorem oneActive_orElse {s : State} {outcome : Except Raised State} (one : OneActive s)
    (keeps : ∀ next, outcome = .ok next → OneActive next) : OneActive (orElse s outcome) := by
  cases outcome with
  | ok next => exact keeps next rfl
  | error raised => exact one

/-- An override is let through, and then what it writes decides. -/
theorem reassign_oneActive {s : State} (one : OneActive s) (caller : Identity)
    (orderId newDriverId : Nat) (now : Timestamp) :
    OneActive (s.step (.reassignDeliveryForOrder caller orderId newDriverId, now)) ↔
      Considerate s (.reassignDeliveryForOrder caller orderId newDriverId, now) := by
  show OneActive (orElse s (reassignDeliveryForOrder s caller orderId newDriverId now)) ↔
    ((∃ delivery, Overrides s orderId delivery _) → _)
  unfold reassignDeliveryForOrder
  cases found : s.deliveries.find? orderId with
  | none =>
    refine iff_of_true one ?_
    rintro ⟨delivery, _, present, _⟩
    rw [found] at present
    cases present
  | some delivery =>
    cases owned : ownedOrder s caller orderId with
    | error raised =>
      refine iff_of_true one ?_
      rintro ⟨_, _, _, allowed, _⟩
      rw [owned] at allowed
      cases allowed
    | ok manages =>
      cases active : activeDriver s newDriverId with
      | error raised =>
        refine iff_of_true one ?_
        rintro ⟨_, _, _, _, works⟩
        rw [active] at works
        cases works
      | ok works =>
        have own := (reassigned_orderId (s.snapshots.find? orderId) newDriverId now delivery).trans
          (Table.key_of_find? found)
        obtain ⟨named, busy⟩ :=
          reassigned_driver (s.snapshots.find? orderId) newDriverId now delivery
        refine (oneActive_commit one).trans ⟨fun spares _ => ?_, fun idle driverId _ mine => ?_⟩
        · exact own ▸ spares newDriverId busy named
        · have same : newDriverId = driverId := Option.some.inj (named.symm.trans mine)
          rw [own, ← same]
          exact idle ⟨delivery, rfl, found, owned, active⟩

/-- What an order event does first changes no delivery. -/
theorem orderEvent_oneActive {s : State} {payload : OrderEvent} {redis : Option Nearby}
    {now : Timestamp} (one : OneActive s) : OneActive (applyOrderEvent s payload redis now).1 := by
  unfold applyOrderEvent
  split
  · exact one
  · rename_i orderId _
    dsimp only
    generalize s.snapshots.put _ = snapshots
    have one_snapshots : OneActive { s with snapshots := snapshots } := one
    split_ifs
    · split
      · rename_i next outcome
        exact assign_oneActive one_snapshots outcome
      · exact one
    · exact one

/-- **One operation at a time.** -/
theorem step_oneActive {s : State} (one : OneActive s) (label : Operation × Timestamp) :
    OneActive (s.step label) ↔ Considerate s label := by
  obtain ⟨op, now⟩ := label
  cases op with
  | assignForOrder orderId redis =>
    exact iff_of_true (oneActive_orElse one fun _ => assign_oneActive one) trivial
  | acceptAssignment driverId orderId =>
    exact iff_of_true (oneActive_orElse one fun _ => body_oneActive one fun _ _ => accepted_keeps)
      trivial
  | rejectAssignment driverId orderId redis =>
    exact iff_of_true (oneActive_orElse one fun _ => reject_oneActive one) trivial
  | pickup driverId orderId =>
    exact iff_of_true (oneActive_orElse one fun _ => body_oneActive one fun _ _ => pickedUp_keeps)
      trivial
  | deliver driverId orderId =>
    exact iff_of_true (oneActive_orElse one fun _ => body_oneActive one fun _ _ => delivered_keeps)
      trivial
  | reassignDeliveryForOrder caller orderId newDriverId =>
    exact reassign_oneActive one caller orderId newDriverId now
  | applyOrderEvent payload redis => exact iff_of_true (orderEvent_oneActive one) trivial
  | applyUserEvent payload =>
    refine iff_of_true ?_ trivial
    show OneActive (applyUserEvent s payload)
    unfold applyUserEvent
    split
    · exact one
    · split_ifs
      · exact one
      · exact one
  | applyRestaurantEvent payload =>
    refine iff_of_true ?_ trivial
    show OneActive (applyRestaurantEvent s payload)
    unfold applyRestaurantEvent
    split
    · exact one
    · exact one

/-- **Without overlap only an override can do it**: when operations run one at a time, no driver is ever
on two active deliveries exactly when every override that takes effect names a driver with no active
delivery of another order. -/
theorem oneActive_oneAtATime_iff (labels : List (Operation × Timestamp)) :
    Always State.step OneActive .empty labels ↔ Throughout State.step Considerate .empty labels := by
  refine always_iff_throughout (Q := OneActive)
    (fun s label one considerate => (step_oneActive one label).mpr considerate) (fun _ one => one)
    (fun s label one careless active => careless ((step_oneActive one label).mp active)) ?_
  intro first member
  cases member

/-! ### One driver for two orders -/

/-- One driver on the roster, and no order known yet. -/
def oneDriver : State :=
  { State.empty with drivers := Table.put .empty { id := 4 } }

/-- **Two orders get the one free driver.** Both became ready for pickup, and both assignments read the
busy drivers before either commits. -/
theorem twoReady_oneDriver : ¬ ∀ (db : State) (requests : List (Request × Timestamp))
    (labels : List Nat), Always Race.step (fun r => OneActive r.db) (Race.start db requests) labels := by
  intro always
  have last := (always oneDriver [(.assign 1 none, 10), (.assign 2 none, 10)]
    [0, 1, 0, 1, 0, 1, 0, 1]).last
  have same := last { orderId := 1, driverId := some 4, status := .assigned, assignedAt := some 10 }
    (by decide) { orderId := 2, driverId := some 4, status := .assigned, assignedAt := some 10 }
    (by decide) 4 rfl rfl rfl rfl
  exact absurd same (by decide)

end FoodDelivery.Deliveries
