/-
**Relays draining one outbox.**

Each relay selects a batch, whose rows the others then skip, sends it row by row in the order of the
ids, and commits. A send that raises does not stop the batch, and a relay that skips a row does not wait
for it: the rows behind go out.

`inOrder_always_iff`: in every run of any number of relays, no event is sent before an earlier one of its
topic and key exactly when every send that returns finds none of these still unsent among the rows that
failed in its batch and the rows that another relay held when the batch was selected.
`drain_run`: one relay on its own does what `drain` does.
-/

import FoodDelivery.Lib.Runs
import FoodDelivery.Lib.Slots
import FoodDelivery.Shared.Outbox

set_option autoImplicit false

namespace FoodDelivery.Shared

open FoodDelivery.Lib

/-! ### Relays -/

/-- A relay in its batch: the rows it has tried and not committed, the rows it has still to try, and, for
the proof, the rows it skipped. -/
structure Relay where
  attempted : List OutboxRow := []
  rest : List OutboxRow := []
  skipped : List Nat := []
deriving DecidableEq

/-- The rows it has locked. -/
def Relay.held (relay : Relay) : List Nat := (relay.attempted ++ relay.rest).map OutboxRow.id

/-- The rows of its batch whose send has raised. -/
def Relay.failed (relay : Relay) : List Nat :=
  (relay.attempted.filter OutboxRow.pending).map OutboxRow.id

/-- The table, the relays on it and the rows whose send has returned. -/
structure Relays where
  table : OutboxTable
  relays : List Relay
  sent : List Nat := []

def Relays.locked (r : Relays) : List Nat := r.relays.flatMap Relay.held

/-- What happens next: a relay selects its batch, sends a row, commits or is cancelled, or a row is
recorded. -/
inductive Turn where
  | select (relay batchSize : Nat)
  | send (relay : Nat) (outcome : Option Timestamp)
  | commit (relay : Nat)
  | cancel (relay : Nat)
  | record (gap : Nat) (topic : String) (key : Option String) (payload : String)

def Relays.step (r : Relays) : Turn → Relays
  | .select k batchSize =>
    match r.relays[k]? with
    | some ⟨[], [], _⟩ =>
      { r with
        relays := r.relays.set k
          { rest := r.table.select r.locked batchSize
            skipped := (r.table.rows.filter fun row => row.pending && row.id ∈ r.locked).map
              OutboxRow.id } }
    | _ => r
  | .send k outcome =>
    match r.relays[k]? with
    | some ⟨attempted, row :: rest, skipped⟩ =>
      { r with
        relays := r.relays.set k ⟨attempted ++ [row.attempt fun _ => outcome], rest, skipped⟩
        sent := if outcome.isSome then r.sent ++ [row.id] else r.sent }
    | _ => r
  | .commit k =>
    match r.relays[k]? with
    | some ⟨attempted, [], _⟩ =>
      { r with table := r.table.write attempted, relays := r.relays.set k {} }
    | _ => r
  | .cancel k => { r with relays := r.relays.set k {} }
  | .record gap topic key payload =>
    { r with table := r.table.recordEvent gap topic key payload }

/-- A table as it stands, and relays that have not begun. -/
def Relays.start (table : OutboxTable) (count : Nat) : Relays where
  table := table
  relays := List.replicate count {}

/-! ### What has to hold -/

/-- One topic, one key, and the earlier id. -/
structure Precedes (first second : OutboxRow) : Prop where
  topic : first.topic = second.topic
  key : first.key = second.key
  before : first.id < second.id

/-- A row has been sent, in this run or before it. -/
def Relays.Out (r : Relays) (row : OutboxRow) : Prop := row.id ∈ r.sent ∨ row.pending = false

/-- **Per-key order**: of two rows of one topic and key, the later is not sent before the earlier. -/
def InOrder (r : Relays) : Prop :=
  ∀ first ∈ r.table.rows, ∀ second ∈ r.table.rows, Precedes first second →
    second.id ∈ r.sent → r.Out first

/-- A send that returns leaves behind no earlier row of its topic and key that failed in its batch, or
that was skipped because another relay held it, and has not been sent since. -/
def Orderly (r : Relays) : Turn → Prop
  | .send k (some _) =>
    ∀ relay row rest, r.relays[k]? = some relay → relay.rest = row :: rest →
      ∀ first ∈ r.table.rows, Precedes first row →
        first.id ∈ relay.failed ∨ first.id ∈ relay.skipped → r.Out first
  | _ => True

/-! ### The invariant -/

/-- Before a row that a relay has still to send, every earlier row of its topic and key is out, has
failed in the batch, was skipped or is still to be sent as well. -/
structure Relay.Sound (r : Relays) (relay : Relay) : Prop where
  attempted : ∀ row ∈ relay.attempted, ∃ old ∈ r.table.rows, ∃ outcome,
    row = old.attempt fun _ => outcome
  rest : ∀ row ∈ relay.rest, row ∈ r.table.rows
  sorted : relay.rest.Pairwise fun first second => first.id < second.id
  covered : ∀ row ∈ relay.rest, ∀ first ∈ r.table.rows, Precedes first row →
    r.Out first ∨ first.id ∈ relay.failed ∨ first.id ∈ relay.skipped ∨
      first.id ∈ relay.rest.map OutboxRow.id

structure Sound (r : Relays) : Prop where
  order : InOrder r
  known : ∀ id ∈ r.sent, ∃ row ∈ r.table.rows, row.id = id
  each : ∀ relay ∈ r.relays, relay.Sound r
  apart : ∀ (j k : Nat) (first second : Relay), r.relays[j]? = some first →
    r.relays[k]? = some second → j ≠ k → ∀ id ∈ first.held, id ∉ second.held

theorem sound_idle (r : Relays) : Relay.Sound r {} where
  attempted := fun row member => by cases member
  rest := fun row member => by cases member
  sorted := List.Pairwise.nil
  covered := fun row member => by cases member

theorem sound_start (table : OutboxTable) (count : Nat) : Sound (Relays.start table count) where
  order := fun _ _ _ _ _ sent => by cases sent
  known := fun id sent => by cases sent
  each := by
    intro relay member
    rw [List.eq_of_mem_replicate member]
    exact sound_idle _
  apart := by
    intro j k first second found _ _ id holds
    rw [List.eq_of_mem_replicate (List.mem_of_getElem? found)] at holds
    cases holds

/-! ### One turn -/

variable {r : Relays} {relay : Relay} {k : Nat}

/-- **What a turn of one relay keeps**: nobody else's rows change, and it holds nothing that another
holds. -/
theorem sound_set {next : Relays} {changed : Relay} (sound : Sound r)
    (relays : next.relays = r.relays.set k changed) (order : InOrder next)
    (known : ∀ id ∈ next.sent, ∃ row ∈ next.table.rows, row.id = id)
    (others : ∀ j other, j ≠ k → r.relays[j]? = some other → other.Sound next)
    (mine : changed.Sound next)
    (holds : ∀ j other, j ≠ k → r.relays[j]? = some other → ∀ id ∈ changed.held,
      id ∉ other.held) : Sound next where
  order := order
  known := known
  each := by
    intro other member
    obtain ⟨j, found⟩ := List.mem_iff_getElem?.mp member
    rw [relays] at found
    rcases of_set found with ⟨_, rfl⟩ | ⟨different, old⟩
    · exact mine
    · exact others j other different old
  apart := by
    intro i j first second found_first found_second different id holds_first holds_second
    rw [relays] at found_first found_second
    rcases of_set found_first with ⟨rfl, rfl⟩ | ⟨other_first, old_first⟩
    · rcases of_set found_second with ⟨rfl, rfl⟩ | ⟨other_second, old_second⟩
      · exact different rfl
      · exact holds j second other_second old_second id holds_first holds_second
    · rcases of_set found_second with ⟨rfl, rfl⟩ | ⟨other_second, old_second⟩
      · exact holds i first other_first old_first id holds_second holds_first
      · exact sound.apart i j first second old_first old_second different id holds_first holds_second

/-- A relay that goes on with an unchanged table knows at least what it knew. -/
theorem Relay.Sound.mono {next : Relays} (sound : relay.Sound r) (table : next.table = r.table)
    (sent : ∀ id ∈ r.sent, id ∈ next.sent) : relay.Sound next where
  attempted := by
    rw [table]
    exact sound.attempted
  rest := by
    rw [table]
    exact sound.rest
  sorted := sound.sorted
  covered := by
    intro row member first inside precedes
    rw [table] at inside
    rcases sound.covered row member first inside precedes with out | elsewhere
    · exact Or.inl (out.imp_left (sent first.id))
    · exact Or.inr elsewhere

/-- **A batch is selected.** -/
theorem sound_select (sound : Sound r) {skipped : List Nat}
    (present : r.relays[k]? = some ⟨[], [], skipped⟩) (batchSize : Nat) :
    Sound (r.step (.select k batchSize)) := by
  unfold Relays.step
  simp only [present]
  refine sound_set sound rfl sound.order sound.known
    (fun j other _ found => (sound.each other (List.mem_of_getElem? found)).mono rfl fun _ => id) ?_ ?_
  · refine ⟨fun row member => (by cases member), fun row member => mem_rows_of_select member, ?_, ?_⟩
    · exact (r.table.sorted.filter _).sublist (List.take_sublist _ _)
    · intro row member first inside precedes
      by_cases pending : first.pending = true
      · right; right
        by_cases held : first.id ∈ r.locked
        · exact Or.inl (List.mem_map_of_mem (List.mem_filter.mpr ⟨inside, by simp [pending, held]⟩))
        · refine Or.inr (List.mem_map_of_mem ((mem_select_iff inside).mpr ⟨pending, held, ?_⟩))
          refine lt_of_le_of_lt ?_ ((mem_select_iff (mem_rows_of_select member)).mp member).2.2
          refine List.countP_mono_left fun other _ holds => ?_
          simp only [Bool.and_eq_true, decide_eq_true_eq] at holds ⊢
          exact ⟨holds.1.trans precedes.before, holds.2⟩
      · exact Or.inl (Or.inr (eq_false_of_ne_true pending))
  · intro j other _ found id taken holds
    obtain ⟨row, selected, rfl⟩ := List.mem_map.mp taken
    have free := ((mem_select_iff (mem_rows_of_select selected)).mp selected).2.1
    exact free (List.mem_flatMap.mpr ⟨other, List.mem_of_getElem? found, holds⟩)

/-- The row at the head of a batch is the row of the table with its id. -/
theorem head_of_batch (sound : Sound r) {attempted rest : List OutboxRow} {row : OutboxRow}
    {skipped : List Nat} (present : r.relays[k]? = some ⟨attempted, row :: rest, skipped⟩) :
    row ∈ r.table.rows ∧ ∀ first ∈ r.table.rows, Precedes first row → r.Out first ∨
      first.id ∈ Relay.failed ⟨attempted, row :: rest, skipped⟩ ∨ first.id ∈ skipped := by
  have mine := sound.each _ (List.mem_of_getElem? present)
  refine ⟨mine.rest row List.mem_cons_self, fun first inside precedes => ?_⟩
  rcases mine.covered row List.mem_cons_self first inside precedes with out | failed | passed | waits
  · exact Or.inl out
  · exact Or.inr (Or.inl failed)
  · exact Or.inr (Or.inr passed)
  · -- it is the head of its batch, so none that waits is before it
    obtain ⟨other, member, same⟩ := List.mem_map.mp waits
    have before := precedes.before
    rcases List.mem_cons.mp member with rfl | later
    · omega
    · have after := (List.pairwise_cons.mp mine.sorted).1 other later
      omega

/-- The relay that has sent the head of its batch, or failed to. -/
theorem Relay.Sound.sent {next : Relays} {attempted rest : List OutboxRow} {row : OutboxRow}
    {skipped : List Nat} {outcome : Option Timestamp}
    (mine : Relay.Sound r ⟨attempted, row :: rest, skipped⟩) (table : next.table = r.table)
    (grows : ∀ id ∈ r.sent, id ∈ next.sent) (sends : outcome ≠ none → row.id ∈ next.sent) :
    Relay.Sound next ⟨attempted ++ [row.attempt fun _ => outcome], rest, skipped⟩ where
  attempted := by
    intro other member
    rw [table]
    rcases List.mem_append.mp member with old | new
    · exact mine.attempted other old
    · exact ⟨row, mine.rest row List.mem_cons_self, outcome, List.mem_singleton.mp new⟩
  rest := by
    intro other member
    rw [table]
    exact mine.rest other (List.mem_cons_of_mem _ member)
  sorted := (List.pairwise_cons.mp mine.sorted).2
  covered := by
    intro other member first inside precedes
    rw [table] at inside
    rcases mine.covered other (List.mem_cons_of_mem _ member) first inside precedes with
      out | failed | passed | waits
    · exact Or.inl (out.imp_left (grows first.id))
    · refine Or.inr (Or.inl ?_)
      obtain ⟨old, tried, same⟩ := List.mem_map.mp failed
      obtain ⟨among, pending⟩ := List.mem_filter.mp tried
      exact same ▸ List.mem_map_of_mem
        (List.mem_filter.mpr ⟨List.mem_append_left _ among, pending⟩)
    · exact Or.inr (Or.inr (Or.inl passed))
    · rcases List.mem_cons.mp waits with same | later
      · -- the one before it is the row that was just sent
        obtain rfl := OutboxTable.row_ext inside (mine.rest row List.mem_cons_self) same
        cases outcome with
        | none =>
          by_cases pending : first.pending = true
          · refine Or.inr (Or.inl (List.mem_map.mpr ⟨first.attempt fun _ => none, ?_, rfl⟩))
            exact List.mem_filter.mpr ⟨List.mem_append_right _ (List.mem_singleton.mpr rfl), pending⟩
          · exact Or.inl (Or.inr (eq_false_of_ne_true pending))
        | some now => exact Or.inl (Or.inl (sends (by simp)))
      · exact Or.inr (Or.inr (Or.inr later))

/-- **A row is sent**, or its send raises. -/
theorem sound_send (sound : Sound r) {attempted rest : List OutboxRow} {row : OutboxRow}
    {skipped : List Nat} (present : r.relays[k]? = some ⟨attempted, row :: rest, skipped⟩)
    (outcome : Option Timestamp) (orderly : Orderly r (.send k outcome)) :
    Sound (r.step (.send k outcome)) := by
  have mine := sound.each _ (List.mem_of_getElem? present)
  obtain ⟨here, before⟩ := head_of_batch sound present
  unfold Relays.step
  simp only [present]
  have grows : ∀ id ∈ r.sent, id ∈ if outcome.isSome then r.sent ++ [row.id] else r.sent := by
    intro id old
    split
    · exact List.mem_append_left _ old
    · exact old
  have only : ∀ id ∈ (if outcome.isSome then r.sent ++ [row.id] else r.sent),
      id ∈ r.sent ∨ (outcome.isSome ∧ id = row.id) := by
    intro id now
    split at now
    · rename_i returned
      exact (List.mem_append.mp now).imp_right fun new => ⟨returned, List.mem_singleton.mp new⟩
    · exact Or.inl now
  refine sound_set sound rfl ?_ ?_ (fun j other _ found =>
    (sound.each other (List.mem_of_getElem? found)).mono rfl grows) ?_ ?_
  · intro first inside second there precedes sent
    rcases only second.id sent with old | ⟨returned, same⟩
    · exact (sound.order first inside second there precedes old).imp_left (grows first.id)
    · obtain rfl := OutboxTable.row_ext there here same
      obtain ⟨now, rfl⟩ := Option.isSome_iff_exists.mp returned
      have out : r.Out first := by
        rcases before first inside precedes with out | elsewhere
        · exact out
        · exact orderly _ second rest present rfl first inside precedes elsewhere
      exact out.imp_left (grows first.id)
  · intro id sent
    rcases only id sent with old | ⟨_, rfl⟩
    · exact sound.known id old
    · exact ⟨row, here, rfl⟩
  · refine mine.sent rfl grows fun returned => ?_
    simp [Option.isSome_iff_ne_none.mpr returned]
  · intro j other different found id holds
    refine sound.apart k j _ other present found (Ne.symm different) id ?_
    simpa [Relay.held, or_assoc] using holds

/-- What a commit makes of a row: the row, or the row after one attempt. -/
def OutboxTable.committed (attempted : List OutboxRow) (row : OutboxRow) : OutboxRow :=
  (attempted.find? fun other => other.id = row.id).getD row

/-- A row that nobody tried is left alone. -/
theorem committed_of_untouched {attempted : List OutboxRow} {row : OutboxRow}
    (untouched : row.id ∉ attempted.map OutboxRow.id) :
    OutboxTable.committed attempted row = row := by
  have absent : (attempted.find? fun other => other.id = row.id) = none := by
    refine List.find?_eq_none.mpr fun other member same => untouched ?_
    have own : other.id = row.id := by simpa using same
    exact own ▸ List.mem_map_of_mem member
  rw [OutboxTable.committed, absent]
  rfl

theorem committed_eq {attempted : List OutboxRow}
    (tried : ∀ row ∈ attempted, ∃ old ∈ r.table.rows, ∃ outcome, row = old.attempt fun _ => outcome)
    {row : OutboxRow} (member : row ∈ r.table.rows) :
    OutboxTable.committed attempted row = row ∨
      ∃ outcome, OutboxTable.committed attempted row = row.attempt fun _ => outcome := by
  unfold OutboxTable.committed
  cases found : attempted.find? fun other => other.id = row.id with
  | none => exact Or.inl rfl
  | some other =>
    obtain ⟨old, inside, outcome, rfl⟩ := tried other (List.mem_of_find?_eq_some found)
    have same : old.id = row.id := by simpa using List.find?_some found
    obtain rfl := OutboxTable.row_ext inside member same
    exact Or.inr ⟨outcome, rfl⟩

/-- It keeps its place, and stays published. -/
theorem committed_frame {attempted : List OutboxRow}
    (tried : ∀ row ∈ attempted, ∃ old ∈ r.table.rows, ∃ outcome, row = old.attempt fun _ => outcome)
    {row : OutboxRow} (member : row ∈ r.table.rows) :
    (OutboxTable.committed attempted row).id = row.id ∧
      (OutboxTable.committed attempted row).topic = row.topic ∧
      (OutboxTable.committed attempted row).key = row.key ∧
      (row.pending = false → (OutboxTable.committed attempted row).pending = false) := by
  rcases committed_eq tried member with same | ⟨outcome, same⟩
  · rw [same]
    exact ⟨rfl, rfl, rfl, id⟩
  · rw [same]
    cases outcome with
    | none => exact ⟨rfl, rfl, rfl, id⟩
    | some now => exact ⟨rfl, rfl, rfl, fun _ => rfl⟩

/-- What the table is after a commit, row by row. -/
theorem write_committed {table : OutboxTable} {attempted : List OutboxRow} {row : OutboxRow}
    (member : row ∈ (table.write attempted).rows) :
    ∃ old ∈ table.rows, row = OutboxTable.committed attempted old := by
  obtain ⟨old, inside, same⟩ := List.mem_map.mp member
  exact ⟨old, inside, same.symm⟩

/-- Whatever comes before another row after a commit came before it. -/
theorem precedes_of_committed {attempted : List OutboxRow}
    (tried : ∀ row ∈ attempted, ∃ old ∈ r.table.rows, ∃ outcome, row = old.attempt fun _ => outcome)
    {first second : OutboxRow} (inside : first ∈ r.table.rows) (there : second ∈ r.table.rows)
    (precedes : Precedes (OutboxTable.committed attempted first)
      (OutboxTable.committed attempted second)) : Precedes first second := by
  obtain ⟨id_first, topic_first, key_first, _⟩ := committed_frame tried inside
  obtain ⟨id_second, topic_second, key_second, _⟩ := committed_frame tried there
  obtain ⟨topic, key, before⟩ := precedes
  rw [topic_first, topic_second] at topic
  rw [key_first, key_second] at key
  rw [id_first, id_second] at before
  exact ⟨topic, key, before⟩

/-- What is out stays out when a batch is committed. -/
theorem out_committed {next : Relays} {attempted : List OutboxRow}
    (tried : ∀ row ∈ attempted, ∃ old ∈ r.table.rows, ∃ outcome, row = old.attempt fun _ => outcome)
    (sent : next.sent = r.sent) {row : OutboxRow} (inside : row ∈ r.table.rows) (out : r.Out row) :
    next.Out (OutboxTable.committed attempted row) := by
  obtain ⟨same, _, _, published⟩ := committed_frame tried inside
  refine out.imp (fun sent_before => ?_) published
  rw [same, sent]
  exact sent_before

/-- **A commit of another relay**: nobody tried a row that this one holds. -/
theorem Relay.Sound.committed {next : Relays} {attempted : List OutboxRow} (sound : relay.Sound r)
    (tried : ∀ row ∈ attempted, ∃ old ∈ r.table.rows, ∃ outcome, row = old.attempt fun _ => outcome)
    (apart : ∀ id ∈ relay.held, id ∉ attempted.map OutboxRow.id)
    (table : next.table = r.table.write attempted) (sent : next.sent = r.sent) :
    relay.Sound next := by
  have kept : ∀ row ∈ r.table.rows, row.id ∈ relay.held →
      OutboxTable.committed attempted row = row :=
    fun row _ holds => committed_of_untouched (apart row.id holds)
  have stays : ∀ row ∈ r.table.rows, row.id ∈ relay.held → row ∈ next.table.rows := by
    intro row member holds
    have image : OutboxTable.committed attempted row ∈ (r.table.write attempted).rows :=
      List.mem_map_of_mem member
    rw [kept row member holds] at image
    rw [table]
    exact image
  have holds_attempted : ∀ row ∈ relay.attempted, row.id ∈ relay.held := fun row member =>
    List.mem_map_of_mem (List.mem_append_left _ member)
  have holds_rest : ∀ row ∈ relay.rest, row.id ∈ relay.held := fun row member =>
    List.mem_map_of_mem (List.mem_append_right _ member)
  refine ⟨?_, ?_, sound.sorted, ?_⟩
  · intro row member
    obtain ⟨old, inside, outcome, same⟩ := sound.attempted row member
    have own : row.id = old.id := by rw [same, attempt_id]
    exact ⟨old, stays old inside (own ▸ holds_attempted row member), outcome, same⟩
  · exact fun row member => stays row (sound.rest row member) (holds_rest row member)
  · intro row member first inside precedes
    rw [table] at inside
    obtain ⟨old, from_old, rfl⟩ := write_committed inside
    have here := sound.rest row member
    rw [← kept row here (holds_rest row member)] at precedes
    rw [(committed_frame tried from_old).1]
    exact (sound.covered row member old from_old
      (precedes_of_committed tried from_old here precedes)).imp_left
      (out_committed tried sent from_old)

/-- **A batch is committed.** -/
theorem sound_commit (sound : Sound r) {attempted : List OutboxRow} {skipped : List Nat}
    (present : r.relays[k]? = some ⟨attempted, [], skipped⟩) :
    Sound (r.step (.commit k)) := by
  have tried := (sound.each _ (List.mem_of_getElem? present)).attempted
  unfold Relays.step
  simp only [present]
  refine sound_set sound rfl ?_ ?_ ?_ (sound_idle _) (fun j other _ _ id holds => by cases holds)
  · intro first inside second there precedes sent
    obtain ⟨old_first, from_first, rfl⟩ := write_committed inside
    obtain ⟨old_second, from_second, rfl⟩ := write_committed there
    rw [(committed_frame tried from_second).1] at sent
    have before := precedes_of_committed tried from_first from_second precedes
    exact out_committed tried rfl from_first
      (sound.order old_first from_first old_second from_second before sent)
  · intro id sent
    obtain ⟨row, member, same⟩ := sound.known id sent
    exact ⟨_, List.mem_map_of_mem member, (committed_frame tried member).1.trans same⟩
  · intro j other different found
    refine (sound.each other (List.mem_of_getElem? found)).committed tried ?_ rfl rfl
    intro id holds mine
    refine sound.apart j k other _ found present different id holds ?_
    simpa [Relay.held] using mine

/-- **A relay is cancelled**: its transaction is rolled back, what it sent stays sent. -/
theorem sound_cancel (sound : Sound r) : Sound (r.step (.cancel k)) :=
  sound_set sound rfl sound.order sound.known
    (fun j other _ found => (sound.each other (List.mem_of_getElem? found)).mono rfl fun _ => id)
    (sound_idle _) (fun j other _ _ id holds => by cases holds)

/-- **A row is recorded**, after all the others. -/
theorem sound_record (sound : Sound r) (gap : Nat) (topic : String) (key : Option String)
    (payload : String) : Sound (r.step (.record gap topic key payload)) := by
  have cases_rows : ∀ row ∈ (r.table.recordEvent gap topic key payload).rows,
      row ∈ r.table.rows ∨ ∀ old ∈ r.table.rows, old.id < row.id := by
    intro row member
    refine (List.mem_append.mp member).imp_right fun new old inside => ?_
    rw [List.mem_singleton.mp new]
    exact Nat.lt_add_right gap (lt_nextId (List.mem_map_of_mem inside))
  refine ⟨?_, ?_, ?_, sound.apart⟩
  · intro first inside second there precedes sent
    obtain ⟨old, member, same⟩ := sound.known second.id sent
    have before := precedes.before
    rcases cases_rows second there with second_old | above
    · rcases cases_rows first inside with first_old | above
      · exact sound.order first first_old second second_old precedes sent
      · have after := above second second_old
        omega
    · have after := above old member
      omega
  · intro id sent
    obtain ⟨row, member, same⟩ := sound.known id sent
    exact ⟨row, List.mem_append_left _ member, same⟩
  · intro relay member
    have mine := sound.each relay member
    refine ⟨?_, fun row waits => List.mem_append_left _ (mine.rest row waits), mine.sorted, ?_⟩
    · intro row tried
      obtain ⟨old, inside, outcome, same⟩ := mine.attempted row tried
      exact ⟨old, List.mem_append_left _ inside, outcome, same⟩
    · intro row waits first inside precedes
      rcases cases_rows first inside with old | above
      · exact mine.covered row waits first old precedes
      · have after := above row (mine.rest row waits)
        have before := precedes.before
        omega

/-! ### Runs -/

/-- **One turn of orderly relays.** -/
theorem sound_step (r : Relays) (turn : Turn) (sound : Sound r) (orderly : Orderly r turn) :
    Sound (r.step turn) := by
  cases turn with
  | select k batchSize =>
    cases present : r.relays[k]? with
    | none => simpa [Relays.step, present] using sound
    | some relay =>
      obtain ⟨_ | ⟨row, attempted⟩, _ | ⟨row', rest⟩, skipped⟩ := relay
      · exact sound_select sound present batchSize
      · simpa [Relays.step, present] using sound
      · simpa [Relays.step, present] using sound
      · simpa [Relays.step, present] using sound
  | send k outcome =>
    cases present : r.relays[k]? with
    | none => simpa [Relays.step, present] using sound
    | some relay =>
      obtain ⟨attempted, _ | ⟨row, rest⟩, skipped⟩ := relay
      · simpa [Relays.step, present] using sound
      · exact sound_send sound present outcome orderly
  | commit k =>
    cases present : r.relays[k]? with
    | none => simpa [Relays.step, present] using sound
    | some relay =>
      obtain ⟨attempted, _ | ⟨row, rest⟩, skipped⟩ := relay
      · exact sound_commit sound present
      · simpa [Relays.step, present] using sound
  | cancel k => exact sound_cancel sound
  | record gap topic key payload => exact sound_record sound gap topic key payload

/-- A send that is not orderly leaves an earlier row behind. -/
theorem not_inOrder_of_disorderly (r : Relays) (turn : Turn) (sound : Sound r)
    (disorderly : ¬ Orderly r turn) : ¬ InOrder (r.step turn) := by
  cases turn with
  | send k outcome =>
    cases outcome with
    | none => exact absurd trivial disorderly
    | some now =>
      unfold Orderly at disorderly
      push Not at disorderly
      obtain ⟨⟨attempted, batch, skipped⟩, row, rest, present, rfl, first, inside, precedes, _,
        behind⟩ := disorderly
      obtain ⟨here, _⟩ := head_of_batch sound present
      intro order
      unfold Relays.step at order
      simp only [present] at order
      rcases order first inside row here precedes
        (List.mem_append_right _ (List.mem_singleton.mpr rfl)) with sent | published
      · rcases List.mem_append.mp sent with old | new
        · exact behind (Or.inl old)
        · have before := precedes.before
          rw [List.mem_singleton.mp new] at before
          exact Nat.lt_irrefl _ before
      · exact behind (Or.inr published)
  | select k batchSize => exact absurd trivial disorderly
  | commit k => exact absurd trivial disorderly
  | cancel k => exact absurd trivial disorderly
  | record gap topic key payload => exact absurd trivial disorderly

/-- **When per-key order is kept**: exactly when no send that returns leaves behind an earlier row of its
topic and key that has failed in its batch, or that another relay held when the batch was selected. -/
theorem inOrder_always_iff (table : OutboxTable) (count : Nat) (turns : List Turn) :
    Always Relays.step InOrder (Relays.start table count) turns ↔
      Throughout Relays.step Orderly (Relays.start table count) turns :=
  always_iff_throughout sound_step (fun _ sound => sound.order) not_inOrder_of_disorderly
    (sound_start table count)

/-! ### One relay -/

theorem run_sends (table : OutboxTable) (send : Sender) (skipped sent : List Nat)
    (attempted rows : List OutboxRow) :
    ∃ after, run Relays.step ⟨table, [⟨attempted, rows, skipped⟩], sent⟩
        (rows.map fun row => .send 0 (send row)) =
      ⟨table, [⟨attempted ++ rows.map (OutboxRow.attempt send), [], skipped⟩], after⟩ := by
  induction rows generalizing attempted sent with
  | nil => exact ⟨sent, by simp⟩
  | cons row rows ih =>
    obtain ⟨after, rest⟩ := ih (if (send row).isSome then sent ++ [row.id] else sent)
      (attempted ++ [row.attempt send])
    refine ⟨after, Eq.trans ?_ (rest.trans ?_)⟩
    · rfl
    · rw [List.append_assoc, List.map_cons, List.singleton_append]

/-- **One relay on its own is `drain`.** -/
theorem drain_run (table : OutboxTable) (send : Sender) (batchSize : Nat) :
    (run Relays.step (Relays.start table 1)
      (.select 0 batchSize :: ((table.select [] batchSize).map fun row => .send 0 (send row)) ++
        [.commit 0])).table = (drain table [] send batchSize).1 := by
  obtain ⟨sent, tried⟩ := run_sends table send
    ((table.rows.filter fun row => row.pending && row.id ∈ ([] : List Nat)).map OutboxRow.id) [] []
    (table.select [] batchSize)
  rw [List.cons_append]
  show (run Relays.step ((Relays.start table 1).step (.select 0 batchSize)) _).table = _
  rw [run_append]
  have selected : (Relays.start table 1).step (.select 0 batchSize) =
      ⟨table, [⟨[], table.select [] batchSize, (table.rows.filter fun row =>
        row.pending && row.id ∈ ([] : List Nat)).map OutboxRow.id⟩], []⟩ := rfl
  rw [selected, tried]
  rfl

/-! ### A status that arrives backwards -/

/-- Order 7 is confirmed. -/
def confirmed : OutboxRow where
  id := 1
  topic := "order-events"
  key := some "7"
  payload := "\x7b\"order_id\": 7, \"status\": \"CONFIRMED\"\x7d"

/-- And then cancelled. -/
def cancelled : OutboxRow where
  id := 2
  topic := "order-events"
  key := some "7"
  payload := "\x7b\"order_id\": 7, \"status\": \"CANCELLED\"\x7d"

/-- **The later event goes first.** The send of the first raises once, and the loop goes on. -/
theorem cancelled_before_confirmed : ¬ ∀ (table : OutboxTable) (count : Nat)
    (turns : List Turn), Always Relays.step InOrder (Relays.start table count) turns := by
  intro always
  have last := (always ⟨[confirmed, cancelled], by decide⟩ 1
    [.select 0 100, .send 0 none, .send 0 (some 5)]).last
  rcases last confirmed (by decide) cancelled (by decide) ⟨rfl, rfl, by decide⟩ (by decide) with
    sent | published
  · exact absurd sent (by decide)
  · exact absurd published (by decide)

end FoodDelivery.Shared
