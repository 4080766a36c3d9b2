/-
**A table that is filled by upserts.**

An `Upsert` names the row that an event is about, if any, says what that row is before its first event,
and writes the event over it. A column follows a value (`Follows`) when an event that carries one sets it,
and one that does not leaves it, the first event included.

* `present_run`: after any events a row is there exactly if one of them was about it;
* `column_run`: a column that follows a value is the last one that came along, and `fixed_run`: one that
  no event writes is as the first event about the row made it;
* `Relayed`: a log that is sent at least once and handled at least once. Neither the last value in it nor
  whether there is one (`Relayed.getLast?_filterMap`, `Relayed.exists_iff`) depends on what comes twice,
  so that each value may come from a log of its own;
* `Upsert.Follows.relayed`: what a column ends with where its events were relayed key by key;
* `Told`: the last event about each row says what the row shows (`Told.put`, `Told.keep`);
* `perm_map_of_find?`: two tables that answer every lookup alike have the same rows, in some order.
-/

import FoodDelivery.Lib.Replays
import FoodDelivery.Lib.Table

set_option autoImplicit false

namespace FoodDelivery.Lib

variable {κ ρ ε α : Type} {key : ρ → κ}

/-- An event is about one row, or about none. -/
structure Upsert (κ ρ ε : Type) (key : ρ → κ) where
  target : ε → Option κ
  blank : κ → ε → ρ
  write : ε → ρ → ρ
  key_blank : ∀ k event, key (blank k event) = k
  key_write : ∀ event row, key (write event row) = key row

namespace Upsert

variable [DecidableEq κ]

/-- Handle an event: get the row, or add it, and write. -/
def step (upsert : Upsert κ ρ ε key) (table : Table κ ρ key) (event : ε) : Table κ ρ key :=
  match upsert.target event with
  | none => table
  | some k => table.put (upsert.write event ((table.find? k).getD (upsert.blank k event)))

/-- What an event says, when it is about the row. -/
def said (upsert : Upsert κ ρ ε key) (k : κ) (value : ε → Option α) (event : ε) : Option α :=
  if upsert.target event = some k then value event else none

/-- **A column follows a value**, from a default on. -/
structure Follows (upsert : Upsert κ ρ ε key) (column : ρ → α) (default : α) (value : ε → Option α) :
    Prop where
  writes : ∀ event row, column (upsert.write event row) = (value event).getD (column row)
  starts : ∀ k event, column (upsert.write event (upsert.blank k event)) = (value event).getD default

variable {upsert : Upsert κ ρ ε key} {column : ρ → α} {default : α} {value : ε → Option α}

/-- **One event**: its own row, and no other. -/
theorem find?_step (table : Table κ ρ key) (event : ε) (k : κ) :
    (upsert.step table event).find? k =
      if upsert.target event = some k then
        some (upsert.write event ((table.find? k).getD (upsert.blank k event)))
      else table.find? k := by
  unfold step
  cases target : upsert.target event with
  | none => rw [if_neg (by simp)]
  | some own =>
    have written : key (upsert.write event ((table.find? own).getD (upsert.blank own event))) = own := by
      rw [upsert.key_write]
      cases found : table.find? own with
      | none => exact upsert.key_blank own event
      | some row => exact Table.key_of_find? found
    dsimp only
    rw [Table.find?_put, written]
    by_cases same : own = k
    · subst same
      rw [if_pos rfl, if_pos rfl]
    · rw [if_neg same, if_neg fun equal => same (Option.some.inj equal)]

theorem present_step (table : Table κ ρ key) (event : ε) (k : κ) :
    ((upsert.step table event).find? k).isSome ↔
      upsert.target event = some k ∨ (table.find? k).isSome := by
  rw [find?_step]
  split
  · rename_i own
    simp [own]
  · rename_i other
    simp [other]

theorem Follows.step (follows : upsert.Follows column default value) (table : Table κ ρ key) (event : ε)
    (k : κ) : ((upsert.step table event).find? k).elim default column =
      keepLast (upsert.said k value) ((table.find? k).elim default column) event := by
  rw [find?_step]
  unfold keepLast said
  by_cases own : upsert.target event = some k
  · rw [if_pos own, if_pos own, Option.elim_some]
    cases table.find? k with
    | none => exact follows.starts k event
    | some row => exact follows.writes event row
  · rw [if_neg own, if_neg own]
    rfl

/-! ### After any events -/

/-- **The rows that are there.** -/
theorem present_run (table : Table κ ρ key) (events : List ε) (k : κ) :
    ((run upsert.step table events).find? k).isSome ↔
      (∃ event ∈ events, upsert.target event = some k) ∨ (table.find? k).isSome := by
  induction events generalizing table with
  | nil => simp
  | cons event events ih =>
    show ((run upsert.step (upsert.step table event) events).find? k).isSome ↔ _
    rw [ih, present_step, List.exists_mem_cons_iff, or_left_comm, or_assoc]

/-- **What a column ends with.** -/
theorem Follows.column_run (follows : upsert.Follows column default value) (table : Table κ ρ key)
    (events : List ε) (k : κ) :
    ((run upsert.step table events).find? k).elim default column =
      (events.filterMap (upsert.said k value)).getLast?.getD ((table.find? k).elim default column) := by
  rw [← run_keepLast]
  induction events generalizing table with
  | nil => rfl
  | cons event events ih =>
    show ((run upsert.step (upsert.step table event) events).find? k).elim default column = _
    rw [ih, follows.step]
    rfl

/-- **A column that no event writes** is as the first event about the row made it. -/
theorem fixed_run (fixed : ∀ event row, column (upsert.write event row) = column row)
    (table : Table κ ρ key) (events : List ε) (k : κ) :
    ((run upsert.step table events).find? k).map column =
      ((table.find? k).map column).or
        ((events.find? fun event => upsert.target event = some k).map fun event =>
          column (upsert.blank k event)) := by
  induction events generalizing table with
  | nil => exact (Option.or_none).symm
  | cons event events ih =>
    show ((run upsert.step (upsert.step table event) events).find? k).map column = _
    rw [ih, find?_step, List.find?_cons]
    by_cases own : upsert.target event = some k
    · rw [if_pos own, Option.map_some, fixed, decide_eq_true own]
      cases table.find? k with
      | none => rfl
      | some row => rfl
    · rw [if_neg own, decide_eq_false own]

end Upsert

/-! ### After a replay -/

variable {log handled : List ε}

/-- **The last value of a replay** is the last value of the log. -/
theorem Replay.getLast?_filterMap (replay : Replay log handled) (value : ε → Option α) :
    (handled.filterMap value).getLast? = (log.filterMap value).getLast? := by
  have ends : ∀ events : List ε, run (keepLast fun event => (value event).map some) none events =
      (events.filterMap value).getLast? := by
    intro events
    rw [run_keepLast, ← List.map_filterMap, List.getLast?_map]
    cases (events.filterMap value).getLast? with
    | none => rfl
    | some last => rfl
  rw [← ends, ← ends]
  exact (absorbs_keepLast _).run_replay replay none

/-- A replay handles the events of the log and no others. -/
theorem Replay.exists_iff (replay : Replay log handled) (p : ε → Prop) :
    (∃ event ∈ handled, p event) ↔ ∃ event ∈ log, p event := by
  classical
  have marked : ∀ events : List ε,
      (∃ event ∈ events, p event) ↔
        (events.filterMap fun event => if p event then some event else none).getLast?.isSome := by
    intro events
    rw [List.getLast?_isSome]
    constructor
    · rintro ⟨event, member, holds⟩
      exact List.ne_nil_of_mem (List.mem_filterMap.mpr ⟨event, member, if_pos holds⟩)
    · intro nonempty
      obtain ⟨_, marked⟩ := List.exists_mem_of_ne_nil _ nonempty
      obtain ⟨event, member, mark⟩ := List.mem_filterMap.mp marked
      exact ⟨event, member, (Option.ite_none_right_eq_some.mp mark).1⟩
  rw [marked, marked, replay.getLast?_filterMap]

/-- **Sent at least once and handled at least once.** -/
def Relayed (log handled : List ε) : Prop := ∃ topic, Replay log topic ∧ Replay topic handled

theorem Relayed.getLast?_filterMap (relayed : Relayed log handled) (value : ε → Option α) :
    (handled.filterMap value).getLast? = (log.filterMap value).getLast? := by
  obtain ⟨topic, sent, taken⟩ := relayed
  rw [taken.getLast?_filterMap, sent.getLast?_filterMap]

theorem Relayed.exists_iff (relayed : Relayed log handled) (p : ε → Prop) :
    (∃ event ∈ handled, p event) ↔ ∃ event ∈ log, p event := by
  obtain ⟨topic, sent, taken⟩ := relayed
  rw [taken.exists_iff, sent.exists_iff]

/-- Handled twice, from the start. -/
theorem relayed_twice (log : List ε) : Relayed log (log ++ log) := by
  refine ⟨log, replay_self log, [⟨0, log.length⟩, ⟨0, log.length⟩], ?_, ?_⟩
  · exact ⟨le_refl 0, Nat.zero_le _, le_refl _, Nat.zero_le _, Nat.zero_le _, le_refl _, rfl⟩
  · simp [Segment.of]

/-- It is empty only where nothing was to be sent. -/
theorem Relayed.ne_nil_iff (relayed : Relayed log handled) : handled ≠ [] ↔ log ≠ [] := by
  have some_event := relayed.exists_iff fun _ => True
  simp only [and_true] at some_event
  rw [← List.length_pos_iff, ← List.length_pos_iff, List.length_pos_iff_exists_mem,
    List.length_pos_iff_exists_mem, some_event]

section Relayed

variable [DecidableEq κ] {ι : Type} {upsert : Upsert κ ρ ι key} {column : ρ → α} {default : α}
  {value : ε → Option α} {pick : ι → Option ε} {target : ε → Option κ} {labels : List ι} {k : κ}

/-- The events that are about a row, among some labels that bring events. -/
def brought (pick : ι → Option ε) (target : ε → Option κ) (k : κ) (labels : List ι) : List ε :=
  (labels.filterMap pick).filter fun event => target event = some k

theorem brought_append (first second : List ι) : brought pick target k (first ++ second) =
    brought pick target k first ++ brought pick target k second := by
  simp [brought]

theorem mem_brought {event : ε} : event ∈ brought pick target k labels ↔
    (∃ label ∈ labels, pick label = some event) ∧ target event = some k := by
  rw [brought, List.mem_filter, List.mem_filterMap, decide_eq_true_iff]

theorem brought_ne_nil : brought pick target k labels ≠ [] ↔
    ∃ label ∈ labels, ∃ event, pick label = some event ∧ target event = some k := by
  rw [← List.length_pos_iff, List.length_pos_iff_exists_mem]
  simp only [mem_brought]
  constructor
  · rintro ⟨event, ⟨label, member, picked⟩, own⟩
    exact ⟨label, member, event, picked, own⟩
  · rintro ⟨label, member, event, picked, own⟩
    exact ⟨event, ⟨label, member, picked⟩, own⟩

/-- **A column whose events were relayed**, whatever other events came in between. -/
theorem Upsert.Follows.relayed
    (follows : upsert.Follows column default fun label => (pick label).bind value)
    (aims : ∀ label event, pick label = some event → upsert.target label = target event)
    (relayed : Relayed log (brought pick target k labels)) :
    ((run upsert.step .empty labels).find? k).elim default column =
      (log.filterMap value).getLast?.getD default := by
  have same : labels.filterMap (upsert.said k fun label => (pick label).bind value) =
      (brought pick target k labels).filterMap value := by
    rw [brought, List.filterMap_filter, List.filterMap_filterMap]
    refine List.filterMap_congr fun label _ => ?_
    unfold Upsert.said
    cases picked : pick label with
    | none => simp [picked]
    | some event =>
      rw [aims label event picked]
      simp [picked]
  rw [follows.column_run, same, relayed.getLast?_filterMap]
  rfl

/-- Where every event carries a value, the column shows the last event's. -/
theorem Upsert.Follows.agrees
    (follows : upsert.Follows column default fun label => (pick label).bind value)
    (aims : ∀ label event, pick label = some event → upsert.target label = target event)
    (relayed : Relayed log (brought pick target k labels)) (full : ∀ event ∈ log, (value event).isSome)
    (present : ((run upsert.step .empty labels).find? k).isSome ↔ log ≠ []) :
    ((run upsert.step .empty labels).find? k).map column = log.getLast?.bind value := by
  have ends := follows.relayed aims relayed
  cases found : (run upsert.step .empty labels).find? k with
  | none =>
    have nothing : log = [] := by
      by_contra something
      have there := present.mpr something
      rw [found] at there
      cases there
    rw [nothing]
    rfl
  | some row =>
    have something : log ≠ [] := present.mp (by rw [found]; rfl)
    rw [found, Option.elim_some] at ends
    obtain ⟨earlier, last, rfl⟩ := (List.eq_nil_or_concat' log).resolve_left something
    obtain ⟨shown, carried⟩ := Option.isSome_iff_exists.mp
      (full last (List.mem_append_right _ (List.mem_singleton_self last)))
    rw [List.filterMap_append, List.filterMap_cons_some carried, List.filterMap_nil,
      List.getLast?_concat] at ends
    rw [List.getLast?_concat, Option.bind_some, carried, Option.map_some, ends, Option.getD_some]

end Relayed

/-! ### What a source has told -/

section Told

variable [DecidableEq κ] {eventKey : ε → κ} {shown : ρ → α} {told : ε → α} {table : Table κ ρ key}

/-- **The last event about each row says what the row shows**, and there is no event about another. -/
def Told (eventKey : ε → κ) (shown : ρ → α) (told : ε → α) (table : Table κ ρ key) (log : List ε) :
    Prop :=
  ∀ k, (log.filter fun event => eventKey event = k).getLast?.map told = (table.find? k).map shown

theorem told_empty : Told eventKey shown told (Table.empty : Table κ ρ key) [] := fun _ => rfl

/-- A row is written and told. -/
theorem Told.put (holds : Told eventKey shown told table log) {row : ρ} {event : ε}
    (own : eventKey event = key row) (same : told event = shown row) :
    Told eventKey shown told (table.put row) (log ++ [event]) := by
  intro k
  rw [List.filter_append, Table.find?_put]
  by_cases here : key row = k
  · rw [if_pos here, List.filter_cons_of_pos (by simpa [own] using here), List.filter_nil,
      List.getLast?_append]
    simp [same]
  · rw [if_neg here, List.filter_cons_of_neg (by simpa [own] using here), List.filter_nil,
      List.append_nil]
    exact holds k

/-- A row is written over and shows what it showed. -/
theorem Told.keep (holds : Told eventKey shown told table log) {old row : ρ}
    (found : table.find? (key row) = some old) (same : shown row = shown old) :
    Told eventKey shown told (table.put row) log := by
  intro k
  rw [holds k, Table.find?_put]
  by_cases here : key row = k
  · rw [if_pos here, ← here, found, Option.map_some, Option.map_some, same]
  · rw [if_neg here]

/-- There is an event about a row exactly if the row is there. -/
theorem Told.ne_nil_iff (holds : Told eventKey shown told table log) (k : κ) :
    (log.filter fun event => eventKey event = k) ≠ [] ↔ (table.find? k).isSome := by
  have same := congrArg Option.isSome (holds k)
  rw [Option.isSome_map, Option.isSome_map] at same
  rw [← List.getLast?_isSome, same]

/-- **A column that follows what a source tells shows what the source shows.** -/
theorem Upsert.Follows.shows {ι π β σ : Type} {copyKey : σ → κ} {upsert : Upsert κ σ ι copyKey}
    {column : σ → β} {default : β} {value : π → Option β} {pick : ι → Option π}
    {target : π → Option κ} {payload : ε → π} {labels : List ι} {k : κ}
    (follows : upsert.Follows column default fun label => (pick label).bind value)
    (aims : ∀ label event, pick label = some event → upsert.target label = target event)
    (relayed : Relayed ((log.filter fun event => eventKey event = k).map payload)
      (brought pick target k labels))
    (holds : Told eventKey shown told table log)
    (present : ((run upsert.step .empty labels).find? k).isSome ↔ (table.find? k).isSome) (f : α → β)
    (carries : ∀ event, value (payload event) = some (f (told event))) :
    ((run upsert.step .empty labels).find? k).map column = (table.find? k).map fun row => f (shown row) := by
  have full : ∀ event ∈ (log.filter fun event => eventKey event = k).map payload,
      (value event).isSome := by
    intro event member
    obtain ⟨said, _, rfl⟩ := List.mem_map.mp member
    rw [carries]
    rfl
  have there : ((run upsert.step .empty labels).find? k).isSome ↔
      (log.filter fun event => eventKey event = k).map payload ≠ [] := by
    rw [present, ne_eq, List.map_eq_nil_iff, ← ne_eq, holds.ne_nil_iff]
  have last := congrArg (Option.map f) (holds k)
  rw [Option.map_map, Option.map_map] at last
  rw [follows.agrees aims relayed full there, List.getLast?_map,
    show ((table.find? k).map fun row => f (shown row)) = (table.find? k).map (f ∘ shown) from rfl, ← last]
  cases (log.filter fun event => eventKey event = k).getLast? with
  | none => rfl
  | some event => exact carries event

end Told

/-! ### Tables that answer alike -/

/-- Two columns that agree, as one. -/
theorem map_pair {σ β γ : Type} {copied : Option σ} {stored : Option ρ} {column : σ → β} {shown : ρ → β}
    {column' : σ → γ} {shown' : ρ → γ} (first : copied.map column = stored.map shown)
    (second : copied.map column' = stored.map shown') :
    (copied.map fun row => (column row, column' row)) =
      stored.map fun row => (shown row, shown' row) := by
  cases copied with
  | none =>
    cases stored with
    | none => rfl
    | some row => cases first
  | some copy =>
    cases stored with
    | none => cases first
    | some row =>
      simp only [Option.map_some, Option.some_inj] at first second
      simp only [Option.map_some, first, second]

section Alike

variable [DecidableEq κ] {σ : Type} {copyKey : σ → κ}

/-- The rows, by their keys. -/
theorem Table.map_rows (table : Table κ ρ key) (f : ρ → α) :
    table.rows.map f = (table.rows.map key).filterMap fun k => (table.find? k).map f := by
  rw [List.filterMap_map, ← List.filterMap_eq_map]
  refine List.filterMap_congr fun row member => ?_
  have found : table.find? (key row) = some row := Table.find?_eq_some.mpr ⟨member, rfl⟩
  show some (f row) = (table.find? (key row)).map f
  rw [found]
  rfl

theorem Table.mem_keys {table : Table κ ρ key} {k : κ} :
    k ∈ table.rows.map key ↔ (table.find? k).isSome := by
  rw [List.mem_map, Option.isSome_iff_exists]
  simp only [Table.find?_eq_some]

/-- **Tables that answer alike** have the same rows. -/
theorem Table.perm_map_of_find? {source : Table κ ρ key} {copy : Table κ σ copyKey} {f : ρ → α} {g : σ → α}
    (same : ∀ k, (copy.find? k).map g = (source.find? k).map f) :
    (copy.rows.map g).Perm (source.rows.map f) := by
  have keys : (copy.rows.map copyKey).Perm (source.rows.map key) := by
    refine (List.perm_ext_iff_of_nodup copy.unique source.unique).mpr fun k => ?_
    rw [Table.mem_keys, Table.mem_keys, ← Option.isSome_map (f := g), same k, Option.isSome_map]
  rw [copy.map_rows, source.map_rows]
  refine (keys.filterMap _).trans (List.Perm.of_eq ?_)
  exact List.filterMap_congr fun k _ => same k

end Alike

end FoodDelivery.Lib
