/-
**Reserving the last portion.**

A validate-order request is a transaction under READ COMMITTED. It reads the venue and the items and
judges the body on them; it flushes one `UPDATE` an item, each of which waits for the row lock and
sets the stock to the number computed from the read; and it commits. The reads take no lock, so two
requests can both be judged on the same stock.

`noOverselling_always_iff`: a run of concurrent requests keeps every tracked item's stock equal to
what it was less what has been sold, and never sells more than there was, if and only if each request
that commits finds the stock of its items as it read them, and the lines of one item covered by that
stock together.
-/

import FoodDelivery.Lib.Runs
import FoodDelivery.Lib.Totals
import FoodDelivery.Restaurants.Internal
import Mathlib.Data.Option.Basic
import Mathlib.Tactic.Push

set_option autoImplicit false

namespace FoodDelivery.Restaurants

open FoodDelivery.Lib

/-! ### The transactions -/

/-- Where a request stands. `read` is the items as it read them and `locking` the rows it has still to
update. -/
inductive Phase where
  | waiting
  | writing (read : Items) (lines : List StockLine) (locking : List Nat)
  | reserved (lines : List StockLine)
  | answered

/-- One request, with its clock. -/
structure Reservation where
  restaurantId : Nat
  body : ValidateOrderRequest
  clock : LocalTime
  phase : Phase := .waiting

/-- The database and the requests on it. -/
structure Race where
  db : State
  requests : List Reservation

/-- The lines a request has to reserve, when its body is valid and passes the checks. -/
def Reservation.judged (runtime : Runtime) (db : State) (request : Reservation) :
    Option (List StockLine) :=
  if request.body.items.all OrderLine.valid = false ∨ request.body.reserve = false then none
  else
    match db.restaurants.find? request.restaurantId with
    | none => none
    | some restaurant =>
      match judge runtime restaurant (openingHoursFor db request.restaurantId)
          (itemOf db.items request.restaurantId) request.body request.clock with
      | .error _ => none
      | .ok validated => some (validated.map ValidatedLine.stock)

/-- The rows `_move` writes: those of the lines whose item is tracked. -/
def rowsToWrite (read : Items) (lines : List StockLine) : List Nat :=
  (read.rows.map MenuItem.id).filter fun id =>
    id ∈ lines.map StockLine.menuItemId ∧ (stockOf read id).isSome

/-- A request holds the locks of the rows it has updated and not committed. -/
def Reservation.holds (request : Reservation) (id : Nat) : Bool :=
  match request.phase with
  | .writing read lines locking => id ∈ rowsToWrite read lines ∧ id ∉ locking
  | _ => false

/-- The `UPDATE`s of a request on one row: the stock is set to what was computed from the read. -/
def overwriteStock (read : Items) (lines : List StockLine) (item : MenuItem) : MenuItem :=
  if item.id ∈ lines.map StockLine.menuItemId then
    match stockOf read item.id with
    | none => item
    | some stock =>
      { item with stockQuantity := some (movedStock (-1) (wanted lines item.id) stock) }
  else item

theorem overwriteStock_id (read : Items) (lines : List StockLine) (item : MenuItem) :
    (overwriteStock read lines item).id = item.id := by
  unfold overwriteStock
  split
  · split <;> rfl
  · rfl

def Race.setPhase (r : Race) (i : Nat) (request : Reservation) (phase : Phase) :
    List Reservation :=
  r.requests.set i { request with phase := phase }

/-- The commit of a request, which makes its `UPDATE`s visible. -/
def Race.commit (r : Race) (i : Nat) (request : Reservation) (read : Items)
    (lines : List StockLine) : Race where
  db := { r.db with
    items := r.db.items.modify (overwriteStock read lines) (overwriteStock_id read lines) }
  requests := r.setPhase i request (.reserved lines)

/-- The next step of request `i`; one that has to wait for a row lock stays where it is. -/
def Race.step (runtime : Runtime) (r : Race) (i : Nat) : Race :=
  match r.requests[i]? with
  | none => r
  | some request =>
    match request.phase with
    | .waiting =>
      match request.judged runtime r.db with
      | none => { r with requests := r.setPhase i request .answered }
      | some lines =>
        { r with
          requests := r.setPhase i request
            (.writing r.db.items lines (rowsToWrite r.db.items lines)) }
    | .writing read lines (id :: locking) =>
      if r.requests.any fun other => other.holds id then r
      else { r with requests := r.setPhase i request (.writing read lines locking) }
    | .writing read lines [] => r.commit i request read lines
    | .reserved _ => r
    | .answered => r

/-- A database and requests that have not begun. -/
def Race.start (db : State) (requests : List (Nat × ValidateOrderRequest × LocalTime)) : Race where
  db := db
  requests := requests.map fun request =>
    { restaurantId := request.1, body := request.2.1, clock := request.2.2 }

/-! ### What has to hold -/

/-- What a request took of an item, once it answered ok. -/
def Reservation.sold (id : Nat) (request : Reservation) : Nat :=
  match request.phase with
  | .reserved lines => wanted lines id
  | _ => 0

/-- What the requests that answered ok took of an item. -/
def Race.sold (r : Race) (id : Nat) : Nat := (r.requests.map (Reservation.sold id)).sum

/-- **No overselling**, for items whose stock was `stock` at the start: no more is sold than there
was, and what is left is the rest. -/
def NoOverselling (start : Items) (r : Race) : Prop :=
  ∀ id stock, stockOf start id = some stock →
    r.sold id ≤ stock ∧ stockOf r.db.items id = some (stock - r.sold id)

/-- A request that commits finds the stock of its tracked items as it read them, and enough of it for
its lines together. -/
def FreshCommit (r : Race) (i : Nat) : Prop :=
  ∀ request read lines, r.requests[i]? = some request → request.phase = .writing read lines [] →
    ∀ id ∈ lines.map StockLine.menuItemId, ∀ stock, stockOf read id = some stock →
      stockOf r.db.items id = some stock ∧ wanted lines id ≤ stock

/-! ### What one step can do -/

/-- The outcomes of a step of request `i`. -/
inductive Race.Moves (r : Race) (i : Nat) : Race → Prop
  | idle : r.Moves i r
  | refused (request : Reservation) (found : r.requests[i]? = some request)
      (waiting : request.phase = .waiting) :
    r.Moves i { r with requests := r.setPhase i request .answered }
  | judged (request : Reservation) (lines : List StockLine) (locking : List Nat)
      (found : r.requests[i]? = some request) (waiting : request.phase = .waiting) :
    r.Moves i { r with requests := r.setPhase i request (.writing r.db.items lines locking) }
  | locked (request : Reservation) (read : Items) (lines : List StockLine) (id : Nat)
      (locking : List Nat) (found : r.requests[i]? = some request)
      (writing : request.phase = .writing read lines (id :: locking)) :
    r.Moves i { r with requests := r.setPhase i request (.writing read lines locking) }
  | committed (request : Reservation) (read : Items) (lines : List StockLine)
      (found : r.requests[i]? = some request) (writing : request.phase = .writing read lines []) :
    r.Moves i (r.commit i request read lines)

theorem Race.moves (runtime : Runtime) (r : Race) (i : Nat) : r.Moves i (r.step runtime i) := by
  unfold Race.step
  split
  · exact .idle
  · rename_i request found
    split
    · rename_i waiting
      split
      · exact .refused request found waiting
      · exact .judged request _ _ found waiting
    · rename_i read lines id locking writing
      split
      · exact .idle
      · exact .locked request read lines id locking found writing
    · rename_i read lines writing
      exact .committed request read lines found writing
    · exact .idle
    · exact .idle

/-! ### The stock after a commit -/

/-- **What a commit leaves of an item.** -/
theorem stockOf_commit (r : Race) (i : Nat) (request : Reservation) (read : Items)
    (lines : List StockLine) (id : Nat) :
    stockOf (r.commit i request read lines).db.items id =
      if id ∈ lines.map StockLine.menuItemId ∧ (stockOf read id).isSome ∧
          (r.db.items.find? id).isSome then
        (stockOf read id).map fun stock => stock - wanted lines id
      else stockOf r.db.items id := by
  unfold stockOf Race.commit
  rw [Table.find?_modify]
  cases found : r.db.items.find? id with
  | none => simp
  | some item =>
    have own : item.id = id := Table.key_of_find? found
    simp only [Option.map_some, Option.bind_some, Option.isSome_some, and_true]
    unfold overwriteStock
    rw [own]
    by_cases named : id ∈ lines.map StockLine.menuItemId
    · rw [if_pos named]
      unfold stockOf
      cases (read.find? id).bind MenuItem.stockQuantity with
      | none => simp
      | some stock =>
        simp only [named, Option.isSome_some, and_self, if_true, Option.map_some]
        congr 1
        unfold movedStock
        omega
    · rw [if_neg named, if_neg fun both => named both.1]

/-- A request that nothing came between reserves as `validateOrder` does. -/
theorem overwriteStock_self (s : State) (lines : List StockLine) :
    s.items.modify (overwriteStock s.items lines) (overwriteStock_id s.items lines) =
      (applyOrder s lines).items := by
  unfold applyOrder move Table.modify
  congr 1
  refine List.map_congr_left fun item member => ?_
  have found : s.items.find? item.id = some item := Table.find?_eq_some.mpr ⟨member, rfl⟩
  unfold overwriteStock moveItem stockOf
  rw [found, Option.bind_some]
  by_cases named : item.id ∈ lines.map StockLine.menuItemId
  · rw [if_pos named, if_pos named]
    cases stock : item.stockQuantity with
    | none => cases item; simp_all
    | some quantity => rfl
  · rw [if_neg named, if_neg named]

/-! ### Stock that has fallen -/

/-- The later stock of an item is at most the earlier, and it is tracked exactly when it was. -/
def Fell (later earlier : Option Nat) : Prop := Option.Rel (· ≤ ·) later earlier

theorem Fell.refl : ∀ stock : Option Nat, Fell stock stock
  | .none => .none
  | .some stock => .some (Nat.le_refl stock)

theorem Fell.trans {last middle first : Option Nat} (second : Fell last middle)
    (earlier : Fell middle first) : Fell last first := by
  cases second with
  | none => exact earlier
  | some less =>
    cases earlier with
    | some still => exact .some (Nat.le_trans less still)

theorem Fell.of_some {stock : Nat} {earlier : Option Nat} (fell : Fell (some stock) earlier) :
    ∃ before, earlier = some before ∧ stock ≤ before := by
  cases fell with
  | some less => exact ⟨_, rfl, less⟩

theorem Fell.to_some {later : Option Nat} {stock : Nat} (fell : Fell later (some stock)) :
    ∃ after, later = some after ∧ after ≤ stock := by
  cases fell with
  | some less => exact ⟨_, rfl, less⟩

theorem Fell.to_none {later : Option Nat} (fell : Fell later none) : later = none := by
  cases fell
  rfl

/-! ### The invariant -/

/-- The property, with what it rests on: nothing becomes tracked, and no stock has risen since a
request read it. -/
structure Sound (start : Items) (r : Race) : Prop where
  conserved : NoOverselling start r
  untracked : ∀ id, stockOf start id = none → stockOf r.db.items id = none
  fallen : ∀ request ∈ r.requests, ∀ read lines locking,
    request.phase = .writing read lines locking →
    ∀ id, Fell (stockOf r.db.items id) (stockOf read id)

variable {start : Items} {r : Race} {i : Nat} {request : Reservation}

/-- What has been sold, when a request moves on. -/
theorem sold_setPhase (found : r.requests[i]? = some request) (phase : Phase) (id : Nat) :
    ((r.setPhase i request phase).map (Reservation.sold id)).sum + request.sold id =
      r.sold id + Reservation.sold id { request with phase := phase } :=
  sum_map_set (Reservation.sold id) found _

/-- A step that neither starts from a reservation nor makes one sells nothing. -/
theorem Sound.advance (sound : Sound start r) (found : r.requests[i]? = some request)
    {phase : Phase} (before : ∀ id, request.sold id = 0)
    (after : ∀ id, Reservation.sold id { request with phase := phase } = 0)
    (fallen : ∀ read lines locking, phase = .writing read lines locking →
      ∀ id, Fell (stockOf r.db.items id) (stockOf read id)) :
    Sound start { r with requests := r.setPhase i request phase } where
  conserved := by
    intro id stock tracked
    have sold := sold_setPhase found phase id
    rw [before, after, Nat.add_zero, Nat.add_zero] at sold
    unfold Race.sold
    rw [sold]
    exact sound.conserved id stock tracked
  untracked := sound.untracked
  fallen := by
    intro other member read lines locking writing
    rcases List.mem_or_eq_of_mem_set member with old | rfl
    · exact sound.fallen other old read lines locking writing
    · exact fallen read lines locking writing

theorem sold_of_waiting (waiting : request.phase = .waiting) (id : Nat) : request.sold id = 0 := by
  rw [Reservation.sold, waiting]

theorem sold_of_writing {read : Items} {lines : List StockLine} {locking : List Nat}
    (writing : request.phase = .writing read lines locking) (id : Nat) : request.sold id = 0 := by
  rw [Reservation.sold, writing]

theorem sold_commit {read : Items} {lines : List StockLine} (found : r.requests[i]? = some request)
    (writing : request.phase = .writing read lines []) (id : Nat) :
    (r.commit i request read lines).sold id = r.sold id + wanted lines id := by
  have sold := sold_setPhase found (.reserved lines) id
  rw [sold_of_writing writing, Nat.add_zero] at sold
  exact sold

/-- A fresh commit lowers stock and never raises it. -/
theorem stock_falls {read : Items} {lines : List StockLine} (found : r.requests[i]? = some request)
    (writing : request.phase = .writing read lines []) (fresh : FreshCommit r i) (id : Nat) :
    Fell (stockOf (r.commit i request read lines).db.items id) (stockOf r.db.items id) := by
  rw [stockOf_commit]
  split
  · rename_i written
    obtain ⟨named, read_some, _⟩ := written
    obtain ⟨stock, tracked⟩ := Option.isSome_iff_exists.mp read_some
    obtain ⟨current, _⟩ := fresh request read lines found writing id named stock tracked
    rw [current, tracked]
    exact .some (Nat.sub_le _ _)
  · exact .refl _

/-- **A fresh commit keeps the books.** -/
theorem sound_commit {read : Items} {lines : List StockLine} (sound : Sound start r)
    (found : r.requests[i]? = some request) (writing : request.phase = .writing read lines [])
    (fresh : FreshCommit r i) :
    Sound start (r.commit i request read lines) := by
  have falls := stock_falls found writing fresh
  have ahead := sound.fallen request (List.mem_of_getElem? found) read lines [] writing
  refine ⟨?_, ?_, ?_⟩
  · intro id stock tracked
    obtain ⟨enough, left⟩ := sound.conserved id stock tracked
    rw [sold_commit found writing, stockOf_commit]
    by_cases named : id ∈ lines.map StockLine.menuItemId
    · obtain ⟨amount, seen, _⟩ := Fell.of_some (left ▸ ahead id)
      obtain ⟨current, covered⟩ := fresh request read lines found writing id named amount seen
      rw [left, Option.some_inj] at current
      have present : (r.db.items.find? id).isSome := by
        unfold stockOf at left
        obtain ⟨item, row, _⟩ := Option.bind_eq_some_iff.mp left
        rw [row]
        rfl
      rw [if_pos ⟨named, by rw [seen]; rfl, present⟩, seen, Option.map_some]
      exact ⟨by omega, by congr 1; omega⟩
    · rw [wanted_eq_zero named, if_neg fun all => named all.1, Nat.add_zero]
      exact ⟨enough, left⟩
  · intro id untracked
    exact Fell.to_none (sound.untracked id untracked ▸ falls id)
  · intro other member seen others locking phase id
    rcases List.mem_or_eq_of_mem_set member with old | rfl
    · exact (falls id).trans (sound.fallen other old seen others locking phase id)
    · cases phase

theorem sound_step (runtime : Runtime) (r : Race) (i : Nat) (sound : Sound start r)
    (fresh : FreshCommit r i) : Sound start (r.step runtime i) := by
  have moves := r.moves runtime i
  revert moves
  generalize r.step runtime i = next
  intro moves
  cases moves with
  | idle => exact sound
  | refused request found waiting =>
    exact sound.advance found (sold_of_waiting waiting) (fun _ => rfl) fun _ _ _ same => by cases same
  | judged request lines locking found waiting =>
    refine sound.advance found (sold_of_waiting waiting) (fun _ => rfl) ?_
    intro read _ _ same id
    cases same
    exact .refl _
  | locked request read lines id locking found writing =>
    refine sound.advance found (sold_of_writing writing) (fun _ => rfl) ?_
    intro _ _ _ same
    cases same
    exact sound.fallen request (List.mem_of_getElem? found) read lines _ writing
  | committed request read lines found writing => exact sound_commit sound found writing fresh

/-! ### What a stale commit does -/

theorem step_committed (runtime : Runtime) {read : Items} {lines : List StockLine}
    (found : r.requests[i]? = some request) (writing : request.phase = .writing read lines []) :
    r.step runtime i = r.commit i request read lines := by
  unfold Race.step
  simp only [found, writing]

/-- **A stale commit breaks the books at once.** -/
theorem not_noOverselling_of_stale (runtime : Runtime) (sound : Sound start r)
    (stale : ¬ FreshCommit r i) : ¬ NoOverselling start (r.step runtime i) := by
  unfold FreshCommit at stale
  push Not at stale
  obtain ⟨request, read, lines, found, writing, id, named, amount, seen, missed⟩ := stale
  have ahead := sound.fallen request (List.mem_of_getElem? found) read lines [] writing id
  obtain ⟨current, left, fell⟩ := Fell.to_some (seen ▸ ahead)
  obtain ⟨stock, tracked⟩ : ∃ stock, stockOf start id = some stock := by
    cases eq : stockOf start id with
    | none =>
      rw [sound.untracked id eq] at left
      cases left
    | some stock => exact ⟨stock, rfl⟩
  obtain ⟨enough, rest⟩ := sound.conserved id stock tracked
  rw [left, Option.some_inj] at rest
  rw [step_committed runtime found writing]
  intro after
  obtain ⟨enough', left'⟩ := after id stock tracked
  rw [sold_commit found writing] at enough' left'
  have present : (r.db.items.find? id).isSome := by
    unfold stockOf at left
    obtain ⟨item, row, _⟩ := Option.bind_eq_some_iff.mp left
    rw [row]
    rfl
  rw [stockOf_commit, if_pos ⟨named, by rw [seen]; rfl, present⟩, seen, Option.map_some,
    Option.some_inj] at left'
  have same : current = amount := by omega
  refine absurd (missed ?_) ?_
  · rw [left, same]
  · omega

/-! ### The result -/

theorem sound_start (db : State) (requests : List (Nat × ValidateOrderRequest × LocalTime)) :
    Sound db.items (Race.start db requests) := by
  have waiting : ∀ request ∈ (Race.start db requests).requests, request.phase = .waiting := by
    intro request member
    obtain ⟨_, _, rfl⟩ := List.mem_map.mp member
    rfl
  refine ⟨?_, fun _ untracked => untracked, ?_⟩
  · intro id stock tracked
    have nothing : (Race.start db requests).sold id = 0 := by
      refine List.sum_eq_zero fun amount member => ?_
      obtain ⟨request, present, rfl⟩ := List.mem_map.mp member
      exact sold_of_waiting (waiting request present) id
    rw [nothing]
    exact ⟨Nat.zero_le _, tracked⟩
  · intro request member read lines locking writing
    rw [waiting request member] at writing
    cases writing

/-- **When concurrent checkouts do not oversell.** A run of validate-order requests, from any database
and in any interleaving, keeps to the stock there was exactly when every request that commits finds
its items as it read them and covers its lines together. -/
theorem noOverselling_always_iff (runtime : Runtime) (db : State)
    (requests : List (Nat × ValidateOrderRequest × LocalTime)) (labels : List Nat) :
    Always (Race.step runtime) (NoOverselling db.items) (Race.start db requests) labels ↔
      Throughout (Race.step runtime) FreshCommit (Race.start db requests) labels :=
  always_iff_throughout (fun r i => sound_step runtime r i) (fun _ sound => sound.conserved)
    (fun _ _ sound stale => not_noOverselling_of_stale runtime sound stale)
    (sound_start db requests)

/-- A venue with one portion left. -/
def lastPortion : State where
  restaurants := (Table.empty : Table Nat Restaurant Restaurant.id).put
    { id := 1, ownerId := 9, name := "Spice", city := "Surat", isOpen := true
      approvalStatus := .approved }
  openingHours := .empty
  categories := .empty
  items := (Table.empty : Items).put
    { id := 1, restaurantId := 1, categoryId := 1, name := "Thali", price := 20000
      stockQuantity := some 1 }
  outbox := []

/-- One portion of it. -/
def onePortion : Nat × ValidateOrderRequest × LocalTime :=
  (1, { items := [⟨1, 1, 20000⟩], address := { city := "Surat" } }, mondayNoon)

/-- **The last portion is sold twice.** Both requests read the stock before either writes it. -/
theorem lastPortion_sold_twice :
    ¬ ∀ runtime db requests labels,
      NoOverselling db.items (run (Race.step runtime) (Race.start db requests) labels) := by
  intro safe
  have one := (safe ⟨fun _ _ => 0, id, fun _ => ""⟩ lastPortion [onePortion, onePortion]
    [0, 1, 0, 0, 1, 1] 1 1 (by decide)).1
  have two : (run (Race.step ⟨fun _ _ => 0, id, fun _ => ""⟩)
      (Race.start lastPortion [onePortion, onePortion]) [0, 1, 0, 0, 1, 1]).sold 1 = 2 := by decide
  omega

end FoodDelivery.Restaurants
