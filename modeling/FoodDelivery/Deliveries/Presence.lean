/-
**Who is online, and where** (`services/delivery/app/location.py`).

Redis keeps the set of drivers who take work and the index of their last positions. Going offline leaves
the one and then the other, and a position enters the other and then the one; the calls of one driver and
of all the others come in any order, and a call that dies stops between its two commands.

* `located_online`: in every run, a driver whose position is known is online, or a call of theirs stands
  between its commands; so who is offered an order for being nearest is online or has such a call
  (`offered_online`);
* `presence_serial`: while the calls of a driver do not overlap, what is known of a driver with no call
  under way is what those calls say one after the other. A position is then never known of anybody who is
  offline.
-/

import FoodDelivery.Deliveries.Selection
import FoodDelivery.Lib.Scripts

set_option autoImplicit false

namespace FoodDelivery.Deliveries

open FoodDelivery.Lib

/-! ### The keys and their commands -/

/-- `providers.Coordinate`. -/
structure Point where
  latitude : Coordinate
  longitude : Coordinate
deriving DecidableEq

/-- An entry of the index. -/
structure Position where
  driverId : Nat
  point : Point
deriving DecidableEq

/-- `drivers:online` and `drivers:geo`. -/
structure Presence where
  online : List Nat := []
  geo : Table Nat Position Position.driverId := .empty

/-- A command of one driver's call. -/
inductive PresenceCommand where
  | sadd
  | srem
  | zrem
  | geoadd (point : Point)
deriving DecidableEq

inductive PresenceRequest where
  | setOnline (online : Bool)
  | updateLocation (latitude longitude : Coordinate)
deriving DecidableEq

/-- What `set_online` and `update_location` send. `geohash` is the point that Redis keeps of a position,
if it takes it: near the poles it raises, and nothing is sent after that. -/
def PresenceRequest.commands (geohash : Point → Option Point) :
    PresenceRequest → List PresenceCommand
  | .setOnline true => [.sadd]
  | .setOnline false => [.srem, .zrem]
  | .updateLocation latitude longitude =>
    match geohash { latitude := latitude, longitude := longitude } with
    | none => []
    | some kept => [.geoadd kept, .sadd]

def Presence.apply (p : Presence) (driverId : Nat) : PresenceCommand → Presence
  | .sadd => { p with online := p.online.insert driverId }
  | .srem => { p with online := p.online.filter fun id => id ≠ driverId }
  | .zrem => { p with geo := p.geo.filter fun position => position.driverId ≠ driverId }
  | .geoadd point => { p with geo := p.geo.put { driverId := driverId, point := point } }

/-- `is_online`. -/
def Presence.isOnline (p : Presence) (driverId : Nat) : Bool := driverId ∈ p.online

/-- `get_location`. -/
def Presence.getLocation (p : Presence) (driverId : Nat) : Option Point :=
  (p.geo.find? driverId).map Position.point

/-- The calls of `location.py`, one command at a time. -/
def presence (geohash : Point → Option Point) :
    Site Presence Nat PresenceRequest PresenceCommand where
  commands := PresenceRequest.commands geohash
  apply := Presence.apply

/-! ### What is known of a driver -/

/-- Whether they are online, and their position. -/
def Presence.seen (p : Presence) (driverId : Nat) : Bool × Option Point :=
  (p.isOnline driverId, p.getLocation driverId)

def PresenceCommand.effect (seen : Bool × Option Point) : PresenceCommand → Bool × Option Point
  | .sadd => (true, seen.2)
  | .srem => (false, seen.2)
  | .zrem => (seen.1, none)
  | .geoadd point => (seen.1, some point)

/-- **A command changes what is known of its own driver only.** -/
theorem presence_shows (geohash : Point → Option Point) :
    (presence geohash).Shows Presence.seen PresenceCommand.effect := by
  intro p driverId command other
  show (p.apply driverId command).seen other = _
  by_cases own : other = driverId
  · subst own
    rw [if_pos rfl]
    cases command with
    | sadd => simp [Presence.apply, Presence.seen, Presence.isOnline, Presence.getLocation,
        PresenceCommand.effect]
    | srem => simp [Presence.apply, Presence.seen, Presence.isOnline, Presence.getLocation,
        PresenceCommand.effect]
    | zrem =>
      have gone : (p.apply other .zrem).getLocation other = none := by
        simp only [Presence.getLocation, Presence.apply, Table.find?_filter, Option.map_eq_none_iff,
          Option.filter_eq_none_iff]
        intro position found
        simpa using Table.key_of_find? found
      exact Prod.ext rfl gone
    | geoadd point =>
      have kept : (p.apply other (.geoadd point)).getLocation other = some point :=
        congrArg (Option.map Position.point) (Table.find?_put_self p.geo ⟨other, point⟩)
      exact Prod.ext rfl kept
  · rw [if_neg own]
    cases command with
    | sadd => simp [Presence.apply, Presence.seen, Presence.isOnline, Presence.getLocation, own]
    | srem => simp [Presence.apply, Presence.seen, Presence.isOnline, Presence.getLocation, own]
    | zrem =>
      have kept : (p.apply driverId .zrem).getLocation other = p.getLocation other := by
        simp only [Presence.getLocation, Presence.apply, Table.find?_filter]
        cases found : p.geo.find? other with
        | none => rfl
        | some position =>
          rw [Option.filter_some_pos (by simpa [Table.key_of_find? found] using own)]
      exact Prod.ext rfl kept
    | geoadd point =>
      have kept : (p.apply driverId (.geoadd point)).getLocation other = p.getLocation other :=
        congrArg (Option.map Position.point) (Table.find?_put_other p.geo (Ne.symm own))
      exact Prod.ext rfl kept

/-! ### A known position -/

/-- A driver whose position is known is online, or a call of theirs stands between its commands. -/
def LocatedOnline (geohash : Point → Option Point) (s : Scripts Presence Nat PresenceRequest) : Prop :=
  ∀ driverId point, s.store.getLocation driverId = some point →
    s.store.isOnline driverId = true ∨
      ∃ call ∈ s.calls, call.owner = driverId ∧ (presence geohash).Between call

/-- The next command of a call puts its driver online, takes the position out, or is the first of two. -/
theorem next_command {geohash : Point → Option Point} {call : Script Nat PresenceRequest}
    {command : PresenceCommand}
    (next : (call.request.commands geohash)[call.sent]? = some command) :
    command = .sadd ∨ command = .zrem ∨
      (presence geohash).Between { call with sent := call.sent + 1 } := by
  obtain ⟨driverId, request, sent⟩ := call
  cases request with
  | setOnline online =>
    cases online with
    | true =>
      rcases sent with _ | sent
      · exact Or.inl (Option.some.inj next).symm
      · cases next
    | false =>
      rcases sent with _ | _ | sent
      · exact Or.inr (Or.inr ⟨Nat.one_pos, Nat.lt_succ_self 1⟩)
      · exact Or.inr (Or.inl (Option.some.inj next).symm)
      · cases next
  | updateLocation latitude longitude =>
    simp only [PresenceRequest.commands] at next
    unfold Site.Between presence
    simp only [PresenceRequest.commands]
    split at next
    · cases next
    · rcases sent with _ | _ | sent
      · exact Or.inr (Or.inr ⟨Nat.one_pos, Nat.lt_succ_self 1⟩)
      · exact Or.inl (Option.some.inj next).symm
      · cases next

theorem locatedOnline_step {geohash : Point → Option Point}
    {s : Scripts Presence Nat PresenceRequest} (before : LocatedOnline geohash s)
    (turn : Turn Nat PresenceRequest) : LocatedOnline geohash ((presence geohash).step s turn) := by
  rcases (presence geohash).step_cases s turn with same | ⟨owner, request, -, begun⟩ |
      ⟨i, call, command, found, next, sent⟩
  · rw [same]
    exact before
  · rw [begun]
    intro driverId point located
    refine (before driverId point located).imp_right fun ⟨call, member, own, between⟩ => ?_
    exact ⟨call, List.mem_append_left _ member, own, between⟩
  · obtain ⟨earlier, later, split, set⟩ := split_of_found found
    rw [sent, set]
    intro driverId point located
    have seen := presence_shows geohash s.store call.owner command driverId
    have isOnline := congrArg Prod.fst seen
    have getLocation := congrArg Prod.snd seen
    by_cases own : driverId = call.owner
    · rw [if_pos own] at isOnline getLocation
      rcases next_command next with rfl | rfl | between
      · exact Or.inl isOnline
      · exact absurd (getLocation.symm.trans located) (Option.some_ne_none point).symm
      · exact Or.inr ⟨_, List.mem_append_right _ List.mem_cons_self, own.symm, between⟩
    · -- another driver's call: nothing is known anew of this one
      rw [if_neg own] at isOnline getLocation
      rcases before driverId point (getLocation.symm.trans located) with online | held
      · exact Or.inl (isOnline.trans online)
      · obtain ⟨other, member, mine, between⟩ := held
        rw [split] at member
        refine Or.inr ⟨other, ?_, mine, between⟩
        rcases List.mem_append.mp member with listed | listed
        · exact List.mem_append_left _ listed
        · rcases List.mem_cons.mp listed with rfl | listed
          · exact absurd mine.symm own
          · exact List.mem_append_right _ (List.mem_cons_of_mem _ listed)

/-- **Whoever can be found is online**, in every run. -/
theorem located_online (geohash : Point → Option Point) (turns : List (Turn Nat PresenceRequest)) :
    Always (presence geohash).step (LocatedOnline geohash) { store := {} } turns :=
  always_of_step (fun _ turn before => locatedOnline_step before turn)
    (fun _ _ located => by cases located)

section Offered

variable {D : Type} [LinearOrder D] [NatCast D]

/-- The index as a search sees it. -/
def Presence.geoIndex (p : Presence) (distance : Point → Point → D) : GeoIndex D where
  members := p.geo.rows.map Position.driverId
  distance longitude latitude driverId :=
    (p.getLocation driverId).elim ((0 : Nat) : D)
      (distance { latitude := latitude, longitude := longitude })

/-- Whoever the nearest-driver search picks is eligible and has a known position. -/
theorem pickNearest_located {p : Presence} {distance : Point → Point → D} {geosearch : Geosearch}
    (documented : (p.geoIndex distance).Documents geosearch) {db : State} {snapshot : OrderSnapshot}
    {latitude longitude : Coordinate} (north : snapshot.restaurantLatitude = some latitude)
    (east : snapshot.restaurantLongitude = some longitude) {exclude : Option Nat} {driver : Driver}
    (picked : pickNearest db (some snapshot) (some (nearbyDriverIds geosearch)) exclude =
      .ok (some driver)) :
    Eligible db exclude driver.id ∧ ∃ point, p.getLocation driver.id = some point := by
  obtain ⟨ids, answered, closest⟩ := documented longitude latitude 10 10
  have first : (ids.find? fun id => Eligible db exclude id).bind db.drivers.find? = some driver := by
    rw [← east] at answered
    simp only [pickNearest, north, nearestAvailable_eq answered] at picked
    exact Except.ok.inj picked
  obtain ⟨id, found, row⟩ := Option.bind_eq_some_iff.mp first
  obtain rfl : driver.id = id := Table.key_of_find? row
  obtain ⟨position, member, same⟩ := List.mem_map.mp (closest.sound _ (List.mem_of_find?_eq_some found)).1
  refine ⟨by simpa using List.find?_some found, position.point, ?_⟩
  unfold Presence.getLocation
  rw [Table.find?_eq_some.mpr ⟨member, same⟩]
  rfl

/-- **Nobody offline is offered an order for being near.** In every run of the location calls, the driver
that the search around a restaurant leads to is active, has no active delivery, and is online, unless a
call of theirs stands between its two commands. -/
theorem offered_online (geohash : Point → Option Point) (turns : List (Turn Nat PresenceRequest))
    (distance : Point → Point → D) :
    Always (presence geohash).step
      (fun s => ∀ geosearch, (s.store.geoIndex distance).Documents geosearch →
        ∀ (db : State) (snapshot : OrderSnapshot) (exclude : Option Nat) (driver : Driver),
          snapshot.restaurantLatitude.isSome → snapshot.restaurantLongitude.isSome →
          pickNearest db (some snapshot) (some (nearbyDriverIds geosearch)) exclude =
            .ok (some driver) →
          Eligible db exclude driver.id ∧
            (s.store.isOnline driver.id = true ∨
              ∃ call ∈ s.calls, call.owner = driver.id ∧ (presence geohash).Between call))
      { store := {} } turns := by
  refine (located_online geohash turns).mono fun s located => ?_
  intro geosearch documented db snapshot exclude driver north east picked
  obtain ⟨latitude, north⟩ := Option.isSome_iff_exists.mp north
  obtain ⟨longitude, east⟩ := Option.isSome_iff_exists.mp east
  obtain ⟨eligible, point, known⟩ := pickNearest_located documented north east picked
  exact ⟨eligible, located driver.id point known⟩

end Offered

/-! ### Calls that do not overlap -/

/-- A driver is offline, or online with a position once there has been one: there is no position of
anybody who is offline. -/
inductive Availability where
  | offline
  | online (position : Option Point)
deriving DecidableEq

def Availability.after (geohash : Point → Option Point) (availability : Availability) :
    PresenceRequest → Availability
  | .setOnline false => .offline
  | .setOnline true =>
    match availability with
    | .offline => .online none
    | .online position => .online position
  | .updateLocation latitude longitude =>
    match geohash { latitude := latitude, longitude := longitude } with
    | none => availability
    | some kept => .online (some kept)

def Availability.seen : Availability → Bool × Option Point
  | .offline => (false, none)
  | .online position => (true, position)

/-- A call with nothing in between does what it says. -/
theorem serially_seen (geohash : Point → Option Point) (availability : Availability)
    (request : PresenceRequest) :
    (presence geohash).serially PresenceCommand.effect availability.seen request =
      (availability.after geohash request).seen := by
  cases request with
  | setOnline online => cases online <;> cases availability <;> rfl
  | updateLocation latitude longitude =>
    unfold Site.serially presence Availability.after
    simp only [PresenceRequest.commands]
    cases geohash { latitude := latitude, longitude := longitude } <;> cases availability <;> rfl

theorem run_serially (geohash : Point → Option Point) (availability : Availability)
    (requests : List PresenceRequest) :
    run ((presence geohash).serially PresenceCommand.effect) availability.seen requests =
      (run (Availability.after geohash) availability requests).seen := by
  induction requests generalizing availability with
  | nil => rfl
  | cons request requests ih =>
    have first := serially_seen geohash availability request
    calc run ((presence geohash).serially PresenceCommand.effect) availability.seen
          (request :: requests)
        = run ((presence geohash).serially PresenceCommand.effect)
            ((presence geohash).serially PresenceCommand.effect availability.seen request)
            requests := rfl
      _ = _ := by rw [first, ih]; rfl

/-- **Two keys, one state for each driver.** In a run in which no driver's calls overlap, what the keys
say of a driver with no call under way is what their calls have asked for, one after the other. -/
theorem presence_serial (geohash : Point → Option Point) (turns : List (Turn Nat PresenceRequest))
    (serial : Throughout (presence geohash).step (presence geohash).Serial { store := {} } turns) :
    Always (presence geohash).step
      (fun s => ∀ driverId, (∀ call ∈ Site.callsOf s driverId, (presence geohash).Over call) →
        s.store.seen driverId =
          (run (Availability.after geohash) .offline
            ((Site.callsOf s driverId).map Script.request)).seen)
      { store := {} } turns := by
  refine ((presence_shows geohash).serial {} serial).mono fun s shown driverId finished => ?_
  rw [shown driverId finished]
  exact run_serially geohash .offline _

/-- Driver 4 comes online, says where they are and leaves, while driver 9 does the same. -/
def shift : List (Turn Nat PresenceRequest) :=
  [.begin 4 (.setOnline true), .begin 9 (.updateLocation 12 77), .send 1, .send 0,
    .begin 4 (.updateLocation 13 78), .send 2, .send 1, .send 2, .begin 9 (.setOnline false), .send 3,
    .begin 4 (.setOnline false), .send 4, .send 3, .send 4]

theorem presence_serial_shift :
    Always (presence some).step
      (fun s => ∀ driverId, (∀ call ∈ Site.callsOf s driverId, (presence some).Over call) →
        s.store.seen driverId =
          (run (Availability.after some) .offline
            ((Site.callsOf s driverId).map Script.request)).seen)
      { store := {} } shift :=
  presence_serial some shift (by decide)

end FoodDelivery.Deliveries
