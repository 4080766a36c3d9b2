/-
**Calls that are several commands each.**

A store executes one command at a time. A call is a fixed list of commands that it sends one after the
other, any number of calls are under way, and a call that dies stops where it is. What a store shows of an
owner is changed by the commands of that owner's calls only (`Site.Shows`).

`Shows.serial`: in a run in which an owner's calls do not overlap, what is shown of an owner with no call
under way is what their requests make of it one after the other, whatever came in between.
-/

import FoodDelivery.Lib.Runs
import FoodDelivery.Lib.Slots

set_option autoImplicit false

namespace FoodDelivery.Lib

/-- Which commands a request sends, and what the store makes of one. -/
structure Site (σ κ ι γ : Type) where
  commands : ι → List γ
  apply : σ → κ → γ → σ

/-- A call: whose it is, what it asks for, and how many of its commands it has sent. -/
structure Script (κ ι : Type) where
  owner : κ
  request : ι
  sent : Nat := 0
deriving DecidableEq, Repr

/-- The store, and the calls in the order they began. -/
structure Scripts (σ κ ι : Type) where
  store : σ
  calls : List (Script κ ι) := []

/-- A call begins, or sends its next command. -/
inductive Turn (κ ι : Type) where
  | begin (owner : κ) (request : ι)
  | send (i : Nat)

namespace Site

variable {σ κ ι γ τ : Type} (site : Site σ κ ι γ)

def step (s : Scripts σ κ ι) : Turn κ ι → Scripts σ κ ι
  | .begin owner request => { s with calls := s.calls ++ [{ owner := owner, request := request }] }
  | .send i =>
    match s.calls[i]? with
    | none => s
    | some call =>
      match (site.commands call.request)[call.sent]? with
      | none => s
      | some command =>
        { store := site.apply s.store call.owner command
          calls := s.calls.set i { call with sent := call.sent + 1 } }

/-- The call has sent all its commands. -/
def Over (call : Script κ ι) : Prop := (site.commands call.request).length ≤ call.sent

/-- The call stands between two of its commands. -/
def Between (call : Script κ ι) : Prop :=
  0 < call.sent ∧ call.sent < (site.commands call.request).length

instance (call : Script κ ι) : Decidable (site.Over call) := inferInstanceAs (Decidable (_ ≤ _))

instance (call : Script κ ι) : Decidable (site.Between call) := inferInstanceAs (Decidable (_ ∧ _))

variable {site}

/-- **What a step does**: nothing, a call more, or one command of a call. -/
theorem step_cases (s : Scripts σ κ ι) (turn : Turn κ ι) :
    site.step s turn = s ∨
      (∃ owner request, turn = .begin owner request ∧ site.step s turn =
        { s with calls := s.calls ++ [{ owner := owner, request := request }] }) ∨
      ∃ i call command, s.calls[i]? = some call ∧
        (site.commands call.request)[call.sent]? = some command ∧
        site.step s turn =
          { store := site.apply s.store call.owner command
            calls := s.calls.set i { call with sent := call.sent + 1 } } := by
  cases turn with
  | begin owner request => exact Or.inr (Or.inl ⟨owner, request, rfl, rfl⟩)
  | send i =>
    cases found : s.calls[i]? with
    | none => exact Or.inl (by simp only [step, found])
    | some call =>
      cases next : (site.commands call.request)[call.sent]? with
      | none => exact Or.inl (by simp only [step, found, next])
      | some command =>
        exact Or.inr (Or.inr ⟨i, call, command, found, next, by simp only [step, found, next]⟩)

/-! ### Calls that are over -/

/-- What a request does when nothing comes between its commands. -/
def serially (site : Site σ κ ι γ) (effect : τ → γ → τ) (shown : τ) (request : ι) : τ :=
  run effect shown (site.commands request)

/-- The traces of calls that are over. -/
theorem run_commands (effect : τ → γ → τ) (shown : τ) {calls : List (Script κ ι)}
    (finished : ∀ call ∈ calls, site.Over call) :
    run effect shown (calls.flatMap fun call => (site.commands call.request).take call.sent) =
      run (site.serially effect) shown (calls.map Script.request) := by
  induction calls generalizing shown with
  | nil => rfl
  | cons call calls ih =>
    rw [List.flatMap_cons, run_append, List.take_of_length_le (finished call List.mem_cons_self)]
    exact ih _ fun other member => finished other (List.mem_cons_of_mem _ member)

/-! ### What is shown of an owner -/

section Shows

variable [DecidableEq κ]

/-- A command of a call changes what is shown of the call's owner, by its effect, and of nobody else. -/
def Shows (site : Site σ κ ι γ) (view : σ → κ → τ) (effect : τ → γ → τ) : Prop :=
  ∀ store owner command other, view (site.apply store owner command) other =
    if other = owner then effect (view store owner) command else view store other

/-- The calls of one owner. -/
def callsOf (s : Scripts σ κ ι) (owner : κ) : List (Script κ ι) :=
  s.calls.filter fun call => call.owner = owner

/-- What they have sent. -/
def trace (site : Site σ κ ι γ) (s : Scripts σ κ ι) (owner : κ) : List γ :=
  (callsOf s owner).flatMap fun call => (site.commands call.request).take call.sent

/-- A call begins when no other of its owner is under way. -/
def Serial (site : Site σ κ ι γ) (s : Scripts σ κ ι) : Turn κ ι → Prop
  | .begin owner _ => ∀ call ∈ s.calls, call.owner = owner → site.Over call
  | .send _ => True

instance (s : Scripts σ κ ι) : ∀ turn, Decidable (site.Serial s turn)
  | .begin owner _ =>
    inferInstanceAs (Decidable (∀ call ∈ s.calls, call.owner = owner → site.Over call))
  | .send _ => .isTrue trivial

/-- Of two calls of one owner the earlier is over, and what is shown of an owner is what they have
sent. -/
structure Traced (site : Site σ κ ι γ) (view : σ → κ → τ) (effect : τ → γ → τ) (start : κ → τ)
    (s : Scripts σ κ ι) : Prop where
  ordered : s.calls.Pairwise fun earlier later => earlier.owner = later.owner → site.Over earlier
  shown : ∀ owner, view s.store owner = run effect (start owner) (site.trace s owner)

variable {view : σ → κ → τ} {effect : τ → γ → τ} {start : κ → τ} {s : Scripts σ κ ι}

/-- A command that is sent is the next on the owner's trace, when the call is their last. -/
theorem trace_send {before after : List (Script κ ι)} {call : Script κ ι} {command : γ} {store : σ}
    (split : s.calls = before ++ call :: after) (last : ∀ later ∈ after, later.owner ≠ call.owner)
    (next : (site.commands call.request)[call.sent]? = some command) (owner : κ) :
    site.trace { store := store, calls := before ++ { call with sent := call.sent + 1 } :: after }
        owner =
      if owner = call.owner then site.trace s owner ++ [command] else site.trace s owner := by
  have none_after : after.filter (fun later => later.owner = call.owner) = [] :=
    List.filter_eq_nil_iff.mpr fun later member => by simpa using last later member
  unfold trace callsOf
  rw [split]
  by_cases own : owner = call.owner
  · subst own
    simp [none_after, List.take_add_one, next]
  · have others : call.owner ≠ owner := Ne.symm own
    simp [own, others]

/-- **A step of a serial run keeps to the traces.** -/
theorem Traced.step (shows : site.Shows view effect) (traced : site.Traced view effect start s)
    {turn : Turn κ ι} (serial : site.Serial s turn) :
    site.Traced view effect start (site.step s turn) := by
  rcases @step_cases _ _ _ _ site s turn with same | ⟨owner, request, rfl, begun⟩ |
      ⟨i, call, command, found, next, sent⟩
  · rw [same]
    exact traced
  · rw [begun]
    refine ⟨List.pairwise_append.mpr ⟨traced.ordered, List.pairwise_singleton _ _, ?_⟩, fun other => ?_⟩
    · intro earlier member later new same
      rw [List.mem_singleton.mp new] at same
      exact serial earlier member same
    · rw [traced.shown other]
      congr 1
      unfold trace callsOf
      by_cases own : owner = other <;> simp [own]
  · obtain ⟨before, after, split, set⟩ := split_of_found found
    rw [sent, set]
    have running : ¬ site.Over call := by
      intro finished
      rw [List.getElem?_eq_none finished] at next
      cases next
    have ordered := traced.ordered
    rw [split] at ordered
    obtain ⟨earlier, rest, across⟩ := List.pairwise_append.mp ordered
    obtain ⟨here, later⟩ := List.pairwise_cons.mp rest
    have last : ∀ other ∈ after, other.owner ≠ call.owner := fun other member same =>
      running (here other member same.symm)
    refine ⟨List.pairwise_append.mpr ⟨earlier, List.pairwise_cons.mpr ⟨?_, later⟩, ?_⟩, fun owner => ?_⟩
    · exact fun other member same => absurd same.symm (last other member)
    · intro first member second listed same
      rcases List.mem_cons.mp listed with rfl | listed
      · exact across first member call List.mem_cons_self same
      · exact across first member second (List.mem_cons_of_mem _ listed) same
    · rw [trace_send split last next, shows]
      by_cases own : owner = call.owner
      · rw [if_pos own, if_pos own, own, traced.shown call.owner, run_append]
        rfl
      · rw [if_neg own, if_neg own, traced.shown owner]

/-- **Serial calls take effect one after the other.** -/
theorem Shows.serial (shows : site.Shows view effect) (store : σ) {turns : List (Turn κ ι)}
    (serial : Throughout site.step site.Serial { store := store } turns) :
    Always site.step (fun s => ∀ owner, (∀ call ∈ callsOf s owner, site.Over call) →
      view s.store owner =
        run (site.serially effect) (view store owner) ((callsOf s owner).map Script.request))
      { store := store } turns := by
  have traced : Always site.step (site.Traced view effect (view store)) { store := store } turns :=
    always_of_throughout (fun _ _ before held => before.step shows held)
      ⟨List.Pairwise.nil, fun _ => rfl⟩ serial
  refine traced.mono fun s held owner finished => ?_
  rw [held.shown owner]
  exact run_commands effect (view store owner) finished

end Shows

end Site

end FoodDelivery.Lib
