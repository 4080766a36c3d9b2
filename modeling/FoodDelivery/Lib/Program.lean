/-
**Programs of atomic actions.**

A handler that awaits between its database, cache and network calls is a `Program`: a tree of
atomic actions on the shared state, each followed by what the program does with what it saw. One
translation of a function gives all of its meanings:

* `exec`, the run to completion with nothing in between (`exec_bind` composes it);
* `cut n`, what is left in the shared state when the process dies after `n` of its actions
  (`cut_of_short`: a process that lives long enough leaves what `exec` leaves);
* `advance`, one action, for interleaving the program with others; what is left is `Running` until
  it has `Returned` or raised.

`Within R` says that every action of a program, from whatever state it finds, relates the state
before to the state after by `R`: it is what the program guarantees to everybody else. It composes
(`Within.bind`) and covers `exec` (`Within.exec`) and `cut` (`Within.cut`). `Keeps view` is the case
where nothing that `view` shows changes; `cut_bind_of_keeps` and `cut_andFinally_of_keeps` cut such a
rest or cleanup off.
-/

import Mathlib.Logic.Relation

namespace FoodDelivery.Lib

/-- A program over shared states `σ` that raises errors `ε` or returns a value. -/
inductive Program (σ ε α : Type) where
  | ret (value : α)
  | raise (error : ε)
  | act (update : σ → σ) (next : σ → Program σ ε α)

namespace Program

variable {σ ε α β : Type}

def bind : Program σ ε α → (α → Program σ ε β) → Program σ ε β
  | .ret value, rest => rest value
  | .raise error, _ => .raise error
  | .act update next, rest => .act update fun s => (next s).bind rest

instance : Monad (Program σ ε) where
  pure := .ret
  bind := bind

/-- Read the shared state. The value is computed from the state the action finds. -/
def read (view : σ → α) : Program σ ε α := .act id fun s => .ret (view s)

/-- Change the shared state in one action. The value is computed from the state before it. -/
def modify (view : σ → α) (update : σ → σ) : Program σ ε α := .act update fun s => .ret (view s)

/-- Run the cleanup whether the program returns or raises; what the cleanup raises goes first. -/
def andFinally : Program σ ε α → Program σ ε Unit → Program σ ε α
  | .ret value, cleanup => cleanup.bind fun _ => .ret value
  | .raise error, cleanup => cleanup.bind fun _ => .raise error
  | .act update next, cleanup => .act update fun s => (next s).andFinally cleanup

/-- Run to completion with nothing in between. -/
def exec : Program σ ε α → σ → σ × Except ε α
  | .ret value, s => (s, .ok value)
  | .raise error, s => (s, .error error)
  | .act update next, s => (next s).exec (update s)

/-- The shared state a process leaves that dies after `n` actions. -/
def cut : Nat → Program σ ε α → σ → σ
  | n + 1, .act update next, s => cut n (next s) (update s)
  | _, _, s => s

/-- One action: the shared state after it and what is left of the program. -/
def advance : Program σ ε α → σ → σ × Program σ ε α
  | .act update next, s => (update s, next s)
  | program, s => (s, program)

/-- There is an action left to take. -/
def Running : Program σ ε α → Prop
  | .act _ _ => True
  | _ => False

instance : ∀ program : Program σ ε α, Decidable program.Running
  | .act _ _ => .isTrue trivial
  | .ret _ => .isFalse id
  | .raise _ => .isFalse id

/-- It has returned: nothing is left, and nothing was raised. -/
def Returned : Program σ ε α → Prop
  | .ret _ => True
  | _ => False

instance : ∀ program : Program σ ε α, Decidable program.Returned
  | .ret _ => .isTrue trivial
  | .act _ _ => .isFalse id
  | .raise _ => .isFalse id

@[simp] theorem exec_modify (view : σ → α) (update : σ → σ) (s : σ) :
    (modify view update : Program σ ε α).exec s = (update s, .ok (view s)) := rfl

@[simp] theorem exec_pure (value : α) (s : σ) :
    (pure value : Program σ ε α).exec s = (s, .ok value) := rfl

theorem exec_bind (program : Program σ ε α) (rest : α → Program σ ε β) (s : σ) :
    (program >>= rest).exec s =
      match program.exec s with
      | (t, .ok value) => (rest value).exec t
      | (t, .error error) => (t, .error error) := by
  induction program generalizing s with
  | ret value => rfl
  | raise error => rfl
  | act update next ih => exact ih s (update s)

/-- A rest runs from where the program has returned, -/
theorem exec_bind_of_ok {program : Program σ ε α} {s : σ} {value : α}
    (returned : (program.exec s).2 = .ok value) (rest : α → Program σ ε β) :
    (program >>= rest).exec s = (rest value).exec (program.exec s).1 := by
  rw [exec_bind]
  split
  · rename_i t found ran
    rw [ran] at returned ⊢
    cases returned
    rfl
  · rename_i t error ran
    rw [ran] at returned
    cases returned

/-- and not at all when it has raised. -/
theorem exec_bind_of_error {program : Program σ ε α} {s : σ} {error : ε}
    (raised : (program.exec s).2 = .error error) (rest : α → Program σ ε β) :
    (program >>= rest).exec s = ((program.exec s).1, .error error) := by
  rw [exec_bind]
  split
  · rename_i t found ran
    rw [ran] at raised
    cases raised
  · rename_i t other ran
    rw [ran] at raised ⊢
    cases raised
    rfl

@[simp] theorem exec_read_bind (view : σ → α) (rest : α → Program σ ε β) (s : σ) :
    (read view >>= rest).exec s = (rest (view s)).exec s := rfl

@[simp] theorem exec_modify_bind (view : σ → α) (update : σ → σ) (rest : α → Program σ ε β) (s : σ) :
    (modify view update >>= rest).exec s = (rest (view s)).exec (update s) := rfl

theorem bind_assoc {γ : Type} (program : Program σ ε α) (first : α → Program σ ε β)
    (second : β → Program σ ε γ) :
    (program >>= first) >>= second = program >>= fun value => first value >>= second := by
  induction program with
  | ret value => rfl
  | raise error => rfl
  | act update next ih => exact congrArg (act update) (funext ih)

@[simp] theorem advance_read_bind (view : σ → α) (rest : α → Program σ ε β) (s : σ) :
    (read view >>= rest).advance s = (s, rest (view s)) := rfl

/-! ### How many actions -/

/-- The program takes at most `n` actions. -/
def Short : Program σ ε α → Nat → Prop
  | .ret _, _ => True
  | .raise _, _ => True
  | .act _ _, 0 => False
  | .act _ next, n + 1 => ∀ s, (next s).Short n

theorem Short.mono {program : Program σ ε α} {n m : Nat} (short : program.Short n)
    (fewer : n ≤ m) : program.Short m := by
  induction program generalizing n m with
  | ret value => trivial
  | raise error => trivial
  | act update next ih =>
    cases n with
    | zero => exact short.elim
    | succ n =>
      cases m with
      | zero => omega
      | succ m => exact fun s => ih s (short s) (by omega)

theorem Short.bind {program : Program σ ε α} {rest : α → Program σ ε β} {n m : Nat}
    (first : program.Short n) (second : ∀ value, (rest value).Short m) :
    (program >>= rest).Short (n + m) := by
  induction program generalizing n with
  | ret value => exact (second value).mono (Nat.le_add_left m n)
  | raise error => trivial
  | act update next ih =>
    cases n with
    | zero => exact first.elim
    | succ n =>
      rw [Nat.add_right_comm]
      exact fun s => ih s (first s)

theorem Short.read (view : σ → α) : (Program.read view : Program σ ε α).Short 1 :=
  fun _ => trivial

theorem Short.modify (view : σ → α) (update : σ → σ) :
    (Program.modify view update : Program σ ε α).Short 1 :=
  fun _ => trivial

/-- A process that lives for all the actions of a program has run it to completion. -/
theorem cut_of_short {program : Program σ ε α} {n : Nat} (short : program.Short n) (s : σ) :
    cut n program s = (program.exec s).1 := by
  induction program generalizing n s with
  | ret value => cases n <;> rfl
  | raise error => cases n <;> rfl
  | act update next ih =>
    cases n with
    | zero => exact short.elim
    | succ n => exact ih s (short s) (update s)

/-! ### What a program guarantees to the others -/

/-- Every action of the program relates the state it finds to the state it leaves. -/
def Within (R : σ → σ → Prop) : Program σ ε α → Prop
  | .ret _ => True
  | .raise _ => True
  | .act update next => ∀ s, R s (update s) ∧ (next s).Within R

variable {R : σ → σ → Prop}

theorem Within.bind {program : Program σ ε α} {rest : α → Program σ ε β}
    (first : program.Within R) (second : ∀ value, (rest value).Within R) :
    (program >>= rest).Within R := by
  induction program with
  | ret value => exact second value
  | raise error => trivial
  | act update next ih => exact fun s => ⟨(first s).1, ih s (first s).2⟩

theorem Within.read {view : σ → α} (reflexive : ∀ s, R s s) :
    (Program.read view : Program σ ε α).Within R :=
  fun s => ⟨reflexive s, trivial⟩

theorem Within.modify {view : σ → α} {update : σ → σ} (keeps : ∀ s, R s (update s)) :
    (Program.modify view update : Program σ ε α).Within R :=
  fun s => ⟨keeps s, trivial⟩

/-- A whole run of a program, for a reflexive and transitive guarantee. -/
theorem Within.exec {program : Program σ ε α} (within : program.Within R)
    (reflexive : ∀ s, R s s) (transitive : ∀ s t u, R s t → R t u → R s u) (s : σ) :
    R s (program.exec s).1 := by
  induction program generalizing s with
  | ret value => exact reflexive s
  | raise error => exact reflexive s
  | act update next ih => exact transitive _ _ _ (within s).1 (ih s (within s).2 (update s))

/-- A process that dies has kept to it too. -/
theorem Within.cut {program : Program σ ε α} (within : program.Within R)
    (reflexive : ∀ s, R s s) (transitive : ∀ s t u, R s t → R t u → R s u) (n : Nat) (s : σ) :
    R s (cut n program s) := by
  induction program generalizing n s with
  | ret value => cases n <;> exact reflexive s
  | raise error => cases n <;> exact reflexive s
  | act update next ih =>
    cases n with
    | zero => exact reflexive s
    | succ n => exact transitive _ _ _ (within s).1 (ih s (within s).2 n (update s))

/-! ### What a program keeps -/

/-- No action of the program changes what is seen of the state. -/
def Keeps {γ : Type} (view : σ → γ) (program : Program σ ε α) : Prop :=
  program.Within fun s t => view t = view s

variable {γ : Type} {view : σ → γ}

theorem Keeps.cut {program : Program σ ε α} (keeps : program.Keeps view) (n : Nat) (s : σ) :
    view (cut n program s) = view s :=
  Within.cut keeps (fun _ => rfl) (fun _ _ _ first second => second.trans first) n s

theorem Keeps.ret (value : α) : (Program.ret value : Program σ ε α).Keeps view := trivial

theorem Keeps.raise (error : ε) : (Program.raise error : Program σ ε α).Keeps view := trivial

theorem Keeps.bind {program : Program σ ε α} {rest : α → Program σ ε β}
    (first : program.Keeps view) (second : ∀ value, (rest value).Keeps view) :
    (program >>= rest).Keeps view :=
  Within.bind first second

theorem Keeps.exec {program : Program σ ε α} (keeps : program.Keeps view) (s : σ) :
    view (program.exec s).1 = view s :=
  Within.exec keeps (fun _ => rfl) (fun _ _ _ first second => second.trans first) s

theorem exec_bind_of_keeps {program : Program σ ε α} {rest : α → Program σ ε β}
    (keeps : ∀ value, (rest value).Keeps view) (s : σ) :
    view ((program >>= rest).exec s).1 = view (program.exec s).1 := by
  induction program generalizing s with
  | ret value => exact (keeps value).exec s
  | raise error => rfl
  | act update next ih => exact ih s (update s)

theorem exec_andFinally_of_keeps {program : Program σ ε α} {cleanup : Program σ ε Unit}
    (keeps : cleanup.Keeps view) (s : σ) :
    view ((program.andFinally cleanup).exec s).1 = view (program.exec s).1 := by
  induction program generalizing s with
  | ret value =>
    have whole : (cleanup >>= fun _ => Program.ret value).Keeps view :=
      Keeps.bind keeps fun _ => Keeps.ret value
    exact whole.exec s
  | raise error =>
    have whole : (cleanup >>= fun _ => (Program.raise error : Program σ ε α)).Keeps view :=
      Keeps.bind keeps fun _ => Keeps.raise error
    exact whole.exec s
  | act update next ih => exact ih s (update s)

/-- What has returned with a cleanup has returned before it. -/
theorem exec_of_andFinally_ok {program : Program σ ε α} {cleanup : Program σ ε Unit} {s : σ}
    {value : α} (returned : ((program.andFinally cleanup).exec s).2 = .ok value) :
    (program.exec s).2 = .ok value := by
  induction program generalizing s with
  | ret result =>
    have cleaned : ((cleanup >>= fun _ => Program.ret result).exec s).2 = .ok value := returned
    rw [exec_bind] at cleaned
    split at cleaned
    · exact cleaned
    · cases cleaned
  | raise error =>
    have cleaned : ((cleanup >>= fun _ => (Program.raise error : Program σ ε α)).exec s).2 =
        .ok value := returned
    rw [exec_bind] at cleaned
    split at cleaned
    · cases cleaned
    · cases cleaned
  | act update next ih => exact ih s returned

/-- What follows a program and keeps what is seen makes no difference to it, -/
theorem cut_bind_of_keeps {program : Program σ ε α} {rest : α → Program σ ε β}
    (keeps : ∀ value, (rest value).Keeps view) (n : Nat) (s : σ) :
    view (cut n (program >>= rest) s) = view (cut n program s) := by
  induction program generalizing n s with
  | ret value =>
    have seen := (keeps value).cut n s
    cases n <;> exact seen
  | raise error => cases n <;> rfl
  | act update next ih =>
    cases n with
    | zero => rfl
    | succ n => exact ih s n (update s)

/-- and neither does a cleanup that does. -/
theorem cut_andFinally_of_keeps {program : Program σ ε α} {cleanup : Program σ ε Unit}
    (keeps : cleanup.Keeps view) (n : Nat) (s : σ) :
    view (cut n (program.andFinally cleanup) s) = view (cut n program s) := by
  induction program generalizing n s with
  | ret value =>
    have whole : (cleanup >>= fun _ => Program.ret value).Keeps view :=
      Keeps.bind keeps fun _ => Keeps.ret value
    have seen := whole.cut n s
    cases n <;> exact seen
  | raise error =>
    have whole : (cleanup >>= fun _ => (Program.raise error : Program σ ε α)).Keeps view :=
      Keeps.bind keeps fun _ => Keeps.raise error
    have seen := whole.cut n s
    cases n <;> exact seen
  | act update next ih =>
    cases n with
    | zero => rfl
    | succ n => exact ih s n (update s)

end Program

end FoodDelivery.Lib
