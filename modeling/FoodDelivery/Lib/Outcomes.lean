/-
**Taking an `Except` computation apart.**
-/

set_option autoImplicit false

namespace FoodDelivery.Lib

variable {ε α β γ : Type}

/-- A sequence that returns: its first part returned, and the rest returned on that value. -/
theorem bind_eq_ok {first : Except ε α} {rest : α → Except ε β} {result : β} :
    (first >>= rest) = .ok result ↔ ∃ value, first = .ok value ∧ rest value = .ok result := by
  cases first with
  | error raised =>
    constructor
    · intro same
      cases same
    · rintro ⟨_, same, _⟩
      cases same
  | ok value =>
    constructor
    · exact fun same => ⟨value, rfl, same⟩
    · rintro ⟨_, same, rest⟩
      cases same
      exact rest

/-- A sequence that raises: its first part raised, or returned a value on which the rest raised. -/
theorem bind_eq_error {first : Except ε α} {rest : α → Except ε β} {raised : ε} :
    (first >>= rest) = .error raised ↔
      first = .error raised ∨ ∃ value, first = .ok value ∧ rest value = .error raised := by
  cases first with
  | error other => simp [bind, Except.bind]
  | ok value => simp [bind, Except.bind]

/-- A pass over a list that returns: every element returned its value. -/
theorem mapM_eq_ok {f : α → Except ε β} {list : List α} {values : List β} :
    list.mapM f = .ok values ↔ list.map f = values.map .ok := by
  induction list generalizing values with
  | nil =>
    cases values with
    | nil => exact iff_of_true rfl rfl
    | cons value values => exact iff_of_false (fun same => by cases same) (fun same => by cases same)
  | cons x list hyp =>
    rw [List.mapM_cons, bind_eq_ok]
    constructor
    · rintro ⟨value, first, rest⟩
      obtain ⟨others, later, same⟩ := bind_eq_ok.mp rest
      obtain rfl := Except.ok.inj same
      rw [List.map_cons, List.map_cons, first, hyp.mp later]
    · intro same
      cases values with
      | nil => cases same
      | cons value values =>
        rw [List.map_cons, List.map_cons, List.cons_eq_cons] at same
        exact ⟨value, same.1, bind_eq_ok.mpr ⟨values, hyp.mpr same.2, rfl⟩⟩

/-- A pass that returns does so on every element. -/
theorem exists_mapM_eq_ok {f : α → Except ε β} {list : List α} :
    (∃ values, list.mapM f = .ok values) ↔ ∀ x ∈ list, ∃ value, f x = .ok value := by
  simp only [mapM_eq_ok]
  induction list with
  | nil => exact iff_of_true ⟨[], rfl⟩ fun _ none => absurd none List.not_mem_nil
  | cons x list hyp =>
    rw [List.forall_mem_cons, ← hyp]
    constructor
    · rintro ⟨values, same⟩
      cases values with
      | nil => cases same
      | cons value values =>
        rw [List.map_cons, List.map_cons, List.cons_eq_cons] at same
        exact ⟨⟨value, same.1⟩, values, same.2⟩
    · rintro ⟨⟨value, first⟩, values, rest⟩
      exact ⟨value :: values, by rw [List.map_cons, List.map_cons, first, rest]⟩

/-- A pass depends on what it does with the elements. -/
theorem mapM_congr {f g : α → Except ε β} {list : List α} (same : ∀ x ∈ list, f x = g x) :
    list.mapM f = list.mapM g := by
  induction list with
  | nil => rfl
  | cons x list hyp =>
    rw [List.mapM_cons, List.mapM_cons, same x List.mem_cons_self,
      hyp fun other among => same other (.tail _ among)]

/-- What is done with the values of a pass can be done on the way. -/
theorem map_mapM (f : α → Except ε β) (g : β → γ) (list : List α) :
    (list.mapM f).map (List.map g) = list.mapM fun x => (f x).map g := by
  induction list with
  | nil => rfl
  | cons x list hyp =>
    rw [List.mapM_cons, List.mapM_cons, ← hyp]
    cases f x with
    | error raised => rfl
    | ok value =>
      cases list.mapM f with
      | error raised => rfl
      | ok values => rfl

/-! ### Folds -/

section Fold

variable {f : β → α → Except ε β} {x : α} {list : List α} {start last : β} {raised : ε}

theorem foldlM_cons_eq_ok : (x :: list).foldlM f start = .ok last ↔
    ∃ next, f start x = .ok next ∧ list.foldlM f next = .ok last := by
  rw [List.foldlM_cons, bind_eq_ok]

/-- **A fold that raises** has folded the elements before the one that failed. -/
def StopsAt (f : β → α → Except ε β) (list : List α) (start last : β) (raised : ε) : Prop :=
  ∃ before x after, list = before ++ x :: after ∧ before.foldlM f start = .ok last ∧
    f last x = .error raised

theorem not_stopsAt_nil : ¬ StopsAt f [] start last raised := by
  rintro ⟨before, x, after, split, -⟩
  exact List.cons_ne_nil _ _ (List.append_eq_nil_iff.mp split.symm).2

/-- It fails at the first element or later. -/
theorem stopsAt_cons : StopsAt f (x :: list) start last raised ↔
    (f start x = .error raised ∧ last = start) ∨
      ∃ next, f start x = .ok next ∧ StopsAt f list next last raised := by
  constructor
  · rintro ⟨before, y, after, split, stored, failed⟩
    cases before with
    | nil =>
      obtain ⟨rfl, -⟩ := List.cons_eq_cons.mp split
      cases stored
      exact Or.inl ⟨failed, rfl⟩
    | cons first before =>
      obtain ⟨rfl, rest⟩ := List.cons_eq_cons.mp split
      obtain ⟨next, folded, stored⟩ := foldlM_cons_eq_ok.mp stored
      exact Or.inr ⟨next, folded, before, y, after, rest, stored, failed⟩
  · rintro (⟨failed, rfl⟩ | ⟨next, folded, before, y, after, rfl, stored, failed⟩)
    · exact ⟨[], x, list, rfl, rfl, failed⟩
    · exact ⟨x :: before, y, after, rfl, foldlM_cons_eq_ok.mpr ⟨next, folded, stored⟩, failed⟩

/-- A fold that returns: what every step that returns keeps holds at its end. -/
theorem foldlM_keeps {P : β → Prop}
    (keep : ∀ state, ∀ x, ∀ next, x ∈ list → P state → f state x = .ok next → P next) (holds : P start)
    (returned : list.foldlM f start = .ok last) : P last := by
  induction list generalizing start with
  | nil =>
    cases returned
    exact holds
  | cons x list hyp =>
    obtain ⟨middle, first, rest⟩ := foldlM_cons_eq_ok.mp returned
    refine hyp (fun state other next among => ?_) (keep start x middle List.mem_cons_self holds first) rest
    exact keep state other next (List.mem_cons_of_mem x among)

end Fold

end FoodDelivery.Lib
