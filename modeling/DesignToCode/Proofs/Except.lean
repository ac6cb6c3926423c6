import Mathlib.Data.List.Forall2

set_option autoImplicit false

namespace DesignToCode.Except

variable {ε α β γ : Type}

theorem ok_bind (a : α) (f : α → Except ε β) : (.ok a >>= f) = f a := rfl

theorem bind_eq_ok_iff {x : Except ε α} {f : α → Except ε β} {b : β} :
    (x >>= f) = .ok b ↔ ∃ a, x = .ok a ∧ f a = .ok b := by
  cases x <;> simp [bind, Except.bind]

theorem bind_eq_error_iff {x : Except ε α} {f : α → Except ε β} {e : ε} :
    (x >>= f) = .error e ↔ x = .error e ∨ ∃ a, x = .ok a ∧ f a = .error e := by
  cases x <;> simp [bind, Except.bind]

/-- Two steps end in a value exactly when the first does and then the second. -/
theorem exists_bind_eq_ok_iff {x : Except ε α} {f : α → Except ε β} :
    (∃ b, (x >>= f) = .ok b) ↔ ∃ a, x = .ok a ∧ ∃ b, f a = .ok b := by
  cases x <;> simp [bind, Except.bind]

theorem exists_pure {a : α} : ∃ b, (pure a : Except ε α) = .ok b := ⟨a, rfl⟩

theorem mapError_eq_ok_iff {δ : Type} {x : Except ε α} {f : ε → δ} {a : α} :
    x.mapError f = .ok a ↔ x = .ok a := by
  cases x <;> simp [Except.mapError]

theorem mapError_eq_error_iff {δ : Type} {x : Except ε α} {f : ε → δ} {d : δ} :
    x.mapError f = .error d ↔ ∃ e, x = .error e ∧ f e = d := by
  cases x <;> simp [Except.mapError]

theorem map_eq_ok_iff {x : Except ε α} {f : α → β} {b : β} :
    x.map f = .ok b ↔ ∃ a, x = .ok a ∧ f a = b := by
  cases x <;> simp [Except.map]

theorem map_eq_error_iff {x : Except ε α} {f : α → β} {e : ε} :
    x.map f = .error e ↔ x = .error e := by
  cases x <;> simp [Except.map]

theorem exists_map_eq_ok_iff {x : Except ε α} {f : α → β} :
    (∃ b, x.map f = .ok b) ↔ ∃ a, x = .ok a := by
  cases x <;> simp [Except.map]

theorem mapM_cons_eq_ok_iff {f : α → Except ε β} {a : α} {rest : List α} {made : List β} :
    (a :: rest).mapM f = .ok made ↔
      ∃ b more, f a = .ok b ∧ rest.mapM f = .ok more ∧ made = b :: more := by
  simp only [List.mapM_cons, bind_eq_ok_iff, pure, Except.pure, Except.ok.injEq]
  constructor
  · rintro ⟨b, first, more, later, rfl⟩
    exact ⟨b, more, first, later, rfl⟩
  · rintro ⟨b, more, first, later, rfl⟩
    exact ⟨b, first, more, later, rfl⟩

/-- Each value is that of its own step. -/
theorem mapM_eq_ok_iff {f : α → Except ε β} {items : List α} {made : List β} :
    items.mapM f = .ok made ↔ List.Forall₂ (fun a b => f a = .ok b) items made := by
  induction items generalizing made with
  | nil => cases made <;> simp [pure, Except.pure]
  | cons a rest ih =>
    rw [mapM_cons_eq_ok_iff]
    constructor
    · rintro ⟨b, more, first, later, rfl⟩
      exact .cons first (ih.mp later)
    · rintro (_ | ⟨first, later⟩)
      exact ⟨_, _, first, ih.mpr later, rfl⟩

theorem map_map (x : Except ε α) (f : α → β) (g : β → γ) :
    (x.map f).map g = x.map fun a => g (f a) := by
  cases x <;> rfl

/-- What is made of each value may be made of it in its own step. -/
theorem map_mapM {f : α → Except ε β} (g : β → γ) (items : List α) :
    (items.mapM f).map (List.map g) = items.mapM fun a => (f a).map g := by
  induction items with
  | nil => rfl
  | cons a rest ih =>
    rw [List.mapM_cons, List.mapM_cons, ← ih]
    cases f a with
    | error => rfl
    | ok => cases rest.mapM f <;> rfl

theorem mapM_congr {f g : α → Except ε β} {items : List α} (same : ∀ a ∈ items, f a = g a) :
    items.mapM f = items.mapM g := by
  induction items with
  | nil => rfl
  | cons a rest ih =>
    obtain ⟨first, later⟩ := List.forall_mem_cons.mp same
    rw [List.mapM_cons, List.mapM_cons, first, ih later]

theorem mapM_cons_of_error {f : α → Except ε β} {a : α} {e : ε} (failed : f a = .error e)
    (rest : List α) : (a :: rest).mapM f = .error e := by
  rw [List.mapM_cons, failed]
  rfl

/-- A list of steps ends in values exactly when every single step does. -/
theorem exists_mapM_eq_ok_iff {f : α → Except ε β} {items : List α} :
    (∃ made, items.mapM f = .ok made) ↔ ∀ a ∈ items, ∃ b, f a = .ok b := by
  induction items with
  | nil => simp [pure, Except.pure]
  | cons a rest ih =>
    simp only [mapM_cons_eq_ok_iff, List.forall_mem_cons, ← ih]
    constructor
    · rintro ⟨_, b, more, first, later, rfl⟩
      exact ⟨⟨b, first⟩, more, later⟩
    · rintro ⟨⟨b, first⟩, more, later⟩
      exact ⟨b :: more, b, more, first, later, rfl⟩

/-- A list of steps that ends in an error ends in that of the first one that fails. -/
theorem mapM_eq_error_iff {f : α → Except ε β} {items : List α} {e : ε} :
    items.mapM f = .error e ↔
      ∃ a, items.find? (fun a => !(f a).isOk) = some a ∧ f a = .error e := by
  induction items with
  | nil => simp [pure, Except.pure]
  | cons a rest ih =>
    rw [List.find?_cons]
    cases first : f a with
    | error reason =>
      rw [mapM_cons_of_error first]
      simp [Except.isOk, Except.toBool, first]
    | ok b =>
      have later : (a :: rest).mapM f = .error e ↔ rest.mapM f = .error e := by
        rw [List.mapM_cons, first, ok_bind]
        cases rest.mapM f <;> simp [bind, Except.bind, pure, Except.pure]
      rw [later, ih]
      simp [Except.isOk, Except.toBool]

theorem exists_mem_of_mapM_eq_error {f : α → Except ε β} {items : List α} {e : ε}
    (h : items.mapM f = .error e) : ∃ a ∈ items, f a = .error e := by
  obtain ⟨a, first, failed⟩ := mapM_eq_error_iff.mp h
  exact ⟨a, List.mem_of_find?_eq_some first, failed⟩

end DesignToCode.Except
