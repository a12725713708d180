import VariableStore.Proofs.List
/-!
Computations that may fail: what it means that a sequence of them, or a run over a list, succeeds.
-/
namespace VariableStore

variable {ε ε' α β γ : Type}

theorem ok_bind (a : α) (f : α → Except ε β) : Except.ok a >>= f = f a := rfl

theorem bind_eq_ok {x : Except ε α} {f : α → Except ε β} {b : β} :
    x >>= f = .ok b ↔ ∃ a, x = .ok a ∧ f a = .ok b := by
  cases x <;> simp [bind, Except.bind]

theorem bind_eq_error {x : Except ε α} {f : α → Except ε β} {e : ε} :
    x >>= f = .error e ↔ x = .error e ∨ ∃ a, x = .ok a ∧ f a = .error e := by
  cases x <;> simp [bind, Except.bind]

theorem mapError_eq_ok {x : Except ε α} {f : ε → ε'} {a : α} : x.mapError f = .ok a ↔ x = .ok a := by
  cases x with
  | error e => exact ⟨(nomatch ·), (nomatch ·)⟩
  | ok b => exact ⟨fun h => congrArg Except.ok (Except.ok.inj h), fun h => congrArg Except.ok (Except.ok.inj h)⟩

theorem map_bind_eq {x : Except ε α} {f : α → Except ε β} (g : β → γ) :
    (x >>= f).map g = x >>= fun a => (f a).map g := by
  cases x <;> rfl

theorem map_eq_ok {x : Except ε α} {f : α → β} {b : β} : x.map f = .ok b ↔ ∃ a, x = .ok a ∧ f a = b := by
  cases x <;> simp [Except.map]

def error? : Except ε α → Option ε
  | .error e => some e
  | .ok _ => none

theorem error?_eq_some_iff {x : Except ε α} {e : ε} : error? x = some e ↔ x = .error e := by
  cases x <;> simp [error?]

theorem error?_map (f : α → β) (x : Except ε α) : error? (x.map f) = error? x := by
  cases x <;> rfl

/-- A run over a list has one result for each item, in order. -/
theorem mapM_eq_ok_iff {f : α → Except ε β} {xs : List α} {ys : List β} :
    xs.mapM f = .ok ys ↔ List.Forall₂ (fun x y => f x = .ok y) xs ys := by
  induction xs generalizing ys with
  | nil => cases ys <;> simp [pure, Except.pure]
  | cons x xs ih =>
    simp only [List.mapM_cons, bind_eq_ok, List.forall₂_cons_left_iff, ih]
    constructor
    · rintro ⟨y, head, rest, tail, ⟨⟩⟩
      exact ⟨y, rest, head, tail, rfl⟩
    · rintro ⟨y, rest, head, tail, rfl⟩
      exact ⟨y, head, rest, tail, rfl⟩

/-- A run of what undoes `g` gives the items that `g` was applied to. -/
theorem mapM_eq_ok_iff_eq_map {f : α → Except ε β} {g : β → α} (undoes : ∀ x y, f x = .ok y ↔ x = g y) {xs : List α}
    {ys : List β} : xs.mapM f = .ok ys ↔ xs = ys.map g :=
  mapM_eq_ok_iff.trans (forall₂_iff_eq_map undoes)

/-- Each result of a run comes from an item. -/
theorem mapM_ok_mem {f : α → Except ε β} {xs : List α} {ys : List β} (h : xs.mapM f = .ok ys) :
    ∀ y ∈ ys, ∃ x ∈ xs, f x = .ok y := by
  induction xs generalizing ys with
  | nil =>
    cases h
    simp
  | cons x xs ih =>
    rw [List.mapM_cons] at h
    obtain ⟨y, head, h⟩ := bind_eq_ok.mp h
    obtain ⟨rest, tail, h⟩ := bind_eq_ok.mp h
    cases h
    intro z hz
    rcases List.mem_cons.mp hz with rfl | hz
    · exact ⟨x, List.mem_cons_self, head⟩
    · obtain ⟨w, hw, eq⟩ := ih tail z hz
      exact ⟨w, List.mem_cons_of_mem x hw, eq⟩

/-- A run succeeds if each of its steps does. -/
theorem mapM_ok_iff {f : α → Except ε β} {xs : List α} :
    (∃ ys, xs.mapM f = .ok ys) ↔ ∀ x ∈ xs, ∃ y, f x = .ok y := by
  induction xs with
  | nil => exact ⟨fun _ _ hx => absurd hx List.not_mem_nil, fun _ => ⟨[], rfl⟩⟩
  | cons x xs ih =>
    rw [List.forall_mem_cons, ← ih, List.mapM_cons]
    constructor
    · rintro ⟨ys, h⟩
      obtain ⟨y, head, h⟩ := bind_eq_ok.mp h
      obtain ⟨rest, tail, -⟩ := bind_eq_ok.mp h
      exact ⟨⟨y, head⟩, rest, tail⟩
    · rintro ⟨⟨y, head⟩, rest, tail⟩
      exact ⟨y :: rest, bind_eq_ok.mpr ⟨y, head, bind_eq_ok.mpr ⟨rest, tail, rfl⟩⟩⟩

/-- An error of a run is one of its steps. -/
theorem mapM_error_mem {f : α → Except ε β} {xs : List α} {e : ε} (h : xs.mapM f = .error e) :
    ∃ x ∈ xs, f x = .error e := by
  induction xs with
  | nil => cases h
  | cons x xs ih =>
    rw [List.mapM_cons] at h
    rcases bind_eq_error.mp h with head | ⟨y, -, h⟩
    · exact ⟨x, List.mem_cons_self, head⟩
    rcases bind_eq_error.mp h with tail | ⟨rest, -, h⟩
    · obtain ⟨z, inside, eq⟩ := ih tail
      exact ⟨z, List.mem_cons_of_mem x inside, eq⟩
    · cases h

/-- A run over items that all succeed. -/
theorem mapM_map_ok {f : β → Except ε γ} {g : α → β} {k : α → γ} {xs : List α}
    (h : ∀ x ∈ xs, f (g x) = .ok (k x)) : (xs.map g).mapM f = .ok (xs.map k) := by
  induction xs with
  | nil => rfl
  | cons x xs ih =>
    obtain ⟨head, tail⟩ := List.forall_mem_cons.mp h
    rw [List.map_cons, List.mapM_cons, head, ih tail]
    rfl

/-- A run whose steps all commute with a change of the state commutes with the change. -/
theorem foldlM_map {step : β → α → Except ε β} {g : β → β} {xs : List α}
    (h : ∀ x ∈ xs, ∀ b, step (g b) x = (step b x).map g) (b : β) :
    xs.foldlM step (g b) = (xs.foldlM step b).map g := by
  induction xs generalizing b with
  | nil => rfl
  | cons x xs ih =>
    obtain ⟨head, tail⟩ := List.forall_mem_cons.mp h
    rw [List.foldlM_cons, List.foldlM_cons, head]
    cases step b x with
    | error e => rfl
    | ok next => exact ih tail next

end VariableStore
