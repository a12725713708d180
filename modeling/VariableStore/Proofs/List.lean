import Mathlib.Data.List.Forall2
import Mathlib.Data.List.TakeWhile
/-!
Lists: what is found in them first, how they are put together with marks between their parts and cut again, and what comes
of entering each item once.
-/
namespace VariableStore

variable {α β γ : Type}

/-- The first thing found in what is kept of a list. -/
theorem findSome?_filterMap (f : β → Option γ) (g : α → Option β) (xs : List α) :
    (xs.filterMap g).findSome? f = xs.findSome? fun x => (g x).bind f := by
  rw [← List.head?_filterMap, List.filterMap_filterMap, List.head?_filterMap]

theorem findSome?_congr {f g : α → Option β} {xs : List α} (h : ∀ x ∈ xs, f x = g x) :
    xs.findSome? f = xs.findSome? g := by
  rw [← List.head?_filterMap, List.filterMap_congr h, List.head?_filterMap]

theorem mem_of_lookup [BEq α] [LawfulBEq α] {entries : List (α × β)} {name : α} {value : β}
    (h : entries.lookup name = some value) : (name, value) ∈ entries := by
  obtain ⟨before, after, rfl, -⟩ := List.lookup_eq_some_iff.mp h
  simp

/-! ## Items that are related -/

/-- Lists that are related item by item by what undoes `g`. -/
theorem forall₂_iff_eq_map {R : α → β → Prop} {g : β → α} (undoes : ∀ x y, R x y ↔ x = g y) {xs : List α}
    {ys : List β} : List.Forall₂ R xs ys ↔ xs = ys.map g := by
  have pointwise : List.Forall₂ Eq xs (ys.map g) ↔ xs = ys.map g := by rw [List.forall₂_eq_eq_eq]
  have same : R = fun x y => x = g y := by
    funext x y
    exact propext (undoes x y)
  rw [same, ← pointwise, List.forall₂_map_right_iff]

/-! ## Items entered once -/

section Entering

variable [BEq α] [LawfulBEq α]

/-- The same entry over and over is entered once. -/
theorem eraseDups_of_same {x : α} {xs : List α} (h : ∀ y ∈ x :: xs, y = x) : (x :: xs).eraseDups = [x] := by
  have others : xs.filter (fun y => !y == x) = [] := by
    refine List.filter_eq_nil_iff.mpr fun y inside => ?_
    simp [h y (List.mem_cons_of_mem _ inside)]
  rw [List.eraseDups_cons, others, List.eraseDups_nil]

/-- Names entered one after the other, each unless it is there, stand in the order in which they first came. -/
theorem foldl_enter (entered names : List α) :
    names.foldl (fun entered name => if entered.contains name then entered else entered ++ [name]) entered =
      entered ++ (names.removeAll entered).eraseDups := by
  induction names generalizing entered with
  | nil => simp [List.removeAll]
  | cons name rest ih =>
    rw [List.foldl_cons, ih]
    by_cases present : name ∈ entered
    · simp [List.removeAll, present]
    · have left : (name :: rest).removeAll entered = name :: rest.removeAll entered := by
        simp [List.removeAll, present]
      have others : (rest.removeAll entered).filter (fun other => !other == name) =
          rest.removeAll (entered ++ [name]) := by
        rw [List.removeAll, List.removeAll, List.filter_filter]
        refine List.filter_congr fun other _ => ?_
        by_cases same : other = name <;> simp [same]
      rw [left, List.eraseDups_cons, others]
      simp [present]

end Entering

/-! ## Cutting at marks -/

/-- Parts after the first one, each behind a separator. -/
theorem intercalate_cons (sep : α) (part : List α) (parts : List (List α)) :
    List.intercalate [sep] (part :: parts) = part ++ parts.flatMap (sep :: ·) := by
  induction parts generalizing part with
  | nil => simp
  | cons next rest ih => rw [List.intercalate_cons_cons, ih next]; simp

theorem dropWhile_append_mark (p : α → Bool) {mark : α} (stop : p mark = false) (xs more : List α) :
    (xs ++ mark :: more).dropWhile p = xs.dropWhile p ++ mark :: more := by
  rw [List.dropWhile_append]
  split
  · next empty => rw [List.isEmpty_iff.mp empty, List.dropWhile_cons_of_neg (by simp [stop]), List.nil_append]
  · rfl

theorem takeWhile_append_mark (p : α → Bool) {mark : α} (stop : p mark = false) (xs more : List α) :
    (xs ++ mark :: more).takeWhile p = xs.takeWhile p := by
  rw [List.takeWhile_append]
  split
  · next all =>
    rw [List.takeWhile_cons_of_neg (by simp [stop]), List.append_nil]
    exact (List.takeWhile_prefix p |>.eq_of_length all).symm
  · rfl

/-- Two cuts of one list at the same mark: they are one, or one of them lies behind the other. -/
theorem append_mark_append {mark : α} {a b c d : List α} (h : a ++ mark :: b = c ++ mark :: d) :
    (a = c ∧ b = d) ∨ (∃ x, c = a ++ mark :: x ∧ b = x ++ mark :: d) ∨ ∃ x, a = c ++ mark :: x ∧ d = x ++ mark :: b := by
  rcases List.append_eq_append_iff.mp h with ⟨x, front, back⟩ | ⟨x, front, back⟩
  · cases x with
    | nil =>
      rw [List.nil_append, List.cons.injEq] at back
      exact .inl ⟨by rw [front, List.append_nil], back.2⟩
    | cons next x =>
      rw [List.cons_append, List.cons.injEq] at back
      exact .inr (.inl ⟨x, back.1 ▸ front, back.2⟩)
  · cases x with
    | nil =>
      rw [List.nil_append, List.cons.injEq] at back
      exact .inl ⟨by rw [front, List.append_nil], back.2.symm⟩
    | cons next x =>
      rw [List.cons_append, List.cons.injEq] at back
      exact .inr (.inr ⟨x, back.1 ▸ front, back.2⟩)

end VariableStore
