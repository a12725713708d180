import VariableStore.Table
/-!
Putting entries into a table and finding them: a name that is new goes to the end, so entries with names of their own
are put one after the other, and where no name comes twice the entry under a name is the one that is found. Names stand in
the order in which they first came.
-/
namespace VariableStore.Table

variable {β γ : Type}

/-- No name comes twice in two tables together if none does in either and they share none. -/
theorem distinct_append_iff {t u : Table β} :
    Distinct (t ++ u) ↔ Distinct t ∧ Distinct u ∧ ∀ entry ∈ u, entry.1 ∉ keys t := by
  rw [Distinct, keys, List.map_append, List.nodup_append]
  refine and_congr_right fun _ => and_congr_right fun _ => ?_
  constructor
  · intro apart entry inside own
    exact apart entry.1 own entry.1 (List.mem_map_of_mem inside) rfl
  · rintro apart name own _ other rfl
    obtain ⟨entry, inside, rfl⟩ := List.mem_map.mp other
    exact apart entry inside own

theorem insert_of_not_mem {key : String} {t : Table β} (value : β) (h : key ∉ keys t) :
    insert key value t = t ++ [(key, value)] := by
  induction t with
  | nil => rfl
  | cons entry rest ih =>
    obtain ⟨k, v⟩ := entry
    simp only [keys, List.map_cons, List.mem_cons, not_or] at h
    simp [insert, Ne.symm h.1, ih h.2]

/-- Entries with names of their own are put one after the other. -/
theorem insertAll_of_distinct (t entries : Table β) (h : Distinct (t ++ entries)) :
    insertAll t entries = t ++ entries := by
  induction entries generalizing t with
  | nil => simp [insertAll]
  | cons entry rest ih =>
    obtain ⟨key, value⟩ := entry
    have absent : key ∉ keys t := (distinct_append_iff.mp h).2.2 (key, value) List.mem_cons_self
    have step : insertAll t ((key, value) :: rest) = insertAll (insert key value t) rest := rfl
    rw [step, insert_of_not_mem value absent, ih _ (by simpa using h)]
    simp

theorem insertAll_append (t first second : Table β) :
    insertAll t (first ++ second) = insertAll (insertAll t first) second := List.foldl_append

theorem mem_insert {key : String} {value : β} {t : Table β} {entry : String × β}
    (h : entry ∈ insert key value t) : entry = (key, value) ∨ entry ∈ t := by
  induction t with
  | nil => exact .inl (List.mem_singleton.mp h)
  | cons head rest ih =>
    obtain ⟨k, v⟩ := head
    by_cases same : k = key
    · subst same
      simp only [insert, if_true, List.mem_cons] at h ⊢
      exact h.imp_right .inr
    · simp only [insert, if_neg same, List.mem_cons] at h ⊢
      rcases h with h | h
      · exact .inr (.inl h)
      · exact (ih h).imp_right .inr

theorem mem_of_get? {key : String} {t : Table β} {value : β} (h : get? key t = some value) : (key, value) ∈ t := by
  induction t with
  | nil => cases h
  | cons entry rest ih =>
    obtain ⟨k, v⟩ := entry
    rw [get?] at h
    split at h
    · next same =>
      cases h
      exact same ▸ List.mem_cons_self
    · exact List.mem_cons_of_mem _ (ih h)

/-- Where no name comes twice, the entry under a name is the one with the name. -/
theorem get?_eq_some_iff {t : Table β} (distinct : Distinct t) (key : String) (value : β) :
    get? key t = some value ↔ (key, value) ∈ t := by
  refine ⟨mem_of_get?, fun inside => ?_⟩
  induction t with
  | nil => cases inside
  | cons entry rest ih =>
    obtain ⟨k, v⟩ := entry
    obtain ⟨absent, distinct⟩ := List.nodup_cons.mp distinct
    rcases List.mem_cons.mp inside with same | inside
    · cases same
      rw [get?, if_pos rfl]
    · have other : k ≠ key := by
        rintro rfl
        exact absent (List.mem_map.mpr ⟨(k, value), inside, rfl⟩)
      rw [get?, if_neg other, ih distinct inside]

@[simp] theorem erase_cons_self (key : String) (value : β) (t : Table β) :
    erase key ((key, value) :: t) = erase key t := by
  simp [erase]

theorem erase_cons_of_ne {k key : String} (h : k ≠ key) (value : β) (t : Table β) :
    erase key ((k, value) :: t) = (k, value) :: erase key t := by
  simp [erase, h]

theorem erase_of_not_mem {key : String} {t : Table β} (h : key ∉ keys t) : erase key t = t := by
  refine List.filter_eq_self.mpr fun entry inside => decide_eq_true ?_
  rintro rfl
  exact h (List.mem_map_of_mem inside)

theorem mem_of_mem_insertAll {t entries : Table β} {entry : String × β} (h : entry ∈ insertAll t entries) :
    entry ∈ t ∨ entry ∈ entries := by
  induction entries generalizing t with
  | nil => exact .inl h
  | cons head rest ih =>
    rcases ih h with inside | inside
    · rcases mem_insert inside with rfl | inside
      · exact .inr List.mem_cons_self
      · exact .inl inside
    · exact .inr (List.mem_cons_of_mem head inside)

theorem get?_append (key : String) (t u : Table β) : get? key (t ++ u) = (get? key t).or (get? key u) := by
  induction t with
  | nil => rfl
  | cons entry rest ih =>
    obtain ⟨k, v⟩ := entry
    by_cases here : k = key <;> simp [get?, here, ih]

/-- What is found after several entries were put is the last one of the name. -/
theorem get?_insertAll (key : String) (t entries : Table β) :
    get? key (insertAll t entries) = (get? key entries.reverse).or (get? key t) := by
  induction entries generalizing t with
  | nil => rfl
  | cons entry rest ih =>
    have next : insertAll t (entry :: rest) = insertAll (insert entry.1 entry.2 t) rest := rfl
    rw [next, ih, get?_insert, List.reverse_cons, get?_append, Option.or_assoc]
    by_cases here : entry.1 = key <;> simp [get?, here]

/-- Where no name comes twice among the entries, all of them are there in the end. -/
theorem mem_insertAll {entries : Table β} (distinct : Distinct entries) (t : Table β) {entry : String × β}
    (h : entry ∈ entries) : entry ∈ insertAll t entries := by
  have reversed : Distinct entries.reverse := by
    rw [Distinct, keys, List.map_reverse]
    exact (List.reverse_perm _).nodup_iff.mpr distinct
  have last : get? entry.1 entries.reverse = some entry.2 :=
    (get?_eq_some_iff reversed entry.1 entry.2).mpr (List.mem_reverse.mpr h)
  apply mem_of_get?
  rw [get?_insertAll, last, Option.some_or]

/-- A change of all values may be made before or after an entry is put. -/
theorem map_insert_value (f : β → γ) (key : String) (value : β) (t : Table β) :
    (insert key value t).map (fun entry => (entry.1, f entry.2)) =
      insert key (f value) (t.map fun entry => (entry.1, f entry.2)) := by
  induction t with
  | nil => rfl
  | cons entry rest ih =>
    obtain ⟨k, v⟩ := entry
    by_cases here : k = key <;> simp [insert, here, ih]

theorem map_insertAll (f : β → γ) (t entries : Table β) :
    (insertAll t entries).map (fun entry => (entry.1, f entry.2)) =
      insertAll (t.map fun entry => (entry.1, f entry.2)) (entries.map fun entry => (entry.1, f entry.2)) := by
  induction entries generalizing t with
  | nil => rfl
  | cons entry rest ih => exact (ih (insert entry.1 entry.2 t)).trans (by rw [map_insert_value]; rfl)

theorem get?_ne_none_iff (key : String) (t : Table β) : get? key t ≠ none ↔ key ∈ keys t := by
  rw [← contains_iff_mem_keys, contains, Option.isSome_iff_ne_none]

theorem isEmpty_iff (t : Table β) : t.isEmpty = true ↔ ∀ key, get? key t = none := by
  cases t with
  | nil => simp
  | cons entry rest =>
    obtain ⟨key, value⟩ := entry
    exact ⟨nofun, fun none => absurd (none key) (by simp [get?])⟩

/-- What is read off the entries after one more was put, where the entries of its name have the same to show. -/
theorem map_insert (f : String × β → γ) {key : String} {value : β} {t : Table β}
    (same : ∀ entry ∈ t, entry.1 = key → f entry = f (key, value)) :
    (insert key value t).map f = if contains key t then t.map f else t.map f ++ [f (key, value)] := by
  induction t with
  | nil => rfl
  | cons entry rest ih =>
    obtain ⟨k, v⟩ := entry
    obtain ⟨head, tail⟩ := List.forall_mem_cons.mp same
    by_cases here : k = key
    · subst here
      simp [insert, contains, get?, head rfl]
    · have there : contains key ((k, v) :: rest) = contains key rest := by simp [contains, get?, here]
      rw [insert, if_neg here, List.map_cons, ih tail, there]
      split <;> simp

end VariableStore.Table
