/-!
Tables: lists of entries under names, in the order in which the names first came. A name that comes again keeps
its place and takes the new value. `get?` is what a table means; `get?_insert` and `get?_erase` say what the two
operations do to it.
-/
namespace VariableStore

/-- Entries under names, in order. -/
abbrev Table (β : Type) := List (String × β)

namespace Table

variable {β : Type}

def get? (key : String) : Table β → Option β
  | [] => none
  | (k, v) :: rest => if k = key then some v else get? key rest

def contains (key : String) (t : Table β) : Bool := (get? key t).isSome

/-- Puts an entry under a name: in the place of the old one, or at the end. -/
def insert (key : String) (value : β) : Table β → Table β
  | [] => [(key, value)]
  | (k, v) :: rest => if k = key then (k, value) :: rest else (k, v) :: insert key value rest

def erase (key : String) (t : Table β) : Table β := t.filter fun entry => entry.1 ≠ key

def insertAll (t : Table β) (entries : List (String × β)) : Table β :=
  entries.foldl (fun t entry => insert entry.1 entry.2 t) t

def keys (t : Table β) : List String := t.map Prod.fst

def Distinct (t : Table β) : Prop := (keys t).Nodup

@[simp] theorem get?_nil (key : String) : get? key ([] : Table β) = none := rfl

theorem get?_insert (key other : String) (value : β) (t : Table β) :
    get? other (insert key value t) = if key = other then some value else get? other t := by
  induction t with
  | nil => simp [insert, get?]
  | cons entry rest ih =>
    obtain ⟨k, v⟩ := entry
    by_cases same : k = key
    · by_cases h : key = other <;> simp [insert, get?, same, h]
    · by_cases h : key = other
      · subst h
        simp [insert, get?, same, ih]
      · simp [insert, get?, same, h, ih]

theorem keys_insert_of_contains {key : String} {t : Table β} (value : β) (h : contains key t = true) :
    keys (insert key value t) = keys t := by
  induction t with
  | nil => simp [contains] at h
  | cons entry rest ih =>
    obtain ⟨k, v⟩ := entry
    by_cases same : k = key
    · simp [insert, keys, same]
    · have h' : contains key rest = true := by simpa [contains, get?, same] using h
      have step := ih h'
      simp only [keys] at step
      simp [insert, keys, same, step]

theorem keys_insert_of_not_contains {key : String} {t : Table β} (value : β)
    (h : contains key t = false) : keys (insert key value t) = keys t ++ [key] := by
  induction t with
  | nil => simp [insert, keys]
  | cons entry rest ih =>
    obtain ⟨k, v⟩ := entry
    by_cases same : k = key
    · simp [contains, get?, same] at h
    · have h' : contains key rest = false := by simpa [contains, get?, same] using h
      have step := ih h'
      simp only [keys] at step
      simp [insert, keys, same, step]

theorem contains_iff_mem_keys (key : String) (t : Table β) : contains key t = true ↔ key ∈ keys t := by
  induction t with
  | nil => simp [contains, keys]
  | cons entry rest ih =>
    obtain ⟨k, v⟩ := entry
    simp only [contains, keys] at ih
    by_cases same : k = key
    · simp [contains, keys, get?, same]
    · have other : ¬ key = k := fun h => same h.symm
      simp only [contains, keys, get?, same, if_false, List.map_cons, List.mem_cons, other, false_or]
      exact ih

theorem get?_eq_none_of_not_mem {key : String} {t : Table β} (h : key ∉ keys t) : get? key t = none := by
  cases found : get? key t with
  | none => rfl
  | some value =>
    have present : contains key t = true := by rw [contains, found]; rfl
    exact absurd ((contains_iff_mem_keys key t).mp present) h

theorem get?_erase (key other : String) (t : Table β) :
    get? other (erase key t) = if key = other then none else get? other t := by
  induction t with
  | nil => simp [erase]
  | cons entry rest ih =>
    obtain ⟨k, v⟩ := entry
    by_cases same : k = key
    · subst same
      have step : erase k ((k, v) :: rest) = erase k rest := by simp [erase]
      rw [step, ih]
      by_cases eq : k = other <;> simp [get?, eq]
    · have step : erase key ((k, v) :: rest) = (k, v) :: erase key rest := by simp [erase, same]
      by_cases eq : k = other
      · subst eq
        simp [step, get?, Ne.symm same]
      · rw [step, get?, get?, if_neg eq, if_neg eq, ih]

theorem keys_erase_sublist (key : String) (t : Table β) : (keys (erase key t)).Sublist (keys t) :=
  List.Sublist.map Prod.fst List.filter_sublist

theorem Distinct.erase {t : Table β} (h : t.Distinct) (key : String) : (Table.erase key t).Distinct :=
  List.Nodup.sublist (keys_erase_sublist key t) h

theorem Distinct.insert {t : Table β} (h : t.Distinct) (key : String) (value : β) :
    (Table.insert key value t).Distinct := by
  unfold Distinct
  by_cases present : contains key t = true
  · rw [keys_insert_of_contains value present]
    exact h
  · have absent : contains key t = false := by simpa using present
    rw [keys_insert_of_not_contains value absent, List.nodup_append]
    refine ⟨h, by simp, ?_⟩
    intro a ha b hb same
    simp only [List.mem_singleton] at hb
    subst hb same
    exact present ((contains_iff_mem_keys a t).mpr ha)

end Table

end VariableStore
