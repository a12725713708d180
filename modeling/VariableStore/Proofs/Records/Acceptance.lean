import VariableStore.Envelope
import VariableStore.Proofs.Json.Structure
import VariableStore.Proofs.Records
/-!
Which objects are records. Reading takes the fields in one by one, each on its own, and then asks for the ones that a
record must have. So an object is a record if each field has a value of the right kind and none is missing, which is
what validation checks, and reading numbers back from their text does not change it.
-/
namespace VariableStore

/-- A way of filling a draft: a field is taken where its value fits its name, and one with a name in `own` fills its
place. -/
structure Filling {δ : Type} (own : List String) (add : δ → String × Json → Except Json.Mismatch δ)
    (fits : String → Json → Prop) (filled : String → δ → Prop) : Prop where
  taken : ∀ d name j, (∃ next, add d (name, j) = .ok next) ↔ fits name j
  fills : ∀ d next name j, add d (name, j) = .ok next → ∀ place ∈ own,
    (filled place next ↔ filled place d ∨ place = name)

namespace Filling

variable {δ : Type} {own : List String} {add : δ → String × Json → Except Json.Mismatch δ}
  {fits : String → Json → Prop} {filled : String → δ → Prop}

theorem foldlM_ok_iff (filling : Filling own add fits filled) (d : δ) (fields : Table Json) :
    (∃ last, fields.foldlM add d = .ok last) ↔ ∀ field ∈ fields, fits field.1 field.2 := by
  induction fields generalizing d with
  | nil => exact ⟨fun _ _ hf => absurd hf List.not_mem_nil, fun _ => ⟨d, rfl⟩⟩
  | cons field rest ih =>
    rw [List.forall_mem_cons, ← filling.taken d, List.foldlM_cons]
    constructor
    · rintro ⟨last, h⟩
      obtain ⟨next, step, h⟩ := bind_eq_ok.mp h
      exact ⟨⟨next, step⟩, (ih next).mp ⟨last, h⟩⟩
    · rintro ⟨⟨next, step⟩, fit⟩
      obtain ⟨last, h⟩ := (ih next).mpr fit
      exact ⟨last, bind_eq_ok.mpr ⟨next, step, h⟩⟩

theorem filled_of_foldlM (filling : Filling own add fits filled) {d last : δ} {fields : Table Json}
    (h : fields.foldlM add d = .ok last) {place : String} (mine : place ∈ own) :
    filled place last ↔ filled place d ∨ place ∈ Table.keys fields := by
  induction fields generalizing d with
  | nil =>
    cases h
    simp [Table.keys]
  | cons field rest ih =>
    obtain ⟨name, j⟩ := field
    rw [List.foldlM_cons] at h
    obtain ⟨next, step, h⟩ := bind_eq_ok.mp h
    have keys : Table.keys ((name, j) :: rest) = name :: Table.keys rest := rfl
    rw [ih h, filling.fills d next name j step place mine, keys, List.mem_cons, or_assoc]

/-- What is finished once its own places are filled can be made of the fields that fit and lack none of these. -/
theorem finish_ok_iff {ρ : Type} {finish : δ → Except Json.Mismatch ρ} {start : δ}
    (filling : Filling own add fits filled) (empty : ∀ place ∈ own, ¬filled place start)
    (finished : ∀ d, (∃ r, finish d = .ok r) ↔ ∀ place ∈ own, filled place d) (fields : Table Json) :
    (∃ r, (fields.foldlM add start >>= finish) = .ok r) ↔
      (∀ field ∈ fields, fits field.1 field.2) ∧ ∀ place ∈ own, place ∈ Table.keys fields := by
  have places : ∀ last, fields.foldlM add start = .ok last →
      ((∃ r, finish last = .ok r) ↔ ∀ place ∈ own, place ∈ Table.keys fields) := by
    intro last h
    rw [finished]
    refine forall₂_congr fun place mine => ?_
    rw [filling.filled_of_foldlM h mine, or_iff_right (empty place mine)]
  rw [← filling.foldlM_ok_iff start]
  constructor
  · rintro ⟨r, h⟩
    obtain ⟨last, folded, finish⟩ := bind_eq_ok.mp h
    exact ⟨⟨last, folded⟩, (places last folded).mp ⟨r, finish⟩⟩
  · rintro ⟨⟨last, folded⟩, all⟩
    obtain ⟨r, finish⟩ := (places last folded).mpr all
    exact ⟨r, bind_eq_ok.mpr ⟨last, folded, finish⟩⟩

end Filling

/-- A field whose text is put into a draft is taken where the text can be had. -/
theorem taken_iff {δ : Type} {read : Except Json.Mismatch String} {put : String → δ} :
    (∃ next, (do return put (← read)) = .ok next) ↔ ∃ s, read = .ok s :=
  ⟨fun ⟨_, h⟩ => (bind_eq_ok.mp h).imp fun _ h => h.1, fun ⟨s, h⟩ => ⟨_, bind_eq_ok.mpr ⟨s, h, rfl⟩⟩⟩

theorem Json.string?_ok_iff (j : Json) : (∃ s, j.string? = .ok s) ↔ ∃ s, j = .string s := by
  cases j <;> simp [string?]

theorem Json.exists_reread_string (j : Json) : (∃ s, j.reread = .string s) ↔ ∃ s, j = .string s := by
  cases j <;> simp

theorem Json.exists_reread_number (j : Json) : (∃ n, j.reread = .number n) ↔ ∃ n, j = .number n := by
  cases j <;> simp

namespace KeyValue

def Fits (name : String) (j : Json) : Prop := name = "key" → ∃ s, j = .string s

def Draft.Filled (name : String) (d : Draft) : Prop :=
  (name = "key" ∧ d.key.isSome) ∨ (name = "value" ∧ d.value.isSome)

theorem Draft.filling : Filling ["key", "value"] Draft.add Fits Draft.Filled where
  taken := by
    intro d name j
    unfold Draft.add
    split
    · next eq =>
      cases eq
      rw [taken_iff, Json.string?_ok_iff]
      simp [Fits]
    · next eq =>
      cases eq
      simp [Fits, pure, Except.pure]
    · next other _ eq =>
      cases eq
      exact ⟨fun _ same => absurd same other, fun _ => ⟨_, rfl⟩⟩
  fills := by
    intro d next name j h place mine
    simp only [List.mem_cons, List.not_mem_nil, or_false] at mine
    unfold Draft.add at h
    split at h
    · next eq =>
      cases eq
      obtain ⟨s, -, eq⟩ := bind_eq_ok.mp h
      cases eq
      rcases mine with rfl | rfl <;> simp [Filled]
    · next eq =>
      cases eq
      cases h
      rcases mine with rfl | rfl <;> simp [Filled]
    · next key value eq =>
      cases eq
      cases h
      have apart : place ≠ name := by
        rintro rfl
        exact mine.elim key value
      simp [Filled, apart]

theorem Draft.finish_ok_iff (d : Draft) :
    (∃ r, d.finish = .ok r) ↔ ∀ place ∈ ["key", "value"], d.Filled place := by
  obtain ⟨key, value, extra⟩ := d
  rw [List.forall_mem_cons, List.forall_mem_singleton]
  cases key <;> cases value <;> simp [finish, Filled]

/-- An object is a record if its key is text and it has a key and a value. -/
theorem ofJson?_ok_iff (fields : Table Json) : (∃ r, ofJson? (.object fields) = .ok r) ↔
    (∀ field ∈ fields, Fits field.1 field.2) ∧ ∀ place ∈ ["key", "value"], place ∈ Table.keys fields :=
  Draft.filling.finish_ok_iff (by simp [Draft.Filled]) Draft.finish_ok_iff fields

theorem fits_reread (name : String) (j : Json) : Fits name j.reread ↔ Fits name j := by
  rw [Fits, Fits, Json.exists_reread_string]

theorem ofJson?_reread_ok_iff (j : Json) : (∃ r, ofJson? j.reread = .ok r) ↔ ∃ r, ofJson? j = .ok r := by
  cases j with
  | object fields =>
    rw [Json.reread_object, ofJson?_ok_iff, ofJson?_ok_iff, List.forall_mem_map, Json.keys_fieldsReread]
    exact and_congr_left fun _ => forall₂_congr fun field _ => fits_reread field.1 field.2
  | _ => simp [ofJson?]

end KeyValue

theorem Entity.idText?_ok_iff (j : Json) :
    (∃ s, idText? j = .ok s) ↔ (∃ s, j = .string s) ∨ ∃ n, j = .number n := by
  cases j <;> simp [idText?]

namespace Entity

def Fits (name : String) (j : Json) : Prop :=
  (name = "id" → (∃ s, j = .string s) ∨ ∃ n, j = .number n) ∧
    (name = "value" ∨ name = "type" → ∃ s, j = .string s)

def Draft.Filled (name : String) (d : Draft) : Prop :=
  (name = "id" ∧ d.id.isSome) ∨ (name = "value" ∧ d.value.isSome) ∨ (name = "type" ∧ d.type.isSome)

theorem Draft.filling : Filling ["id", "value", "type"] Draft.add Fits Draft.Filled where
  taken := by
    intro d name j
    unfold Draft.add
    split
    · next eq =>
      cases eq
      rw [taken_iff, idText?_ok_iff]
      simp [Fits]
    · next eq =>
      cases eq
      rw [taken_iff, Json.string?_ok_iff]
      simp [Fits]
    · next eq =>
      cases eq
      rw [taken_iff, Json.string?_ok_iff]
      simp [Fits]
    · next id value type eq =>
      cases eq
      exact ⟨fun _ => ⟨fun same => absurd same id, fun same => absurd same (not_or.mpr ⟨value, type⟩)⟩,
        fun _ => ⟨_, rfl⟩⟩
  fills := by
    intro d next name j h place mine
    simp only [List.mem_cons, List.not_mem_nil, or_false] at mine
    unfold Draft.add at h
    split at h
    · next eq =>
      cases eq
      obtain ⟨s, -, eq⟩ := bind_eq_ok.mp h
      cases eq
      rcases mine with rfl | rfl | rfl <;> simp [Filled]
    · next eq =>
      cases eq
      obtain ⟨s, -, eq⟩ := bind_eq_ok.mp h
      cases eq
      rcases mine with rfl | rfl | rfl <;> simp [Filled]
    · next eq =>
      cases eq
      obtain ⟨s, -, eq⟩ := bind_eq_ok.mp h
      cases eq
      rcases mine with rfl | rfl | rfl <;> simp [Filled]
    · next id value type eq =>
      cases eq
      cases h
      have apart : place ≠ name := by
        rintro rfl
        exact mine.elim id fun mine => mine.elim value type
      simp [Filled, apart]

theorem Draft.finish_ok_iff (d : Draft) :
    (∃ r, d.finish = .ok r) ↔ ∀ place ∈ ["id", "value", "type"], d.Filled place := by
  obtain ⟨id, value, type, extra⟩ := d
  rw [List.forall_mem_cons, List.forall_mem_cons, List.forall_mem_singleton]
  cases id <;> cases value <;> cases type <;> simp [finish, Filled]

/-- An object is an entity if its id is text or a number, its value and its type are text, and it has all three. -/
theorem ofJson?_ok_iff (fields : Table Json) : (∃ r, ofJson? (.object fields) = .ok r) ↔
    (∀ field ∈ fields, Fits field.1 field.2) ∧ ∀ place ∈ ["id", "value", "type"], place ∈ Table.keys fields :=
  Draft.filling.finish_ok_iff (by simp [Draft.Filled]) Draft.finish_ok_iff fields

theorem fits_reread (name : String) (j : Json) : Fits name j.reread ↔ Fits name j := by
  rw [Fits, Fits, Json.exists_reread_string, Json.exists_reread_number]

theorem ofJson?_reread_ok_iff (j : Json) : (∃ r, ofJson? j.reread = .ok r) ↔ ∃ r, ofJson? j = .ok r := by
  cases j with
  | object fields =>
    rw [Json.reread_object, ofJson?_ok_iff, ofJson?_ok_iff, List.forall_mem_map, Json.keys_fieldsReread]
    exact and_congr_left fun _ => forall₂_congr fun field _ => fits_reread field.1 field.2
  | _ => simp [ofJson?]

end Entity

namespace Envelope

theorem missing?_eq_none_iff (names : List String) (fields : Table Json) :
    missing? names fields = none ↔ ∀ name ∈ names, name ∈ Table.keys fields := by
  simp [missing?, Table.contains_iff_mem_keys]

theorem checkFields_ok_iff (names : List String) (j : Json) (fields : Table Json) :
    checkFields names j = .ok fields ↔ j = .object fields ∧ ∀ name ∈ names, name ∈ Table.keys fields := by
  cases j with
  | object given =>
    rw [checkFields, ← missing?_eq_none_iff]
    cases missing : missing? names given with
    | none =>
      simp only [Except.ok.injEq, Json.object.injEq]
      exact ⟨fun same => ⟨same, same ▸ missing⟩, And.left⟩
    | some name =>
      refine ⟨fun h => absurd h (by simp), ?_⟩
      rintro ⟨⟨⟩, none⟩
      rw [missing] at none
      cases none
  | _ => simp [checkFields]

/-- The key is text if and only if every field with its name is. -/
theorem keyText_iff {fields : Table Json} (distinct : Table.Distinct fields) (present : "key" ∈ Table.keys fields) :
    (∃ s, Table.get? "key" fields = some (.string s)) ↔ ∀ field ∈ fields, KeyValue.Fits field.1 field.2 := by
  constructor
  · rintro ⟨s, found⟩ ⟨name, j⟩ inside rfl
    have same := (Table.get?_eq_some_iff distinct "key" j).mpr inside
    rw [found] at same
    exact ⟨s, (Option.some.inj same).symm⟩
  · intro fits
    have contained := (Table.contains_iff_mem_keys "key" fields).mpr present
    obtain ⟨j, found⟩ := Option.isSome_iff_exists.mp contained
    obtain ⟨s, rfl⟩ := fits ("key", j) (Table.mem_of_get? found) rfl
    exact ⟨s, found⟩

/-- A key and value record passes validation if it can be read. -/
theorem checkKeyValue_ok_iff {j : Json} {d : Nat} (proper : j.Proper d) :
    checkKeyValue j = .ok () ↔ ∃ r, KeyValue.ofJson? j = .ok r := by
  rw [checkKeyValue, bind_eq_ok]
  cases j with
  | object fields =>
    have distinct : Table.Distinct fields := proper.names fields (by simp)
    rw [KeyValue.ofJson?_ok_iff]
    constructor
    · rintro ⟨given, checked, text⟩
      obtain ⟨⟨⟩, all⟩ := (checkFields_ok_iff _ _ given).mp checked
      refine ⟨(keyText_iff distinct (all "key" (by simp))).mp ?_, all⟩
      split at text
      · next s found => exact ⟨s, found⟩
      · cases text
    · rintro ⟨fits, all⟩
      obtain ⟨s, found⟩ := (keyText_iff distinct (all "key" (by simp))).mpr fits
      refine ⟨fields, (checkFields_ok_iff _ _ fields).mpr ⟨rfl, all⟩, ?_⟩
      rw [found]
      rfl
  | _ => simp [checkFields, KeyValue.ofJson?]

/-- An entity passes validation if it can be read. -/
theorem checkEntity_ok_iff (j : Json) : checkEntity j = .ok () ↔ ∃ e, Entity.ofJson? j = .ok e := by
  rw [checkEntity, bind_eq_ok]
  constructor
  · rintro ⟨given, -, read⟩
    split at read
    · next e found => exact ⟨e, found⟩
    · cases read
  · rintro ⟨e, found⟩
    cases j with
    | object fields =>
      have all := ((Entity.ofJson?_ok_iff fields).mp ⟨e, found⟩).2
      refine ⟨fields, (checkFields_ok_iff _ _ fields).mpr ⟨rfl, all⟩, ?_⟩
      rw [found]
      rfl
    | _ => cases found

end Envelope

end VariableStore
