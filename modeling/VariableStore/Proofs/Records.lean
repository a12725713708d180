import VariableStore.Proofs.Except
import VariableStore.Proofs.Json.Structure
import VariableStore.Proofs.Table
import VariableStore.Record
/-!
Records that were read. What is read from an object without repeated names is a record whose extra fields have
names of their own, so its two JSON forms are one, and the record is read back from it. It holds no value that
the object did not hold.
-/
namespace VariableStore

/-- The fields of an object whose names are not among those that a record has itself. -/
def others (own : List String) (fields : Table Json) : Table Json :=
  fields.filter fun field => !own.contains field.1

theorem not_mem_of_mem_others {own : List String} {fields : Table Json} {field : String × Json}
    (h : field ∈ others own fields) : field.1 ∉ own := by
  have other := (List.mem_filter.mp h).2
  simpa using other

theorem others_cons_own {own : List String} {name : String} (h : name ∈ own) (j : Json) (fields : Table Json) :
    others own ((name, j) :: fields) = others own fields := by
  simp [others, h]

theorem others_cons_other {own : List String} {name : String} (h : name ∉ own) (j : Json)
    (fields : Table Json) : others own ((name, j) :: fields) = (name, j) :: others own fields := by
  simp [others, h]

/-- Fields of the record's own in front of the others: no name comes twice. -/
theorem distinct_append_others {front fields : Table Json} (h : Table.Distinct front)
    (distinct : Table.Distinct fields) : Table.Distinct (front ++ others (Table.keys front) fields) := by
  have rest : Table.Distinct (others (Table.keys front) fields) :=
    List.Nodup.sublist (List.Sublist.map Prod.fst List.filter_sublist) distinct
  exact Table.distinct_append_iff.mpr ⟨h, rest, fun _ => not_mem_of_mem_others⟩

/-- A way of taking in fields: one with a name in `own` is used up, and any other joins the extra ones. -/
structure Taking {δ : Type} (own : List String) (add : δ → String × Json → Except Json.Mismatch δ)
    (extra : δ → Table Json) (join : δ → Table Json → δ) : Prop where
  used : ∀ d next name j, name ∈ own → add d (name, j) = .ok next → extra next = extra d
  joined : ∀ d name j, name ∉ own → add d (name, j) = .ok (join d [(name, j)])
  extra_join : ∀ d fields, extra (join d fields) = extra d ++ fields
  join_nil : ∀ d, join d [] = d
  join_join : ∀ d first second, join (join d first) second = join d (first ++ second)

namespace Taking

variable {δ : Type} {own : List String} {add : δ → String × Json → Except Json.Mismatch δ}
  {extra : δ → Table Json} {join : δ → Table Json → δ}

/-- The extra fields are the others, in order. -/
theorem extra_of_foldlM (taking : Taking own add extra join) {d last : δ} {fields : Table Json}
    (h : fields.foldlM add d = .ok last) : extra last = extra d ++ others own fields := by
  induction fields generalizing d with
  | nil =>
    cases h
    simp [others]
  | cons field rest ih =>
    obtain ⟨name, j⟩ := field
    rw [List.foldlM_cons] at h
    obtain ⟨next, step, h⟩ := bind_eq_ok.mp h
    rw [ih h]
    by_cases mine : name ∈ own
    · rw [others_cons_own mine, taking.used d next name j mine step]
    · rw [taking.joined d name j mine] at step
      cases step
      rw [others_cons_other mine, taking.extra_join, List.append_assoc, List.singleton_append]

theorem foldlM_of_others (taking : Taking own add extra join) (d : δ) {fields : Table Json}
    (h : ∀ field ∈ fields, field.1 ∉ own) : fields.foldlM add d = .ok (join d fields) := by
  induction fields generalizing d with
  | nil =>
    rw [taking.join_nil]
    rfl
  | cons field rest ih =>
    obtain ⟨name, j⟩ := field
    obtain ⟨head, tail⟩ := List.forall_mem_cons.mp h
    rw [List.foldlM_cons, taking.joined d name j head, ok_bind, ih _ tail, taking.join_join,
      List.singleton_append]

end Taking

/-- An object has a depth of its own. -/
theorem Json.Proper.succ {fields : Table Json} {d : Nat} (h : (Json.object fields).Proper d) :
    ∃ e, d = e + 1 := by
  have depth := h.depth_le
  simp only [Json.depth] at depth
  exact ⟨d - 1, by omega⟩

namespace KeyValue

/-- The fields that every record has. -/
def front (r : KeyValue) : Table Json := [("key", .string r.key), ("value", r.value)]

theorem fields_eq (r : KeyValue) : r.fields = r.front ++ r.extra := rfl

def Draft.join (d : Draft) (fields : Table Json) : Draft := { d with extra := d.extra ++ fields }

theorem Draft.taking : Taking ["key", "value"] Draft.add Draft.extra Draft.join where
  used := by
    intro d next name j own h
    rcases List.mem_cons.mp own with rfl | own
    · obtain ⟨s, -, eq⟩ := bind_eq_ok.mp h
      cases eq
      rfl
    · obtain rfl := List.mem_singleton.mp own
      cases h
      rfl
  joined := by
    intro d name j other
    simp only [List.mem_cons, List.not_mem_nil, or_false, not_or] at other
    unfold Draft.add
    split
    · next eq => cases eq; exact absurd rfl other.1
    · next eq => cases eq; exact absurd rfl other.2
    · next eq => cases eq; rfl
  extra_join := fun _ _ => rfl
  join_nil := by simp [Draft.join]
  join_join := by simp [Draft.join]

/-- The value of a draft comes from a field. -/
theorem Draft.value_of_foldlM {d last : Draft} {fields : Table Json} (h : fields.foldlM Draft.add d = .ok last)
    {j : Json} (value : last.value = some j) : d.value = some j ∨ ∃ field ∈ fields, field.2 = j := by
  induction fields generalizing d with
  | nil =>
    cases h
    exact .inl value
  | cons field rest ih =>
    rw [List.foldlM_cons] at h
    obtain ⟨next, step, h⟩ := bind_eq_ok.mp h
    rcases ih h with found | ⟨field', inside, eq⟩
    · unfold Draft.add at step
      split at step
      · obtain ⟨s, -, eq⟩ := bind_eq_ok.mp step
        cases eq
        exact .inl found
      · cases step
        exact .inr ⟨_, List.mem_cons_self, Option.some.inj found⟩
      · cases step
        exact .inl found
    · exact .inr ⟨field', List.mem_cons_of_mem field inside, eq⟩

/-- What was read is an object. Its other fields are the extra ones, and the value is one of its values. -/
theorem ofJson?_ok {j : Json} {r : KeyValue} (h : ofJson? j = .ok r) : ∃ fields, j = .object fields ∧
    r.extra = others (Table.keys r.front) fields ∧ ∃ field ∈ fields, field.2 = r.value := by
  cases j with
  | object fields =>
    obtain ⟨last, folded, finish⟩ := bind_eq_ok.mp h
    have extra := Draft.taking.extra_of_foldlM folded
    unfold Draft.finish at finish
    split at finish
    · next key j hkey hvalue =>
      cases finish
      exact ⟨fields, rfl, extra, (Draft.value_of_foldlM folded hvalue).resolve_left (by simp)⟩
    · cases finish
    · cases finish
  | _ => cases h

theorem toJson_eq {r : KeyValue} (h : Table.Distinct r.fields) : r.toJson = .object r.fields := by
  rw [toJson, Table.insertAll_of_distinct [] r.fields h]
  rfl

/-- A record is read back from its fields where no two of them have one name. -/
theorem ofJson?_fields {r : KeyValue} (h : Table.Distinct r.fields) : ofJson? (.object r.fields) = .ok r := by
  have start : r.fields.foldlM Draft.add {} =
      r.extra.foldlM Draft.add { key := some r.key, value := some r.value } := rfl
  have apart : ∀ field ∈ r.extra, field.1 ∉ Table.keys r.front := (Table.distinct_append_iff.mp (r.fields_eq ▸ h)).2.2
  rw [ofJson?, start, Draft.taking.foldlM_of_others _ apart]
  rfl

/-- A record that was read from a proper object is a proper object. -/
theorem proper_of_ofJson? {j : Json} {r : KeyValue} {d : Nat} (h : ofJson? j = .ok r) (proper : j.Proper d) :
    (Json.object r.fields).Proper d := by
  obtain ⟨fields, rfl, extra, value, inside, eq⟩ := ofJson?_ok h
  obtain ⟨d, rfl⟩ := proper.succ
  obtain ⟨distinct, inner⟩ := (Json.proper_object_iff fields d).mp proper
  refine (Json.proper_object_iff r.fields d).mpr ⟨?_, ?_⟩
  · rw [fields_eq, extra]
    exact distinct_append_others (by simp [Table.Distinct, Table.keys, front]) distinct
  · rw [fields_eq, front, extra]
    refine List.forall_mem_cons.mpr ⟨Json.Proper.string d r.key, ?_⟩
    refine List.forall_mem_cons.mpr ⟨eq ▸ inner value inside, fun field hf => ?_⟩
    exact inner field (List.mem_filter.mp hf).1

end KeyValue

namespace Entity

def front (e : Entity) : Table Json := [("id", .string e.id), ("value", .string e.value), ("type", .string e.type)]

theorem fields_eq (e : Entity) : e.fields = e.front ++ e.extra := rfl

def Draft.join (d : Draft) (fields : Table Json) : Draft := { d with extra := d.extra ++ fields }

theorem Draft.taking : Taking ["id", "value", "type"] Draft.add Draft.extra Draft.join where
  used := by
    intro d next name j own h
    simp only [List.mem_cons, List.not_mem_nil, or_false] at own
    rcases own with rfl | rfl | rfl
    all_goals
      obtain ⟨s, -, eq⟩ := bind_eq_ok.mp h
      cases eq
      rfl
  joined := by
    intro d name j other
    simp only [List.mem_cons, List.not_mem_nil, or_false, not_or] at other
    unfold Draft.add
    split
    · next eq => cases eq; exact absurd rfl other.1
    · next eq => cases eq; exact absurd rfl other.2.1
    · next eq => cases eq; exact absurd rfl other.2.2
    · next eq => cases eq; rfl
  extra_join := fun _ _ => rfl
  join_nil := by simp [Draft.join]
  join_join := by simp [Draft.join]

/-- What was read is an object, and its other fields are the extra ones. -/
theorem ofJson?_ok {j : Json} {e : Entity} (h : ofJson? j = .ok e) :
    ∃ fields, j = .object fields ∧ e.extra = others (Table.keys e.front) fields := by
  cases j with
  | object fields =>
    obtain ⟨last, folded, finish⟩ := bind_eq_ok.mp h
    have extra := Draft.taking.extra_of_foldlM folded
    unfold Draft.finish at finish
    split at finish
    · cases finish
      exact ⟨fields, rfl, extra⟩
    · cases finish
    · cases finish
    · cases finish
  | _ => cases h

theorem toJson_eq {e : Entity} (h : Table.Distinct e.fields) : e.toJson = .object e.fields := by
  rw [toJson, Table.insertAll_of_distinct [] e.fields h]
  rfl

/-- An entity is read back from its fields where no two of them have one name. -/
theorem ofJson?_fields {e : Entity} (h : Table.Distinct e.fields) : ofJson? (.object e.fields) = .ok e := by
  have start : e.fields.foldlM Draft.add {} =
      e.extra.foldlM Draft.add { id := some e.id, value := some e.value, type := some e.type } := rfl
  have apart : ∀ field ∈ e.extra, field.1 ∉ Table.keys e.front := (Table.distinct_append_iff.mp (e.fields_eq ▸ h)).2.2
  rw [ofJson?, start, Draft.taking.foldlM_of_others _ apart]
  rfl

/-- An entity that was read from a proper object is a proper object. -/
theorem proper_of_ofJson? {j : Json} {e : Entity} {d : Nat} (h : ofJson? j = .ok e) (proper : j.Proper d) :
    (Json.object e.fields).Proper d := by
  obtain ⟨fields, rfl, extra⟩ := ofJson?_ok h
  obtain ⟨d, rfl⟩ := proper.succ
  obtain ⟨distinct, inner⟩ := (Json.proper_object_iff fields d).mp proper
  refine (Json.proper_object_iff e.fields d).mpr ⟨?_, ?_⟩
  · rw [fields_eq, extra]
    exact distinct_append_others (by simp [Table.Distinct, Table.keys, front]) distinct
  · rw [fields_eq, extra]
    intro field hf
    rcases List.mem_append.mp hf with own | other
    · simp only [front, List.mem_cons, List.not_mem_nil, or_false] at own
      rcases own with rfl | rfl | rfl <;> exact Json.Proper.string d _
    · exact inner field (List.mem_filter.mp other).1

end Entity

end VariableStore
