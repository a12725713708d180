import VariableStore.Proofs.Json.Numbers
import VariableStore.Proofs.Json.Roundtrip
import VariableStore.Proofs.Records
/-!
The two JSON forms of a record. One puts the extra fields over those of the record; the other one is a text with all fields
one after the other, and who reads it puts a field over one that came before. So they denote the same object, unless the text
holds a value that nests too deep to be read and that is gone from the object.
-/
namespace VariableStore

open Json (maxDepth)

section

variable (front : Table Json) {extra : Table Json}

/-- Fields with more fields put over them nest as deep as the first ones and the object that they make. -/
theorem depth_object_append_le_iff (distinct : Table.Distinct extra) (d : Nat) :
    (Json.object (front ++ extra)).depth ≤ d + 1 ↔
      (∀ field ∈ front, field.2.depth ≤ d) ∧ (Json.object (Table.insertAll [] (front ++ extra))).depth ≤ d + 1 := by
  rw [Json.depth_object_le_iff, Json.depth_object_le_iff, List.forall_mem_append]
  constructor
  · rintro ⟨first, others⟩
    refine ⟨first, fun field inside => ?_⟩
    rcases Table.mem_of_mem_insertAll inside with nothing | inside
    · cases nothing
    · exact (List.mem_append.mp inside).elim (first field) (others field)
  · rintro ⟨first, whole⟩
    refine ⟨first, fun field inside => whole field ?_⟩
    rw [Table.insertAll_append]
    exact Table.mem_insertAll distinct _ inside

/-- The text of an object with extra fields behind its own ones is read as the object with the extra ones put over its own,
if its own values can be read. -/
theorem ofText?_compact_append (distinct : Table.Distinct extra) (names : ∀ field ∈ front ++ extra, field.2.Named)
    (floats : (Json.object (Table.insertAll [] (front ++ extra))).FloatsReadBack)
    (shallow : (Json.object (Table.insertAll [] (front ++ extra))).depth ≤ maxDepth) :
    Json.ofText? (Json.object (front ++ extra)).compact =
      if ∀ field ∈ front, field.2.depth < maxDepth then some (.object (Table.insertAll [] (front ++ extra))) else none := by
  have fits : (Json.object (front ++ extra)).depth ≤ maxDepth ↔ ∀ field ∈ front, field.2.depth < maxDepth :=
    (depth_object_append_le_iff front distinct 126).trans <| (and_iff_left shallow).trans <|
      forall₂_congr fun field _ => Nat.lt_succ_iff.symm
  rw [Json.ofText?_compact_eq, Json.ofCharsWithin?_object names (Json.readable _), floats.legible.reread_eq]
  exact if_congr fits rfl rfl

end

namespace KeyValue

variable {r : KeyValue}

theorem ofText?_written (distinct : Table.Distinct r.extra) (names : ∀ field ∈ r.fields, field.2.Named)
    (floats : r.toJson.FloatsReadBack) (shallow : r.toJson.depth ≤ maxDepth) :
    Json.ofText? r.written = if r.value.depth < maxDepth then some r.toJson else none := by
  rw [written, fields_eq, ofText?_compact_append r.front distinct names floats shallow]
  refine if_congr ?_ rfl rfl
  simp [front, maxDepth]

/-- The value is a part of the object, if no extra field is put over it. -/
theorem depth_value_lt (kept : "value" ∉ Table.keys r.extra) : r.value.depth < r.toJson.depth := by
  have last : Table.get? "value" (Table.insertAll [] r.fields) = some r.value := by
    have absent : Table.get? "value" r.extra.reverse = none := Table.get?_eq_none_of_not_mem (by simpa [Table.keys] using kept)
    rw [Table.get?_insertAll, fields_eq, List.reverse_append, Table.get?_append, absent]
    rfl
  exact Nat.lt_succ_of_le ((Json.depth_object_le_iff _ _).mp (Nat.le_refl _) _ (Table.mem_of_get? last))

end KeyValue

theorem Entity.ofText?_written {e : Entity} (distinct : Table.Distinct e.extra)
    (names : ∀ field ∈ e.extra, field.2.Named) (floats : e.toJson.FloatsReadBack) (shallow : e.toJson.depth ≤ maxDepth) :
    Json.ofText? e.written = some e.toJson := by
  have all : ∀ field ∈ e.front ++ e.extra, field.2.Named := List.forall_mem_append.mpr ⟨by simp [front], names⟩
  rw [written, fields_eq, ofText?_compact_append e.front distinct all floats shallow]
  refine if_pos ?_
  simp [front, maxDepth]

/-- The text of a record or an entity, with all its fields one after the other, is read as the object in which the extra
fields stand over its own, in the same order, as long as the object nests no deeper than a text that is read may. The text of a
record is refused only if its own value nests too deep, and then an extra field stands over the value in the object. -/
theorem written_read_as_object :
    (∀ r : KeyValue, Table.Distinct r.extra → (∀ field ∈ r.fields, field.2.Named) → r.toJson.FloatsReadBack →
      r.toJson.depth ≤ maxDepth →
        Json.ofText? r.written = (if r.value.depth < maxDepth then some r.toJson else none) ∧
        ("value" ∉ Table.keys r.extra → r.value.depth < maxDepth)) ∧
    ∀ e : Entity, Table.Distinct e.extra → (∀ field ∈ e.extra, field.2.Named) → e.toJson.FloatsReadBack →
      e.toJson.depth ≤ maxDepth → Json.ofText? e.written = some e.toJson := by
  constructor
  · intro r distinct names floats shallow
    exact ⟨KeyValue.ofText?_written distinct names floats shallow,
      fun kept => Nat.lt_of_lt_of_le (KeyValue.depth_value_lt kept) shallow⟩
  · intro e distinct names floats shallow
    exact Entity.ofText?_written distinct names floats shallow

/-- A record and an entity with extra fields of the names of their own, and a number that is no integer. -/
theorem written_read_as_object_of_overlapping :
    let zero : Json := .number (.real (.zero true))
    let r : KeyValue := ⟨"k", .array [.null], [("note", zero), ("value", .string "v"), ("key", .bool true)]⟩
    let e : Entity := ⟨"7", "x", "Host", [("type", .null), ("note", zero), ("id", .array [])]⟩
    r.written = "\x7b\"key\":\"k\",\"value\":[null],\"note\":-0.0,\"value\":\"v\",\"key\":true\x7d" ∧
    Json.ofText? r.written = some (.object [("key", .bool true), ("value", .string "v"), ("note", zero)]) ∧
    Json.ofText? e.written =
      some (.object [("id", .array []), ("value", .string "x"), ("type", .null), ("note", zero)]) := by
  intro zero r e
  obtain ⟨records, entities⟩ := written_read_as_object
  have same : Json.Number.ofWord? (Json.Number.text (.real (.zero true))) = some (.real (.zero true)) := by
    decide +kernel
  have record : r.toJson = .object [("key", .bool true), ("value", .string "v"), ("note", zero)] := rfl
  have entity : e.toJson = .object [("id", .array []), ("value", .string "x"), ("type", .null), ("note", zero)] := rfl
  refine ⟨by decide +kernel, ?_, ?_⟩
  · refine (records r ?_ ?_ ?_ ?_).1.trans (if_pos (by decide))
    · simp [r, Table.Distinct, Table.keys]
    · simp [r, zero, KeyValue.fields, Json.named_array_iff]
    · rw [record]
      intro x inside
      simp [zero] at inside
      exact inside ▸ same
    · rw [record]
      decide
  · rw [entities e ?_ ?_ ?_ ?_, entity]
    · simp [e, Table.Distinct, Table.keys]
    · simp [e, zero, Json.named_array_iff]
    · rw [entity]
      intro x inside
      simp [zero] at inside
      exact inside ▸ same
    · rw [entity]
      decide

/-- A record whose value nests as deep as a text may, with an extra field over it: the object is flat, and the text is not
read. -/
theorem written_unread_of_deep_value :
    let r : KeyValue := ⟨"k", nested maxDepth, [("value", .null)]⟩
    Table.Distinct r.extra ∧ (∀ field ∈ r.fields, field.2.Named) ∧ r.toJson.FloatsReadBack ∧ r.toJson.depth ≤ maxDepth ∧
      Json.ofText? r.written = none ∧ r.toJson = .object [("key", .string "k"), ("value", .null)] := by
  intro r
  have record : r.toJson = .object [("key", .string "k"), ("value", .null)] := rfl
  have distinct : Table.Distinct r.extra := by simp [r, Table.Distinct, Table.keys]
  have names : ∀ field ∈ r.fields, field.2.Named := by simp [r, KeyValue.fields, named_nested]
  have floats : r.toJson.FloatsReadBack := by
    rw [record]
    intro x inside
    simp at inside
  have shallow : r.toJson.depth ≤ maxDepth := by
    rw [record]
    decide
  refine ⟨distinct, names, floats, shallow, ?_, record⟩
  rw [KeyValue.ofText?_written distinct names floats shallow, if_neg]
  rw [depth_nested]
  exact Nat.lt_irrefl _

end VariableStore
