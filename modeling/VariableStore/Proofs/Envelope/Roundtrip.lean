import VariableStore.Proofs.Envelope.Stability
/-!
Records that are read back as they were made. The writer puts the extra fields over the ones that every record has, and
the reader takes the fields that every record has out of those of the object. So a record comes back if the two do not
meet, that is, if no extra field has a name of the record's own; and no record that is read has such a field, so no other
record comes back.
-/
namespace VariableStore.Envelope

open Json (maxDepth)

/-- Records with fields of their own, whose names are `own`, and extra ones: those whose extra fields have other names
stand for themselves in store, and those are the ones that are read. -/
structure Recorded {α : Type} (own : List String) (extra : α → Table Json) (json : α → Json)
    (read : Json → Except Error α) (check : Json → Except DataFault Unit) : Prop where
  stands : ∀ {r : α} {d : Nat}, Table.Distinct (extra r) → (json r).Proper d → (∀ field ∈ extra r, field.1 ∉ own) →
    Stands read check d r (json r)
  apart : ∀ {j : Json} {r : α}, read j = .ok r → ∀ field ∈ extra r, field.1 ∉ own

theorem recorded_keyValue :
    Recorded ["key", "value"] KeyValue.extra KeyValue.toJson storedKeyValue checkKeyValue where
  stands := by
    intro r d distinct proper apart
    have front : Table.Distinct r.front := by simp [Table.Distinct, Table.keys, KeyValue.front]
    exact stands_fields_keyValue (Table.distinct_append_iff.mpr ⟨front, distinct, apart⟩) proper
  apart := by
    intro j r read field inside
    obtain ⟨fields, -, extra, -⟩ := KeyValue.ofJson?_ok (mapError_eq_ok.mp read)
    rw [extra] at inside
    exact not_mem_of_mem_others inside

theorem recorded_entity :
    Recorded ["id", "value", "type"] Entity.extra Entity.toJson storedEntity checkEntity where
  stands := by
    intro e d distinct proper apart
    have front : Table.Distinct e.front := by simp [Table.Distinct, Table.keys, Entity.front]
    exact stands_fields_entity (Table.distinct_append_iff.mpr ⟨front, distinct, apart⟩) proper
  apart := by
    intro j e read field inside
    obtain ⟨fields, -, extra⟩ := Entity.ofJson?_ok (mapError_eq_ok.mp read)
    rw [extra] at inside
    exact not_mem_of_mem_others inside

section

variable {α : Type} {own : List String} {extra : α → Table Json} {json : α → Json} {read : Json → Except Error α}
  {check : Json → Except DataFault Unit} {type owner : VariableType}

/-- A record comes back if its extra fields have names of their own. -/
theorem Recorded.keeps_iff (recorded : Recorded own extra json read check) {form : α → TypedValue} {r : α}
    (distinct : Table.Distinct (extra r)) (proper : (json r).Proper maxDepth) (legible : (json r).Legible)
    (faithful : ∀ s, form s = form r → s = r) (payload : (form r).toPayload = .json (json r))
    (encodes : encode type (.json (json r)) true = encodeRecord owner check (.json (json r)) true)
    (decodes : ∀ raw, decode type raw = decodeRecord owner read form raw) :
    Keeps type (form r) ↔ ∀ field ∈ extra r, field.1 ∉ own := by
  constructor
  · rintro ⟨b, -, back⟩
    rw [decodes] at back
    obtain ⟨j, s, -, found, eq⟩ := decodeRecord_ok back
    rw [faithful s eq.symm] at found
    exact recorded.apart found
  · intro apart
    exact keeps_record (recorded.stands distinct proper apart) legible payload encodes decodes

/-- A list of records comes back if the extra fields of each of them have names of their own. -/
theorem Recorded.keeps_list_iff (recorded : Recorded own extra json read check) {form : List α → TypedValue}
    {rs : List α} (distinct : ∀ r ∈ rs, Table.Distinct (extra r))
    (proper : (Json.array (rs.map json)).Proper maxDepth) (legible : (Json.array (rs.map json)).Legible)
    (faithful : ∀ ss, form ss = form rs → ss = rs)
    (payload : (form rs).toPayload = .list (rs.map fun r => .json (json r)))
    (encodes : ∀ p, encode type p true = encodeRecords owner check p true)
    (decodes : ∀ raw, decode type raw = decodeRecords owner read form raw) :
    Keeps type (form rs) ↔ ∀ r ∈ rs, ∀ field ∈ extra r, field.1 ∉ own := by
  have inner := List.forall_mem_map.mp ((Json.proper_array_iff _ (maxDepth - 1)).mp proper)
  constructor
  · rintro ⟨b, -, back⟩
    rw [decodes] at back
    obtain ⟨ss, eq, found⟩ := decodeRecords_ok back
    rw [faithful ss eq.symm] at found
    intro r inside
    obtain ⟨j, -, read⟩ := found r inside
    exact recorded.apart read
  · intro apart
    refine keeps_records (fun r inside => ?_) (List.forall_mem_map.mp ((Json.legible_array_iff _).mp legible)) payload
      encodes decodes
    exact recorded.stands (distinct r inside) (inner r inside) (apart r inside)

end

/-- Records and lists of records, none of them nesting too deep, are stored with validation and read as they were if and
only if no extra field has the name of a field that every record has. -/
theorem comes_back_iff_apart :
    (∀ r : KeyValue, Table.Distinct r.extra → r.toJson.Proper maxDepth → r.toJson.FloatsReadBack →
      ((∃ b, encode .keyValue (.json r.toJson) true = .ok b ∧ decode .keyValue b = .ok (some (.keyValue r))) ↔
        ∀ field ∈ r.extra, field.1 ∉ ["key", "value"])) ∧
    (∀ type ∈ [VariableType.entity, .enhancedEntity], ∀ e : Entity, Table.Distinct e.extra →
      e.toJson.Proper maxDepth → e.toJson.FloatsReadBack →
      ((∃ b, encode type (.json e.toJson) true = .ok b ∧ decode type b = .ok (some (.entity e))) ↔
        ∀ field ∈ e.extra, field.1 ∉ ["id", "value", "type"])) ∧
    (∀ rs : List KeyValue, (∀ r ∈ rs, Table.Distinct r.extra) → (Json.array (rs.map KeyValue.toJson)).Proper maxDepth →
      (Json.array (rs.map KeyValue.toJson)).FloatsReadBack →
      ((∃ b, encode .keyValueArray (.list (rs.map fun r => .json r.toJson)) true = .ok b ∧
          decode .keyValueArray b = .ok (some (.keyValueArray rs))) ↔
        ∀ r ∈ rs, ∀ field ∈ r.extra, field.1 ∉ ["key", "value"])) ∧
    (∀ type ∈ [VariableType.entityArray, .enhancedEntityArray], ∀ es : List Entity,
      (∀ e ∈ es, Table.Distinct e.extra) → (Json.array (es.map Entity.toJson)).Proper maxDepth →
      (Json.array (es.map Entity.toJson)).FloatsReadBack →
      ((∃ b, encode type (.list (es.map fun e => .json e.toJson)) true = .ok b ∧
          decode type b = .ok (some (.entityArray es))) ↔
        ∀ e ∈ es, ∀ field ∈ e.extra, field.1 ∉ ["id", "value", "type"])) := by
  refine ⟨?_, ?_, ?_, ?_⟩
  · intro r distinct proper floats
    show Keeps .keyValue (.keyValue r) ↔ _
    exact recorded_keyValue.keeps_iff distinct proper floats.legible (fun _ => TypedValue.keyValue.inj) rfl rfl
      fun _ => rfl
  · intro type single e distinct proper floats
    show Keeps type (.entity e) ↔ _
    simp only [List.mem_cons, List.not_mem_nil, or_false] at single
    obtain rfl | rfl := single
    all_goals
      exact recorded_entity.keeps_iff distinct proper floats.legible (fun _ => TypedValue.entity.inj) rfl rfl
        fun _ => rfl
  · intro rs distinct proper floats
    show Keeps .keyValueArray (.keyValueArray rs) ↔ _
    exact recorded_keyValue.keeps_list_iff distinct proper floats.legible (fun _ => TypedValue.keyValueArray.inj) rfl
      (fun _ => rfl) fun _ => rfl
  · intro type list es distinct proper floats
    show Keeps type (.entityArray es) ↔ _
    simp only [List.mem_cons, List.not_mem_nil, or_false] at list
    obtain rfl | rfl := list
    all_goals
      exact recorded_entity.keeps_list_iff distinct proper floats.legible (fun _ => TypedValue.entityArray.inj) rfl
        (fun _ => rfl) fun _ => rfl

def noted : KeyValue := ⟨"k", .null, [("note", .array [])]⟩

def overlaid : KeyValue := ⟨"k", .null, [("key", .string "other")]⟩

def weighed : Entity := ⟨"7", "x", "Host", [("weight", .number (.real oneAndHalf))]⟩

theorem comes_back_iff_apart_of_noted :
    (∃ b, encode .keyValue (.json noted.toJson) true = .ok b ∧ decode .keyValue b = .ok (some (.keyValue noted))) ∧
    (¬∃ b, encode .keyValue (.json overlaid.toJson) true = .ok b ∧
      decode .keyValue b = .ok (some (.keyValue overlaid))) ∧
    (∃ b, encode .enhancedEntity (.json weighed.toJson) true = .ok b ∧
      decode .enhancedEntity b = .ok (some (.entity weighed))) ∧
    (¬∃ b, encode .keyValueArray (.list [.json noted.toJson, .json overlaid.toJson]) true = .ok b ∧
      decode .keyValueArray b = .ok (some (.keyValueArray [noted, overlaid]))) ∧
    ∃ b, encode .entityArray (.list [.json weighed.toJson]) true = .ok b ∧
      decode .entityArray b = .ok (some (.entityArray [weighed])) := by
  obtain ⟨keyValue, entity, keyValues, entities⟩ := comes_back_iff_apart
  have notedForm : noted.toJson = .object [("key", .string "k"), ("value", .null), ("note", .array [])] := rfl
  have overlaidForm : overlaid.toJson = .object [("key", .string "other"), ("value", .null)] := rfl
  have weighedForm : weighed.toJson = .object [("id", .string "7"), ("value", .string "x"), ("type", .string "Host"),
      ("weight", .number (.real oneAndHalf))] := rfl
  have proper : ∀ j ∈ [noted.toJson, overlaid.toJson, weighed.toJson], ∀ d, 2 ≤ d → j.Proper d := by
    intro j inside d deep
    refine ⟨?_, Nat.le_trans ?_ deep⟩ <;>
    · simp only [List.mem_cons, List.not_mem_nil, or_false] at inside
      obtain rfl | rfl | rfl := inside <;>
      simp [notedForm, overlaidForm, weighedForm, Table.Distinct, Table.keys, Json.depth, Json.fieldDepth,
        Json.itemDepth]
  have floats : ∀ j ∈ [noted.toJson, overlaid.toJson, weighed.toJson], j.FloatsReadBack := by
    have same : Json.Number.ofWord? (Json.Number.text (.real oneAndHalf)) = some (.real oneAndHalf) := by
      decide +kernel
    intro j inside x number
    simp only [List.mem_cons, List.not_mem_nil, or_false] at inside
    obtain rfl | rfl | rfl := inside
    · simp [notedForm] at number
    · simp [overlaidForm] at number
    · simp [weighedForm] at number
      exact number ▸ same
  refine ⟨?_, ?_, ?_, ?_, ?_⟩
  · refine (keyValue noted ?_ (proper _ (by simp) _ (by decide)) (floats _ (by simp))).mpr ?_ <;>
    simp [noted, Table.Distinct, Table.keys]
  · refine (not_congr (keyValue overlaid ?_ (proper _ (by simp) _ (by decide)) (floats _ (by simp)))).mpr ?_ <;>
    simp [overlaid, Table.Distinct, Table.keys]
  · refine (entity _ (by simp) weighed ?_ (proper _ (by simp) _ (by decide)) (floats _ (by simp))).mpr ?_ <;>
    simp [weighed, Table.Distinct, Table.keys]
  · have inner : ∀ j ∈ [noted, overlaid].map KeyValue.toJson, j ∈ [noted.toJson, overlaid.toJson, weighed.toJson] := by
      simp
    refine (not_congr (keyValues [noted, overlaid] ?_ ?_ ?_)).mpr ?_
    · simp [noted, overlaid, Table.Distinct, Table.keys]
    · exact (Json.proper_array_iff _ 126).mpr fun j inside => proper j (inner j inside) 126 (by decide)
    · exact (Json.floatsReadBack_array_iff _).mpr fun j inside => floats j (inner j inside)
    · simp [overlaid]
  · have inner : ∀ j ∈ [weighed].map Entity.toJson, j ∈ [noted.toJson, overlaid.toJson, weighed.toJson] := by
      simp
    refine (entities _ (by simp) [weighed] ?_ ?_ ?_).mpr ?_
    · simp [weighed, Table.Distinct, Table.keys]
    · exact (Json.proper_array_iff _ 126).mpr fun j inside => proper j (inner j inside) 126 (by decide)
    · exact (Json.floatsReadBack_array_iff _).mpr fun j inside => floats j (inner j inside)
    · simp [weighed]

end VariableStore.Envelope
