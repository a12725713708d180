import VariableStore.Envelope
import VariableStore.Proofs.Envelope.Binary
import VariableStore.Proofs.Json.Image
import VariableStore.Proofs.Json.Roundtrip
import VariableStore.Proofs.Records
/-!
What can be read can be stored again. A value that was read from bytes, however an older writer laid them out,
passes validation as a payload of its type, and the bytes under which it is then stored are read as that value.
-/
namespace VariableStore.Envelope

open Json (maxDepth)

theorem storedJson_ok {type : VariableType} {raw : Bytes} {j : Json} (h : storedJson type raw = .ok j) :
    j.Proper maxDepth := by
  unfold storedJson at h
  split at h
  · next read =>
    cases h
    exact Json.proper_of_ofBytes? read
  · cases h

theorem storedJson_bytes (type : VariableType) {j : Json} (proper : j.Proper maxDepth) (legible : j.Legible) :
    storedJson type j.bytes = .ok j := by
  rw [storedJson, Json.ofBytes?_bytes proper legible]

/-- The items of a stored list nest less deep than the list. -/
theorem storedItems_ok {type : VariableType} {raw : Bytes} {items : List Json}
    (h : storedItems type raw = .ok (some items)) : ∀ j ∈ items, j.Proper (maxDepth - 1) := by
  obtain ⟨j, read, h⟩ := bind_eq_ok.mp h
  have proper := storedJson_ok read
  split at h
  · cases h
  · cases h
    exact (Json.proper_array_iff items (maxDepth - 1)).mp proper
  · cases h

theorem storedItems_bytes (type : VariableType) {items : List Json}
    (proper : ∀ j ∈ items, j.Proper (maxDepth - 1)) (legible : ∀ j ∈ items, j.Legible) :
    storedItems type (Json.array items).bytes = .ok (some items) := by
  have whole : (Json.array items).Proper maxDepth := (Json.proper_array_iff items (maxDepth - 1)).mpr proper
  rw [storedItems, storedJson_bytes type whole ((Json.legible_array_iff items).mpr legible)]
  rfl

/-- A record that `j` stands for in store: validation lets `j` through, and reading it gives the record. -/
structure Stands {α : Type} (read : Json → Except Error α) (check : Json → Except DataFault Unit) (d : Nat)
    (record : α) (j : Json) : Prop where
  object : ∃ fields, j = .object fields
  proper : j.Proper d
  checked : check j = .ok ()
  back : read j = .ok record

/-- A record stands for itself where no two of its fields have one name. -/
theorem stands_fields_keyValue {r : KeyValue} {d : Nat} (distinct : Table.Distinct r.fields)
    (proper : r.toJson.Proper d) : Stands storedKeyValue checkKeyValue d r r.toJson := by
  rw [KeyValue.toJson_eq distinct] at proper ⊢
  exact ⟨⟨r.fields, rfl⟩, proper, rfl, mapError_eq_ok.mpr (KeyValue.ofJson?_fields distinct)⟩

theorem stands_fields_entity {e : Entity} {d : Nat} (distinct : Table.Distinct e.fields)
    (proper : e.toJson.Proper d) : Stands storedEntity checkEntity d e e.toJson := by
  rw [Entity.toJson_eq distinct] at proper ⊢
  have back := Entity.ofJson?_fields distinct
  have checked : checkEntity (.object e.fields) = .ok () := by
    have present : checkFields ["id", "value", "type"] (.object e.fields) = .ok e.fields := rfl
    rw [checkEntity, present, back]
    rfl
  exact ⟨⟨e.fields, rfl⟩, proper, checked, mapError_eq_ok.mpr back⟩

theorem stands_keyValue {j : Json} {r : KeyValue} {d : Nat} (h : storedKeyValue j = .ok r)
    (proper : j.Proper d) : Stands storedKeyValue checkKeyValue d r r.toJson := by
  have object := KeyValue.proper_of_ofJson? (mapError_eq_ok.mp h) proper
  have distinct : Table.Distinct r.fields := object.names r.fields (by simp)
  exact stands_fields_keyValue distinct (KeyValue.toJson_eq distinct ▸ object)

theorem stands_entity {j : Json} {e : Entity} {d : Nat} (h : storedEntity j = .ok e) (proper : j.Proper d) :
    Stands storedEntity checkEntity d e e.toJson := by
  have object := Entity.proper_of_ofJson? (mapError_eq_ok.mp h) proper
  have distinct : Table.Distinct e.fields := object.names e.fields (by simp)
  exact stands_fields_entity distinct (Entity.toJson_eq distinct ▸ object)

section Records

variable {α : Type} {read : Json → Except Error α} {check : Json → Except DataFault Unit} {d : Nat}

theorem recordJson_stands (type : VariableType) {record : α} {j : Json} (h : Stands read check d record j) :
    recordJson type check (.json j) true = .ok j := by
  have checked : (check j).mapError (Error.invalidData type) = .ok () := mapError_eq_ok.mpr h.checked
  simp only [recordJson, Payload.toJson?, checked, if_true, ok_bind]
  rfl

theorem encodeRecord_stands (type : VariableType) {record : α} {j : Json} (h : Stands read check d record j) :
    encodeRecord type check (.json j) true = .ok j.bytes := by
  have json := recordJson_stands type h
  obtain ⟨fields, rfl⟩ := h.object
  rw [encodeRecord, json]
  rfl

theorem decodeRecord_stands (type : VariableType) (form : α → TypedValue) {record : α} {j : Json}
    (h : Stands read check maxDepth record j) (legible : j.Legible) :
    decodeRecord type read form j.bytes = .ok (some (form record)) := by
  have stored := storedJson_bytes type h.proper legible
  have back := h.back
  obtain ⟨fields, rfl⟩ := h.object
  simp only [decodeRecord, stored, back, ok_bind]
  rfl

theorem encodeRecords_stands (type : VariableType) {json : α → Json} {records : List α}
    (h : ∀ r ∈ records, Stands read check d r (json r)) :
    encodeRecords type check (.list (records.map fun r => .json (json r))) true =
      .ok (Json.array (records.map json)).bytes := by
  have items : (records.map fun r => Payload.json (json r)).mapM (fun item => recordJson type check item true) =
      .ok (records.map json) := mapM_map_ok fun r hr => recordJson_stands type (h r hr)
  simp only [encodeRecords, elements, Payload.elements?, Payload.isNull, ok_bind, items]
  rfl

theorem decodeRecords_stands (type : VariableType) (form : List α → TypedValue) {json : α → Json}
    {records : List α} (h : ∀ r ∈ records, Stands read check (maxDepth - 1) r (json r))
    (legible : ∀ r ∈ records, (json r).Legible) :
    decodeRecords type read form (Json.array (records.map json)).bytes = .ok (some (form records)) := by
  have stored : storedItems type (Json.array (records.map json)).bytes = .ok (some (records.map json)) := by
    apply storedItems_bytes type
    · exact List.forall_mem_map.mpr fun r hr => (h r hr).proper
    · exact List.forall_mem_map.mpr legible
  have back : (records.map json).mapM read = .ok (records.map id) := mapM_map_ok fun r hr => (h r hr).back
  rw [List.map_id] at back
  simp only [decodeRecords, stored, back, ok_bind]
  rfl

theorem decodeRecord_ok {type : VariableType} {form : α → TypedValue} {raw : Bytes} {v : TypedValue}
    (h : decodeRecord type read form raw = .ok (some v)) :
    ∃ j record, j.Proper maxDepth ∧ read j = .ok record ∧ v = form record := by
  obtain ⟨j, stored, h⟩ := bind_eq_ok.mp h
  split at h
  · cases h
  · obtain ⟨record, back, eq⟩ := bind_eq_ok.mp h
    cases eq
    exact ⟨_, record, storedJson_ok stored, back, rfl⟩

theorem decodeRecords_ok {type : VariableType} {form : List α → TypedValue} {raw : Bytes} {v : TypedValue}
    (h : decodeRecords type read form raw = .ok (some v)) : ∃ records, v = form records ∧
      ∀ record ∈ records, ∃ j, j.Proper (maxDepth - 1) ∧ read j = .ok record := by
  obtain ⟨items?, stored, h⟩ := bind_eq_ok.mp h
  split at h
  · cases h
  · next items =>
    obtain ⟨records, back, eq⟩ := bind_eq_ok.mp h
    cases eq
    refine ⟨records, rfl, fun record inside => ?_⟩
    obtain ⟨j, hj, read⟩ := mapM_ok_mem back record inside
    exact ⟨j, storedItems_ok stored j hj, read⟩

/-- What is read as a record is one. -/
theorem form_of_decodeRecord {type : VariableType} {form : α → TypedValue} {raw : Bytes} {v : TypedValue}
    (h : decodeRecord type read form raw = .ok (some v)) : ∃ record, v = form record := by
  obtain ⟨-, record, -, -, eq⟩ := decodeRecord_ok h
  exact ⟨record, eq⟩

theorem form_of_decodeRecords {type : VariableType} {form : List α → TypedValue} {raw : Bytes} {v : TypedValue}
    (h : decodeRecords type read form raw = .ok (some v)) : ∃ records, v = form records := by
  obtain ⟨records, eq, -⟩ := decodeRecords_ok h
  exact ⟨records, eq⟩

end Records

/-- A list of texts and nulls has no depth and no numbers. -/
theorem storedItems_texts (type : VariableType) (texts : List (Option String)) :
    storedItems type (Json.array (texts.map TypedValue.optionalText)).bytes =
      .ok (some (texts.map TypedValue.optionalText)) := by
  apply storedItems_bytes type
  · refine List.forall_mem_map.mpr fun text _ => ?_
    cases text with
    | none => exact Json.Proper.null _
    | some s => exact Json.Proper.string _ s
  · refine List.forall_mem_map.mpr fun text _ n inside => ?_
    cases text <;> simp [TypedValue.optionalText] at inside

theorem binaryTexts_texts (texts : List (Option String)) :
    binaryTexts (Json.array (texts.map TypedValue.optionalText)).bytes = .ok (some texts) :=
  binaryTexts_some_iff.mpr (storedItems_texts .binaryArray texts)

theorem encodeStringArray_texts (texts : List (Option String)) :
    encodeStringArray (.ofOptions .text texts) = .ok (Json.array (texts.map TypedValue.optionalText)).bytes := by
  have items : (texts.map fun text => (text.map Payload.text).getD Payload.null).mapM elementText =
      .ok (texts.map id) := mapM_map_ok fun text _ => by cases text <;> rfl
  rw [List.map_id] at items
  simp only [encodeStringArray, Payload.ofOptions, elements, Payload.elements?, Payload.isNull, ok_bind, items]
  rfl

theorem decodeStringArray_texts (texts : List (Option String)) :
    decodeStringArray (Json.array (texts.map TypedValue.optionalText)).bytes =
      .ok (some (.stringArray texts)) := by
  have back : (texts.map TypedValue.optionalText).map storedText? = texts := by
    rw [List.map_map]
    exact List.map_id'' (fun text => by cases text <;> rfl) texts
  simp only [decodeStringArray, storedItems_texts, ok_bind, Option.map_some, back]
  rfl

theorem encodeBinaryArray_bytes (items : List (Option Bytes)) :
    encodeBinaryArray (.ofOptions .bytes items) true =
      .ok (Json.array ((items.map (Option.map Base64.encode)).map TypedValue.optionalText)).bytes :=
  encodeBinaryArray_of_lists (lists_ofOptions items) true

theorem decodeBinaryArray_bytes (items : List (Option Bytes)) :
    decodeBinaryArray (Json.array ((items.map (Option.map Base64.encode)).map TypedValue.optionalText)).bytes =
      .ok (some (.binaryArray items)) :=
  decodeBinaryArray_some_iff.mpr ⟨items, rfl, binaryTexts_texts _⟩

theorem decodeString_bytes (s : String) : decodeString (Json.string s).bytes = .ok (some (.string s)) := by
  have read := Json.ofBytes?_bytes (Json.Proper.string maxDepth s) (by intro n inside; simp at inside)
  rw [decodeString, read]
  rfl

theorem decodeString_ok {raw : Bytes} {v : TypedValue} (h : decodeString raw = .ok (some v)) :
    ∃ s, v = .string s := by
  unfold decodeString at h
  split at h
  · cases h
  · cases h
    exact ⟨_, rfl⟩
  · split at h
    · cases h
      exact ⟨_, rfl⟩
    · cases h

theorem decodeStringArray_ok {raw : Bytes} {v : TypedValue} (h : decodeStringArray raw = .ok (some v)) :
    ∃ texts, v = .stringArray texts := by
  obtain ⟨items?, -, h⟩ := bind_eq_ok.mp h
  cases items? with
  | none => cases h
  | some items =>
    cases h
    exact ⟨_, rfl⟩

theorem decodeBinaryArray_ok {raw : Bytes} {v : TypedValue} (h : decodeBinaryArray raw = .ok (some v)) :
    ∃ items, v = .binaryArray items := by
  obtain ⟨items, eq, -⟩ := decodeBinaryArray_some_iff.mp h
  exact ⟨items, eq⟩

/-- A value can be stored under a type and is then read back. -/
def Keeps (type : VariableType) (v : TypedValue) : Prop :=
  ∃ b, encode type v.toPayload true = .ok b ∧ decode type b = .ok (some v)

/-- The value of one record, under a type that stores records so. -/
theorem keeps_record {α : Type} {type owner : VariableType} {read : Json → Except Error α}
    {check : Json → Except DataFault Unit} {form : α → TypedValue} {record : α} {j : Json}
    (h : Stands read check maxDepth record j) (legible : j.Legible) (payload : (form record).toPayload = .json j)
    (encodes : encode type (.json j) true = encodeRecord owner check (.json j) true)
    (decodes : ∀ raw, decode type raw = decodeRecord owner read form raw) : Keeps type (form record) := by
  refine ⟨j.bytes, ?_, ?_⟩
  · rw [payload, encodes, encodeRecord_stands owner h]
  · rw [decodes, decodeRecord_stands owner form h legible]

/-- The value of a list of records, under a type that stores records so. -/
theorem keeps_records {α : Type} {type owner : VariableType} {read : Json → Except Error α}
    {check : Json → Except DataFault Unit} {form : List α → TypedValue} {json : α → Json} {records : List α}
    (h : ∀ r ∈ records, Stands read check (maxDepth - 1) r (json r)) (legible : ∀ r ∈ records, (json r).Legible)
    (payload : (form records).toPayload = .list (records.map fun r => .json (json r)))
    (encodes : ∀ p, encode type p true = encodeRecords owner check p true)
    (decodes : ∀ raw, decode type raw = decodeRecords owner read form raw) : Keeps type (form records) := by
  refine ⟨(Json.array (records.map json)).bytes, ?_, ?_⟩
  · rw [payload, encodes, encodeRecords_stands owner h]
  · rw [decodes, decodeRecords_stands owner form h legible]

theorem keeps_entity {type : VariableType} {raw : Bytes} {v : TypedValue}
    (read : decodeRecord .entity storedEntity .entity raw = .ok (some v))
    (floats : ∀ j, v.toJson? = some j → j.FloatsReadBack)
    (encodes : ∀ p, encode type p true = encodeRecord .entity checkEntity p true)
    (decodes : ∀ raw, decode type raw = decodeRecord .entity storedEntity .entity raw) : Keeps type v := by
  obtain ⟨j, e, proper, back, rfl⟩ := decodeRecord_ok read
  exact keeps_record (stands_entity back proper) (floats _ rfl).legible rfl (encodes _) decodes

theorem keeps_entityArray {type : VariableType} {raw : Bytes} {v : TypedValue}
    (read : decodeRecords .entityArray storedEntity .entityArray raw = .ok (some v))
    (floats : ∀ j, v.toJson? = some j → j.FloatsReadBack)
    (encodes : ∀ p, encode type p true = encodeRecords .entityArray checkEntity p true)
    (decodes : ∀ raw, decode type raw = decodeRecords .entityArray storedEntity .entityArray raw) :
    Keeps type v := by
  obtain ⟨es, rfl, back⟩ := decodeRecords_ok read
  have legible := (Json.legible_array_iff _).mp (floats _ rfl).legible
  refine keeps_records (fun e he => ?_) (List.forall_mem_map.mp legible) rfl encodes decodes
  obtain ⟨j, proper, eq⟩ := back e he
  exact stands_entity eq proper

/-- What is read from any bytes under a type can be stored under it with validation, and is then read back,
if its binary64 numbers are read back from their texts. -/
theorem keeps_of_decode {type : VariableType} {raw : Bytes} {v : TypedValue}
    (read : decode type raw = .ok (some v)) (floats : ∀ j, v.toJson? = some j → j.FloatsReadBack) :
    ∃ b, encode type v.toPayload true = .ok b ∧ decode type b = .ok (some v) := by
  show Keeps type v
  cases type with
  | binary =>
    obtain ⟨b, rfl, other⟩ := decodeBinary_ok read
    refine ⟨_, encodeBinary_bytes b true, ?_⟩
    rw [decode, decodeBinary_encode, if_neg other]
  | binaryArray =>
    obtain ⟨items, rfl⟩ := decodeBinaryArray_ok read
    exact ⟨_, encodeBinaryArray_bytes items, decodeBinaryArray_bytes items⟩
  | keyValue =>
    obtain ⟨j, r, proper, back, rfl⟩ := decodeRecord_ok read
    exact keeps_record (stands_keyValue back proper) (floats _ rfl).legible rfl rfl fun _ => rfl
  | keyValueArray =>
    obtain ⟨rs, rfl, back⟩ := decodeRecords_ok read
    have legible := (Json.legible_array_iff _).mp (floats _ rfl).legible
    refine keeps_records (fun r hr => ?_) (List.forall_mem_map.mp legible) rfl (fun _ => rfl) fun _ => rfl
    obtain ⟨j, proper, eq⟩ := back r hr
    exact stands_keyValue eq proper
  | string =>
    obtain ⟨s, rfl⟩ := decodeString_ok read
    exact ⟨_, rfl, decodeString_bytes s⟩
  | stringArray =>
    obtain ⟨texts, rfl⟩ := decodeStringArray_ok read
    exact ⟨_, encodeStringArray_texts texts, decodeStringArray_texts texts⟩
  | entity | enhancedEntity => exact keeps_entity read floats (fun _ => rfl) fun _ => rfl
  | entityArray | enhancedEntityArray => exact keeps_entityArray read floats (fun _ => rfl) fun _ => rfl
  | custom name =>
    cases read
    exact ⟨raw, rfl, rfl⟩

def oneAndHalf : Binary64 := ⟨false, 6755399441055744, 1022, by decide, by decide, .inr (by decide)⟩

/-- An entity with a number for its id and an extra field, as somebody else may have written it. -/
def scored : Json :=
  .object [("score", .number (.real oneAndHalf)), ("type", .string "Host"),
    ("id", .number (.natural 7 (by decide))), ("value", .string "x")]

theorem keeps_scored : ∃ v b, decode .enhancedEntity scored.bytes = .ok (some v) ∧
    encode .enhancedEntity v.toPayload true = .ok b ∧ decode .enhancedEntity b = .ok (some v) := by
  have same : Json.Number.ofWord? (Json.Number.text (.real oneAndHalf)) = some (.real oneAndHalf) := by
    decide +kernel
  have floats : scored.FloatsReadBack := by
    intro x inside
    simp [scored] at inside
    exact inside ▸ same
  have proper : scored.Proper Json.maxDepth := by
    refine (Json.proper_object_iff _ 126).mpr ⟨by simp [Table.Distinct, Table.keys], ?_⟩
    simp [Json.Proper.string, Json.Proper.number]
  have read : decode .enhancedEntity scored.bytes =
      .ok (some (.entity ⟨"7", "x", "Host", [("score", .number (.real oneAndHalf))]⟩)) := by
    rw [decode, decodeRecord, storedJson_bytes _ proper floats.legible]
    rfl
  have kept := keeps_of_decode read (by
    intro j json x inside
    cases json
    simp [Entity.toJson, Entity.fields, Table.insertAll, Table.insert] at inside
    exact inside ▸ same)
  obtain ⟨b, stored, back⟩ := kept
  exact ⟨_, b, read, stored, back⟩

end VariableStore.Envelope
