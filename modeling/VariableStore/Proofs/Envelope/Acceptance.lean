import VariableStore.Envelope
import VariableStore.Proofs.Json.Roundtrip
import VariableStore.Proofs.Records.Acceptance
/-!
What validation accepts can be read. The encoder of a record type lets a payload through if the records in its JSON
view pass their check, and stores the compact text of the view; the reader asks the same of the text that it reads. So
the two agree, as long as the view nests no deeper than a text that is read may.
-/
namespace VariableStore

namespace Payload

/-- The views of payloads are those of each. -/
theorem itemsToJson?_eq_some_iff {items : List Payload} {js : List Json} :
    itemsToJson? items = some js ↔ List.Forall₂ (fun item j => item.toJson? = some j) items js := by
  induction items generalizing js with
  | nil => cases js <;> simp [itemsToJson?]
  | cons item rest ih =>
    rw [itemsToJson?, List.forall₂_cons_left_iff]
    simp only [← ih]
    cases item.toJson? with
    | none => simp
    | some j => cases itemsToJson? rest <;> simp [eq_comm]

theorem itemsToJson?_json (items : List Json) : itemsToJson? (items.map json) = some items := by
  induction items with
  | nil => rfl
  | cons j rest ih => rw [List.map_cons, itemsToJson?, toJson?, ih]

/-- The JSON view of a list is the array of the views of its elements. -/
theorem toJson?_of_elements? {p : Payload} {items : List Payload} (h : p.elements? = some items) :
    p.toJson? = (itemsToJson? items).map .array := by
  cases p with
  | list given =>
    cases h
    rfl
  | json j =>
    cases j with
    | array given =>
      cases h
      rw [itemsToJson?_json]
      rfl
    | _ => cases h
  | _ => cases h

theorem elements?_of_toJson? {p : Payload} {items : List Json} (h : p.toJson? = some (.array items)) :
    ∃ given, p.elements? = some given := by
  cases p with
  | list given => exact ⟨given, rfl⟩
  | json j =>
    cases h
    exact ⟨_, rfl⟩
  | _ => cases h

end Payload

namespace Envelope

open Json (maxDepth)

/-- A check that lets through what can be read once it went through its text. -/
def Agrees {α : Type} (check : Json → Except DataFault Unit) (read : Json → Except Error α) : Prop :=
  ∀ {j : Json} {d : Nat}, j.Proper d → (check j = .ok () ↔ ∃ a, read j.reread = .ok a)

theorem agrees_keyValue : Agrees checkKeyValue storedKeyValue := by
  intro j d proper
  rw [checkKeyValue_ok_iff proper, ← KeyValue.ofJson?_reread_ok_iff]
  exact exists_congr fun _ => mapError_eq_ok.symm

theorem agrees_entity : Agrees checkEntity storedEntity := by
  intro j d proper
  rw [checkEntity_ok_iff, ← Entity.ofJson?_reread_ok_iff]
  exact exists_congr fun _ => mapError_eq_ok.symm

section Writing

variable {type : VariableType} {check : Json → Except DataFault Unit} {p : Payload} {j : Json} {b : Bytes} {e : Error}

theorem recordJson_ok_iff : recordJson type check p true = .ok j ↔ p.toJson? = some j ∧ check j = .ok () := by
  unfold recordJson
  cases p.toJson? with
  | none => exact ⟨(nomatch ·), (nomatch ·.1)⟩
  | some k =>
    simp only [if_true, bind_eq_ok, mapError_eq_ok, Option.some.injEq]
    constructor
    · rintro ⟨u, checked, eq⟩
      cases eq
      exact ⟨rfl, checked⟩
    · rintro ⟨rfl, checked⟩
      exact ⟨(), checked, rfl⟩

theorem recordJson_error {validate : Bool} (h : recordJson type check p validate = .error e) :
    ∃ fault, e = .invalidData type fault := by
  unfold recordJson at h
  split at h
  · cases h
    exact ⟨_, rfl⟩
  · next k _ =>
    cases validate with
    | false => cases h
    | true =>
      cases checked : check k with
      | error fault =>
        rw [if_pos rfl, checked] at h
        cases h
        exact ⟨fault, rfl⟩
      | ok u =>
        rw [if_pos rfl, checked] at h
        cases h

/-- A single record is stored as the text of its JSON view, if that passes the check. -/
theorem encodeRecord_ok_iff (nonnull : p.isNull = false) :
    encodeRecord type check p true = .ok b ↔ ∃ j, p.toJson? = some j ∧ check j = .ok () ∧ b = j.bytes := by
  rw [encodeRecord, nonnull, if_neg (by decide), bind_eq_ok]
  simp only [recordJson_ok_iff, and_assoc]
  exact exists_congr fun j => and_congr_right fun _ => and_congr_right fun _ =>
    ⟨fun h => (Except.ok.inj h).symm, fun h => congrArg Except.ok h.symm⟩

theorem encodeRecord_error {validate : Bool} (h : encodeRecord type check p validate = .error e) :
    ∃ fault, e = .invalidData type fault := by
  unfold encodeRecord at h
  split at h
  · cases h
    exact ⟨_, rfl⟩
  · rcases bind_eq_error.mp h with record | ⟨_, -, h⟩
    · exact recordJson_error record
    · cases h

/-- The records of a list are stored as their views, if each passes the check. -/
theorem recordJsons_ok_iff {items : List Payload} {js : List Json} :
    (items.mapM fun item => recordJson type check item true) = .ok js ↔
      Payload.itemsToJson? items = some js ∧ ∀ j ∈ js, check j = .ok () := by
  simp only [mapM_eq_ok_iff, Payload.itemsToJson?_eq_some_iff, recordJson_ok_iff]
  constructor
  · intro stored
    have turned := List.forall₂_and_left _ _ |>.mp (stored.imp fun _ _ h => h.symm).flip
    exact ⟨turned.2.flip, turned.1⟩
  · rintro ⟨views, all⟩
    have turned := List.forall₂_and_left _ _ |>.mpr ⟨all, views.flip⟩
    exact turned.flip.imp fun _ _ h => h.symm

theorem elements_ok_iff {items : List Payload} : elements type p = .ok items ↔ p.elements? = some items := by
  unfold elements
  cases p.elements? <;> simp

/-- A list of records is stored as the text of its JSON view, if each record in it passes the check. -/
theorem encodeRecords_ok_iff (nonnull : p.isNull = false) : encodeRecords type check p true = .ok b ↔
    ∃ js, p.toJson? = some (.array js) ∧ (∀ j ∈ js, check j = .ok ()) ∧ b = (Json.array js).bytes := by
  rw [encodeRecords, nonnull, if_neg (by decide)]
  simp only [bind_eq_ok, elements_ok_iff, recordJsons_ok_iff]
  constructor
  · rintro ⟨items, shape, js, ⟨views, all⟩, eq⟩
    cases eq
    refine ⟨js, ?_, all, rfl⟩
    rw [Payload.toJson?_of_elements? shape, views, Option.map_some]
  · rintro ⟨js, view, all, rfl⟩
    obtain ⟨items, shape⟩ := Payload.elements?_of_toJson? view
    rw [Payload.toJson?_of_elements? shape, Option.map_eq_some_iff] at view
    obtain ⟨_, views, ⟨⟩⟩ := view
    exact ⟨items, shape, js, ⟨views, all⟩, rfl⟩

theorem encodeRecords_error {validate : Bool} (h : encodeRecords type check p validate = .error e) :
    ∃ fault, e = .invalidData type fault := by
  unfold encodeRecords at h
  split at h
  · cases h
  rcases bind_eq_error.mp h with shape | ⟨items, -, h⟩
  · unfold elements at shape
    split at shape
    · cases shape
    · cases shape
      exact ⟨_, rfl⟩
  rcases bind_eq_error.mp h with records | ⟨_, -, h⟩
  · obtain ⟨item, -, record⟩ := mapM_error_mem records
    exact recordJson_error record
  · cases h

/-- A list is no key and value record, so refusing it at once makes no difference. -/
theorem encodeKeyValue_ok_iff (nonnull : p.isNull = false) : encodeKeyValue p true = .ok b ↔
    ∃ j, p.toJson? = some j ∧ checkKeyValue j = .ok () ∧ b = j.bytes := by
  rw [encodeKeyValue, Bool.true_and]
  cases shape : p.elements? with
  | none =>
    rw [Option.isSome_none, if_neg (by decide)]
    exact encodeRecord_ok_iff nonnull
  | some items =>
    rw [Option.isSome_some, if_pos rfl, Payload.toJson?_of_elements? shape]
    refine ⟨(nomatch ·), ?_⟩
    rintro ⟨j, view, checked, -⟩
    obtain ⟨js, -, rfl⟩ := Option.map_eq_some_iff.mp view
    cases checked

theorem encodeKeyValue_error {validate : Bool} (h : encodeKeyValue p validate = .error e) :
    ∃ fault, e = .invalidData .keyValue fault := by
  unfold encodeKeyValue at h
  split at h
  · cases h
    exact ⟨_, rfl⟩
  · exact encodeRecord_error h

end Writing

section Reading

variable {α : Type} {type : VariableType} {check : Json → Except DataFault Unit} {read : Json → Except Error α}
  {j : Json}

theorem storedJson_reread (type : VariableType) (proper : j.Proper maxDepth) :
    storedJson type j.bytes = .ok j.reread := by
  rw [storedJson, Json.ofBytes?_bytes_eq proper.names, if_pos proper.depth_le]

theorem storedJson_deep (type : VariableType) (names : j.Named) (deep : maxDepth < j.depth) :
    storedJson type j.bytes = .error (.serialization (.notJson type)) := by
  rw [storedJson, Json.ofBytes?_bytes_eq names, if_neg (Nat.not_le.mpr deep)]

/-- The text of a record is read if the record passes the check. -/
theorem decodeRecord_some_iff (agrees : Agrees check read) (null : ∀ a, read .null ≠ .ok a) (form : α → TypedValue)
    (proper : j.Proper maxDepth) :
    (∃ v, decodeRecord type read form j.bytes = .ok (some v)) ↔ check j = .ok () := by
  rw [agrees proper, decodeRecord, storedJson_reread type proper, ok_bind]
  split
  · next none =>
    rw [none]
    exact ⟨fun ⟨_, h⟩ => (nomatch h), fun ⟨a, h⟩ => absurd h (null a)⟩
  · constructor
    · rintro ⟨v, h⟩
      obtain ⟨a, value, -⟩ := bind_eq_ok.mp h
      exact ⟨a, value⟩
    · rintro ⟨a, value⟩
      exact ⟨form a, bind_eq_ok.mpr ⟨a, value, rfl⟩⟩

/-- The text of a list of records is read if each record in it passes the check. -/
theorem decodeRecords_some_iff (agrees : Agrees check read) (form : List α → TypedValue) (proper : j.Proper maxDepth) :
    (∃ v, decodeRecords type read form j.bytes = .ok (some v)) ↔
      ∃ js, j = .array js ∧ ∀ j ∈ js, check j = .ok () := by
  have stored := storedJson_reread type proper
  cases j with
  | array items =>
    have list : storedItems type (Json.array items).bytes = .ok (some (items.map Json.reread)) := by
      rw [storedItems, stored, Json.reread_array]
      rfl
    have inner : ∀ j ∈ items, j.Proper (maxDepth - 1) := (Json.proper_array_iff items (maxDepth - 1)).mp proper
    have all : (∃ rs, (items.map Json.reread).mapM read = .ok rs) ↔ ∀ j ∈ items, check j = .ok () := by
      rw [mapM_ok_iff, List.forall_mem_map]
      exact forall₂_congr fun j hj => (agrees (inner j hj)).symm
    simp only [Json.array.injEq, exists_eq_left']
    rw [← all, decodeRecords, list, ok_bind]
    constructor
    · rintro ⟨v, h⟩
      obtain ⟨rs, value, -⟩ := bind_eq_ok.mp h
      exact ⟨rs, value⟩
    · rintro ⟨rs, value⟩
      exact ⟨form rs, bind_eq_ok.mpr ⟨rs, value, rfl⟩⟩
  | object fields =>
    rw [decodeRecords, storedItems, stored, Json.reread_object]
    exact ⟨fun ⟨_, h⟩ => (nomatch h), fun ⟨_, h, _⟩ => (nomatch h)⟩
  | _ =>
    rw [decodeRecords, storedItems, stored]
    exact ⟨fun ⟨_, h⟩ => (nomatch h), fun ⟨_, h, _⟩ => (nomatch h)⟩

end Reading

/-- The types whose values are records or lists of records. -/
def recordTypes : List VariableType :=
  [.keyValue, .keyValueArray, .entity, .entityArray, .enhancedEntity, .enhancedEntityArray]

def Accepted : VariableType → Json → Prop
  | .keyValue, j => checkKeyValue j = .ok ()
  | .keyValueArray, j => ∃ js, j = .array js ∧ ∀ j ∈ js, checkKeyValue j = .ok ()
  | .entity, j | .enhancedEntity, j => checkEntity j = .ok ()
  | .entityArray, j | .enhancedEntityArray, j => ∃ js, j = .array js ∧ ∀ j ∈ js, checkEntity j = .ok ()
  | _, _ => False

section RecordTypes

variable {type : VariableType} (record : type ∈ recordTypes)
include record

/-- What is stored under a record type is the text of the JSON view, if it is accepted. -/
theorem encode_ok_iff {p : Payload} {b : Bytes} (nonnull : p.isNull = false) :
    encode type p true = .ok b ↔ ∃ j, p.toJson? = some j ∧ Accepted type j ∧ b = j.bytes := by
  have list : ∀ {t check}, encodeRecords t check p true = .ok b ↔
      ∃ j, p.toJson? = some j ∧ (∃ js, j = .array js ∧ ∀ j ∈ js, check j = .ok ()) ∧ b = j.bytes := by
    intro t check
    rw [encodeRecords_ok_iff nonnull]
    constructor
    · rintro ⟨js, view, all, eq⟩
      exact ⟨_, view, ⟨js, rfl, all⟩, eq⟩
    · rintro ⟨_, view, ⟨js, rfl, all⟩, eq⟩
      exact ⟨js, view, all, eq⟩
  simp only [recordTypes, List.mem_cons, List.not_mem_nil, or_false] at record
  rcases record with rfl | rfl | rfl | rfl | rfl | rfl
  · exact encodeKeyValue_ok_iff nonnull
  · exact list
  · exact encodeRecord_ok_iff nonnull
  · exact list
  · exact encodeRecord_ok_iff nonnull
  · exact list

theorem encode_error {p : Payload} {validate : Bool} {e : Error} (h : encode type p validate = .error e) :
    ∃ fault, e = .invalidData type.storedAs fault := by
  simp only [recordTypes, List.mem_cons, List.not_mem_nil, or_false] at record
  rcases record with rfl | rfl | rfl | rfl | rfl | rfl
  · exact encodeKeyValue_error h
  · exact encodeRecords_error h
  · exact encodeRecord_error h
  · exact encodeRecords_error h
  · exact encodeRecord_error h
  · exact encodeRecords_error h

/-- The text of a value that is accepted is read, and no other. -/
theorem decode_some_iff {j : Json} (proper : j.Proper maxDepth) :
    (∃ v, decode type j.bytes = .ok (some v)) ↔ Accepted type j := by
  simp only [recordTypes, List.mem_cons, List.not_mem_nil, or_false] at record
  rcases record with rfl | rfl | rfl | rfl | rfl | rfl
  · exact decodeRecord_some_iff agrees_keyValue (by simp [storedKeyValue, KeyValue.ofJson?, Except.mapError]) _ proper
  · exact decodeRecords_some_iff agrees_keyValue _ proper
  · exact decodeRecord_some_iff agrees_entity (by simp [storedEntity, Entity.ofJson?, Except.mapError]) _ proper
  · exact decodeRecords_some_iff agrees_entity _ proper
  · exact decodeRecord_some_iff agrees_entity (by simp [storedEntity, Entity.ofJson?, Except.mapError]) _ proper
  · exact decodeRecords_some_iff agrees_entity _ proper

/-- The text of a value that nests too deep is not read. -/
theorem decode_deep {j : Json} (names : j.Named) (deep : maxDepth < j.depth) :
    decode type j.bytes = .error (.serialization (.notJson type.storedAs)) := by
  have single : ∀ {α : Type} (t : VariableType) (read : Json → Except Error α) (form : α → TypedValue),
      decodeRecord t read form j.bytes = .error (.serialization (.notJson t)) := by
    intro α t read form
    rw [decodeRecord, storedJson_deep t names deep]
    rfl
  have list : ∀ {α : Type} (t : VariableType) (read : Json → Except Error α) (form : List α → TypedValue),
      decodeRecords t read form j.bytes = .error (.serialization (.notJson t)) := by
    intro α t read form
    rw [decodeRecords, storedItems, storedJson_deep t names deep]
    rfl
  simp only [recordTypes, List.mem_cons, List.not_mem_nil, or_false] at record
  rcases record with rfl | rfl | rfl | rfl | rfl | rfl
  · exact single _ _ _
  · exact list _ _ _
  · exact single _ _ _
  · exact list _ _ _
  · exact single _ _ _
  · exact list _ _ _

/-- Validation accepts exactly the records that can be read back from their text. -/
theorem accepted_iff_readable {p : Payload} {j : Json} (nonnull : p.isNull = false) (view : p.toJson? = some j)
    (proper : j.Proper maxDepth) :
    ((∃ b, encode type p true = .ok b) ↔ ∃ v, decode type j.bytes = .ok (some v)) ∧
      (∀ b, encode type p true = .ok b → b = j.bytes) ∧
      ∀ e, encode type p true = .error e → ∃ fault, e = .invalidData type.storedAs fault := by
  have stored : ∀ b, encode type p true = .ok b ↔ Accepted type j ∧ b = j.bytes := by
    intro b
    rw [encode_ok_iff record nonnull, view]
    simp
  refine ⟨?_, fun b h => ((stored b).mp h).2, fun e h => encode_error record h⟩
  rw [decode_some_iff record proper]
  exact ⟨fun ⟨b, h⟩ => ((stored b).mp h).1, fun accepted => ⟨_, (stored _).mpr ⟨accepted, rfl⟩⟩⟩

end RecordTypes

def numbered : Payload :=
  .list [.json (.object [("type", .string "Host"), ("id", .number (.natural 9 (by decide))), ("value", .string "x")])]

theorem accepted_iff_readable_of_numbered : ∃ j v, numbered.toJson? = some j ∧
    encode .enhancedEntityArray numbered true = .ok j.bytes ∧ decode .enhancedEntityArray j.bytes = .ok (some v) := by
  obtain ⟨j, view⟩ : ∃ j, numbered.toJson? = some j := ⟨_, rfl⟩
  have proper : j.Proper maxDepth := by
    cases view
    refine (Json.proper_array_iff _ 126).mpr (List.forall_mem_singleton.mpr ?_)
    refine (Json.proper_object_iff _ 125).mpr ⟨?_, ?_⟩
    · simp [Table.Distinct, Table.keys]
    · simp [Json.Proper.string, Json.Proper.number]
  have record : VariableType.enhancedEntityArray ∈ recordTypes := by simp [recordTypes]
  obtain ⟨readable, text, -⟩ := accepted_iff_readable record (p := numbered) rfl view proper
  obtain ⟨b, stored⟩ : ∃ b, encode .enhancedEntityArray numbered true = .ok b := ⟨_, rfl⟩
  obtain ⟨v, read⟩ := readable.mp ⟨b, stored⟩
  exact ⟨j, v, view, text b stored ▸ stored, read⟩

end Envelope

end VariableStore
