import VariableStore.Envelope
import VariableStore.Proofs.Text
import VariableStore.Proofs.Except
import VariableStore.Proofs.Json.Literals
import VariableStore.Proofs.Utf8
/-!
Records without bytes. JSON always has some text, so only what is stored as it is, or as base64, can be stored as nothing
at all: no bytes, or an empty text that stands for its bytes.
-/
namespace VariableStore

theorem Utf8.encodeChars_eq_nil_iff {cs : List Char} : encodeChars cs = [] ↔ cs = [] := by
  refine ⟨fun empty => ?_, fun empty => by rw [empty]; rfl⟩
  have back := decodeChars_encodeChars cs
  rw [empty] at back
  exact (Except.ok.inj back).symm

theorem Utf8.encode_eq_nil_iff {s : String} : encode s = [] ↔ s = "" := by
  rw [encode, encodeChars_eq_nil_iff, ← String.toList_inj]
  rfl

theorem Base64.encode_eq_empty_iff {b : Bytes} : encode b = "" ↔ b = [] := by
  refine ⟨fun empty => ?_, fun empty => by rw [empty]; rfl⟩
  have back := decode?_encode b
  rw [empty] at back
  exact (Option.some.inj back).symm

/-- JSON has some text. -/
theorem Json.bytes_ne_nil (j : Json) : j.bytes ≠ [] := by
  rw [bytes, ne_eq, Utf8.encodeChars_eq_nil_iff]
  cases j with
  | null | string s | array items | object fields => simp [chars, quoted]
  | bool b => cases b <;> simp [chars]
  | number n =>
    obtain ⟨m, read⟩ := Number.ofWord?_text n
    intro empty
    rw [chars] at empty
    rw [empty] at read
    cases read

namespace Envelope

variable {p : Payload} {validate : Bool}

/-- What is stored of records is the text of some JSON. -/
theorem bytes_of_encodeRecord {type : VariableType} {check : Json → Except DataFault Unit} {b : Bytes}
    (h : encodeRecord type check p validate = .ok b) : ∃ j : Json, b = j.bytes := by
  unfold encodeRecord at h
  split at h
  · cases h
  · obtain ⟨j, -, h⟩ := bind_eq_ok.mp h
    exact ⟨j, (Except.ok.inj h).symm⟩

theorem bytes_of_encodeRecords {type : VariableType} {check : Json → Except DataFault Unit} {b : Bytes}
    (h : encodeRecords type check p validate = .ok b) : ∃ j : Json, b = j.bytes := by
  unfold encodeRecords at h
  split at h
  · exact ⟨_, (Except.ok.inj h).symm⟩
  · obtain ⟨items, -, h⟩ := bind_eq_ok.mp h
    obtain ⟨js, -, h⟩ := bind_eq_ok.mp h
    exact ⟨_, (Except.ok.inj h).symm⟩

/-- But for bytes and custom types, what is stored is the text of some JSON. -/
theorem bytes_of_encode {type : VariableType} (binary : type ≠ .binary) (custom : type.isCustom = false) {b : Bytes}
    (h : encode type p validate = .ok b) : ∃ j : Json, b = j.bytes := by
  cases type with
  | binary => exact absurd rfl binary
  | custom name => cases custom
  | binaryArray =>
    change encodeBinaryArray p validate = _ at h
    unfold encodeBinaryArray at h
    split at h
    · exact ⟨_, (Except.ok.inj h).symm⟩
    · obtain ⟨items, -, h⟩ := bind_eq_ok.mp h
      obtain ⟨texts, -, h⟩ := bind_eq_ok.mp h
      exact ⟨_, (Except.ok.inj h).symm⟩
  | keyValue =>
    change encodeKeyValue p validate = _ at h
    unfold encodeKeyValue at h
    split at h
    · cases h
    · exact bytes_of_encodeRecord h
  | string =>
    obtain ⟨text, -, h⟩ := bind_eq_ok.mp h
    exact ⟨_, (Except.ok.inj h).symm⟩
  | stringArray =>
    change encodeStringArray p = _ at h
    unfold encodeStringArray at h
    split at h
    · exact ⟨_, (Except.ok.inj h).symm⟩
    · obtain ⟨items, -, h⟩ := bind_eq_ok.mp h
      obtain ⟨texts, -, h⟩ := bind_eq_ok.mp h
      exact ⟨_, (Except.ok.inj h).symm⟩
  | entity | enhancedEntity => exact bytes_of_encodeRecord h
  | keyValueArray | entityArray | enhancedEntityArray => exact bytes_of_encodeRecords h

/-- Without a type, no bytes and an empty text are stored as nothing. -/
theorem encodeRaw_eq_nil_iff : encodeRaw p = .ok [] ↔ p = .bytes [] ∨ p = .text "" := by
  rcases p with _ | b | j | items
  · simp [encodeRaw, Payload.isNull, Payload.text]
  · simp [encodeRaw, Payload.text]
  · cases j with
    | string s => simp [encodeRaw, Payload.text, Utf8.encode_eq_nil_iff]
    | null => simp [encodeRaw, Payload.isNull, Json.isNull, Payload.text]
    | _ => simp [encodeRaw, Payload.isNull, Json.isNull, Payload.toJson?, Json.bytes_ne_nil, Payload.text]
  · simp only [encodeRaw, Payload.isNull, Bool.false_eq_true, if_false, Payload.text, reduceCtorEq, or_self, iff_false]
    cases (Payload.list items).toJson? with
    | none => simp
    | some j => simp [Json.bytes_ne_nil]

/-- Bytes are stored as nothing if there are none. -/
theorem encodeBinary_eq_nil_iff :
    encodeBinary p validate = .ok [] ↔ p = .bytes [] ∨ validate = false ∧ p = .text "" := by
  have stored : ∀ b, Utf8.encode (Base64.encode b) = [] ↔ b = [] := fun b => by
    rw [Utf8.encode_eq_nil_iff, Base64.encode_eq_empty_iff]
  rw [encodeBinary, bind_eq_ok]
  have last : ∀ b : Bytes, (pure (Utf8.encode (Base64.encode b)) : Except Error Bytes) = .ok [] ↔ b = [] := fun b =>
    ⟨fun h => (stored b).mp (Except.ok.inj h), fun h => congrArg Except.ok ((stored b).mpr h)⟩
  simp only [last, exists_eq_right]
  rcases p with _ | b | j | items
  · simp [payloadBytes, Payload.text]
  · simp [payloadBytes, Payload.text]
  · cases j <;> cases validate <;> simp [payloadBytes, Payload.text, Utf8.encode_eq_nil_iff]
  · simp [payloadBytes, Payload.text]

/-- What is stored as nothing: bytes of which there are none, and under a custom type also an empty text, as under the
type of bytes where nothing is validated. -/
theorem encode_eq_nil_iff {type : VariableType} : encode type p validate = .ok [] ↔
    (type = .binary ∧ (p = .bytes [] ∨ validate = false ∧ p = .text "")) ∨
      (type.isCustom = true ∧ (p = .bytes [] ∨ p = .text "")) := by
  by_cases binary : type = .binary
  · subst binary
    simp [encode, encodeBinary_eq_nil_iff, VariableType.isCustom]
  by_cases custom : type.isCustom = true
  · cases type with
    | custom name => simp [encode, encodeRaw_eq_nil_iff, VariableType.isCustom]
    | _ => cases custom
  · have never : encode type p validate ≠ .ok [] := fun h =>
      let ⟨j, empty⟩ := bytes_of_encode binary (by simpa using custom) h
      j.bytes_ne_nil empty.symm
    simp [never, binary, custom]

end Envelope

end VariableStore
