import VariableStore.Envelope
import VariableStore.Proofs.Text
import VariableStore.Proofs.Except
import VariableStore.Proofs.Utf8
/-!
Bytes in store are read back as they were written, all but those whose base64 text is the word that stands for
nothing: they are read as nothing. A base64 text has no blanks to trim and no quote in front, so no other text
is taken for anything else. In a list each text stands in quotes, so no bytes are taken for nothing there.
-/
namespace VariableStore.Envelope

theorem binaryText_encode (b : Bytes) : binaryText (Utf8.encode (Base64.encode b)) = .ok (Base64.encode b) := by
  have plain := Base64.encodeChars_plain b
  have trimmed : Text.trimChars (Base64.encodeChars b) = Base64.encodeChars b :=
    Text.trimChars_of_plain fun c hc => (plain c hc).1
  simp only [binaryText, Utf8.decode_encode, Base64.encode, String.toList_ofList, trimmed]
  split
  · next rest eq => exact absurd rfl (plain '"' (by rw [eq]; exact List.mem_cons_self)).2
  · rfl

theorem encodeBinary_bytes (b : Bytes) (validate : Bool) :
    encodeBinary (.bytes b) validate = .ok (Utf8.encode (Base64.encode b)) := rfl

theorem bytesOfBase64_encode (type : VariableType) (b : Bytes) :
    bytesOfBase64 type (Base64.encode b) = .ok b := by
  simp [bytesOfBase64]

/-- The bytes whose text is the word `null` are read as nothing, and all others as themselves. -/
theorem decodeBinary_encode (b : Bytes) : decodeBinary (Utf8.encode (Base64.encode b)) =
    .ok (if b = Base64.nullBytes then none else some (.binary b)) := by
  rw [decodeBinary, binaryText_encode, ok_bind]
  by_cases null : b = Base64.nullBytes
  · rw [if_pos ((Base64.encode_eq_null_iff b).mpr null), if_pos null]
    rfl
  · rw [if_neg fun h => null ((Base64.encode_eq_null_iff b).mp h), if_neg null, bytesOfBase64_encode]
    rfl

theorem bytesOfBase64_ok_iff {type : VariableType} {text : String} {b : Bytes} :
    bytesOfBase64 type text = .ok b ↔ text = Base64.encode b := by
  rw [← Base64.decode?_eq_some_iff, bytesOfBase64]
  cases Base64.decode? text <;> simp

/-- Bytes are read from the records whose text is theirs, unless it is the word that stands for nothing. -/
theorem decodeBinary_some_iff {raw : Bytes} {v : TypedValue} : decodeBinary raw = .ok (some v) ↔
    ∃ b, v = .binary b ∧ b ≠ Base64.nullBytes ∧ binaryText raw = .ok (Base64.encode b) := by
  rw [decodeBinary, bind_eq_ok]
  constructor
  · rintro ⟨text, found, h⟩
    split at h
    · cases h
    · next other =>
      obtain ⟨b, read, eq⟩ := bind_eq_ok.mp h
      cases eq
      obtain rfl := bytesOfBase64_ok_iff.mp read
      exact ⟨b, rfl, fun null => other ((Base64.encode_eq_null_iff b).mpr null), found⟩
  · rintro ⟨b, rfl, other, found⟩
    refine ⟨Base64.encode b, found, ?_⟩
    rw [if_neg fun null => other ((Base64.encode_eq_null_iff b).mp null), bytesOfBase64_encode]
    rfl

/-- What is read from a text other than that word is not what the word spells. -/
theorem decodeBinary_ok {raw : Bytes} {v : TypedValue} (h : decodeBinary raw = .ok (some v)) :
    ∃ b, v = .binary b ∧ b ≠ Base64.nullBytes := by
  obtain ⟨b, eq, other, -⟩ := decodeBinary_some_iff.mp h
  exact ⟨b, eq, other⟩

/-- What an element of a list of bytes holds: nothing for null in either form, or bytes. -/
inductive Element : Payload → Option Bytes → Prop
  | null {p : Payload} (null : p.isNull = true) : Element p none
  | bytes (b : Bytes) : Element (.bytes b) (some b)

theorem elementBase64_of_element {p : Payload} {item : Option Bytes} (h : Element p item) (validate : Bool) :
    elementBase64 validate p = .ok (item.map Base64.encode) := by
  cases h with
  | null null => rw [elementBase64, if_pos null]; rfl
  | bytes b => rfl

def Lists (p : Payload) (items : List (Option Bytes)) : Prop :=
  ∃ ps, p.elements? = some ps ∧ List.Forall₂ Element ps items

theorem lists_ofOptions (items : List (Option Bytes)) : Lists (.ofOptions .bytes items) items := by
  refine ⟨_, rfl, ?_⟩
  rw [List.forall₂_map_left_iff, List.forall₂_same]
  intro item _
  cases item with
  | none => exact .null rfl
  | some b => exact .bytes b

/-- A list is stored as the array of the base64 texts of its elements, with null for null. -/
theorem encodeBinaryArray_of_lists {p : Payload} {items : List (Option Bytes)} (h : Lists p items) (validate : Bool) :
    encodeBinaryArray p validate =
      .ok (Json.array ((items.map (Option.map Base64.encode)).map TypedValue.optionalText)).bytes := by
  obtain ⟨ps, list, held⟩ := h
  have nonnull := Payload.isNull_of_elements? list
  have shape : elements .binaryArray p = .ok ps := by rw [elements, list]
  have texts : ps.mapM (elementBase64 validate) = .ok (items.map (Option.map Base64.encode)) := by
    rw [mapM_eq_ok_iff, List.forall₂_map_right_iff]
    exact held.imp fun p item h => elementBase64_of_element h validate
  rw [encodeBinaryArray, if_neg (by simp [nonnull]), shape, ok_bind, texts]
  rfl

theorem storedBase64_ok_iff {j : Json} {text : Option String} :
    storedBase64 j = .ok text ↔ j = TypedValue.optionalText text := by
  cases text <;> cases j <;> simp [storedBase64, TypedValue.optionalText]

theorem elementBytes_ok_iff {text : Option String} {item : Option Bytes} :
    elementBytes text = .ok item ↔ text = item.map Base64.encode := by
  cases text with
  | none => cases item <;> simp [elementBytes]
  | some text =>
    simp only [elementBytes, map_eq_ok, bytesOfBase64_ok_iff]
    cases item <;> simp [eq_comm]

theorem binaryTexts_some_iff {raw : Bytes} {texts : List (Option String)} : binaryTexts raw = .ok (some texts) ↔
    storedItems .binaryArray raw = .ok (some (texts.map TypedValue.optionalText)) := by
  rw [binaryTexts, bind_eq_ok]
  constructor
  · rintro ⟨items?, stored, h⟩
    cases items? with
    | none => cases h
    | some items =>
      obtain ⟨found, run, eq⟩ := bind_eq_ok.mp h
      cases eq
      rw [stored, (mapM_eq_ok_iff_eq_map fun _ _ => storedBase64_ok_iff).mp run]
  · intro stored
    have run := (mapM_eq_ok_iff_eq_map fun _ _ => storedBase64_ok_iff).mpr (Eq.refl (texts.map TypedValue.optionalText))
    exact ⟨_, stored, bind_eq_ok.mpr ⟨texts, run, rfl⟩⟩

/-- A list of bytes is read from the records whose texts are those of its elements, with null for nothing. -/
theorem decodeBinaryArray_some_iff {raw : Bytes} {v : TypedValue} : decodeBinaryArray raw = .ok (some v) ↔
    ∃ items, v = .binaryArray items ∧ binaryTexts raw = .ok (some (items.map (Option.map Base64.encode))) := by
  rw [decodeBinaryArray, bind_eq_ok]
  constructor
  · rintro ⟨texts?, found, h⟩
    cases texts? with
    | none => cases h
    | some texts =>
      obtain ⟨items, run, eq⟩ := bind_eq_ok.mp h
      cases eq
      exact ⟨items, rfl, by rw [found, (mapM_eq_ok_iff_eq_map fun _ _ => elementBytes_ok_iff).mp run]⟩
  · rintro ⟨items, rfl, found⟩
    have run := (mapM_eq_ok_iff_eq_map fun _ _ => elementBytes_ok_iff).mpr
      (Eq.refl (items.map (Option.map Base64.encode)))
    exact ⟨_, found, bind_eq_ok.mpr ⟨items, run, rfl⟩⟩

end VariableStore.Envelope
