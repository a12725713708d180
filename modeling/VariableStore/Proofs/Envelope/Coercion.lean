import VariableStore.Proofs.Envelope.Stability
/-!
Coercion to text. What is written as a string is stored as one text, and that text is what is read back, whatever it
looks like: it stands in quotes, so a text that spells a number, null or a list is not taken for one. A list of
strings holds for each element the text that the element has as a string where nothing is validated, and null for a
null.
-/
namespace VariableStore

namespace Envelope

/-- The text that a payload is coerced to. A structure has one only where nothing is validated; nulls, lists and bytes
that are not UTF-8 have none. -/
inductive Coerced (validate : Bool) : Payload → String → Prop
  | bytes (t : String) : Coerced validate (.bytes (Utf8.encode t)) t
  | string (s : String) : Coerced validate (.json (.string s)) s
  | bool (b : Bool) : Coerced validate (.json (.bool b)) (if b then "true" else "false")
  | number (n : Json.Number) : Coerced validate (.json (.number n)) (Json.number n).compact
  | array (items : List Json) (unchecked : validate = false) :
    Coerced validate (.json (.array items)) (Json.array items).compact
  | object (fields : List (String × Json)) (unchecked : validate = false) :
    Coerced validate (.json (.object fields)) (Json.object fields).compact

theorem textOfBytes_ok_iff {type : VariableType} {b : Bytes} {t : String} :
    textOfBytes type b = .ok t ↔ b = Utf8.encode t :=
  mapError_eq_ok.trans Utf8.decode_eq_ok_iff

theorem coerced_bytes_iff {validate : Bool} {b : Bytes} {t : String} :
    Coerced validate (.bytes b) t ↔ b = Utf8.encode t := by
  constructor
  · rintro ⟨⟩
    rfl
  · rintro rfl
    exact .bytes t

/-- JSON other than null has one text where nothing is validated. -/
theorem coerced_json_iff {j : Json} {t : String} :
    Coerced false (.json j) t ↔ j ≠ .null ∧ j.coercedText = t := by
  constructor
  · intro h
    cases h <;> exact ⟨by simp, rfl⟩
  · rintro ⟨nonnull, rfl⟩
    cases j with
    | null => exact absurd rfl nonnull
    | bool b => exact .bool b
    | number n => exact .number n
    | string s => exact .string s
    | array items => exact .array items rfl
    | object fields => exact .object fields rfl

/-- The text under which a payload is stored as a string is the one that it is coerced to. -/
theorem stringText_ok_iff {p : Payload} {validate : Bool} {t : String} :
    stringText p validate = .ok t ↔ Coerced validate p t := by
  constructor
  · intro h
    cases p with
    | bytes b => exact coerced_bytes_iff.mpr (textOfBytes_ok_iff.mp h)
    | json j =>
      cases j with
      | bool b =>
        cases h
        exact .bool b
      | number n =>
        cases h
        exact .number n
      | string s =>
        cases h
        exact .string _
      | array items =>
        cases validate with
        | false =>
          cases h
          exact .array items rfl
        | true => cases h
      | object fields =>
        cases validate with
        | false =>
          cases h
          exact .object fields rfl
        | true => cases h
      | null => cases h
    | _ => cases h
  · intro h
    cases h with
    | bytes => exact textOfBytes_ok_iff.mpr rfl
    | array items unchecked | object items unchecked =>
      subst unchecked
      rfl
    | _ => rfl

theorem encodeString_ok_iff {p : Payload} {validate : Bool} {b : Bytes} :
    encodeString p validate = .ok b ↔ ∃ t, Coerced validate p t ∧ b = (Json.string t).bytes := by
  rw [encodeString, bind_eq_ok]
  simp only [stringText_ok_iff]
  exact exists_congr fun t => and_congr_right fun _ =>
    ⟨fun h => (Except.ok.inj h).symm, fun h => congrArg Except.ok h.symm⟩

/-- What is stored for a coerced payload is read as its text, and nothing else is stored. -/
theorem decode_coerced {p : Payload} {validate : Bool} {b : Bytes} {t : String} (coerced : Coerced validate p t)
    (h : encode .string p validate = .ok b) : decode .string b = .ok (some (.string t)) := by
  obtain ⟨u, found, rfl⟩ := encodeString_ok_iff.mp h
  have same : u = t := Except.ok.inj ((stringText_ok_iff.mpr found).symm.trans (stringText_ok_iff.mpr coerced))
  rw [same]
  exact decodeString_bytes t

/-- What is read in a list at the place of an item: nothing for null, else the text that is read where the item is
stored as a string without validation. -/
def ReadsAs (item : Payload) : Option String → Prop
  | none => item.isNull = true
  | some t => item.isNull = false ∧
      ∃ stored, encode .string item false = .ok stored ∧ decode .string stored = .ok (some (.string t))

theorem not_null_of_coerced {p : Payload} {validate : Bool} {t : String} (h : Coerced validate p t) :
    p.isNull = false := by
  cases h <;> rfl

theorem readsAs_of_coerced {item : Payload} {t : String} (h : Coerced false item t) : ReadsAs item (some t) :=
  have stored : encode .string item false = .ok (Json.string t).bytes := encodeString_ok_iff.mpr ⟨t, h, rfl⟩
  ⟨not_null_of_coerced h, _, stored, decode_coerced h stored⟩

/-- An element other than a list is stored as null or as the text that it is coerced to. -/
theorem elementText_ok_iff {item : Payload} (flat : ∀ inner, item ≠ .list inner) {text : Option String} :
    elementText item = .ok text ↔
      (item.isNull = true ∧ text = none) ∨ ∃ t, Coerced false item t ∧ text = some t := by
  cases item with
  | null =>
    constructor
    · rintro ⟨⟩
      exact .inl ⟨rfl, rfl⟩
    · rintro (⟨-, rfl⟩ | ⟨t, ⟨⟩, -⟩)
      rfl
  | bytes b =>
    simp only [elementText, map_eq_ok, textOfBytes_ok_iff, coerced_bytes_iff, Payload.isNull]
    simp [eq_comm]
  | json j =>
    simp only [coerced_json_iff]
    cases j with
    | null => simp [elementText, Payload.isNull, Json.isNull, eq_comm]
    | _ => simp [elementText, Payload.isNull, Json.isNull, eq_comm]
  | list inner => exact absurd rfl (flat inner)

/-- An element other than a list can be stored unless it is bytes without a text. -/
theorem elementText_succeeds_iff {item : Payload} (flat : ∀ inner, item ≠ .list inner) :
    (∃ text, elementText item = .ok text) ↔ ∀ b, item = .bytes b → ∃ t, b = Utf8.encode t := by
  cases item with
  | bytes b =>
    simp only [elementText_ok_iff flat, coerced_bytes_iff, Payload.isNull]
    simp
  | list inner => exact absurd rfl (flat inner)
  | null => exact ⟨fun _ _ other => absurd other (by simp), fun _ => ⟨none, rfl⟩⟩
  | json j =>
    refine ⟨fun _ _ other => absurd other (by simp), fun _ => ?_⟩
    cases j <;> exact ⟨_, rfl⟩

/-- A list is stored as the array of the texts of its elements. -/
theorem encodeStringArray_ok_iff {p : Payload} {items : List Payload} (list : p.elements? = some items) {b : Bytes} :
    encodeStringArray p = .ok b ↔ ∃ texts, items.mapM elementText = .ok texts ∧
      b = (Json.array (texts.map TypedValue.optionalText)).bytes := by
  have nonnull := Payload.isNull_of_elements? list
  have shape : elements .stringArray p = .ok items := by rw [elements, list]
  rw [encodeStringArray, if_neg (by simp [nonnull]), shape, ok_bind, bind_eq_ok]
  exact exists_congr fun texts => and_congr_right fun _ =>
    ⟨fun h => (Except.ok.inj h).symm, fun h => congrArg Except.ok h.symm⟩

theorem readsAs_of_elementText {item : Payload} (flat : ∀ inner, item ≠ .list inner) {text : Option String}
    (h : elementText item = .ok text) : ReadsAs item text := by
  obtain ⟨null, rfl⟩ | ⟨t, coerced, rfl⟩ := (elementText_ok_iff flat).mp h
  · exact null
  · exact readsAs_of_coerced coerced

/-- Strings and lists of strings hold exactly the coerced texts: a payload can be stored as a string if it has one, and
is then read as it; a list without lists in it can be stored as a list of strings if its bytes are all UTF-8, and each
of its elements is then read as it is where it is stored by itself. -/
theorem reads_coerced_text :
    (∀ (p : Payload) (validate : Bool),
      ((∃ b, encode .string p validate = .ok b) ↔ ∃ t, Coerced validate p t) ∧
      ∀ t, Coerced validate p t →
        ∀ b, encode .string p validate = .ok b → decode .string b = .ok (some (.string t))) ∧
    ∀ (p : Payload) (items : List Payload) (validate : Bool),
      p.elements? = some items → (∀ item ∈ items, ∀ inner, item ≠ .list inner) →
      ((∃ b, encode .stringArray p validate = .ok b) ↔ ∀ b, .bytes b ∈ items → ∃ t, b = Utf8.encode t) ∧
      ∀ b, encode .stringArray p validate = .ok b →
        ∃ texts, decode .stringArray b = .ok (some (.stringArray texts)) ∧ List.Forall₂ ReadsAs items texts := by
  constructor
  · intro p validate
    refine ⟨?_, fun t coerced b => decode_coerced coerced⟩
    constructor
    · rintro ⟨b, stored⟩
      obtain ⟨t, coerced, -⟩ := encodeString_ok_iff.mp stored
      exact ⟨t, coerced⟩
    · rintro ⟨t, coerced⟩
      exact ⟨_, encodeString_ok_iff.mpr ⟨t, coerced, rfl⟩⟩
  · intro p items validate list flat
    constructor
    · calc (∃ b, encode .stringArray p validate = .ok b)
        _ ↔ ∃ texts, items.mapM elementText = .ok texts := by
          simp only [encode, encodeStringArray_ok_iff list]
          exact ⟨fun ⟨_, texts, run, _⟩ => ⟨texts, run⟩, fun ⟨texts, run⟩ => ⟨_, texts, run, rfl⟩⟩
        _ ↔ ∀ item ∈ items, ∀ b, item = .bytes b → ∃ t, b = Utf8.encode t := by
          rw [mapM_ok_iff]
          exact forall₂_congr fun item inside => elementText_succeeds_iff (flat item inside)
        _ ↔ ∀ b, .bytes b ∈ items → ∃ t, b = Utf8.encode t :=
          ⟨fun all b inside => all _ inside b rfl, fun all item inside b eq => all b (eq ▸ inside)⟩
    · intro b stored
      obtain ⟨texts, run, rfl⟩ := (encodeStringArray_ok_iff list).mp stored
      refine ⟨texts, decodeStringArray_texts texts, ?_⟩
      have each : List.Forall₂ (fun item text => (∀ inner, item ≠ .list inner) ∧ elementText item = .ok text)
          items texts := List.forall₂_and_left _ _ |>.mpr ⟨flat, mapM_eq_ok_iff.mp run⟩
      exact each.imp fun item text ⟨flat, stored⟩ => readsAs_of_elementText flat stored

def mixed : List Payload := [.null, .bytes (Utf8.encode "null"), .json (.array [.bool true])]

theorem reads_coerced_text_of_mixed :
    (∃ b, encode .string (.bytes (Utf8.encode "null")) true = .ok b ∧
      decode .string b = .ok (some (.string "null"))) ∧
    ∃ b, encode .stringArray (.list mixed) true = .ok b ∧
      ∃ texts, decode .stringArray b = .ok (some (.stringArray texts)) ∧ List.Forall₂ ReadsAs mixed texts := by
  obtain ⟨single, list⟩ := reads_coerced_text
  constructor
  · obtain ⟨stores, reads⟩ := single (.bytes (Utf8.encode "null")) true
    have coerced : Coerced true (.bytes (Utf8.encode "null")) "null" := .bytes "null"
    obtain ⟨b, stored⟩ := stores.mpr ⟨"null", coerced⟩
    exact ⟨b, stored, reads "null" coerced b stored⟩
  · have flat : ∀ item ∈ mixed, ∀ inner, item ≠ .list inner := by simp [mixed]
    obtain ⟨stores, reads⟩ := list (.list mixed) mixed true rfl flat
    obtain ⟨b, stored⟩ := stores.mpr (by simp [mixed])
    exact ⟨b, stored, reads b stored⟩

end Envelope

end VariableStore
