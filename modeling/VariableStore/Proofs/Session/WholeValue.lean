import VariableStore.Proofs.Envelope.Stability
import VariableStore.Proofs.Reference.Form
import VariableStore.Proofs.Session.OneLevel
import VariableStore.Proofs.Session.Steps
import VariableStore.Proofs.Utf8
/-!
A variable as a whole record value, and the same variable inside a text. The one is replaced by the JSON form of its value,
the other by the text of its value, and this is the text of the JSON form: a binary variable is a token in both and is not
looked up, and what is not there, or is no value of its type, is another token in both. The two differ for bytes without a
type that are no UTF-8. These have no JSON form, so a record has the token for nothing in their place, while a text has
the characters that can be made out.
-/
namespace VariableStore

/-- The text of a JSON value inside another text: a string as it is, anything else as compact JSON. -/
def Json.inText : Json → String
  | string s => s
  | j => j.compact

namespace TypedValue

/-- The text of a value is the text of its JSON form, except for binary values and bytes that are no UTF-8. -/
theorem renderOption_eq_inText {value : Option TypedValue}
    (plain : ∀ v, value = some v → v.isBinary = false ∧ ∀ b, v = .raw b → (Utf8.decode? b).isSome = true) :
    renderOption value = ((value.bind toJson?).getD (.string nullToken)).inText := by
  cases value with
  | none => rfl
  | some v =>
    obtain ⟨textual, valid⟩ := plain v rfl
    cases v with
    | raw b =>
      obtain ⟨s, read⟩ := Option.isSome_iff_exists.mp (valid b rfl)
      rw [Utf8.decode?_eq_some_iff] at read
      simp [renderOption, render, toJson?, Json.inText, read]
    | binary b => cases textual
    | binaryArray items => cases textual
    | _ => rfl

end TypedValue

/-- What is read under a type that is not binary is no binary value, and uninterpreted only under a custom type. -/
theorem Envelope.decode_textual {type : VariableType} {raw : Bytes} {v : TypedValue}
    (h : decode type raw = .ok (some v)) (textual : type.single ≠ .binary) :
    v.isBinary = false ∧ ∀ b, v = .raw b → type.isCustom = true ∧ b = raw := by
  cases type with
  | binary => exact absurd rfl textual
  | binaryArray => exact absurd rfl textual
  | string =>
    obtain ⟨s, rfl⟩ := decodeString_ok h
    exact ⟨rfl, fun _ other => by cases other⟩
  | stringArray =>
    obtain ⟨texts, rfl⟩ := decodeStringArray_ok h
    exact ⟨rfl, fun _ other => by cases other⟩
  | keyValue | entity | enhancedEntity =>
    obtain ⟨j, record, -, -, rfl⟩ := decodeRecord_ok h
    exact ⟨rfl, fun _ other => by cases other⟩
  | keyValueArray | entityArray | enhancedEntityArray =>
    obtain ⟨records, rfl, -⟩ := decodeRecords_ok h
    exact ⟨rfl, fun _ other => by cases other⟩
  | custom name =>
    cases h
    exact ⟨rfl, fun b eq => ⟨rfl, (TypedValue.raw.inj eq).symm⟩⟩

open Traced

variable {σ : Type}

namespace Store

/-- The text that stands in the place of a reference, in a text that is resolved from a state. -/
def standIn (s : Store σ) (m : σ) (source : String) (r : Reference) : String :=
  (s.sources.replacement source.toList r).answer m

/-- The backend with its answers to reads as they are from a state. -/
def still (s : Store σ) (m : σ) : Backend σ :=
  { s.backend with read := fun context key n => ((s.backend.read context key m).1, n) }

variable {s : Store σ} {m : σ}

theorem fetches_still (unmoved : ∀ key, (s.backend.read s.context key m).2 = m) :
    Fetches (Alike fun n _ => n = m) s (s.still m) where
  toComposed := composed_alike _
  read v := alike_call fun n _ same => by
    subst same
    exact ⟨rfl, unmoved v.text⟩
  ask _ _ := alike_call fun _ _ same => ⟨rfl, same⟩

/-- Where reads leave the state as it is, each reference of a text is replaced by what stands in its place from this
state. -/
theorem resolveText_spliced (unmoved : ∀ key, (s.backend.read s.context key m).2 = m) {text : String}
    (within : Utf8.length text ≤ s.options.scanBound.toNat) :
    Utf8.encode ((s.resolveText text).answer m) =
      Occurrence.splice (fun o => s.standIn m o.text o.reference) (Utf8.encode text) 0 (Occurrence.scan text) := by
  have fetches := fetches_still unmoved
  -- Over `still` a replacement is the same from every state, so the replacements of the whole text are known at once.
  have one : ∀ source r, Gives (s.standIn m (String.ofList source) r)
      ((s.withBackend (s.still m)).sources.replacement source r) := fun source r n => by
    rw [standIn, String.toList_ofList]
    exact (fetches.replacement source r m n rfl).1.symm
  have resolved : ((s.withBackend (s.still m)).resolveText text).answer m = _ := Sources.gives_resolve one within m
  rw [(fetches.resolveText text m m rfl).1, resolved, Occurrence.encode_fill]

/-- A text that is read as one reference is resolved to what replaces the reference. -/
theorem resolveText_of_whole {text : String} {r : Reference} (whole : Reference.read? text.toList = some (r, []))
    (within : Utf8.length text ≤ s.options.scanBound.toNat) :
    s.resolveText text = s.sources.replacement text.toList r := by
  rw [resolveText, Sources.resolve, if_neg (Nat.not_lt.mpr within), Piece.scan, Piece.scanFrom_of_whole whole]
  simp [Sources.substitute]

/-- Under a variable of a custom type there are bytes that are no UTF-8. -/
structure Garbled (s : Store σ) (m : σ) (v : Variable) (raw : Bytes) : Prop where
  custom : v.type.isCustom = true
  stored : (s.fetch v.text).answer m = some raw
  broken : Utf8.decode? raw = none

namespace Garbled

variable {v : Variable} {raw : Bytes}

theorem textual (h : s.Garbled m v raw) : v.type.single ≠ .binary := by
  have custom := h.custom
  cases type : v.type <;> simp [type, VariableType.isCustom, VariableType.single] at custom ⊢

theorem fetchTyped (h : s.Garbled m v raw) : (s.fetchTyped v).answer m = some (.raw raw) := by
  refine fetchTyped_some_iff.mpr ⟨raw, h.stored, ?_⟩
  have custom := h.custom
  cases type : v.type <;> simp [type, VariableType.isCustom, Envelope.decode] at custom ⊢

end Garbled

/-- What replaces a variable that is not binary. -/
theorem standIn_of_textual {v : Variable} (textual : v.type.single ≠ .binary) (source : String) :
    s.standIn m source (.internal v) = TypedValue.renderOption ((s.fetchTyped v).answer m) := by
  rw [standIn, Sources.replacement, if_neg textual]
  rfl

end Store

namespace Reader

variable {s : Store σ} {m : σ}

/-- The value that replaces a variable that is not binary, as a whole record value. -/
theorem wholeValue_of_textual {v : Variable} (textual : v.type.single ≠ .binary) (resolve : Bool) :
    (wholeValue ⟨s, resolve⟩ v).answer m =
      (((s.fetchTyped v).answer m).bind TypedValue.toJson?).getD (.string nullToken) := by
  rw [wholeValue, if_neg textual]
  rfl

/-- A text that is a variable is replaced as a whole record value. -/
theorem record_of_variable {text : String} {v : Variable} (named : Variable.parse? text = some v) {kv : KeyValue}
    (value : kv.value = .string text) :
    record ⟨s, true⟩ kv = (fun j => { kv with value := j }) <$> wholeValue ⟨s, true⟩ v := by
  rw [record, if_pos rfl, value]
  simp only [recordValue, named]
  rfl

/-- A text that is no variable is resolved as a record value too. -/
theorem record_of_other {text : String} (other : Variable.parse? text = none) {kv : KeyValue}
    (value : kv.value = .string text) :
    record ⟨s, true⟩ kv = (fun t => { kv with value := .string t }) <$> s.resolveText text := by
  rw [record, if_pos rfl, value]
  simp only [recordValue, other, map_eq_pure_bind, bind_assoc, pure_bind]

/-- Of a variable that is not binary, the record value as a text is the text of its value, if this is no garbled one. -/
theorem inText_wholeValue {v : Variable} (textual : v.type.single ≠ .binary)
    (legible : ∀ raw, ¬ s.Garbled m v raw) (resolve : Bool) :
    ((wholeValue ⟨s, resolve⟩ v).answer m).inText = TypedValue.renderOption ((s.fetchTyped v).answer m) := by
  rw [wholeValue_of_textual textual, TypedValue.renderOption_eq_inText]
  intro found fetched
  obtain ⟨raw, stored, read⟩ := fetchTyped_some_iff.mp fetched
  obtain ⟨plain, uninterpreted⟩ := Envelope.decode_textual read textual
  refine ⟨plain, fun b eq => ?_⟩
  obtain ⟨custom, rfl⟩ := uninterpreted b eq
  rw [Option.isSome_iff_ne_none]
  exact fun broken => legible b ⟨custom, stored, broken⟩

/-- A text with no white space at its ends, as a record value and as a text by itself. If it is a variable, both are a
token without a call where this is binary; otherwise both make the one call for it, and are another token where there are
no bytes that are read as a value. The record value as a text is the resolved text, except for bytes of a custom type that
are no UTF-8: the record value is then the token for nothing, and the text has what can be made out of the bytes. And in
any longer text, where reads leave the state as it is, each variable is replaced by what its own text is resolved to. -/
theorem record_value_as_in_text (s : Store σ) (m : σ) {text : String} (unpadded : Text.trim text = text)
    (within : Utf8.length text ≤ s.options.scanBound.toNat) (kv : KeyValue) (value : kv.value = .string text) :
    let whole := record ⟨s, true⟩ kv
    let inText := s.resolveText text
    (∀ v, Variable.parse? text = some v →
      (v.type.single = .binary →
        ((whole.answer m).value = .string "<binary>" ∧ inText.answer m = "<binary>") ∧
          whole.calls m = [] ∧ inText.calls m = []) ∧
      (v.type.single ≠ .binary →
        whole.calls m = [.read s.context v.text] ∧ inText.calls m = [.read s.context v.text]) ∧
      (v.type.single ≠ .binary → (∀ raw found, (s.fetch v.text).answer m = some raw →
          Envelope.decode v.type raw ≠ .ok (some found)) →
        (whole.answer m).value = .string "<null>" ∧ inText.answer m = "<null>") ∧
      (∀ raw, s.Garbled m v raw →
        (whole.answer m).value = .string "<null>" ∧ inText.answer m = Utf8.decodeLossy raw) ∧
      ∀ source, s.standIn m source (.internal v) = inText.answer m) ∧
    ((∀ v raw, Variable.parse? text = some v → ¬ s.Garbled m v raw) →
      (whole.answer m).value.inText = inText.answer m) ∧
    ((∀ key, (s.backend.read s.context key m).2 = m) →
      ∀ longer, Utf8.length longer ≤ s.options.scanBound.toNat →
        Utf8.encode ((s.resolveText longer).answer m) =
          Occurrence.splice (fun o => s.standIn m o.text o.reference) (Utf8.encode longer) 0
            (Occurrence.scan longer)) := by
  intro whole inText
  refine ⟨fun v named => ?_, fun legible => ?_, fun unmoved longer => s.resolveText_spliced unmoved⟩
  · have asRecord : whole = _ := record_of_variable named value
    have asText : inText = _ := Store.resolveText_of_whole (Reference.read?_of_variable named unpadded) within
    have replaced : (whole.answer m).value = (wholeValue ⟨s, true⟩ v).answer m := by rw [asRecord, answer_map]
    have asked : whole.calls m = (wholeValue ⟨s, true⟩ v).calls m := by rw [asRecord, calls_map]
    have standing : ∀ source, s.standIn m source (.internal v) = inText.answer m := fun source => by
      rw [asText]
      rfl
    refine ⟨fun binary => ?_, fun textual => ?_, fun textual nothing => ?_, fun raw garbled => ?_, standing⟩
    · rw [replaced, asked, asText, wholeValue, Sources.replacement, if_pos binary, if_pos binary]
      exact ⟨⟨rfl, rfl⟩, rfl, rfl⟩
    · rw [asked, makes_wholeValue, asText, Sources.replacement, if_neg textual, Scope.wholeValue, if_neg textual]
      exact ⟨rfl, (makes_fetchTyped s v).bind_pure _ m⟩
    · have absent : (s.fetchTyped v).answer m = none := by
        rw [Option.eq_none_iff_forall_ne_some]
        intro found fetched
        obtain ⟨raw, stored, read⟩ := fetchTyped_some_iff.mp fetched
        exact nothing raw found stored read
      rw [replaced, ← standing text, wholeValue_of_textual textual, Store.standIn_of_textual textual, absent]
      exact ⟨rfl, rfl⟩
    · have textual : v.type.single ≠ .binary := garbled.textual
      have fetched : (s.fetchTyped v).answer m = some (.raw raw) := garbled.fetchTyped
      rw [replaced, ← standing text, wholeValue_of_textual textual, Store.standIn_of_textual textual, fetched]
      simp [TypedValue.toJson?, garbled.broken, nullToken, TypedValue.renderOption, TypedValue.render]
  · cases named : Variable.parse? text with
    | none =>
      have asRecord : whole = _ := record_of_other named value
      rw [asRecord]
      rfl
    | some v =>
      have asRecord : whole = _ := record_of_variable named value
      have asText : inText = _ := Store.resolveText_of_whole (Reference.read?_of_variable named unpadded) within
      by_cases binary : v.type.single = .binary
      · rw [asRecord, asText, wholeValue, Sources.replacement, if_pos binary, if_pos binary]
        rfl
      · rw [asRecord, asText, answer_map, inText_wholeValue binary fun raw => legible v raw named,
          Sources.replacement, if_neg binary]
        rfl

/-- A list of strings, one of them missing, as a record value, as a text by itself and in a longer text. -/
theorem record_value_as_in_text_of_array :
    let s : Store Memory := { backend := Memory.backend, context := "c" }
    let text := "#App:1:hosts!StringArray"
    let m := (Memory.empty.create "c" text (Utf8.encode "[\"a.com\", null]")).2
    let kv : KeyValue := ⟨"hosts", .string text, []⟩
    Text.trim text = text ∧ Utf8.length text ≤ s.options.scanBound.toNat ∧
      ((record ⟨s, true⟩ kv).answer m).value.inText = "[\"a.com\",null]" ∧
      (s.resolveText text).answer m = "[\"a.com\",null]" ∧
      (s.resolveText ("in " ++ text ++ ".")).answer m = "in [\"a.com\",null]." := by
  intro s text m kv
  have unpadded : Text.trim text = text := by decide +kernel
  have within : Utf8.length text ≤ s.options.scanBound.toNat := by decide +kernel
  have named : Variable.parse? text = some ⟨"App", "1", "hosts", .stringArray⟩ := by decide +kernel
  have resolved : (s.resolveText text).answer m = "[\"a.com\",null]" := by decide +kernel
  obtain ⟨-, agree, spliced⟩ := record_value_as_in_text s m unpadded within kv rfl
  have legible : ∀ v raw, Variable.parse? text = some v → ¬ s.Garbled m v raw := fun v raw other garbled => by
    rw [named] at other
    cases other
    exact absurd garbled.custom (by decide)
  have longer : Utf8.encode ((s.resolveText ("in " ++ text ++ ".")).answer m) =
      Utf8.encode "in [\"a.com\",null]." := by
    rw [spliced (fun _ => rfl) _ (by decide +kernel)]
    decide +kernel
  exact ⟨unpadded, within, (agree legible).trans resolved, resolved, Utf8.encode_inj.mp longer⟩

/-- A byte that is no UTF-8, under a custom type: a record value is the token for nothing, and a string has a character
in its place. -/
theorem record_value_of_garbled :
    let s : Store Memory := { backend := Memory.backend, context := "c" }
    let v : Variable := ⟨"App", "1", "x", .custom "Blob"⟩
    let table : Table Bytes := [("#App:1:x!Blob", [0xFF]),
      ("#App:1:r!KeyValue", Utf8.encode "\x7b\"key\":\"k\",\"value\":\"#App:1:x!Blob\"\x7d"),
      ("#App:1:s!String", Utf8.encode "\"#App:1:x!Blob\"")]
    v.text = "#App:1:x!Blob" ∧ Variable.parse? v.text = some v ∧ Utf8.length v.text ≤ s.options.scanBound.toNat ∧
      ((keyValue ⟨s, true⟩ "#App:1:r!KeyValue").answer [("c", table)]).toOption.join.map (fun kv => kv.value.inText) =
        some "<null>" ∧
      ((string ⟨s, true⟩ "#App:1:s!String").answer [("c", table)]).toOption.join = some "\uFFFD" := by
  decide +kernel

end Reader

end VariableStore
