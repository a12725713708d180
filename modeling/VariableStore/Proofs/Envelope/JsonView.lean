import VariableStore.Proofs.Envelope.Acceptance
/-!
Payloads and their JSON views. A payload that holds no bytes is null, JSON, or a list of such payloads, so null and lists
have two forms, a payload's own and that of JSON. Nearly every encoder sees the JSON view alone: it stores the two forms
alike and refuses them for the same reason. Only strings are told apart. Where nothing is validated a JSON array is stored
as its text under the type of strings, and a list is refused.
-/
namespace VariableStore

namespace Payload

inductive WithoutBytes : Payload → Prop where
  | null : WithoutBytes .null
  | json (j : Json) : WithoutBytes (.json j)
  | list {items : List Payload} (all : ∀ item ∈ items, WithoutBytes item) : WithoutBytes (.list items)

theorem toJson?_list_iff {items : List Payload} {j : Json} : (Payload.list items).toJson? = some j ↔
    ∃ js, List.Forall₂ (fun item k => item.toJson? = some k) items js ∧ j = .array js := by
  simp only [toJson?, Option.map_eq_some_iff, itemsToJson?_eq_some_iff, eq_comm (a := j)]

/-- Payloads that all have a view have a list of views. -/
theorem exists_views {items : List Payload} (all : ∀ item ∈ items, ∃ j, item.toJson? = some j) :
    ∃ js, List.Forall₂ (fun item j => item.toJson? = some j) items js := by
  induction items with
  | nil => exact ⟨[], .nil⟩
  | cons item rest ih =>
    obtain ⟨⟨j, view⟩, tail⟩ := List.forall_mem_cons.mp all
    obtain ⟨js, views⟩ := ih tail
    exact ⟨j :: js, .cons view views⟩

/-- A payload without bytes has a view. -/
theorem WithoutBytes.exists_toJson? {p : Payload} (plain : p.WithoutBytes) : ∃ j, p.toJson? = some j := by
  induction plain with
  | null => exact ⟨.null, rfl⟩
  | json j => exact ⟨j, rfl⟩
  | list _ ih =>
    obtain ⟨js, views⟩ := exists_views ih
    exact ⟨.array js, toJson?_list_iff.mpr ⟨js, views, rfl⟩⟩

/-- A payload with a view is the view itself, null, or the list of payloads with the views of its elements. -/
theorem toJson?_cases {p : Payload} {j : Json} (h : p.toJson? = some j) : p = .json j ∨ (p = .null ∧ j = .null) ∨
    ∃ items js, p = .list items ∧ j = .array js ∧ List.Forall₂ (fun item k => item.toJson? = some k) items js := by
  cases p with
  | null =>
    cases h
    exact .inr (.inl ⟨rfl, rfl⟩)
  | bytes b => cases h
  | json k =>
    cases h
    exact .inl rfl
  | list items =>
    obtain ⟨js, views, rfl⟩ := toJson?_list_iff.mp h
    exact .inr (.inr ⟨items, js, rfl, rfl, views⟩)

end Payload

namespace Envelope

variable {type : VariableType} {p : Payload} {j : Json} {validate : Bool}

theorem isNull_eq_of_view (view : p.toJson? = some j) : p.isNull = (Payload.json j).isNull := by
  rcases Payload.toJson?_cases view with rfl | ⟨rfl, rfl⟩ | ⟨items, js, rfl, rfl, -⟩ <;> rfl

theorem elements?_isSome_of_view (view : p.toJson? = some j) :
    p.elements?.isSome = (Payload.json j).elements?.isSome := by
  rcases Payload.toJson?_cases view with rfl | ⟨rfl, rfl⟩ | ⟨items, js, rfl, rfl, -⟩ <;> rfl

/-- What sees the views alone does the same with a list and with the array of the views of its elements. -/
theorem elements_bind_of_view {α β : Type} {f : Payload → Except Error α}
    (same : ∀ item k, item.toJson? = some k → f item = f (.json k)) (view : p.toJson? = some j)
    (form : List α → Except Error β) :
    (elements type p >>= fun items => items.mapM f >>= form) =
      (elements type (.json j) >>= fun items => items.mapM f >>= form) := by
  rcases Payload.toJson?_cases view with rfl | ⟨rfl, rfl⟩ | ⟨items, js, rfl, rfl, views⟩
  · rfl
  · rfl
  · have run : items.mapM f = (js.map Payload.json).mapM f := by
      clear view
      induction views with
      | nil => rfl
      | cons first _ ih => rw [List.map_cons, List.mapM_cons, List.mapM_cons, same _ _ first, ih]
    exact congrArg (· >>= form) run

theorem payloadBytes_of_view (view : p.toJson? = some j) :
    payloadBytes type p validate = payloadBytes type (.json j) validate := by
  rcases Payload.toJson?_cases view with rfl | ⟨rfl, rfl⟩ | ⟨items, js, rfl, rfl, -⟩ <;> rfl

theorem elementBase64_of_view (view : p.toJson? = some j) :
    elementBase64 validate p = elementBase64 validate (.json j) := by
  rw [elementBase64, elementBase64, isNull_eq_of_view view, payloadBytes_of_view view]

theorem elementText_of_view (view : p.toJson? = some j) : elementText p = elementText (.json j) := by
  rcases Payload.toJson?_cases view with rfl | ⟨rfl, rfl⟩ | ⟨items, js, rfl, rfl, -⟩
  · rfl
  · rfl
  · simp only [elementText, view]
    rfl

theorem recordJson_of_view (check : Json → Except DataFault Unit) (view : p.toJson? = some j) :
    recordJson type check p validate = recordJson type check (.json j) validate := by
  rw [recordJson, recordJson, view]
  rfl

theorem encodeRecord_of_view (check : Json → Except DataFault Unit) (view : p.toJson? = some j) :
    encodeRecord type check p validate = encodeRecord type check (.json j) validate := by
  rw [encodeRecord, encodeRecord, isNull_eq_of_view view, recordJson_of_view check view]

theorem encodeRecords_of_view (check : Json → Except DataFault Unit) (view : p.toJson? = some j) :
    encodeRecords type check p validate = encodeRecords type check (.json j) validate := by
  unfold encodeRecords
  rw [isNull_eq_of_view view, elements_bind_of_view (fun _ _ => recordJson_of_view check) view]

theorem encodeBinaryArray_of_view (view : p.toJson? = some j) :
    encodeBinaryArray p validate = encodeBinaryArray (.json j) validate := by
  unfold encodeBinaryArray
  rw [isNull_eq_of_view view, elements_bind_of_view (fun _ _ => elementBase64_of_view) view]

theorem encodeStringArray_of_view (view : p.toJson? = some j) : encodeStringArray p = encodeStringArray (.json j) := by
  unfold encodeStringArray
  rw [isNull_eq_of_view view, elements_bind_of_view (fun _ _ => elementText_of_view) view]

theorem encodeRaw_of_view (view : p.toJson? = some j) : encodeRaw p = encodeRaw (.json j) := by
  rcases Payload.toJson?_cases view with rfl | ⟨rfl, rfl⟩ | ⟨items, js, rfl, rfl, -⟩
  · rfl
  · rfl
  · simp only [encodeRaw, view]
    rfl

/-- Under every type but that of strings, a payload and its view are stored alike, or refused with one error. -/
theorem encode_of_view (other : type ≠ .string) (view : p.toJson? = some j) :
    encode type p validate = encode type (.json j) validate := by
  cases type with
  | binary => exact congrArg (· >>= fun b => pure (Utf8.encode (Base64.encode b))) (payloadBytes_of_view view)
  | binaryArray => exact encodeBinaryArray_of_view view
  | keyValue =>
    rw [encode, encode, encodeKeyValue, encodeKeyValue, elements?_isSome_of_view view, encodeRecord_of_view _ view]
  | string => exact absurd rfl other
  | stringArray => exact encodeStringArray_of_view view
  | entity | enhancedEntity => exact encodeRecord_of_view _ view
  | keyValueArray | entityArray | enhancedEntityArray => exact encodeRecords_of_view _ view
  | custom name => exact encodeRaw_of_view view

/-- Under the type of strings, a list is refused, and so is the array that is its view where something is validated. -/
theorem encodeString_iff_of_view (view : p.toJson? = some j) (form : validate = false → ∀ items, p ≠ .list items)
    (b : Bytes) : encodeString p validate = .ok b ↔ encodeString (.json j) validate = .ok b := by
  rcases Payload.toJson?_cases view with rfl | ⟨rfl, rfl⟩ | ⟨items, js, rfl, rfl, -⟩
  · exact Iff.rfl
  · exact ⟨(nomatch ·), (nomatch ·)⟩
  · cases validate with
    | true => exact ⟨(nomatch ·), (nomatch ·)⟩
    | false => exact absurd rfl (form rfl items)

/-- A payload without bytes has a JSON view, and a type does not tell the two apart, the one case aside where a list is
stored under the type of strings and nothing is validated: both are stored as the same bytes, or both are refused. -/
theorem encode_jsonView_iff (type : VariableType) (validate : Bool) {p : Payload} (plain : p.WithoutBytes) :
    ∃ j, p.toJson? = some j ∧
      ((∀ b, encode type p validate = .ok b ↔ encode type (.json j) validate = .ok b) ↔
        ¬(type = .string ∧ validate = false ∧ ∃ items, p = .list items)) := by
  obtain ⟨j, view⟩ := plain.exists_toJson?
  refine ⟨j, view, ?_, ?_⟩
  · rintro same ⟨rfl, rfl, items, rfl⟩
    obtain ⟨js, -, rfl⟩ := Payload.toJson?_list_iff.mp view
    have stored : encode .string (.json (.array js)) false = .ok (Json.string (Json.array js).compact).bytes := rfl
    have refused := (same _).mpr stored
    cases refused
  · intro told b
    by_cases string : type = .string
    · subst string
      refine encodeString_iff_of_view view (fun unchecked items list => ?_) b
      exact told ⟨rfl, unchecked, items, list⟩
    · rw [encode_of_view string view]

def nestedList : Payload := .list [.null, .json .null, .list [.text "a", .json (.array [.bool true])]]

theorem encode_jsonView_iff_of_nested : nestedList.WithoutBytes ∧ ∃ j, nestedList.toJson? = some j ∧
    ∀ b, encode .stringArray nestedList true = .ok b ↔ encode .stringArray (.json j) true = .ok b := by
  have plain : nestedList.WithoutBytes := by
    refine .list ?_
    simp only [List.forall_mem_cons]
    refine ⟨.null, .json _, .list ?_, by simp⟩
    simp only [List.forall_mem_cons]
    exact ⟨.json _, .json _, by simp⟩
  obtain ⟨j, view, alike⟩ := encode_jsonView_iff .stringArray true plain
  exact ⟨plain, j, view, alike.mpr (by simp)⟩

/-- A list of one text and its view, under the type of strings without validation. -/
theorem list_not_stored_as_string :
    let p : Payload := .list [.text "a"]
    let j : Json := .array [.string "a"]
    p.WithoutBytes ∧ p.toJson? = some j ∧ encode .string (.json j) false = .ok (Utf8.encode "\"[\\\"a\\\"]\"") ∧
      ∀ b, encode .string p false ≠ .ok b := by
  refine ⟨.list fun item inside => ?_, rfl, rfl, fun b stored => by cases stored⟩
  rw [List.mem_singleton.mp inside]
  exact .json _

end Envelope

end VariableStore
