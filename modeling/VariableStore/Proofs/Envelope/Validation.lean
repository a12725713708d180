import VariableStore.Proofs.Envelope.Acceptance
/-!
Validation as a filter. Whether something is validated never shows in what is stored: a payload that passes is stored as
the bytes that it is stored as without validation, and a payload that does not pass is refused. What validation asks of a
payload is said type by type (`Admitted`), and each encoder that validates is compared with itself where it does not.
-/
namespace VariableStore

/-- The first computation gives what the second one gives where something holds, and fails elsewhere. -/
def Filters {ε α : Type} (admitted : Prop) (checked unchecked : Except ε α) : Prop :=
  ∀ a, checked = .ok a ↔ admitted ∧ unchecked = .ok a

namespace Filters

variable {ε α β : Type} {x y : Except ε α} {A : Prop}

theorem refl (x : Except ε α) : Filters True x x := fun _ => (and_iff_right trivial).symm

theorem error (A : Prop) (e f : ε) : Filters A (.error e : Except ε α) (.error f) :=
  fun _ => ⟨(nomatch ·), (nomatch ·.2)⟩

theorem congr {B : Prop} (h : Filters A x y) (same : A ↔ B) : Filters B x y :=
  fun a => (h a).trans (and_congr_left fun _ => same)

/-- A filter in front of a computation is one of the whole. -/
theorem bind (h : Filters A x y) (f : α → Except ε β) : Filters A (x >>= f) (y >>= f) := by
  intro b
  simp only [bind_eq_ok, h _, and_assoc, exists_and_left]

/-- A filter behind a computation is one for what the computation gives. -/
theorem after {B : α → Prop} {f g : α → Except ε β} (x : Except ε α) (h : ∀ a, Filters (B a) (f a) (g a)) :
    Filters (∀ a, x = .ok a → B a) (x >>= f) (x >>= g) := by
  intro b
  cases x with
  | error e => exact error _ e e b
  | ok a =>
    rw [ok_bind, ok_bind, h a b]
    simp

/-- A run over a list filters its items. -/
theorem mapM {B : α → Prop} {f g : α → Except ε β} (h : ∀ a, Filters (B a) (f a) (g a)) (xs : List α) :
    Filters (∀ a ∈ xs, B a) (xs.mapM f) (xs.mapM g) := by
  intro ys
  simp only [mapM_eq_ok_iff, h _ _, List.forall₂_and_left]

end Filters

namespace Envelope

/-- The JSON view of a payload, if it has one, passes a check. -/
def Passes (check : Json → Except DataFault Unit) (p : Payload) : Prop := ∀ j, p.toJson? = some j → check j = .ok ()

/-- The elements of a payload, if it is a list, are all of a kind. -/
def Each (kind : Payload → Prop) (p : Payload) : Prop := ∀ items, p.elements? = some items → ∀ item ∈ items, kind item

/-- What validation asks of a payload: that it is bytes, or a list of bytes and nulls, where these are stored; no
structure where a string is stored; and that records pass their check. It asks nothing of a list of strings, nor of a
value of a custom type. -/
def Admitted (type : VariableType) (p : Payload) : Prop :=
  match type with
  | .binary => p.shape = .bytes
  | .binaryArray => Each (fun item => item.shape = .null ∨ item.shape = .bytes) p
  | .keyValue => Passes checkKeyValue p
  | .keyValueArray => Each (Passes checkKeyValue) p
  | .string => p.shape ≠ .array ∧ p.shape ≠ .object
  | .entity | .enhancedEntity => Passes checkEntity p
  | .entityArray | .enhancedEntityArray => Each (Passes checkEntity) p
  | .stringArray | .custom _ => True

theorem shape_eq_bytes_iff {p : Payload} : p.shape = .bytes ↔ ∃ b, p = .bytes b := by
  rcases p with _ | b | j | items
  · simp [Payload.shape]
  · simp [Payload.shape]
  · cases j <;> simp [Payload.shape, Json.shape]
  · simp [Payload.shape]

theorem shape_eq_null_iff {p : Payload} : p.shape = .null ↔ p.isNull = true := by
  rcases p with _ | b | j | items
  · simp [Payload.shape, Payload.isNull]
  · simp [Payload.shape, Payload.isNull]
  · cases j <;> simp [Payload.shape, Json.shape, Payload.isNull, Json.isNull]
  · simp [Payload.shape, Payload.isNull]

variable {type : VariableType} {check : Json → Except DataFault Unit} {p : Payload}

/-- A null has no elements. -/
theorem each_of_isNull {kind : Payload → Prop} (null : p.isNull = true) : Each kind p := by
  intro items list
  rw [Payload.isNull_of_elements? list] at null
  cases null

/-- A filter of the elements is one of the list that is stored for them. -/
theorem filters_elements {α : Type} {kind : Payload → Prop} {f g : Payload → Except Error α}
    (each : ∀ item, Filters (kind item) (f item) (g item)) (form : List α → Bytes) (p : Payload) :
    Filters (Each kind p) (elements type p >>= fun items => items.mapM f >>= fun found => .ok (form found))
      (elements type p >>= fun items => items.mapM g >>= fun found => .ok (form found)) := by
  have all : ∀ items : List Payload, Filters (∀ item ∈ items, kind item)
      (items.mapM f >>= fun found => .ok (form found)) (items.mapM g >>= fun found => .ok (form found)) :=
    fun items => (Filters.mapM each items).bind _
  refine (Filters.after (elements type p) all).congr ?_
  simp only [elements_ok_iff, Each]

theorem filters_payloadBytes (type : VariableType) (p : Payload) :
    Filters (p.shape = .bytes) (payloadBytes type p true) (payloadBytes type p false) := by
  rw [shape_eq_bytes_iff]
  intro b
  rcases p with _ | c | j | items
  · simp [payloadBytes]
  · simp [payloadBytes]
  · cases j <;> simp [payloadBytes]
  · simp [payloadBytes]

theorem filters_elementBase64 (item : Payload) : Filters (item.shape = .null ∨ item.shape = .bytes)
    (elementBase64 true item) (elementBase64 false item) := by
  unfold elementBase64
  rw [shape_eq_null_iff]
  by_cases null : item.isNull = true
  · rw [if_pos null, if_pos null]
    exact (Filters.refl _).congr (by simp [null])
  · rw [if_neg null, if_neg null]
    exact ((filters_payloadBytes .binaryArray item).bind fun b => .ok (some (Base64.encode b))).congr (by simp [null])

theorem filters_encodeBinaryArray (p : Payload) : Filters (Admitted .binaryArray p)
    (encodeBinaryArray p true) (encodeBinaryArray p false) := by
  unfold encodeBinaryArray
  by_cases null : p.isNull = true
  · rw [if_pos null, if_pos null]
    exact (Filters.refl _).congr (by simp [Admitted, each_of_isNull null])
  · rw [if_neg null, if_neg null]
    exact filters_elements filters_elementBase64 _ p

theorem filters_stringText (p : Payload) : Filters (p.shape ≠ .array ∧ p.shape ≠ .object)
    (stringText p true) (stringText p false) := by
  rcases p with _ | b | j | items
  · exact Filters.error _ _ _
  · exact (Filters.refl _).congr (by simp [Payload.shape])
  · cases j with
    | null => exact Filters.error _ _ _
    | array items => exact fun _ => ⟨(nomatch ·), fun h => absurd rfl h.1.1⟩
    | object fields => exact fun _ => ⟨(nomatch ·), fun h => absurd rfl h.1.2⟩
    | _ => exact (Filters.refl _).congr (by simp [Payload.shape, Json.shape])
  · exact Filters.error _ _ _

theorem filters_recordJson (type : VariableType) (check : Json → Except DataFault Unit) (p : Payload) :
    Filters (Passes check p) (recordJson type check p true) (recordJson type check p false) := by
  intro j
  rw [recordJson_ok_iff, recordJson, Passes]
  cases p.toJson? with
  | none => exact ⟨(nomatch ·.1), (nomatch ·.2)⟩
  | some k =>
    simp only [Option.some.injEq, forall_eq']
    constructor
    · rintro ⟨rfl, passed⟩
      exact ⟨passed, rfl⟩
    · rintro ⟨passed, stored⟩
      cases stored
      exact ⟨rfl, passed⟩

theorem filters_encodeRecord (type : VariableType) (check : Json → Except DataFault Unit) (p : Payload) :
    Filters (Passes check p) (encodeRecord type check p true) (encodeRecord type check p false) := by
  unfold encodeRecord
  by_cases null : p.isNull = true
  · rw [if_pos null, if_pos null]
    exact Filters.error _ _ _
  · rw [if_neg null, if_neg null]
    exact (filters_recordJson type check p).bind _

theorem filters_encodeRecords (type : VariableType) (check : Json → Except DataFault Unit) (p : Payload) :
    Filters (Each (Passes check) p) (encodeRecords type check p true) (encodeRecords type check p false) := by
  unfold encodeRecords
  by_cases null : p.isNull = true
  · rw [if_pos null, if_pos null]
    exact (Filters.refl _).congr (by simp [each_of_isNull null])
  · rw [if_neg null, if_neg null]
    exact filters_elements (filters_recordJson type check) _ p

/-- A list passes for no key and value record, so refusing it at once filters nothing more. -/
theorem filters_encodeKeyValue (p : Payload) :
    Filters (Passes checkKeyValue p) (encodeKeyValue p true) (encodeKeyValue p false) := by
  have single := filters_encodeRecord .keyValue checkKeyValue p
  have unchecked : encodeKeyValue p false = encodeRecord .keyValue checkKeyValue p false := by
    rw [encodeKeyValue, Bool.false_and, if_neg (by decide)]
  rw [unchecked]
  cases shape : p.elements? with
  | none =>
    rw [encodeKeyValue, shape, Option.isSome_none, Bool.and_false, if_neg (by decide)]
    exact single
  | some items =>
    have nonnull := Payload.isNull_of_elements? shape
    have checked : ∀ b, encodeKeyValue p true = .ok b ↔ encodeRecord .keyValue checkKeyValue p true = .ok b := fun b =>
      (encodeKeyValue_ok_iff nonnull).trans (encodeRecord_ok_iff nonnull).symm
    exact fun b => (checked b).trans (single b)

/-- Under every type a payload is stored with validation exactly if it is admitted and is stored without, and then as the
same bytes. -/
theorem encode_validated_iff (type : VariableType) (p : Payload) (b : Bytes) :
    encode type p true = .ok b ↔ Admitted type p ∧ encode type p false = .ok b := by
  cases type with
  | binary => exact (filters_payloadBytes .binary p).bind _ b
  | binaryArray => exact filters_encodeBinaryArray p b
  | keyValue => exact filters_encodeKeyValue p b
  | keyValueArray => exact filters_encodeRecords .keyValueArray checkKeyValue p b
  | string => exact (filters_stringText p).bind _ b
  | entity | enhancedEntity => exact filters_encodeRecord .entity checkEntity p b
  | entityArray | enhancedEntityArray => exact filters_encodeRecords .entityArray checkEntity p b
  | stringArray | custom name => exact Filters.refl _ b

/-- A text is stored as bytes only where nothing is validated. -/
example : ¬ Admitted .binary (.text "a") ∧ encode .binary (.text "a") false = .ok (Utf8.encode "YQ==") :=
  ⟨by rw [Admitted]; decide, by rfl⟩

end Envelope

end VariableStore
