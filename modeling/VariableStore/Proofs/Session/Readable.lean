import VariableStore.Proofs.Envelope.Acceptance
import VariableStore.Proofs.Session.Binary
import VariableStore.Proofs.Session.Typed
/-!
Records through a store. A validated write of a record that is acknowledged can be read under every spelling of its
variable, as long as the record nests no deeper than a text that is read may. A record that nests deeper is written all
the same, and from then on it is as if there were nothing.
-/
namespace VariableStore

open Envelope (recordTypes)

def isPresent {α : Type} : Except Error (Option α) → Bool
  | .ok (some _) => true
  | _ => false

def Answer.isPresent : Answer → Bool
  | .value result => result.isSome
  | .text result => VariableStore.isPresent result
  | .texts result => VariableStore.isPresent result
  | .bytes result => VariableStore.isPresent result
  | .bytesList result => VariableStore.isPresent result
  | .keyValue result => VariableStore.isPresent result
  | .keyValues result => VariableStore.isPresent result
  | .entity result => VariableStore.isPresent result
  | .entities result => VariableStore.isPresent result
  | .stored result => result.isSome
  | _ => false

theorem isPresent_map {α β : Type} (f : α → β) (result : Except Error (Option α)) :
    isPresent (result.map (Option.map f)) = isPresent result := by
  rcases result with e | _ | value <;> rfl

/-- An answer has a value if it has one as a value of any type. -/
theorem Answer.isPresent_typed (a : Answer) : VariableStore.isPresent a.typed = a.isPresent := by
  cases a with
  | value result | stored result => cases result <;> rfl
  | written result | flushed result => cases result <;> rfl
  | snapshot result | deleted result => rfl
  | gathered => rfl
  | _ result => exact isPresent_map _ result

/-- A record type is read by its reader. -/
theorem Query.ofType?_of_record {type : VariableType} (record : type ∈ recordTypes) {query : Query}
    (matching : query.type? = some type.storedAs) : ofType? type = some query := by
  simp only [recordTypes, List.mem_cons, List.not_mem_nil, or_false] at record
  rcases record with rfl | rfl | rfl | rfl | rfl | rfl <;> cases query <;> cases matching <;> rfl

/-- Replacing references leaves a value where there is one. -/
theorem Reader.isSome_embed {σ : Type} (r : Reader σ) (found : Option TypedValue) (m : σ) :
    ((r.embed found).answer m).isSome = found.isSome := by
  rcases found with _ | value
  · rfl
  · cases value <;> rfl

/-- A payload in whose JSON view no object names a field twice. -/
def Payload.Named (p : Payload) : Prop := ∀ j, p.toJson? = some j → j.Named

/-- What validation accepts is the text of its JSON view, and that is read if it nests no deeper than a text that is
read may. -/
theorem decode_of_encode {type : VariableType} (record : type ∈ recordTypes) {p : Payload} (nonnull : p.isNull = false)
    (named : p.Named) {b : Bytes} (encoded : Envelope.encode type p true = .ok b) : ∃ j, p.toJson? = some j ∧
      ((∃ value, Envelope.decode type b = .ok (some value)) ↔ j.depth ≤ Json.maxDepth) ∧
      (Json.maxDepth < j.depth → Envelope.decode type b = .error (.serialization (.notJson type.storedAs))) := by
  obtain ⟨j, view, accepted, rfl⟩ := (Envelope.encode_ok_iff record nonnull).mp encoded
  have deep := Envelope.decode_deep record (named j view)
  refine ⟨j, view, ⟨?_, fun shallow => ?_⟩, deep⟩
  · rintro ⟨value, read⟩
    by_contra past
    rw [deep (Nat.lt_of_not_le past)] at read
    cases read
  · exact (Envelope.decode_some_iff record ⟨named j view, shallow⟩).mpr accepted

/-- What is stored under a variable of a record type is present to the reader of its type if it can be read. -/
theorem isPresent_memory {s : Store Memory} (memory : s.backend = Memory.backend) (resolve : Bool) {spelling : String}
    {v : Variable} (parsed : Variable.parse? spelling = some v) (record : v.type ∈ recordTypes) {query : Query}
    (matching : query.type? = some v.type.storedAs) {m : Memory} {b : Bytes}
    (stored : m.get? s.context v.text = some b) :
    ((query.perform ⟨s, resolve⟩ spelling).answer m).isPresent = true ↔
      ∃ value, Envelope.decode v.type b = .ok (some value) := by
  have any := Reader.answer_typed_perform (r := ⟨s, resolve⟩) parsed (Query.ofType?_of_record record matching) m
  have present : ∀ found : Option TypedValue, isPresent (.ok found) = found.isSome := by rintro (_ | value) <;> rfl
  rw [← Answer.isPresent_typed, any, present, Reader.any_of_variable _ parsed, Traced.answer_bind, Reader.isSome_embed,
    fetchTyped_memory memory, stored, Option.bind_some, Option.isSome_iff_exists]
  cases Envelope.decode v.type b with
  | error e => simp [Except.toOption]
  | ok value? => simp [Except.toOption]

/-- Every record that validation accepts can be read back from its bytes, if its JSON view nests no deeper than a text
that is read may, and only then: a record that nests deeper is refused as no JSON. Through a store over memory the
same holds after a validated write that is acknowledged: the reader of its type has a value under every spelling of the
variable if the view nests no deeper, and none if it does. -/
theorem accepted_records_readable {type : VariableType} (record : type ∈ recordTypes) {p : Payload}
    (nonnull : p.isNull = false) (named : p.Named) :
    (∀ b, Envelope.encode type p true = .ok b → ∃ j, p.toJson? = some j ∧
      ((∃ value, Envelope.decode type b = .ok (some value)) ↔ j.depth ≤ Json.maxDepth) ∧
      (Json.maxDepth < j.depth → Envelope.decode type b = .error (.serialization (.notJson type.storedAs)))) ∧
    ∀ (s : Store Memory) (m : Memory) (c : Creation) (v : Variable) (ack : WriteAck),
      s.backend = Memory.backend → s.options.validate = true → (∀ key, c ≠ .raw key p) → c.value = p →
      c.target? s = .ok (some v) → v.type = type → (c.perform s).answer m = .ok (some ack) →
      ∃ j, p.toJson? = some j ∧ ∀ (spelling : String) (resolve : Bool) (query : Query),
        Variable.parse? spelling = some v → query.type? = some type.storedAs →
        (((query.perform ⟨s, resolve⟩ spelling).answer ((c.perform s).after m)).isPresent = true ↔
          j.depth ≤ Json.maxDepth) := by
  refine ⟨fun b encoded => decode_of_encode record nonnull named encoded, ?_⟩
  rintro s m c v ack memory validates typed rfl target rfl acknowledged
  rcases c.perform_memory memory m with ⟨w, b, found, encoded, -, after⟩ | ⟨refused, -⟩
  · rw [target] at found
    cases found
    have encoding : c.encoding true v = Envelope.encode v.type c.value true := by
      cases c with
      | raw key value => exact absurd rfl (typed key)
      | _ => rfl
    rw [validates, encoding] at encoded
    obtain ⟨j, view, readable, -⟩ := decode_of_encode record nonnull named encoded
    refine ⟨j, view, fun spelling resolve query parsed matching => ?_⟩
    have stored : ((c.perform s).after m).get? s.context v.text = some b := by
      rw [after, Memory.get?_create]
      simp
    rw [isPresent_memory memory resolve parsed record matching stored, readable]
  · rw [acknowledged] at refused
    rcases refused with ⟨e, refused⟩ | refused <;> cases refused

def holding (depth : Nat) : Json := .object [("key", .string "k"), ("value", nested depth)]

theorem depth_holding (depth : Nat) : (holding depth).depth = depth + 1 := by
  simp [holding, Json.depth, Json.fieldDepth, depth_nested]

theorem named_holding (depth : Nat) : (holding depth).Named := by
  simp [holding, Json.named_object_iff, Table.Distinct, Table.keys, named_nested]

theorem encode_holding (depth : Nat) :
    Envelope.encode .keyValue (.json (holding depth)) true = .ok (holding depth).bytes := rfl

/-- A record that nests as deep as a text that is read may. -/
theorem accepted_records_readable_of_holding :
    (∃ value, Envelope.decode .keyValue (holding 126).bytes = .ok (some value)) ∧
      ((Query.keyValue.perform ⟨plainStore, true⟩ " #App:1:r!KeyValue").answer
        ((plainStore.create .keyValue "#App:1:r!KeyValue" (.json (holding 126))).after Memory.empty)).isPresent =
          true := by
  have named : (Payload.json (holding 126)).Named := by
    rintro _ ⟨⟩
    exact named_holding 126
  obtain ⟨bytes, reads⟩ := accepted_records_readable
    (by simp [recordTypes] : VariableType.keyValue ∈ recordTypes) rfl named
  have shallow : (holding 126).depth ≤ Json.maxDepth := Nat.le_of_eq (depth_holding 126)
  constructor
  · obtain ⟨_, ⟨⟩, readable, -⟩ := bytes _ (encode_holding 126)
    exact readable.mpr shallow
  · have parsed : Variable.parse? "#App:1:r!KeyValue" = some ⟨"App", "1", "r", .keyValue⟩ := by decide +kernel
    have again : Variable.parse? " #App:1:r!KeyValue" = some ⟨"App", "1", "r", .keyValue⟩ := by decide +kernel
    have target : plainStore.target "#App:1:r!KeyValue" .keyValue = .ok (some ⟨"App", "1", "r", .keyValue⟩) := by
      rw [Store.target, parsed]
      rfl
    have acknowledged : (plainStore.create .keyValue "#App:1:r!KeyValue" (.json (holding 126))).answer Memory.empty =
        .ok (some .created) := by
      rw [Store.create, target]
      rfl
    obtain ⟨_, ⟨⟩, present⟩ := reads plainStore Memory.empty
      (.typed .keyValue "#App:1:r!KeyValue" (.json (holding 126))) _ _ rfl rfl (by simp) rfl target rfl acknowledged
    exact (present _ true .keyValue again rfl).mpr shallow

/-- One level deeper a record is accepted, and what is stored cannot be read. -/
theorem accepted_record_lost : ∃ b, Envelope.encode .keyValue (.json (holding 127)) true = .ok b ∧
    ¬∃ value, Envelope.decode .keyValue b = .ok (some value) := by
  refine ⟨_, encode_holding 127, ?_⟩
  have deep : Json.maxDepth < (holding 127).depth := by
    rw [depth_holding]
    decide
  rw [Envelope.decode_deep (by simp [recordTypes]) (named_holding 127) deep]
  rintro ⟨_, ⟨⟩⟩

end VariableStore
