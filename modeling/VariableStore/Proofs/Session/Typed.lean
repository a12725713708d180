import VariableStore.Proofs.Envelope.Stability
import VariableStore.Proofs.Session.OneLevel
/-!
Readers of a type. What is read under a type has the form of this type, so under a variable of a standard type the reader
of this type comes to the same as reading any value: the same answer from the same calls.
-/
namespace VariableStore

/-- A spelling of a variable may be read as a value of the type as which its values are stored. -/
theorem target_storedAs {spelling : String} {v : Variable} (parsed : Variable.parse? spelling = some v) :
    Reader.target spelling v.type.storedAs = .ok (some v) := by
  have same : v.type.storedAs.storedAs = v.type.storedAs := by
    cases v.type <;> rfl
  simp [Reader.target, Variable.typeOf, parsed, VariableType.check, same, Except.map]

/-- Under a spelling of a variable, a read of the type as which its values are stored is a read of the variable. -/
theorem typed_of_variable {σ : Type} (r : Reader σ) {spelling : String} {v : Variable}
    (parsed : Variable.parse? spelling = some v) :
    r.typed spelling v.type.storedAs = Except.ok <$> r.store.fetchTyped v := by
  rw [Reader.typed, target_storedAs parsed]
  rfl

/-- The query that reads values of a standard type, bytes as they are. -/
def Query.ofType? : VariableType → Option Query
  | .binary => some .binary
  | .binaryArray => some .binaryArray
  | .keyValue => some .keyValue
  | .keyValueArray => some .keyValueArray
  | .string => some .string
  | .stringArray => some .stringArray
  | .entity | .enhancedEntity => some .entity
  | .entityArray | .enhancedEntityArray => some .entityArray
  | .custom _ => none

/-- What an answer has read, as a value of any type. Where it reports no value that can be read, it has read nothing. -/
def Answer.typed : Answer → Except Error (Option TypedValue)
  | .value result => .ok result
  | .text result => result.map (Option.map .string)
  | .texts result => result.map (Option.map .stringArray)
  | .bytes result => result.map (Option.map .binary)
  | .bytesList result => result.map (Option.map .binaryArray)
  | .keyValue result => result.map (Option.map .keyValue)
  | .keyValues result => result.map (Option.map .keyValueArray)
  | .entity result => result.map (Option.map .entity)
  | .entities result => result.map (Option.map .entityArray)
  | .stored result => .ok (result.map .raw)
  | .written result => result.map fun _ => none
  | .flushed result => result.map fun _ => none
  | .snapshot _ | .deleted _ | .gathered => .ok none

namespace Reader

open Traced

variable {σ : Type} {r : Reader σ} {key : String} {v : Variable}

/-- A reader of a type agrees with reading any value if what is stored under the type has the form `form`, and the reader
goes on from this form as reading any value does. -/
theorem map_eq_any {α : Type} {type : VariableType} {form : α → TypedValue} (step : α → Action σ α)
    {f : Except Error (Option TypedValue) → Action σ (Except Error (Option α))}
    (parsed : Variable.parse? key = some v) (same : v.type.storedAs = type)
    (formed : ∀ raw value, Envelope.decode v.type raw = .ok (some value) → ∃ a, value = form a)
    (nothing : f (.ok none) = pure (.ok none))
    (reads : ∀ a, f (.ok (some (form a))) = (fun b => .ok (some b)) <$> step a)
    (embeds : ∀ a, r.embed (some (form a)) = (fun b => some (form b)) <$> step a) :
    Except.map (Option.map form) <$> (r.typed key type >>= f) = Except.ok <$> r.any key := by
  subst same
  rw [any_of_variable r parsed, typed_of_variable r parsed]
  simp only [map_eq_pure_bind, bind_assoc, pure_bind]
  refine bind_congr_of_answer fun s => ?_
  cases found : (r.store.fetchTyped v).answer s with
  | none =>
    rw [nothing]
    rfl
  | some value =>
    obtain ⟨raw, -, read⟩ := fetchTyped_some_iff.mp found
    obtain ⟨a, rfl⟩ := formed raw value read
    simp only [reads, embeds, map_eq_pure_bind, bind_assoc, pure_bind]
    rfl

/-- An answer is read as a value by what its form is for. -/
theorem typed_map {α : Type} {answer : Except Error (Option α) → Answer} (form : α → TypedValue)
    (same : ∀ result, (answer result).typed = result.map (Option.map form)) (x : Action σ (Except Error (Option α))) :
    Answer.typed <$> answer <$> x = Except.map (Option.map form) <$> x := by
  rw [← comp_map]
  exact congrArg (· <$> x) (funext same)

/-- Under a variable of a standard type, its reader agrees with reading any value. -/
theorem typed_perform {query : Query} (parsed : Variable.parse? key = some v)
    (reads : Query.ofType? v.type = some query) :
    Answer.typed <$> query.perform r key = Except.ok <$> r.any key := by
  obtain ⟨application, job, name, type⟩ := v
  cases type with
  | binary =>
    cases reads
    rw [Query.perform, typed_map .binary fun _ => rfl, binary]
    refine map_eq_any pure parsed rfl (fun _ _ h => ?_) rfl (fun _ => rfl) fun _ => rfl
    obtain ⟨b, eq, -⟩ := Envelope.decodeBinary_ok h
    exact ⟨b, eq⟩
  | binaryArray =>
    cases reads
    rw [Query.perform, typed_map .binaryArray fun _ => rfl, binaryArray]
    exact map_eq_any pure parsed rfl (fun _ _ => Envelope.decodeBinaryArray_ok) rfl (fun _ => rfl) fun _ => rfl
  | keyValue =>
    cases reads
    rw [Query.perform, typed_map .keyValue fun _ => rfl, keyValue]
    exact map_eq_any r.record parsed rfl (fun _ _ => Envelope.form_of_decodeRecord) rfl (fun _ => rfl) fun _ => rfl
  | keyValueArray =>
    cases reads
    rw [Query.perform, typed_map .keyValueArray fun _ => rfl, keyValueArray]
    exact map_eq_any r.records parsed rfl (fun _ _ => Envelope.form_of_decodeRecords) rfl (fun _ => rfl) fun _ => rfl
  | string =>
    cases reads
    have named : Variable.isVariable key = true := by rw [Variable.isVariable, parsed, Option.isSome_some]
    rw [Query.perform, typed_map .string fun _ => rfl, string, if_pos named]
    exact map_eq_any r.text parsed rfl (fun _ _ => Envelope.decodeString_ok) rfl (fun _ => rfl) fun _ => rfl
  | stringArray =>
    cases reads
    rw [Query.perform, typed_map .stringArray fun _ => rfl, stringArray]
    exact map_eq_any pure parsed rfl (fun _ _ => Envelope.decodeStringArray_ok) rfl (fun _ => rfl) fun _ => rfl
  | entity | enhancedEntity =>
    cases reads
    rw [Query.perform, typed_map .entity fun _ => rfl, entity]
    exact map_eq_any pure parsed rfl (fun _ _ => Envelope.form_of_decodeRecord) rfl (fun _ => rfl) fun _ => rfl
  | entityArray | enhancedEntityArray =>
    cases reads
    rw [Query.perform, typed_map .entityArray fun _ => rfl, entityArray]
    exact map_eq_any pure parsed rfl (fun _ _ => Envelope.form_of_decodeRecords) rfl (fun _ => rfl) fun _ => rfl
  | custom name => cases reads

theorem answer_typed_perform {query : Query} (parsed : Variable.parse? key = some v)
    (reads : Query.ofType? v.type = some query) (m : σ) :
    ((query.perform r key).answer m).typed = .ok ((r.any key).answer m) :=
  congrArg (Traced.answer · m) (typed_perform parsed reads)

end Reader

end VariableStore
