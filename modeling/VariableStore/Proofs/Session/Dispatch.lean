import VariableStore.Proofs.Session.Errors
import VariableStore.Proofs.Session.ReadModes
/-!
Reading a value of any type goes by the type of the variable, and comes to the same as reading a value of that type: the
same answer, from the same calls, with the same state after them. For what is read under a type has the form of this type,
so no reader of a type is handed a value that it has no use for. A key that is no variable is a text for both.
-/
namespace VariableStore

theorem Answer.error?_typed (a : Answer) : VariableStore.error? a.typed = a.error? := by
  cases a <;> first | rfl | exact error?_map _ _

namespace Reader

open Traced

variable {σ : Type} {r : Reader σ} {key : String} {v : Variable}

/-- A key that is no variable is a text with its references replaced, as any value and as a string. -/
theorem literal_read (literal : Variable.parse? key = none) :
    r.any key = (fun text => some (.string text)) <$> r.text key ∧
      r.string key = (fun text => .ok (some text)) <$> r.text key := by
  have unnamed : Variable.isVariable key ≠ true := by rw [Variable.isVariable, literal]; decide
  rw [any, literal, string, if_neg unnamed]
  exact ⟨rfl, rfl⟩

/-- Where any value is read, a reader that agrees finds what the value is made of. -/
theorem found_of_any {α : Type} {form : α → TypedValue} {x : Action σ (Except Error (Option α))} {value : TypedValue}
    {m : σ} (agree : Except.map (Option.map form) <$> x = Except.ok <$> r.any key)
    (present : (r.any key).answer m = some value) : ∃ a, value = form a ∧ x.answer m = .ok (some a) := by
  have same : (x.answer m).map (Option.map form) = .ok ((r.any key).answer m) := congrArg (Traced.answer · m) agree
  rw [present] at same
  obtain ⟨found, read, eq⟩ := map_eq_ok.mp same
  obtain ⟨a, rfl, rfl⟩ := Option.map_eq_some_iff.mp eq
  exact ⟨a, rfl, read⟩

theorem binary_of_any {value : TypedValue} {m : σ} (parsed : Variable.parse? key = some v) (type : v.type = .binary)
    (present : (r.any key).answer m = some value) :
    ∃ b, value = .binary b ∧ (r.binary key).answer m = .ok (some b) := by
  have agree : Answer.typed <$> Query.binary.perform r key = _ := typed_perform parsed (by rw [type]; rfl)
  rw [Query.perform, typed_map .binary fun _ => rfl] at agree
  exact found_of_any agree present

theorem binaryArray_of_any {value : TypedValue} {m : σ} (parsed : Variable.parse? key = some v)
    (type : v.type = .binaryArray) (present : (r.any key).answer m = some value) :
    ∃ items, value = .binaryArray items ∧ (r.binaryArray key).answer m = .ok (some items) := by
  have agree : Answer.typed <$> Query.binaryArray.perform r key = _ := typed_perform parsed (by rw [type]; rfl)
  rw [Query.perform, typed_map .binaryArray fun _ => rfl] at agree
  exact found_of_any agree present

end Reader

/-- Each query of a type reads values of this type as they are, or bytes as the texts that are stored for them, or bytes
as a text. -/
theorem Query.ofType?_of_type? {query : Query} {type : VariableType} (h : query.type? = some type.storedAs) :
    ofType? type = some query ∨ (query = .binaryStored ∧ type = .binary) ∨
      (query = .binaryArrayStored ∧ type = .binaryArray) ∨ query = .binaryAsText := by
  revert h
  cases query <;> cases type <;> simp [type?, ofType?, VariableType.storedAs]

namespace Reader

open Traced

variable {σ : Type} {r : Reader σ} {key : String} {v : Variable}

/-- A reader of a type that reads nothing reads where reading any value finds nothing. -/
theorem any_eq_none {query : Query} {type : VariableType} {m : σ} (needed : query.type? = some type)
    (whole : query ≠ .binaryAsText) (nothing : ((query.perform r key).answer m).typed = .ok none) :
    (r.any key).answer m = none := by
  have same : (Variable.typeOf key).storedAs = type := by
    have unrefused : query.refusal? key = none := by
      rw [← Query.error?_perform r key query m, ← Answer.error?_typed, nothing]
      rfl
    rw [Query.refusal?_eq needed] at unrefused
    by_contra other
    rw [if_neg other] at unrefused
    cases unrefused
  cases parsed : Variable.parse? key with
  | none =>
    rw [Variable.typeOf, parsed, Option.map_none, Option.getD_none] at same
    subst same
    cases query <;> cases needed
    rw [Query.perform, answer_map, (literal_read parsed).2, answer_map] at nothing
    cases nothing
  | some v =>
    rw [Variable.typeOf, parsed, Option.map_some, Option.getD_some] at same
    subst same
    rcases Query.ofType?_of_type? needed with reads | ⟨rfl, type⟩ | ⟨rfl, type⟩ | asText
    · rw [answer_typed_perform parsed reads] at nothing
      exact Except.ok.inj nothing
    · by_contra present
      obtain ⟨value, present⟩ := Option.ne_none_iff_exists'.mp present
      obtain ⟨b, -, read⟩ := binary_of_any parsed type present
      obtain ⟨text, stored, -⟩ := binary_iff_stored.mp read
      rw [Query.perform, answer_map, stored] at nothing
      cases nothing
    · by_contra present
      obtain ⟨value, present⟩ := Option.ne_none_iff_exists'.mp present
      obtain ⟨items, -, read⟩ := binaryArray_of_any parsed type present
      obtain ⟨texts, stored, -⟩ := binaryArray_iff_stored.mp read
      rw [Query.perform, answer_map, stored] at nothing
      cases nothing
    · exact absurd asText whole

/-- Reading a value of any type and reading a value of the type of the key are one. Under a variable of a standard type
they give the same answer from the same calls, and leave the same state behind, whatever the backend does; and a key that
is no variable is one text for both, from the same calls. So where there is a value of any type, each reader of a type
finds one, bytes that are read as they are stored included, unless it refuses the key. Bytes as a text are made from the
bytes that are read. -/
theorem any_agrees_with_typed (r : Reader σ) (key : String) :
    (∀ v, Variable.parse? key = some v → v.type ∈ VariableType.standard → ∃ query, Query.ofType? v.type = some query ∧
      Answer.typed <$> query.perform r key = Except.ok <$> r.any key) ∧
    (Variable.parse? key = none →
      r.any key = (fun text => some (.string text)) <$> r.text key ∧
      r.string key = (fun text => .ok (some text)) <$> r.text key) ∧
    (∀ (query : Query) type m, query.type? = some type → query ≠ .binaryAsText →
      ((query.perform r key).answer m).typed = .ok none → (r.any key).answer m = none) ∧
    ∀ v b m, Variable.parse? key = some v → v.type = .binary → (r.any key).answer m = some (.binary b) →
      (r.binaryAsText key).answer m = .ok (Utf8.decode? b) := by
  refine ⟨fun v parsed standard => ?_, literal_read, fun query type m => any_eq_none, fun v b m parsed type present => ?_⟩
  · have all : ∀ t ∈ VariableType.standard, (Query.ofType? t).isSome = true := by decide
    obtain ⟨query, reads⟩ := Option.isSome_iff_exists.mp (all v.type standard)
    exact ⟨query, reads, typed_perform parsed reads⟩
  · obtain ⟨b, ⟨⟩, read⟩ := binary_of_any parsed type present
    rw [binaryAsText, answer_bind, read]
    rfl

/-- An enhanced entity with blanks around it, a text with a variable in it, a variable with nothing under it, and a byte
that is no text. -/
theorem any_agrees_with_typed_of_kinds :
    let r : Reader Memory := ⟨plainStore, true⟩
    let m : Memory := [("run", [("#App:1:b!Binary", Utf8.encode "\"/w==\"")])]
    Answer.typed <$> Query.entity.perform r " #App:1:e!TCEnhancedEntity\n" =
        Except.ok <$> r.any " #App:1:e!TCEnhancedEntity\n" ∧
      r.any "of #App:1:b!Binary" = (fun text => some (.string text)) <$> r.text "of #App:1:b!Binary" ∧
      (r.any "#App:1:c!Binary").answer m = none ∧ (r.binaryAsText "#App:1:b!Binary").answer m = .ok none := by
  intro r m
  obtain ⟨query, reads, entity⟩ := (any_agrees_with_typed r " #App:1:e!TCEnhancedEntity\n").1
    ⟨"App", "1", "e", .enhancedEntity⟩ (by decide +kernel) (by decide)
  cases reads
  refine ⟨entity, ((any_agrees_with_typed r "of #App:1:b!Binary").2.1 (by decide +kernel)).1, ?_, ?_⟩
  · exact (any_agrees_with_typed r "#App:1:c!Binary").2.2.1 .binaryStored .binary m rfl (by decide) (by rfl)
  · exact (any_agrees_with_typed r "#App:1:b!Binary").2.2.2 ⟨"App", "1", "b", .binary⟩ [0xFF] m (by decide +kernel) rfl
      (by rfl)

/-- A byte that is no text is there as a value of any type and as bytes, but not as a text. -/
theorem binaryAsText_of_no_text :
    let r : Reader Memory := ⟨plainStore, true⟩
    let m : Memory := [("run", [("#App:1:b!Binary", Utf8.encode "\"/w==\"")])]
    (r.any "#App:1:b!Binary").answer m = some (.binary [0xFF]) ∧
      (r.binary "#App:1:b!Binary").answer m = .ok (some [0xFF]) ∧ (r.binaryAsText "#App:1:b!Binary").answer m = .ok none :=
  ⟨by rfl, by rfl, by rfl⟩

end Reader

end VariableStore
