import VariableStore.Proofs.Session.Errors
import VariableStore.Proofs.Session.Readable
/-!
The field that an operation acts on. All spellings of a variable are one to reads of its type, to reads of any type and to
requests to write: these act on the field with the text of the variable. A read of raw bytes and a delete take the key as
it is written, so they act on that field only under the text itself, without white space around it.
-/
namespace VariableStore

variable {σ : Type}

def Query.Reads (v : Variable) (query : Query) : Prop := query = .any ∨ query.type? = some v.type.storedAs

instance (v : Variable) (query : Query) : Decidable (query.Reads v) := inferInstanceAs (Decidable (_ ∨ _))

section Spelling

variable {key other : String} {v : Variable}

/-- A query that reads values of a variable does the same under each of its spellings. -/
theorem Query.perform_congr (r : Reader σ) (read : Variable.parse? key = some v) (again : Variable.parse? other = some v)
    {query : Query} (matching : query.Reads v) : query.perform r key = query.perform r other := by
  rcases matching with rfl | matching
  · rw [perform, perform, Reader.any, Reader.any, read, again]
  have target : Reader.target key v.type.storedAs = Reader.target other v.type.storedAs := by
    rw [target_storedAs read, target_storedAs again]
  have typed : r.typed key v.type.storedAs = r.typed other v.type.storedAs := by
    rw [Reader.typed, Reader.typed, target]
  generalize v.type.storedAs = type at matching target typed
  have named : Variable.isVariable key = Variable.isVariable other := by
    rw [Variable.isVariable, Variable.isVariable, read, again]
  cases query with
  | any | raw => cases matching
  | string =>
    cases matching
    have isVariable : Variable.isVariable other = true := by simp [Variable.isVariable, again]
    rw [perform, perform, Reader.string, Reader.string, named, if_pos isVariable, if_pos isVariable, typed]
  | binaryStored =>
    cases matching
    rw [perform, perform, Reader.binaryStored, Reader.binaryStored, target]
  | binaryArrayStored =>
    cases matching
    rw [perform, perform, Reader.binaryArrayStored, Reader.binaryArrayStored, target]
  | _ =>
    cases matching
    simp only [perform, Reader.stringArray, Reader.binary, Reader.binaryAsText, Reader.binaryArray, Reader.keyValue,
      Reader.keyValueArray, Reader.entity, Reader.entityArray, typed]

/-- A query that reads values of a variable reads the field with its text, and then only what is embedded there. -/
theorem Query.calls_of_reads (r : Reader σ) (read : Variable.parse? key = some v) {query : Query}
    (matching : query.Reads v) (m : σ) : ∃ value, (query.perform r key).calls m =
      .read r.store.context v.text :: r.scope.embedded value := by
  rcases matching with rfl | matching
  · exact ⟨_, calls_any_of_variable r read m⟩
  · have isVariable : query = .string → Variable.isVariable key = true := fun _ => by simp [Variable.isVariable, read]
    have typed : r.scope.typed key v.type.storedAs = [.read r.store.context v.text] := by
      rw [Scope.typed, target_storedAs read]
      rfl
    exact ⟨_, (calls_query r matching key isVariable m).trans (by rw [typed]; rfl)⟩

/-- Without replacing, nothing embedded is read. -/
theorem Scope.embedded_of_plain {x : Scope} (plain : x.resolve = false) (value : Option TypedValue) :
    x.embedded value = [] := by
  rcases value with _ | value
  · rfl
  cases value <;> simp [embedded, text, record, plain]

/-- A request to write under a spelling of a variable has it as its target, or none. -/
theorem Creation.target?_of_spelling {s : Store σ} {c : Creation} {w : Variable} (read : Variable.parse? c.key = some v)
    (target : c.target? s = .ok (some w)) : w = v := by
  cases typed : c.type? with
  | some type =>
    rw [target?_of_type? typed, Store.target, read] at target
    obtain ⟨-, -, eq⟩ := map_eq_ok.mp target
    exact (Option.some.inj eq).symm
  | none =>
    cases c with
    | raw key value =>
      have own : Variable.parse? key = some v := read
      simp only [target?, own, Except.ok.injEq, Option.some.injEq] at target
      exact target.symm
    | any key value type =>
      cases typed
      have own : Variable.parse? key = some v := read
      simp only [target?, own, Option.none_or, Option.map_some, Store.target] at target
      obtain ⟨-, -, eq⟩ := map_eq_ok.mp target
      exact (Option.some.inj eq).symm
    | _ => cases typed

/-- A request to write under a spelling of a variable calls for nothing but to create this one. -/
theorem Creation.calls_of_spelling {s : Store σ} {c : Creation} (read : Variable.parse? c.key = some v) {m : σ} {call : Call}
    (called : call ∈ (c.perform s).calls m) : ∃ bytes, call = .create s.context v.text bytes := by
  rcases c.perform_cases s with ⟨w, bytes, target, -, -, eq⟩ | ⟨e, eq⟩ | eq
  · rw [eq, (makes_put s w bytes).map _ m, List.mem_singleton] at called
    exact ⟨bytes, target?_of_spelling read target ▸ called⟩
  · rw [eq] at called
    cases called
  · rw [eq] at called
    cases called

variable {s : Store Memory}

/-- What a read of raw bytes answers and calls for: the key as it is written. -/
theorem raw_memory (memory : s.backend = Memory.backend) (resolve : Bool) (key : String) (m : Memory) :
    (Query.raw.perform ⟨s, resolve⟩ key).answer m = .stored (m.get? s.context key) :=
  congrArg Answer.stored (fetch_memory memory key m)

/-- Where nothing is stored, nothing is read, and that is no error. -/
theorem Query.absent_memory (memory : s.backend = Memory.backend) (resolve : Bool) (read : Variable.parse? key = some v)
    {m : Memory} (absent : m.get? s.context v.text = none) {query : Query} (matching : query.Reads v) :
    ((query.perform ⟨s, resolve⟩ key).answer m).isPresent = false ∧
      ((query.perform ⟨s, resolve⟩ key).answer m).error? = none := by
  have fetched : (s.fetch v.text).answer m = none := (fetch_memory memory v.text m).trans absent
  have fetchedTyped : (s.fetchTyped v).answer m = none := by rw [fetchTyped_memory memory, absent]; rfl
  have typed := typed_memory memory resolve (target_storedAs read) m
  rw [absent, Option.bind_none] at typed
  have isVariable : Variable.isVariable key = true := by simp [Variable.isVariable, read]
  rcases matching with rfl | matching
  · rw [perform, Traced.answer_map, Reader.any, read, Traced.answer_bind, fetchedTyped]
    exact ⟨rfl, rfl⟩
  refine ⟨?_, ?_⟩
  · have target := target_storedAs read
    generalize v.type.storedAs = type at matching target typed
    cases query with
    | any | raw => cases matching
    | string =>
      cases matching
      rw [perform, Traced.answer_map, Reader.string, if_pos isVariable, Traced.answer_bind, typed]
      rfl
    | binaryStored =>
      cases matching
      simp only [perform, Traced.answer_map, Reader.binaryStored, target, Traced.answer_bind, fetched]
      rfl
    | binaryArrayStored =>
      cases matching
      simp only [perform, Traced.answer_map, Reader.binaryArrayStored, target, Traced.answer_bind, fetched]
      rfl
    | binaryAsText =>
      cases matching
      rw [perform, Traced.answer_map, Reader.binaryAsText, Reader.binary, Traced.answer_bind, Traced.answer_bind, typed]
      rfl
    | _ =>
      cases matching
      simp only [perform, Traced.answer_map, Reader.stringArray, Reader.binary, Reader.binaryArray, Reader.keyValue,
        Reader.keyValueArray, Reader.entity, Reader.entityArray, Traced.answer_bind, typed]
      rfl
  · rw [Query.error?_perform, Query.refusal?_eq matching, Variable.typeOf, read]
    exact if_pos rfl

/-- Under any spelling of a variable, over memory: a read of its type, or of any type, does what it does under the text of
the variable, and reads the field with this text and then only what is embedded there. A request to write creates nothing
but this field and leaves all others as they are. If it is acknowledged, a read of raw bytes under the text gives what was
encoded, a delete under the text removes it, and from then on the reads of the variable find nothing, under any spelling.
A read of raw bytes and a delete act on the field that is named as the key is written, and that is the same one exactly
if there is no white space around the key. -/
theorem field_of_spelling (memory : s.backend = Memory.backend) (read : Variable.parse? key = some v) (resolve : Bool)
    (m : Memory) :
    (∀ query : Query, query.Reads v →
      query.perform ⟨s, resolve⟩ key = query.perform ⟨s, resolve⟩ v.text ∧
      ∃ embedded, (query.perform ⟨s, resolve⟩ key).calls m = .read s.context v.text :: embedded ∧
        (resolve = false → embedded = [])) ∧
    (∀ c : Creation, c.key = key →
      (∀ call ∈ (c.perform s).calls m, ∃ bytes, call = .create s.context v.text bytes) ∧
      (∀ there field, ¬ (s.context = there ∧ v.text = field) →
        ((c.perform s).after m).get? there field = m.get? there field) ∧
      ∀ ack, (c.perform s).answer m = .ok (some ack) → ∃ bytes, c.encoding s.options.validate v = .ok bytes ∧
        (∀ b, c = .raw key (.bytes b) → bytes = b) ∧
        (Query.raw.perform ⟨s, resolve⟩ v.text).answer ((c.perform s).after m) = .stored (some bytes) ∧
        (s.delete v.text).answer ((c.perform s).after m) = some .deleted ∧
        ∀ spelling, Variable.parse? spelling = some v → ∀ query : Query, query.Reads v →
          let answer := (query.perform ⟨s, resolve⟩ spelling).answer
            ((s.delete v.text).after ((c.perform s).after m))
          answer.isPresent = false ∧ answer.error? = none) ∧
    (Query.raw.perform ⟨s, resolve⟩ key).calls m = [.read s.context key] ∧
    (Query.raw.perform ⟨s, resolve⟩ key).answer m = .stored (m.get? s.context key) ∧
    (s.delete key).calls m = [.delete s.context key] ∧
    (key = v.text ↔ Text.trim key = key) := by
  refine ⟨fun query matching => ⟨Query.perform_congr _ read (Variable.parse?_text read) matching, ?_⟩,
    fun c named => ⟨fun call called => ?_, fun there field apart => ?_, fun ack acknowledged => ?_⟩,
    makes_raw _ key m, raw_memory memory resolve key m, ?_, ?_⟩
  · obtain ⟨value, calls⟩ := Query.calls_of_reads ⟨s, resolve⟩ read matching m
    exact ⟨_, calls, fun plain => Scope.embedded_of_plain plain value⟩
  · exact Creation.calls_of_spelling (named ▸ read) called
  · rcases c.perform_memory memory m with ⟨w, bytes, target, -, -, after⟩ | ⟨-, after⟩
    · rw [after, Memory.get?_create, Creation.target?_of_spelling (named ▸ read) target, if_neg apart]
    · rw [after]
  · rcases c.perform_memory memory m with ⟨w, bytes, target, encoded, -, after⟩ | ⟨refused, -⟩
    · obtain rfl := Creation.target?_of_spelling (named ▸ read) target
      have stored : ((c.perform s).after m).get? s.context w.text = some bytes := by
        rw [after, Memory.get?_create, if_pos ⟨rfl, rfl⟩]
      have deleted := delete_memory memory w.text ((c.perform s).after m)
      have gone : ((s.delete w.text).after ((c.perform s).after m)).get? s.context w.text = none := by
        rw [deleted.2, Memory.get?_delete, if_pos ⟨rfl, rfl⟩]
      refine ⟨bytes, encoded, fun b raw => ?_, ?_, ?_, fun spelling again query matching => ?_⟩
      · subst raw
        exact (Except.ok.inj encoded).symm
      · rw [raw_memory memory, stored]
      · rcases Memory.delete_outcome ((c.perform s).after m) s.context w.text with ⟨-, outcome⟩ | ⟨absent, -⟩
        · rw [deleted.1, outcome]
        · rw [stored] at absent
          cases absent
      · exact Query.absent_memory memory resolve again gone matching
    · rw [acknowledged] at refused
      rcases refused with ⟨e, refused⟩ | refused <;> cases refused
  · unfold Store.delete
    rw [memory]
    rfl
  · rw [Variable.text_of_parse? read]
    exact eq_comm

end Spelling

def writtenRaw (key : String) (bytes : Bytes) : Memory :=
  ((Creation.raw key (.bytes bytes)).perform plainStore).after Memory.empty

theorem field_of_spelling_of_raw :
    (Query.raw.perform ⟨plainStore, false⟩ "#App:1:a!String").answer (writtenRaw "#App:1:a!String" [0xFF]) =
        .stored (some [0xFF]) ∧
      (plainStore.delete "#App:1:a!String").answer (writtenRaw "#App:1:a!String" [0xFF]) = some .deleted ∧
      (Query.string.perform ⟨plainStore, false⟩ "#App:1:a!String").calls Memory.empty =
        [.read "run" "#App:1:a!String"] := by
  have read : Variable.parse? "#App:1:a!String" = some ⟨"App", "1", "a", .string⟩ := by decide +kernel
  have text : Variable.text ⟨"App", "1", "a", .string⟩ = "#App:1:a!String" := by decide
  obtain ⟨reads, writes, -⟩ := field_of_spelling (s := plainStore) rfl read false Memory.empty
  have acknowledged : ((Creation.raw "#App:1:a!String" (.bytes [0xFF])).perform plainStore).answer Memory.empty =
      .ok (some .created) := by
    rw [Creation.perform_eq, Creation.target?, read]
    rfl
  obtain ⟨-, -, stored⟩ := writes (.raw "#App:1:a!String" (.bytes [0xFF])) rfl
  obtain ⟨bytes, -, same, found, removed, -⟩ := stored .created acknowledged
  rw [text, same [0xFF] rfl] at found
  rw [text] at removed
  obtain ⟨-, embedded, calls, embeds⟩ := reads .string (.inr rfl)
  refine ⟨found, removed, ?_⟩
  rwa [embeds rfl, text] at calls

/-- White space in front of a key leads a read of raw bytes and a delete past the record that was written under this very
key, while other reads find it. -/
theorem field_of_spelling_missed :
    let key := " #App:1:a!String"
    let bytes := Utf8.encode "\"x\""
    let m := writtenRaw key bytes
    Variable.parse? key = some ⟨"App", "1", "a", .string⟩ ∧
      (((Creation.raw key (.bytes bytes)).perform plainStore).answer Memory.empty).toOption = some (some .created) ∧
      m.get? "run" "#App:1:a!String" = some bytes ∧
      (Reader.raw ⟨plainStore, true⟩ key).answer m = none ∧
      (plainStore.delete key).answer m = some .notFound ∧
      ((Reader.string ⟨plainStore, true⟩ key).answer ((plainStore.delete key).after m)).toOption = some (some "x") := by
  decide +kernel

end VariableStore
