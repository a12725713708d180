import VariableStore.Proofs.Envelope.Binary
import VariableStore.Proofs.Session.LastWrite
import VariableStore.Proofs.Session.Typed
/-!
Bytes through a store. After bytes were written to a variable, both ways of reading them give them back, all but
the bytes whose base64 text is the word `null`, which are read as nothing.
-/
namespace VariableStore

theorem type_of_check {subject : String} {actual : VariableType} {u : Unit}
    (h : VariableType.check subject actual .binary = .ok u) : actual = .binary := by
  unfold VariableType.check at h
  split at h
  · next same => cases actual <;> first | rfl | cases same
  · cases h

/-- An acknowledged write of bytes to a variable keeps their base64 text under the text of the variable. -/
theorem stored_of_created {s : Store Memory} {m : Memory} {b : Bytes} {key : String} {v : Variable}
    {ack : WriteAck} (memory : s.backend = Memory.backend) (parsed : Variable.parse? key = some v)
    (acknowledged : (s.create .binary key (.bytes b)).answer m = .ok (some ack)) : v.type = .binary ∧
      ((s.create .binary key (.bytes b)).after m).get? s.context v.text =
        some (Utf8.encode (Base64.encode b)) := by
  have same : s.create .binary key (.bytes b) = (Creation.typed .binary key (.bytes b)).perform s := rfl
  rw [same] at acknowledged ⊢
  rcases (Creation.typed .binary key (.bytes b)).perform_memory memory m with
    ⟨w, bytes, target, encoded, -, after⟩ | ⟨refused, -⟩
  · simp only [Creation.target?, Store.target, parsed] at target
    obtain ⟨u, checked, eq⟩ := map_eq_ok.mp target
    cases eq
    have type := type_of_check checked
    simp only [Creation.encoding, type, Envelope.encode, Creation.value, Envelope.encodeBinary_bytes] at encoded
    cases encoded
    exact ⟨type, by rw [after, Memory.get?_create]; simp⟩
  · rw [acknowledged] at refused
    rcases refused with ⟨e, refused⟩ | refused <;> cases refused

theorem fetch_memory {s : Store Memory} (memory : s.backend = Memory.backend) (key : String) (m : Memory) :
    (s.fetch key).answer m = m.get? s.context key := by
  unfold Store.fetch
  rw [memory]
  rfl

theorem fetchTyped_memory {s : Store Memory} (memory : s.backend = Memory.backend) (v : Variable) (m : Memory) :
    (s.fetchTyped v).answer m =
      (m.get? s.context v.text).bind fun raw => (Envelope.decode v.type raw).toOption.join := by
  rw [Store.fetchTyped, Traced.answer_bind, fetch_memory memory]
  cases m.get? s.context v.text <;> rfl

theorem target_binary {key : String} {v : Variable} (parsed : Variable.parse? key = some v)
    (type : v.type = .binary) : Reader.target key .binary = .ok (some v) := by
  have target := target_storedAs parsed
  rw [type] at target
  exact target

theorem typed_memory {s : Store Memory} (memory : s.backend = Memory.backend) (resolve : Bool) {key : String}
    {type : VariableType} {v : Variable} (target : Reader.target key type = .ok (some v)) (m : Memory) :
    (Reader.typed ⟨s, resolve⟩ key type).answer m =
      .ok ((m.get? s.context v.text).bind fun raw => (Envelope.decode v.type raw).toOption.join) := by
  unfold Reader.typed
  rw [target, ← fetchTyped_memory memory]
  rfl

/-- Reading bytes where the base64 text of `b` is stored. -/
theorem binary_memory {s : Store Memory} (memory : s.backend = Memory.backend) (resolve : Bool) {key : String}
    {v : Variable} (parsed : Variable.parse? key = some v) (type : v.type = .binary) {m : Memory} {b : Bytes}
    (stored : m.get? s.context v.text = some (Utf8.encode (Base64.encode b))) :
    (Reader.binary ⟨s, resolve⟩ key).answer m = .ok (if b = Base64.nullBytes then none else some b) := by
  have typed := typed_memory memory resolve (target_binary parsed type) m
  have decoded : Envelope.decode .binary (Utf8.encode (Base64.encode b)) = _ := Envelope.decodeBinary_encode b
  rw [stored, type, Option.bind_some, decoded] at typed
  unfold Reader.binary
  rw [Traced.answer_bind, typed]
  by_cases null : b = Base64.nullBytes
  · rw [if_pos null, if_pos null]
    rfl
  · rw [if_neg null, if_neg null]
    rfl

/-- Reading the base64 text where that of `b` is stored. -/
theorem binaryStored_memory {s : Store Memory} (memory : s.backend = Memory.backend) (resolve : Bool)
    {key : String} {v : Variable} (parsed : Variable.parse? key = some v) (type : v.type = .binary) {m : Memory}
    {b : Bytes} (stored : m.get? s.context v.text = some (Utf8.encode (Base64.encode b))) :
    (Reader.binaryStored ⟨s, resolve⟩ key).answer m =
      .ok (if b = Base64.nullBytes then none else some (Utf8.encode (Base64.encode b))) := by
  have text : Base64.encode b = "null" ↔ b = Base64.nullBytes := Base64.encode_eq_null_iff b
  have fetched : (s.fetch v.text).answer m = some (Utf8.encode (Base64.encode b)) := by
    rw [fetch_memory memory, stored]
  unfold Reader.binaryStored
  simp only [target_binary parsed type, Traced.answer_bind, fetched, Envelope.binaryText_encode,
    Traced.answer_pure, text]

/-- Bytes can always be stored, and they are read back exactly if they are not the bytes whose base64 text is the
word `null`: from their stored form, and through a store over memory after an acknowledged write to a variable,
however the variable is spelled, as bytes and as base64 text. -/
theorem binary_fidelity (b : Bytes) :
    (∀ validate, ∃ raw, Envelope.encode .binary (.bytes b) validate = .ok raw ∧
      Envelope.decode .binary raw = .ok (if b = Base64.nullBytes then none else some (.binary b))) ∧
    ∀ (s : Store Memory) (m : Memory) (key spelling : String) (v : Variable) (ack : WriteAck) (resolve : Bool),
      s.backend = Memory.backend → Variable.parse? key = some v → Variable.parse? spelling = some v →
      (s.create .binary key (.bytes b)).answer m = .ok (some ack) →
      (Reader.binary ⟨s, resolve⟩ spelling).answer ((s.create .binary key (.bytes b)).after m) =
          .ok (if b = Base64.nullBytes then none else some b) ∧
        (Reader.binaryStored ⟨s, resolve⟩ spelling).answer ((s.create .binary key (.bytes b)).after m) =
          .ok (if b = Base64.nullBytes then none else some (Utf8.encode (Base64.encode b))) := by
  refine ⟨fun validate => ⟨_, Envelope.encodeBinary_bytes b validate, Envelope.decodeBinary_encode b⟩, ?_⟩
  intro s m key spelling v ack resolve memory parsed again acknowledged
  obtain ⟨type, stored⟩ := stored_of_created memory parsed acknowledged
  exact ⟨binary_memory memory resolve again type stored, binaryStored_memory memory resolve again type stored⟩

theorem binary_fidelity_of_byte :
    (Reader.binary ⟨plainStore, true⟩ " #App:1:a!Binary").answer
        ((plainStore.create .binary "#App:1:a!Binary" (.bytes [7])).after Memory.empty) = .ok (some [7]) ∧
      (Reader.binaryStored ⟨plainStore, true⟩ " #App:1:a!Binary").answer
        ((plainStore.create .binary "#App:1:a!Binary" (.bytes [7])).after Memory.empty) =
        .ok (some (Utf8.encode "Bw==")) := by
  have parsed : Variable.parse? "#App:1:a!Binary" = some ⟨"App", "1", "a", .binary⟩ := by decide +kernel
  have again : Variable.parse? " #App:1:a!Binary" = some ⟨"App", "1", "a", .binary⟩ := by decide +kernel
  have target : plainStore.target "#App:1:a!Binary" .binary = .ok (some ⟨"App", "1", "a", .binary⟩) := by
    rw [Store.target, parsed]
    rfl
  have acknowledged : (plainStore.create .binary "#App:1:a!Binary" (.bytes [7])).answer Memory.empty =
      .ok (some .created) := by
    rw [Store.create, target]
    rfl
  have both := (binary_fidelity [7]).2 plainStore _ _ _ _ _ true rfl parsed again acknowledged
  rw [if_neg (by decide), if_neg (by decide)] at both
  exact both

/-- The bytes whose text is the word `null` are stored as this word, which is read as nothing. -/
theorem binary_null_lost : Envelope.encode .binary (.bytes [0x9E, 0xE9, 0x65]) true = .ok (Utf8.encode "null") ∧
    Envelope.decode .binary (Utf8.encode "null") = .ok none := by
  have text : Base64.encode Base64.nullBytes = "null" := (Base64.encode_eq_null_iff _).mpr rfl
  have stored := Envelope.encodeBinary_bytes Base64.nullBytes true
  have read := Envelope.decodeBinary_encode Base64.nullBytes
  rw [text] at stored read
  exact ⟨stored, read⟩

end VariableStore
