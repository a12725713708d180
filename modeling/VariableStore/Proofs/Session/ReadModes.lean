import VariableStore.Proofs.Session.Readable
/-!
Bytes are read in two ways: as they are, or as the base64 texts that are stored for them. The two agree on any key and
whatever the backend answers. Bytes are read where a text is read that stands for them, and a list of bytes where a
list of texts is read, each of which stands for the bytes in its place. Both ways ask the backend for the same.

Either way of reading is brought down to the bytes that it finds in the backend (`Finds`), and to what the envelope
makes of these.
-/
namespace VariableStore

/-- Types that are stored alike are read alike. -/
theorem Envelope.decode_storedAs (type : VariableType) (raw : Bytes) :
    Envelope.decode type.storedAs raw = Envelope.decode type raw := by
  cases type <;> rfl

namespace Reader

open Envelope

variable {σ : Type} {r : Reader σ} {key : String} {type : VariableType} {m : σ}

theorem storedAs_of_target {v : Variable} (h : target key type = .ok (some v)) :
    v.type.storedAs = type.storedAs := by
  have parsed := parse?_of_target h
  obtain ⟨u, checked, -⟩ := map_eq_ok.mp h
  simp only [Variable.typeOf, parsed, Option.map_some, Option.getD_some, VariableType.check] at checked
  by_contra other
  rw [if_neg other] at checked
  cases checked

/-- The key may be read as a value of the type, and the backend has these bytes under its variable. -/
def Finds (r : Reader σ) (key : String) (type : VariableType) (m : σ) (raw : Bytes) : Prop :=
  ∃ v, target key type = .ok (some v) ∧ (r.store.fetch v.text).answer m = some raw

/-- A read under a key that must be of some type gives what it makes of the bytes that it finds. -/
theorem answer_target_some_iff {α : Type} {read : Variable → Action σ (Except Error (Option α))} {a : α}
    {P : Bytes → Prop} (made : ∀ v, target key type = .ok (some v) →
      ((read v).answer m = .ok (some a) ↔ ∃ raw, (r.store.fetch v.text).answer m = some raw ∧ P raw)) :
    Traced.answer
        (match target key type with
        | .error e => pure (.error e)
        | .ok none => pure (.ok none)
        | .ok (some v) => read v) m = .ok (some a) ↔
      ∃ raw, r.Finds key type m raw ∧ P raw := by
  unfold Finds
  cases found : target key type with
  | error e => simp
  | ok v? =>
    cases v? with
    | none => simp
    | some v => simp [made v found]

theorem typed_some_iff {value : TypedValue} : (r.typed key type).answer m = .ok (some value) ↔
    ∃ raw, r.Finds key type m raw ∧ Envelope.decode type raw = .ok (some value) := by
  refine answer_target_some_iff fun v found => ?_
  have alike : ∀ raw, Envelope.decode v.type raw = Envelope.decode type raw := fun raw => by
    rw [← decode_storedAs, storedAs_of_target found, decode_storedAs]
  simp [fetchTyped_some_iff, alike]

theorem binary_some_iff {b : Bytes} : (r.binary key).answer m = .ok (some b) ↔
    ∃ raw, r.Finds key .binary m raw ∧ b ≠ Base64.nullBytes ∧ binaryText raw = .ok (Base64.encode b) := by
  have typed : (r.binary key).answer m = .ok (some b) ↔ (r.typed key .binary).answer m = .ok (some (.binary b)) := by
    rw [binary, Traced.answer_bind]
    rcases (r.typed key .binary).answer m with e | _ | value
    · simp
    · simp
    · cases value <;> simp
  rw [typed, typed_some_iff]
  refine exists_congr fun raw => and_congr_right fun _ => ?_
  rw [Envelope.decode, decodeBinary_some_iff]
  simp

theorem binaryStored_some_iff {stored : Bytes} : (r.binaryStored key).answer m = .ok (some stored) ↔
    ∃ raw, r.Finds key .binary m raw ∧
      ∃ text, binaryText raw = .ok text ∧ text ≠ "null" ∧ Utf8.encode text = stored := by
  refine answer_target_some_iff fun v _ => ?_
  rw [Traced.answer_bind]
  cases (r.store.fetch v.text).answer m with
  | none => simp
  | some raw =>
    simp only [Option.some.injEq, exists_eq_left']
    cases binaryText raw with
    | error e => simp
    | ok text => by_cases null : text = "null" <;> simp [null]

theorem binaryArray_some_iff {items : List (Option Bytes)} : (r.binaryArray key).answer m = .ok (some items) ↔
    ∃ raw, r.Finds key .binaryArray m raw ∧ binaryTexts raw = .ok (some (items.map (Option.map Base64.encode))) := by
  have typed : (r.binaryArray key).answer m = .ok (some items) ↔
      (r.typed key .binaryArray).answer m = .ok (some (.binaryArray items)) := by
    rw [binaryArray, Traced.answer_bind]
    rcases (r.typed key .binaryArray).answer m with e | _ | value
    · simp
    · simp
    · cases value <;> simp
  rw [typed, typed_some_iff]
  refine exists_congr fun raw => and_congr_right fun _ => ?_
  rw [Envelope.decode, decodeBinaryArray_some_iff]
  simp

theorem binaryArrayStored_some_iff {stored : List (Option Bytes)} :
    (r.binaryArrayStored key).answer m = .ok (some stored) ↔ ∃ raw, r.Finds key .binaryArray m raw ∧
      ∃ texts, binaryTexts raw = .ok (some texts) ∧ texts.map (Option.map Utf8.encode) = stored := by
  refine answer_target_some_iff fun v _ => ?_
  rw [Traced.answer_bind]
  cases (r.store.fetch v.text).answer m with
  | none => simp
  | some raw =>
    simp only [Option.some.injEq, exists_eq_left']
    rcases binaryTexts raw with e | _ | texts <;> simp

/-- Bytes are read exactly where a text is read that stands for them. -/
theorem binary_iff_stored {b : Bytes} : (r.binary key).answer m = .ok (some b) ↔
    ∃ text, (r.binaryStored key).answer m = .ok (some (Utf8.encode text)) ∧ Base64.decode? text = some b := by
  constructor
  · intro read
    obtain ⟨raw, found, other, text⟩ := binary_some_iff.mp read
    have word : Base64.encode b ≠ "null" := fun null => other ((Base64.encode_eq_null_iff b).mp null)
    exact ⟨_, binaryStored_some_iff.mpr ⟨raw, found, _, text, word, rfl⟩, Base64.decode?_encode b⟩
  · rintro ⟨text, read, decoded⟩
    obtain ⟨raw, found, text', stored, word, same⟩ := binaryStored_some_iff.mp read
    obtain rfl := Utf8.encode_inj.mp same
    obtain rfl := Base64.decode?_eq_some_iff.mp decoded
    exact binary_some_iff.mpr ⟨raw, found, fun null => word ((Base64.encode_eq_null_iff b).mpr null), stored⟩

/-- A text or null stands for bytes or nothing exactly if it is what these are stored as. -/
theorem rel_decode?_iff (text : Option String) (item : Option Bytes) :
    Option.Rel (fun text b => Base64.decode? text = some b) text item ↔ text = item.map Base64.encode := by
  cases text <;> cases item <;> simp [Base64.decode?_eq_some_iff]

/-- A list of bytes is read exactly where a list of texts is read that stand for them, each for the bytes in its
place. -/
theorem binaryArray_iff_stored {items : List (Option Bytes)} : (r.binaryArray key).answer m = .ok (some items) ↔
    ∃ texts : List (Option String),
      (r.binaryArrayStored key).answer m = .ok (some (texts.map (Option.map Utf8.encode))) ∧
        List.Forall₂ (Option.Rel fun text b => Base64.decode? text = some b) texts items := by
  simp only [forall₂_iff_eq_map rel_decode?_iff]
  constructor
  · intro read
    obtain ⟨raw, found, texts⟩ := binaryArray_some_iff.mp read
    exact ⟨_, binaryArrayStored_some_iff.mpr ⟨raw, found, _, texts, rfl⟩, rfl⟩
  · rintro ⟨_, read, rfl⟩
    obtain ⟨raw, found, texts, stored, same⟩ := binaryArrayStored_some_iff.mp read
    have injective : Function.Injective (Option.map Utf8.encode) :=
      Option.map_injective fun _ _ => Utf8.encode_inj.mp
    obtain rfl := injective.list_map same
    exact binaryArray_some_iff.mpr ⟨raw, found, stored⟩

theorem scope_typed_of_variable {v : Variable} (parsed : Variable.parse? key = some v) (same : v.type.storedAs = type) :
    r.scope.typed key type = [.read r.store.context v.text] := by
  subst same
  rw [Scope.typed, target_storedAs parsed]
  rfl

/-- Both ways to read bytes agree, on any key and whatever the backend answers: bytes are read exactly where a text is
read that stands for them, and a list of bytes exactly where a list of texts is read, as long, with null in the same
places, each of whose texts stands for the bytes in its place. Under a variable of the type, both make one call: the
read of the variable. -/
theorem read_modes_agree (r : Reader σ) (key : String) (m : σ) :
    (∀ b, (r.binary key).answer m = .ok (some b) ↔
      ∃ text, (r.binaryStored key).answer m = .ok (some (Utf8.encode text)) ∧ Base64.decode? text = some b) ∧
    (∀ items, (r.binaryArray key).answer m = .ok (some items) ↔
      ∃ texts : List (Option String),
        (r.binaryArrayStored key).answer m = .ok (some (texts.map (Option.map Utf8.encode))) ∧
          List.Forall₂ (Option.Rel fun text b => Base64.decode? text = some b) texts items) ∧
    ∀ v, Variable.parse? key = some v →
      (v.type = .binary → (r.binary key).calls m = [.read r.store.context v.text] ∧
        (r.binaryStored key).calls m = [.read r.store.context v.text]) ∧
      (v.type = .binaryArray → (r.binaryArray key).calls m = [.read r.store.context v.text] ∧
        (r.binaryArrayStored key).calls m = [.read r.store.context v.text]) := by
  refine ⟨fun b => binary_iff_stored, fun items => binaryArray_iff_stored, fun v parsed => ⟨?_, ?_⟩⟩
  · intro type
    have one := scope_typed_of_variable (r := r) parsed (congrArg VariableType.storedAs type)
    exact ⟨(makes_binary r key m).trans one, (makes_binaryStored r key m).trans one⟩
  · intro type
    have one := scope_typed_of_variable (r := r) parsed (congrArg VariableType.storedAs type)
    exact ⟨(makes_binaryArray r key m).trans one, (makes_binaryArrayStored r key m).trans one⟩

def bytesAndList : Memory :=
  [("run", [("#App:1:a!Binary", Utf8.encode " \"Bw==\""), ("#App:1:b!BinaryArray", Utf8.encode "[null, \"Bw==\"]")])]

theorem read_modes_agree_of_records :
    ((Reader.mk plainStore true).binary " #App:1:a!Binary").answer bytesAndList = .ok (some [7]) ∧
      ((Reader.mk plainStore true).binaryArray "#App:1:b!BinaryArray").answer bytesAndList =
        .ok (some [none, some [7]]) ∧
      ((Reader.mk plainStore true).binary " #App:1:a!Binary").calls bytesAndList = [.read "run" "#App:1:a!Binary"] := by
  obtain ⟨bytes, -, one⟩ := read_modes_agree ⟨plainStore, true⟩ " #App:1:a!Binary" bytesAndList
  obtain ⟨-, list, -⟩ := read_modes_agree ⟨plainStore, true⟩ "#App:1:b!BinaryArray" bytesAndList
  refine ⟨(bytes [7]).mpr ⟨"Bw==", by rfl, by decide⟩,
    (list _).mpr ⟨[none, some "Bw=="], by rfl, .cons .none (.cons (.some (by decide)) .nil)⟩, ?_⟩
  have parsed : Variable.parse? " #App:1:a!Binary" = some ⟨"App", "1", "a", .binary⟩ := by decide +kernel
  exact ((one _ parsed).1 rfl).1

end Reader

end VariableStore
