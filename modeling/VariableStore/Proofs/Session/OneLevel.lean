import VariableStore.Backend
import VariableStore.Proofs.Except
import VariableStore.Proofs.Reference.Resolution
import VariableStore.Proofs.Session.Basic
/-!
Reading is one level deep. What a read asks for is settled by its key and by the bytes under the key: the references
in these are asked for, each as it is met, and what comes back is put in their places and looked at no further. So two
stores that are set up alike and hold the same bytes under the key are asked the same, whatever else they hold and
whatever external values are.

`Scope` has what the calls depend on beside these, and says for each step of a read which calls it makes.
-/
namespace VariableStore

def Reference.call (context : String) : Reference → Call
  | .internal v => .read context v.text
  | .external r => .external r

/-- How a reader is set up: the context, whether there is somebody to ask for external values, the bound on texts that
are looked through, and whether references are replaced. -/
structure Scope where
  context : String
  external : Bool
  bound : Nat
  resolve : Bool
  deriving DecidableEq, Repr

def Reader.scope {σ : Type} (r : Reader σ) : Scope :=
  ⟨r.store.context, r.store.external.isSome, r.store.options.scanBound.toNat, r.resolve⟩

namespace Scope

def mentioned (x : Scope) (text : String) : List Call :=
  if x.bound < Utf8.length text then []
  else (Occurrence.asked x.external (Occurrence.scan text)).map (Reference.call x.context)

def text (x : Scope) (s : String) : List Call := if x.resolve then x.mentioned s else []

/-- The calls for a variable that makes up a whole record value. -/
def wholeValue (x : Scope) (v : Variable) : List Call :=
  if v.type.single = .binary then [] else [.read x.context v.text]

def recordValue (x : Scope) : Json → List Call
  | .string s =>
    match Variable.parse? s with
    | some v => x.wholeValue v
    | none => x.mentioned s
  | _ => []

def record (x : Scope) (kv : KeyValue) : List Call := if x.resolve then x.recordValue kv.value else []

def embedded (x : Scope) : Option TypedValue → List Call
  | some (.string s) => x.text s
  | some (.keyValue kv) => x.record kv
  | some (.keyValueArray kvs) => kvs.flatMap x.record
  | _ => []

def typed (x : Scope) (key : String) (type : VariableType) : List Call :=
  match Reader.target key type with
  | .ok (some v) => [.read x.context v.text]
  | _ => []

end Scope

namespace Query

def type? : Query → Option VariableType
  | any | raw => none
  | string => some .string
  | stringArray => some .stringArray
  | binary | binaryStored | binaryAsText => some .binary
  | binaryArray | binaryArrayStored => some .binaryArray
  | keyValue => some .keyValue
  | keyValueArray => some .keyValueArray
  | entity => some .entity
  | entityArray => some .entityArray

def embeds : Query → TypedValue → Bool
  | string, .string _ | keyValue, .keyValue _ | keyValueArray, .keyValueArray _ => true
  | _, _ => false

end Query

namespace Reader

variable {σ : Type} {key : String} {v : Variable}

/-- A value that was found, with the references in it replaced. -/
def embed (r : Reader σ) : Option TypedValue → Action σ (Option TypedValue)
  | some (.string s) => do return some (.string (← r.text s))
  | some (.keyValue kv) => do return some (.keyValue (← r.record kv))
  | some (.keyValueArray kvs) => do return some (.keyValueArray (← r.records kvs))
  | other => return other

theorem any_of_variable (r : Reader σ) (parsed : Variable.parse? key = some v) : r.any key = r.store.fetchTyped v >>= r.embed := by
  rw [any, parsed]
  refine bind_congr fun found => ?_
  rcases found with _ | value
  · rfl
  · cases value <;> rfl

end Reader

section Reader

open Traced

variable {σ : Type}

theorem makes_fetch (s : Store σ) (key : String) : Makes [.read s.context key] (s.fetch key) := by
  have read := makes_call (Call.read s.context key) (s.backend.read s.context key)
  exact read.bind_pure _

theorem makes_fetchTyped (s : Store σ) (v : Variable) : Makes [.read s.context v.text] (s.fetchTyped v) := by
  refine (makes_fetch s v.text).bind fun raw => ?_
  split <;> exact makes_pure _

theorem makes_ask {s : Store σ} {f : ExternalReference → Action σ (Option String)}
    (present : s.sources.external = some f) (r : ExternalReference) : Makes [.external r] (f r) := by
  obtain ⟨resolver, -, rfl⟩ := Option.map_eq_some_iff.mp present
  exact makes_call _ _

variable (r : Reader σ)

theorem makes_resolveText (text : String) : Makes (r.scope.mentioned text) (r.store.resolveText text) := by
  have calls := Sources.makes_resolve (s := r.store.sources) (Reference.call r.store.context)
    (makes_fetchTyped r.store) (fun f present => makes_ask present) r.store.options.scanBound.toNat text
  rw [Store.sources, Option.isSome_map, ← Store.sources] at calls
  exact calls

theorem makes_text (text : String) : Makes (r.scope.text text) (r.text text) := by
  rw [Scope.text, Reader.text, Reader.scope]
  cases r.resolve with
  | true => exact makes_resolveText r text
  | false => exact makes_pure text

theorem makes_wholeValue (v : Variable) : Makes (r.scope.wholeValue v) (r.wholeValue v) := by
  rw [Scope.wholeValue, Reader.wholeValue]
  split
  · exact makes_pure _
  · exact (makes_fetchTyped r.store v).bind_pure _

theorem makes_recordValue (j : Json) : Makes (r.scope.recordValue j) (r.recordValue j) := by
  cases j with
  | string text =>
    simp only [Scope.recordValue, Reader.recordValue]
    cases Variable.parse? text with
    | some v => exact makes_wholeValue r v
    | none => exact (makes_resolveText r text).bind_pure _
  | _ => exact makes_pure _

theorem makes_record (kv : KeyValue) : Makes (r.scope.record kv) (r.record kv) := by
  rw [Scope.record, Reader.record, Reader.scope]
  cases r.resolve with
  | true => exact (makes_recordValue r kv.value).bind_pure _
  | false => exact makes_pure kv

theorem makes_records (kvs : List KeyValue) : Makes (kvs.flatMap r.scope.record) (r.records kvs) := by
  induction kvs with
  | nil => exact makes_pure []
  | cons kv rest ih => exact (makes_record r kv).bind fun first => ih.bind_pure (first :: ·)

theorem makes_embed (found : Option TypedValue) : Makes (r.scope.embedded found) (r.embed found) := by
  rcases found with _ | value
  · exact makes_pure none
  · cases value with
    | string s => exact (makes_text r s).bind_pure _
    | keyValue kv => exact (makes_record r kv).bind_pure _
    | keyValueArray kvs => exact (makes_records r kvs).bind_pure _
    | _ => exact makes_pure _

/-- A read under a key that must be of some type makes the one call for the key, or none. -/
theorem makes_target {α : Type} (key : String) (type : VariableType)
    {read : Variable → Action σ (Except Error (Option α))}
    (one : ∀ v, Makes [.read r.store.context v.text] (read v)) :
    Makes (r.scope.typed key type)
      (match Reader.target key type with
      | .error e => pure (.error e)
      | .ok none => pure (.ok none)
      | .ok (some v) => read v) := by
  unfold Scope.typed
  cases Reader.target key type with
  | error e => exact makes_pure _
  | ok v? =>
    cases v? with
    | none => exact makes_pure _
    | some v => exact one v

theorem makes_typed (key : String) (type : VariableType) : Makes (r.scope.typed key type) (r.typed key type) :=
  makes_target r key type fun v => (makes_fetchTyped r.store v).bind_pure _

theorem makes_typed_bind {α : Type} (key : String) (type : VariableType)
    {f : Except Error (Option TypedValue) → Action σ α} (hf : ∀ found, Makes [] (f found)) :
    Makes (r.scope.typed key type) (r.typed key type >>= f) := by
  have both := (makes_typed r key type).bind hf
  rwa [List.append_nil] at both

theorem makes_binary (key : String) : Makes (r.scope.typed key .binary) (r.binary key) :=
  makes_typed_bind r key .binary fun found => by split <;> exact makes_pure _

theorem makes_binaryArray (key : String) : Makes (r.scope.typed key .binaryArray) (r.binaryArray key) :=
  makes_typed_bind r key .binaryArray fun found => by split <;> exact makes_pure _

theorem makes_binaryStored (key : String) : Makes (r.scope.typed key .binary) (r.binaryStored key) := by
  refine makes_target r key .binary fun v => (makes_fetch r.store v.text).bind fun raw => ?_
  split
  · exact makes_pure _
  · split <;> exact makes_pure _

theorem makes_binaryArrayStored (key : String) :
    Makes (r.scope.typed key .binaryArray) (r.binaryArrayStored key) := by
  refine makes_target r key .binaryArray fun v => (makes_fetch r.store v.text).bind fun raw => ?_
  split
  · exact makes_pure _
  · split <;> exact makes_pure _

/-- A read that looks through nothing makes the one call for its key, or none. -/
theorem makes_plain {query : Query} {type : VariableType} (h : query.type? = some type)
    (plain : query.embeds = fun _ => false) (key : String) :
    Makes (r.scope.typed key type) (query.perform r key) := by
  cases query with
  | any => cases h
  | raw => cases h
  | string => exact absurd (congrFun plain (.string "")) (by decide)
  | keyValue => exact absurd (congrFun plain (.keyValue ⟨"", .null, []⟩)) (by decide)
  | keyValueArray => exact absurd (congrFun plain (.keyValueArray [])) (by decide)
  | binary =>
    cases h
    exact (makes_binary r key).map _
  | binaryStored =>
    cases h
    exact (makes_binaryStored r key).map _
  | binaryAsText =>
    cases h
    exact ((makes_binary r key).bind_pure _).map _
  | binaryArray =>
    cases h
    exact (makes_binaryArray r key).map _
  | binaryArrayStored =>
    cases h
    exact (makes_binaryArrayStored r key).map _
  | stringArray | entity | entityArray =>
    cases h
    refine (makes_typed_bind r key _ fun found => ?_).map _
    split <;> exact makes_pure _

theorem makes_raw (key : String) : Makes [.read r.store.context key] (Query.raw.perform r key) :=
  (makes_fetch r.store key).map _

/-- A literal makes the calls for the references in itself. -/
theorem makes_string_of_literal {key : String} (literal : Variable.isVariable key = false) :
    Makes (r.scope.text key) (Query.string.perform r key) := by
  rw [Query.perform, Reader.string, if_neg (by simp [literal])]
  exact ((makes_text r key).bind_pure _).map _

theorem makes_any_of_literal {key : String} (literal : Variable.parse? key = none) :
    Makes (r.scope.text key) (Query.any.perform r key) := by
  rw [Query.perform, Reader.any, literal]
  exact ((makes_text r key).bind_pure _).map _

/-- A variable of any type makes the call for itself, and those for what is embedded in its value. -/
theorem calls_any_of_variable {key : String} {v : Variable} (named : Variable.parse? key = some v) (m : σ) :
    (Query.any.perform r key).calls m =
      .read r.store.context v.text :: r.scope.embedded ((r.store.fetchTyped v).answer m) := by
  rw [Query.perform, calls_map, Reader.any_of_variable r named, calls_bind, makes_fetchTyped, makes_embed]
  rfl

/-- The calls of a read of some type: that for the key, if it is of the type, and those for what is embedded in the
value. -/
theorem calls_typed_bind {α : Type} (key : String) (type : VariableType) (query : Query)
    {f : Except Error (Option TypedValue) → Action σ α}
    (embeds : ∀ found m, (f found).calls m = (r.embed (found.toOption.join.filter query.embeds)).calls m) (m : σ) :
    (r.typed key type >>= f).calls m =
      r.scope.typed key type ++ r.scope.embedded (((r.typed key type).answer m).toOption.join.filter query.embeds) := by
  rw [calls_bind, makes_typed, embeds, makes_embed]

/-- The calls of a read that needs a key of some type. -/
theorem calls_query {query : Query} {type : VariableType} (h : query.type? = some type) (key : String)
    (named : query = .string → Variable.isVariable key = true) (m : σ) : (query.perform r key).calls m =
      r.scope.typed key type ++ r.scope.embedded (((r.typed key type).answer m).toOption.join.filter query.embeds) := by
  cases query with
  | any => cases h
  | raw => cases h
  | string =>
    cases h
    rw [Query.perform, calls_map, Reader.string, if_pos (named rfl)]
    exact calls_typed_bind r key _ _ (by rintro (_ | _ | (_ | _)) m <;> rfl) m
  | keyValue =>
    cases h
    rw [Query.perform, calls_map, Reader.keyValue]
    exact calls_typed_bind r key _ _ (by rintro (_ | _ | (_ | _)) m <;> rfl) m
  | keyValueArray =>
    cases h
    rw [Query.perform, calls_map, Reader.keyValueArray]
    exact calls_typed_bind r key _ _ (by rintro (_ | _ | (_ | _)) m <;> rfl) m
  | _ =>
    rw [makes_plain r h rfl key m]
    have nothing : ∀ value : Option TypedValue, r.scope.embedded (value.filter fun _ => false) = [] := by
      intro value
      cases value <;> rfl
    exact (nothing _ ▸ List.append_nil _).symm

end Reader

section Alike

variable {σ τ : Type}

theorem answer_fetch (s : Store σ) (key : String) (m : σ) :
    (s.fetch key).answer m = (s.backend.read s.context key m).1.toOption.join := rfl

theorem answer_fetchTyped (s : Store σ) (v : Variable) (m : σ) : (s.fetchTyped v).answer m =
    ((s.fetch v.text).answer m).bind fun raw => (Envelope.decode v.type raw).toOption.join := by
  rw [Store.fetchTyped, Traced.answer_bind]
  cases (s.fetch v.text).answer m <;> rfl

/-- A value is fetched exactly where the bytes under the variable are read as one. -/
theorem fetchTyped_some_iff {s : Store σ} {v : Variable} {m : σ} {value : TypedValue} :
    (s.fetchTyped v).answer m = some value ↔
      ∃ raw, (s.fetch v.text).answer m = some raw ∧ Envelope.decode v.type raw = .ok (some value) := by
  have present : ∀ read : Except Error (Option TypedValue),
      read.toOption.join = some value ↔ read = .ok (some value) := by
    rintro (e | value?) <;> simp [Except.toOption]
  simp only [answer_fetchTyped, Option.bind_eq_some_iff, present]

theorem parse?_of_target {key : String} {type : VariableType} {v : Variable}
    (h : Reader.target key type = .ok (some v)) : Variable.parse? key = some v := by
  obtain ⟨-, -, eq⟩ := map_eq_ok.mp h
  exact eq

/-- Readers of stores that hold the same bytes under a key read the same value there. -/
theorem answer_typed_eq {r : Reader σ} {q : Reader τ} {key : String} {m : σ} {n : τ}
    (same : ∀ v, Variable.parse? key = some v →
      (r.store.fetchTyped v).answer m = (q.store.fetchTyped v).answer n) (type : VariableType) :
    (r.typed key type).answer m = (q.typed key type).answer n := by
  unfold Reader.typed
  cases target : Reader.target key type with
  | error e => rfl
  | ok v? =>
    cases v? with
    | none => rfl
    | some v => exact congrArg Except.ok (same v (parse?_of_target target))

/-- Two stores with the same context and options, both with or both without somebody to ask for external values, whose
backends answer a read of the field that the key names with the same bytes: every read of the key makes the same calls,
in the same order, over both. -/
theorem calls_of_same_field {s : Store σ} {t : Store τ} (context : s.context = t.context)
    (options : s.options = t.options) (presence : s.external.isSome = t.external.isSome) (resolve : Bool)
    (key : String) {m : σ} {n : τ}
    (same : ∀ v, Variable.parse? key = some v →
      (s.backend.read s.context v.text m).1.toOption.join = (t.backend.read t.context v.text n).1.toOption.join)
    (query : Query) :
    (query.perform ⟨s, resolve⟩ key).calls m = (query.perform ⟨t, resolve⟩ key).calls n := by
  have scope : Reader.scope ⟨s, resolve⟩ = Reader.scope ⟨t, resolve⟩ := by
    simp only [Reader.scope, context, options, presence]
  have value : ∀ v, Variable.parse? key = some v → (s.fetchTyped v).answer m = (t.fetchTyped v).answer n := by
    intro v read
    rw [answer_fetchTyped, answer_fetchTyped, answer_fetch, answer_fetch, same v read]
  cases needed : query.type? with
  | some type =>
    by_cases literal : query = .string ∧ Variable.isVariable key = false
    · obtain ⟨rfl, plain⟩ := literal
      rw [makes_string_of_literal _ plain, makes_string_of_literal _ plain, scope]
    · have named : query = .string → Variable.isVariable key = true := by
        simpa using literal
      have answers := answer_typed_eq (r := ⟨s, resolve⟩) (q := ⟨t, resolve⟩) value type
      rw [calls_query _ needed key named, calls_query _ needed key named, scope, answers]
  | none =>
    cases query with
    | any =>
      cases read : Variable.parse? key with
      | none => rw [makes_any_of_literal _ read, makes_any_of_literal _ read, scope]
      | some v =>
        rw [calls_any_of_variable _ read, calls_any_of_variable _ read, scope, value v read]
        exact congrArg (fun c => Call.read c v.text :: _) context
    | raw =>
      rw [makes_raw, makes_raw]
      exact congrArg (fun c => [Call.read c key]) context
    | _ => cases needed

end Alike

/-- A text with references, stored under one key, and what is stored under the key that the text mentions. -/
def mentioning (behind : Bytes) : Memory :=
  [("run", [("#App:1:a!String", Utf8.encode "\"#App:1:b!String &\x7bTC:TEXT:k\x7d\""), ("#App:1:b!String", behind)])]

def askingStore (resolver : ExternalResolver) : Store Memory :=
  { backend := Memory.backend, context := "run", external := some resolver }

theorem read_mentioning (resolver : ExternalResolver) (behind : Bytes) {v : Variable}
    (read : Variable.parse? " #App:1:a!String" = some v) :
    ((askingStore resolver).backend.read (askingStore resolver).context v.text (mentioning behind)).1.toOption.join =
      some (Utf8.encode "\"#App:1:b!String &\x7bTC:TEXT:k\x7d\"") := by
  have named : Variable.parse? " #App:1:a!String" = some ⟨"App", "1", "a", .string⟩ := by decide +kernel
  rw [named] at read
  obtain rfl := Option.some.inj read
  rfl

/-- One store whose text leads back to itself, and one where bytes that are no value stand behind the text. -/
theorem calls_of_same_field_of_cycle :
    (Query.any.perform ⟨askingStore fun _ => none, true⟩ " #App:1:a!String").calls
        (mentioning (Utf8.encode "\"#App:1:a!String\"")) =
      (Query.any.perform ⟨askingStore fun _ => some "#App:1:c!String", true⟩ " #App:1:a!String").calls
        (mentioning [0xFF]) ∧
    (Query.any.perform ⟨askingStore fun _ => none, true⟩ " #App:1:a!String").calls
        (mentioning (Utf8.encode "\"#App:1:a!String\"")) =
      [.read "run" "#App:1:a!String", .read "run" "#App:1:b!String", .external ⟨"TC", "TEXT", "k"⟩] := by
  constructor
  · refine calls_of_same_field (s := askingStore fun _ => none) (t := askingStore fun _ => some "#App:1:c!String")
      rfl rfl rfl true _ (fun v read => ?_) .any
    exact (read_mentioning _ _ read).trans (read_mentioning _ _ read).symm
  · decide +kernel

end VariableStore
