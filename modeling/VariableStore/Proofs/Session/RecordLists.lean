import VariableStore.Proofs.Session.Dispatch
/-!
Lists of key and value records are read record by record. Of a record only a value that is a text is replaced; its key, its
other fields and any other value are as they were stored, whatever stands in them. And a record becomes what it would
become if it were stored alone, since what replaces its value depends on nothing but what the backend answers for the
variables in it, and the records in front of it have changed nothing about that.
-/
namespace VariableStore

variable {σ : Type}

namespace Store

/-- The states that reads lead to from a state. -/
inductive Reaches (s : Store σ) (m : σ) : σ → Prop
  | here : Reaches s m m
  | read {n : σ} (key : String) (reached : Reaches s m n) : Reaches s m (s.backend.read s.context key n).2

/-- However much is read, a read is answered as it is from this state. -/
def Steady (s : Store σ) (m : σ) : Prop :=
  ∀ n, s.Reaches m n → ∀ key, (s.backend.read s.context key n).1 = (s.backend.read s.context key m).1

/-- Where reads leave the state as it is, they are answered as from this state. -/
theorem steady_of_unmoved {s : Store σ} {m : σ} (unmoved : ∀ key, (s.backend.read s.context key m).2 = m) :
    s.Steady m := by
  have still : ∀ n, s.Reaches m n → n = m := by
    intro n reached
    induction reached with
    | here => rfl
    | read key reached ih => rw [ih, unmoved]
  intro n reached key
  rw [still n reached]

/-- A call is answered alike from two states, if it is a read. -/
def Agrees (s : Store σ) (m n : σ) (call : Call) : Prop :=
  ∀ key, call = .read s.context key → (s.backend.read s.context key m).1 = (s.backend.read s.context key n).1

end Store

open Traced

/-- Where reads are steady, what is fetched from either of two states is the same, as long as only reads are made that are
answered alike from the two. -/
theorem fetches_steady {s : Store σ} {m n : σ} (first : s.Steady m) (second : s.Steady n) :
    Fetches (AlikeOn (s.Agrees m n) fun a b => s.Reaches m a ∧ s.Reaches n b) s s.backend where
  toComposed := composed_alikeOn _ _
  read v := alikeOn_call fun agrees a b ⟨left, right⟩ => by
    refine ⟨?_, left.read v.text, right.read v.text⟩
    rw [first a left, second b right, agrees v.text rfl]
  ask _ _ := alikeOn_call fun _ _ _ related => ⟨rfl, related⟩

namespace Reader

variable {s : Store σ} {m n : σ} (resolve : Bool)

/-- Steady reads of a record are steady afterwards, and the record becomes the same from wherever they have led. -/
theorem answer_record_of_reaches (steady : s.Steady m) {a : σ} (reached : s.Reaches m a) (kv : KeyValue) :
    (record ⟨s, resolve⟩ kv).answer a = (record ⟨s, resolve⟩ kv).answer m ∧
      s.Reaches m ((record ⟨s, resolve⟩ kv).after a) := by
  have alike := (fetches_steady steady steady).record resolve kv a m ⟨reached, .here⟩ fun _ _ _ _ => rfl
  exact ⟨alike.1, alike.2.1⟩

/-- Where reads are steady, each record of a list becomes what it becomes alone. -/
theorem answer_records (steady : s.Steady m) {a : σ} (reached : s.Reaches m a) (kvs : List KeyValue) :
    (records ⟨s, resolve⟩ kvs).answer a = kvs.map fun kv => (record ⟨s, resolve⟩ kv).answer m := by
  induction kvs generalizing a with
  | nil => rfl
  | cons kv rest ih =>
    obtain ⟨first, next⟩ := answer_record_of_reaches resolve steady reached kv
    rw [records, answer_bind, answer_bind, first, ih next]
    rfl

/-- Of a record, only a value that is a text is replaced. -/
structure Keeps (kv out : KeyValue) : Prop where
  key : out.key = kv.key
  extra : out.extra = kv.extra
  value : (∀ text, kv.value ≠ .string text) → out.value = kv.value

theorem Keeps.eq {kv out : KeyValue} (kept : Keeps kv out) (other : ∀ text, kv.value ≠ .string text) : out = kv := by
  cases out
  cases kept.key
  cases kept.extra
  cases kept.value other
  rfl

theorem keeps_record (kv : KeyValue) (a : σ) : Keeps kv ((record ⟨s, resolve⟩ kv).answer a) := by
  rw [record]
  cases resolve with
  | false => exact ⟨rfl, rfl, fun _ => rfl⟩
  | true =>
    refine ⟨rfl, rfl, fun other => ?_⟩
    cases value : kv.value with
    | string text => exact absurd value (other text)
    | _ => simp [recordValue]

/-- Whatever the backend does, a list has as many records as before, in the same order. -/
theorem keeps_records (kvs : List KeyValue) (a : σ) :
    List.Forall₂ Keeps kvs ((records ⟨s, resolve⟩ kvs).answer a) := by
  induction kvs generalizing a with
  | nil => exact .nil
  | cons kv rest ih => exact .cons (keeps_record resolve kv a) (ih _)

/-- Where nothing is replaced, a list is read as it is stored. -/
theorem records_unresolved (kvs : List KeyValue) (a : σ) : (records ⟨s, false⟩ kvs).answer a = kvs := by
  induction kvs generalizing a with
  | nil => rfl
  | cons kv rest ih =>
    rw [records, answer_bind, answer_bind, ih]
    rfl

theorem after_fetchTyped (v : Variable) (a : σ) :
    (s.fetchTyped v).after a = (s.backend.read s.context v.text a).2 := by
  rw [Store.fetchTyped, after_bind]
  cases (s.fetch v.text).answer a <;> rfl

variable {key : String} {v : Variable} {raw : Bytes}

/-- A read under a variable goes on with the value of the bytes that are stored, from the state after the call for
them. -/
theorem answer_typed_bind {α : Type} {f : Except Error (Option TypedValue) → Action σ α} {value : TypedValue}
    (parsed : Variable.parse? key = some v) (stored : (s.fetch v.text).answer m = some raw)
    (decoded : Envelope.decode v.type raw = .ok (some value)) :
    (typed ⟨s, resolve⟩ key v.type.storedAs >>= f).answer m =
      (f (.ok (some value))).answer (s.backend.read s.context v.text m).2 := by
  rw [typed_of_variable _ parsed, answer_bind, answer_map, after_map, fetchTyped_some_iff.mpr ⟨raw, stored, decoded⟩,
    after_fetchTyped]

theorem answer_keyValueArray {kvs : List KeyValue} (parsed : Variable.parse? key = some v)
    (list : v.type = .keyValueArray) (stored : (s.fetch v.text).answer m = some raw)
    (decoded : Envelope.decode v.type raw = .ok (some (.keyValueArray kvs))) :
    (keyValueArray ⟨s, resolve⟩ key).answer m =
      .ok (some ((records ⟨s, resolve⟩ kvs).answer (s.backend.read s.context v.text m).2)) := by
  have same : v.type.storedAs = .keyValueArray := by rw [list]; rfl
  rw [keyValueArray, ← same, answer_typed_bind resolve parsed stored decoded]
  rfl

theorem answer_keyValue {kv : KeyValue} (parsed : Variable.parse? key = some v) (single : v.type = .keyValue)
    (stored : (s.fetch v.text).answer m = some raw)
    (decoded : Envelope.decode v.type raw = .ok (some (.keyValue kv))) :
    (keyValue ⟨s, resolve⟩ key).answer m =
      .ok (some ((record ⟨s, resolve⟩ kv).answer (s.backend.read s.context v.text m).2)) := by
  have same : v.type.storedAs = .keyValue := by rw [single]; rfl
  rw [keyValue, ← same, answer_typed_bind resolve parsed stored decoded]
  rfl

/-- `alone` is read for a record wherever it is stored alone: under any variable for one record, in any state of the
backend in which the variables that the record mentions are answered as they are from `m`. -/
def ReadAlone (r : Reader σ) (m : σ) (kv alone : KeyValue) : Prop :=
  ∀ spelling w n raw, Variable.parse? spelling = some w → w.type = .keyValue →
    (r.store.fetch w.text).answer n = some raw → Envelope.decode w.type raw = .ok (some (.keyValue kv)) →
    r.store.Steady n → (∀ call ∈ r.scope.record kv, r.store.Agrees m n call) →
    (r.keyValue spelling).answer n = .ok (some alone)

theorem readAlone_record (steady : s.Steady m) (kv : KeyValue) :
    ReadAlone ⟨s, resolve⟩ m kv ((record ⟨s, resolve⟩ kv).answer m) := by
  intro spelling w n raw parsed single stored decoded second agrees
  have reached : s.Reaches n (s.backend.read s.context w.text n).2 := .read w.text .here
  have only : ∀ call ∈ (record ⟨s, resolve⟩ kv).calls m, s.Agrees m n call := by
    rw [makes_record]
    exact agrees
  have alike := (fetches_steady steady second).record resolve kv m _ ⟨.here, reached⟩ only
  rw [answer_keyValue resolve parsed single stored decoded]
  exact congrArg (fun out => Except.ok (some out)) alike.1.symm

/-- A list of key and value records that is stored under a variable is read record by record, in order. Whatever the
backend does, the key and the other fields of each record are as they were stored, and so is a value that is no text; where
nothing is replaced, all of it is. And as long as reads do not change what reads answer, each record is what is read for it
where it is stored alone. -/
theorem records_resolved_apart (s : Store σ) (resolve : Bool) {key : String} {v : Variable} {m : σ} {raw : Bytes}
    {kvs : List KeyValue} (parsed : Variable.parse? key = some v) (list : v.type = .keyValueArray)
    (stored : (s.fetch v.text).answer m = some raw)
    (decoded : Envelope.decode v.type raw = .ok (some (.keyValueArray kvs))) :
    ∃ out, (keyValueArray ⟨s, resolve⟩ key).answer m = .ok (some out) ∧ List.Forall₂ Keeps kvs out ∧
      (resolve = false → out = kvs) ∧ (s.Steady m → List.Forall₂ (ReadAlone ⟨s, resolve⟩ m) kvs out) := by
  refine ⟨_, answer_keyValueArray resolve parsed list stored decoded, keeps_records resolve kvs _, ?_, fun steady => ?_⟩
  · rintro rfl
    exact records_unresolved kvs _
  · rw [answer_records resolve steady (.read v.text .here), List.forall₂_map_right_iff, List.forall₂_same]
    exact fun kv _ => readAlone_record resolve steady kv

def around : KeyValue := ⟨"#App:1:s!String", .array [.string "#App:1:s!String"], []⟩

def within : KeyValue := ⟨"own", .string "#App:1:l!KeyValueArray", []⟩

def withinBytes : Bytes := Utf8.encode "\x7b\"key\":\"own\",\"value\":\"#App:1:l!KeyValueArray\"\x7d"

def listBytes : Bytes :=
  Utf8.encode ("[\x7b\"key\":\"#App:1:s!String\",\"value\":[\"#App:1:s!String\"]\x7d," ++
    "\x7b\"key\":\"own\",\"value\":\"#App:1:l!KeyValueArray\"\x7d]")

theorem decode_listBytes :
    Envelope.decode .keyValueArray listBytes = .ok (some (.keyValueArray [around, within])) := by
  set_option maxRecDepth 20000 in rfl

theorem decode_withinBytes : Envelope.decode .keyValue withinBytes = .ok (some (.keyValue within)) := by
  set_option maxRecDepth 20000 in rfl

def listing (list single : Bytes) : Memory :=
  [("run", [("#App:1:l!KeyValueArray", list), ("#App:1:o!KeyValue", single)])]

theorem fetch_listing (list single : Bytes) :
    (plainStore.fetch (Variable.text ⟨"App", "1", "l", .keyValueArray⟩)).answer (listing list single) = some list ∧
      (plainStore.fetch (Variable.text ⟨"App", "1", "o", .keyValue⟩)).answer (listing list single) = some single :=
  ⟨rfl, rfl⟩

/-- The one record is read as it is stored, and the other as it is read alone. -/
theorem records_resolved_apart_of_within :
    let m := listing listBytes withinBytes
    ∃ own, (keyValueArray ⟨plainStore, true⟩ "#App:1:l!KeyValueArray").answer m = .ok (some [around, own]) ∧
      own.key = "own" ∧ (keyValue ⟨plainStore, true⟩ "#App:1:o!KeyValue").answer m = .ok (some own) := by
  intro m
  obtain ⟨listed, single⟩ := fetch_listing listBytes withinBytes
  have steady : plainStore.Steady m := Store.steady_of_unmoved fun _ => rfl
  have named : Variable.parse? "#App:1:l!KeyValueArray" = some ⟨"App", "1", "l", .keyValueArray⟩ := by decide +kernel
  obtain ⟨_, read, kept, -, same⟩ := records_resolved_apart plainStore true named rfl listed decode_listBytes
  obtain _ | @⟨_, first, _, _, kept, _ | @⟨_, own, _, _, named, _ | _⟩⟩ := kept
  obtain _ | ⟨-, _ | ⟨alone, -⟩⟩ := same steady
  obtain rfl := kept.eq fun _ => Json.noConfusion
  exact ⟨own, read, named.key, alone "#App:1:o!KeyValue" ⟨"App", "1", "o", .keyValue⟩ m withinBytes
    (by decide +kernel) rfl single decode_withinBytes steady fun _ _ _ _ => rfl⟩

end Reader

end VariableStore
