import VariableStore.Proofs.Session.Basic
import VariableStore.Proofs.Traced
/-!
What the requests to a store can do. A request to write makes one call to create, for a variable that the gate
lets through, or it does nothing at all. A read makes only calls that look.

What a store does over its backend is compared with what it does over another one call by call: a relation that holds of
each call over the one and the same call over the other holds of every read of values (`Fetches`), of every read (`Looks`)
or of every operation (`Acts`). The relation may mind one side only. So whatever relation between states and calls holds
of each call that looks holds of every read (`Looking`).
-/
namespace VariableStore

variable {σ τ : Type}

/-- However a variable is named, the request is a write to it. -/
theorem Creation.perform_eq (s : Store σ) (c : Creation) : c.perform s =
    match c.target? s with
    | .error e => pure (.error e)
    | .ok none => pure (.ok none)
    | .ok (some v) => s.write v c.value (c.encoding s.options.validate v) := by
  cases c with
  | typed type key value => rfl
  | any key value type =>
    simp only [perform, target?, Store.createAny]
    cases type.or ((Variable.parse? key).map Variable.type) <;> rfl
  | raw key value =>
    simp only [perform, target?, Store.createRaw]
    cases Variable.parse? key <;> rfl
  | keyValue key record => rfl
  | entity key e => rfl

/-- A request to write puts the encoding of its payload under a variable that is let through, or it is refused,
or it is skipped. -/
theorem Creation.perform_cases (s : Store σ) (c : Creation) :
    (∃ v bytes, c.target? s = .ok (some v) ∧ s.admits v c.value = true ∧
      c.encoding s.options.validate v = .ok bytes ∧ c.perform s = Except.ok <$> s.put v bytes) ∨
    (∃ e, c.perform s = pure (.error e)) ∨ c.perform s = pure (.ok none) := by
  rw [perform_eq]
  cases c.target? s with
  | error e => exact .inr (.inl ⟨e, rfl⟩)
  | ok v? =>
    cases v? with
    | none => exact .inr (.inr rfl)
    | some v =>
      simp only [Store.write]
      by_cases admitted : s.admits v c.value = true
      · rw [if_pos admitted]
        cases encoded : c.encoding s.options.validate v with
        | ok bytes => exact .inl ⟨v, bytes, rfl, admitted, encoded, rfl⟩
        | error e => exact .inr (.inl ⟨e, rfl⟩)
      · rw [if_neg admitted]
        exact .inr (.inr rfl)

def Store.withBackend (s : Store σ) (backend : Backend τ) : Store τ :=
  ⟨backend, s.context, s.outputs, s.options, s.external⟩

theorem Creation.target?_withBackend (s : Store σ) (backend : Backend τ) (c : Creation) :
    c.target? (s.withBackend backend) = c.target? s := by
  cases c <;> rfl

section Reading

variable {E : ⦃α : Type⦄ → Action σ α → Action τ α → Prop} {s : Store σ} {backend : Backend τ}

/-- A relation between computations of a store and of the store over another backend. It holds of each call for the bytes
of a variable over the one backend and the same call over the other, and of each call for an external value. -/
structure Fetches (E : ⦃α : Type⦄ → Action σ α → Action τ α → Prop) (s : Store σ) (backend : Backend τ) : Prop
    extends Traced.Composed E where
  read : ∀ v : Variable, E (Traced.call (.read s.context v.text) (s.backend.read s.context v.text))
    (Traced.call (.read s.context v.text) (backend.read s.context v.text))
  ask : ∀ resolver r, E (Store.ask resolver r) (Store.ask resolver r)

namespace Fetches

theorem fetch (h : Fetches E s backend) (v : Variable) : E (s.fetch v.text) ((s.withBackend backend).fetch v.text) :=
  h.bind (h.read v) fun _ => h.pure _

theorem fetchTyped (h : Fetches E s backend) (v : Variable) :
    E (s.fetchTyped v) ((s.withBackend backend).fetchTyped v) := by
  refine h.bind (h.fetch v) fun raw => ?_
  cases raw <;> exact h.pure _

theorem replacement (h : Fetches E s backend) (source : List Char) (r : Reference) :
    E (s.sources.replacement source r) ((s.withBackend backend).sources.replacement source r) := by
  cases r with
  | internal v =>
    simp only [Sources.replacement]
    by_cases binary : v.type.single = .binary
    · rw [if_pos binary, if_pos binary]
      exact h.pure _
    · rw [if_neg binary, if_neg binary]
      exact h.bind (h.fetchTyped v) fun _ => h.pure _
  | external r =>
    simp only [Sources.replacement, Store.sources, Store.withBackend]
    cases s.external with
    | none => exact h.pure _
    | some resolver => exact h.bind (h.ask resolver r) fun _ => h.pure _

theorem substitute (h : Fetches E s backend) (known : List (List Char × String)) (pieces : List Piece) :
    E (s.sources.substitute known pieces) ((s.withBackend backend).sources.substitute known pieces) := by
  induction pieces generalizing known with
  | nil => exact h.pure _
  | cons piece rest ih =>
    cases piece with
    | plain c => exact h.bind (ih known) fun _ => h.pure _
    | reference source r =>
      simp only [Sources.substitute]
      cases known.lookup source with
      | some text => exact h.bind (ih known) fun _ => h.pure _
      | none => exact h.bind (h.replacement source r) fun text => h.bind (ih _) fun _ => h.pure _

theorem resolve (h : Fetches E s backend) (bound : Nat) (text : String) :
    E (s.sources.resolve bound text) ((s.withBackend backend).sources.resolve bound text) := by
  unfold Sources.resolve
  by_cases beyond : bound < Utf8.length text
  · rw [if_pos beyond, if_pos beyond]
    exact h.pure _
  · rw [if_neg beyond, if_neg beyond]
    exact h.bind (h.substitute [] _) fun _ => h.pure _

theorem resolveText (h : Fetches E s backend) (text : String) :
    E (s.resolveText text) ((s.withBackend backend).resolveText text) :=
  h.resolve s.options.scanBound.toNat text

variable (resolve : Bool)

theorem text (h : Fetches E s backend) (text : String) :
    E (Reader.text ⟨s, resolve⟩ text) (Reader.text ⟨s.withBackend backend, resolve⟩ text) := by
  cases resolve with
  | true => exact h.resolveText text
  | false => exact h.pure _

theorem wholeValue (h : Fetches E s backend) (v : Variable) :
    E (Reader.wholeValue ⟨s, resolve⟩ v) (Reader.wholeValue ⟨s.withBackend backend, resolve⟩ v) := by
  unfold Reader.wholeValue
  by_cases binary : v.type.single = .binary
  · rw [if_pos binary, if_pos binary]
    exact h.pure _
  · rw [if_neg binary, if_neg binary]
    exact h.bind (h.fetchTyped v) fun _ => h.pure _

theorem recordValue (h : Fetches E s backend) (j : Json) :
    E (Reader.recordValue ⟨s, resolve⟩ j) (Reader.recordValue ⟨s.withBackend backend, resolve⟩ j) := by
  cases j with
  | string text =>
    simp only [Reader.recordValue]
    cases Variable.parse? text with
    | some v => exact h.wholeValue resolve v
    | none => exact h.bind (h.resolveText text) fun _ => h.pure _
  | _ => exact h.pure _

theorem record (h : Fetches E s backend) (kv : KeyValue) :
    E (Reader.record ⟨s, resolve⟩ kv) (Reader.record ⟨s.withBackend backend, resolve⟩ kv) := by
  cases resolve with
  | true => exact h.bind (h.recordValue true kv.value) fun _ => h.pure _
  | false => exact h.pure _

theorem records (h : Fetches E s backend) (kvs : List KeyValue) :
    E (Reader.records ⟨s, resolve⟩ kvs) (Reader.records ⟨s.withBackend backend, resolve⟩ kvs) := by
  induction kvs with
  | nil => exact h.pure _
  | cons kv rest ih => exact h.bind (h.record resolve kv) fun _ => h.bind ih fun _ => h.pure _

theorem typed (h : Fetches E s backend) (key : String) (type : VariableType) :
    E (Reader.typed ⟨s, resolve⟩ key type) (Reader.typed ⟨s.withBackend backend, resolve⟩ key type) := by
  unfold Reader.typed
  rcases Reader.target key type with e | _ | v
  · exact h.pure _
  · exact h.pure _
  · exact h.bind (h.fetchTyped v) fun _ => h.pure _

theorem any (h : Fetches E s backend) (key : String) :
    E (Reader.any ⟨s, resolve⟩ key) (Reader.any ⟨s.withBackend backend, resolve⟩ key) := by
  unfold Reader.any
  cases Variable.parse? key with
  | none => exact h.bind (h.text resolve key) fun _ => h.pure _
  | some v =>
    refine h.bind (h.fetchTyped v) fun value => ?_
    rcases value with _ | value
    · exact h.pure _
    cases value with
    | string text => exact h.bind (h.text resolve text) fun _ => h.pure _
    | keyValue kv => exact h.bind (h.record resolve kv) fun _ => h.pure _
    | keyValueArray kvs => exact h.bind (h.records resolve kvs) fun _ => h.pure _
    | _ => exact h.pure _

theorem string (h : Fetches E s backend) (key : String) :
    E (Reader.string ⟨s, resolve⟩ key) (Reader.string ⟨s.withBackend backend, resolve⟩ key) := by
  unfold Reader.string
  by_cases named : Variable.isVariable key = true
  · rw [if_pos named, if_pos named]
    refine h.bind (h.typed resolve key .string) fun value => ?_
    rcases value with e | _ | value
    · exact h.pure _
    · exact h.pure _
    cases value with
    | string text => exact h.bind (h.text resolve text) fun _ => h.pure _
    | _ => exact h.pure _
  · rw [if_neg named, if_neg named]
    exact h.bind (h.text resolve key) fun _ => h.pure _

theorem binaryStored (h : Fetches E s backend) (key : String) :
    E (Reader.binaryStored ⟨s, resolve⟩ key) (Reader.binaryStored ⟨s.withBackend backend, resolve⟩ key) := by
  unfold Reader.binaryStored
  rcases Reader.target key .binary with e | _ | v
  · exact h.pure _
  · exact h.pure _
  refine h.bind (h.fetch v) fun raw => ?_
  cases raw with
  | none => exact h.pure _
  | some raw =>
    simp only
    cases Envelope.binaryText raw <;> exact h.pure _

theorem binaryArrayStored (h : Fetches E s backend) (key : String) :
    E (Reader.binaryArrayStored ⟨s, resolve⟩ key) (Reader.binaryArrayStored ⟨s.withBackend backend, resolve⟩ key) := by
  unfold Reader.binaryArrayStored
  rcases Reader.target key .binaryArray with e | _ | v
  · exact h.pure _
  · exact h.pure _
  refine h.bind (h.fetch v) fun raw => ?_
  cases raw with
  | none => exact h.pure _
  | some raw =>
    simp only
    cases Envelope.binaryTexts raw <;> exact h.pure _

/-- A relation that holds of each call for the bytes of a variable holds of every read of values. -/
theorem query (h : Fetches E s backend) (key : String) {query : Query} (values : query ≠ .raw) :
    E (query.perform ⟨s, resolve⟩ key) (query.perform ⟨s.withBackend backend, resolve⟩ key) := by
  cases query with
  | any => exact h.map _ (h.any resolve key)
  | string => exact h.map _ (h.string resolve key)
  | binaryStored => exact h.map _ (h.binaryStored resolve key)
  | binaryArrayStored => exact h.map _ (h.binaryArrayStored resolve key)
  | raw => exact absurd rfl values
  | keyValue =>
    refine h.map _ (h.bind (h.typed resolve key .keyValue) fun value => ?_)
    rcases value with e | _ | value
    · exact h.pure _
    · exact h.pure _
    cases value with
    | keyValue kv => exact h.bind (h.record resolve kv) fun _ => h.pure _
    | _ => exact h.pure _
  | keyValueArray =>
    refine h.map _ (h.bind (h.typed resolve key .keyValueArray) fun value => ?_)
    rcases value with e | _ | value
    · exact h.pure _
    · exact h.pure _
    cases value with
    | keyValueArray kvs => exact h.bind (h.records resolve kvs) fun _ => h.pure _
    | _ => exact h.pure _
  | binaryAsText =>
    refine h.map _ (h.bind (h.bind (h.typed resolve key .binary) fun value => ?_) fun _ => h.pure _)
    rcases value with e | _ | value
    · exact h.pure _
    · exact h.pure _
    · cases value <;> exact h.pure _
  | stringArray | binary | binaryArray | entity | entityArray =>
    refine h.map _ (h.bind (h.typed resolve key _) fun value => ?_)
    rcases value with e | _ | value
    · exact h.pure _
    · exact h.pure _
    · cases value <;> exact h.pure _

end Fetches

/-- A relation between computations of a store and of the store over another backend. It holds of each call that looks
over the one backend and the same call over the other. -/
structure Looks (E : ⦃α : Type⦄ → Action σ α → Action τ α → Prop) (s : Store σ) (backend : Backend τ) : Prop
    extends Traced.Composed E where
  read : ∀ key, E (Traced.call (.read s.context key) (s.backend.read s.context key))
    (Traced.call (.read s.context key) (backend.read s.context key))
  readAll : E (Traced.call (.readAll s.context) (s.backend.readAll s.context))
    (Traced.call (.readAll s.context) (backend.readAll s.context))
  ask : ∀ resolver r, E (Store.ask resolver r) (Store.ask resolver r)

namespace Looks

theorem fetches (h : Looks E s backend) : Fetches E s backend := ⟨h.toComposed, fun v => h.read v.text, h.ask⟩

theorem snapshot (h : Looks E s backend) : E s.snapshot (s.withBackend backend).snapshot :=
  h.bind h.readAll fun _ => h.pure _

/-- A relation that holds of each call that looks holds of every read. -/
theorem query (h : Looks E s backend) (resolve : Bool) (key : String) (query : Query) :
    E (query.perform ⟨s, resolve⟩ key) (query.perform ⟨s.withBackend backend, resolve⟩ key) := by
  by_cases raw : query = .raw
  · subst raw
    exact h.map _ (h.bind (h.read key) fun _ => h.pure _)
  · exact h.fetches.query resolve key raw

end Looks

end Reading

/-- A relation between computations of a store and of the store over another backend. It holds of each call over the
one backend and the same call over the other. -/
structure Acts (E : ⦃α : Type⦄ → Action σ α → Action τ α → Prop) (s : Store σ) (backend : Backend τ) : Prop
    extends Looks E s backend where
  create : ∀ key bytes, E (Traced.call (.create s.context key bytes) (s.backend.create s.context key bytes))
    (Traced.call (.create s.context key bytes) (backend.create s.context key bytes))
  delete : ∀ key, E (Traced.call (.delete s.context key) (s.backend.delete s.context key))
    (Traced.call (.delete s.context key) (backend.delete s.context key))
  supportsDelete : s.backend.supportsDelete = backend.supportsDelete

namespace Acts

variable {E : ⦃α : Type⦄ → Action σ α → Action τ α → Prop} {s : Store σ} {backend : Backend τ}

theorem put (h : Acts E s backend) (v : Variable) (bytes : Bytes) :
    E (s.put v bytes) ((s.withBackend backend).put v bytes) :=
  h.bind (h.create v.text bytes) fun _ => h.pure _

theorem write (h : Acts E s backend) (v : Variable) (value : Payload) (encode : Except Error Bytes) :
    E (s.write v value encode) ((s.withBackend backend).write v value encode) := by
  have same : (s.withBackend backend).admits v value = s.admits v value := rfl
  unfold Store.write
  rw [same]
  by_cases admitted : s.admits v value = true
  · rw [if_pos admitted, if_pos admitted]
    cases encode with
    | ok bytes => exact h.bind (h.put v bytes) fun _ => h.pure _
    | error e => exact h.pure _
  · rw [if_neg admitted, if_neg admitted]
    exact h.pure _

theorem creation (h : Acts E s backend) (c : Creation) : E (c.perform s) (c.perform (s.withBackend backend)) := by
  rw [Creation.perform_eq, Creation.perform_eq, Creation.target?_withBackend]
  rcases c.target? s with e | _ | v
  · exact h.pure _
  · exact h.pure _
  · exact h.write v c.value _

theorem createAll (h : Acts E s backend) (outputs : List PendingOutput) :
    E (s.createAll outputs) ((s.withBackend backend).createAll outputs) := by
  induction outputs with
  | nil => exact h.pure _
  | cons output rest ih =>
    refine h.bind (h.creation (.ofPending output)) fun first => h.bind ih fun others => ?_
    cases first <;> exact h.pure _

theorem deletion (h : Acts E s backend) (key : String) : E (s.delete key) ((s.withBackend backend).delete key) := by
  have same : (s.withBackend backend).backend.supportsDelete = s.backend.supportsDelete := h.supportsDelete.symm
  unfold Store.delete
  rw [same]
  by_cases supported : s.backend.supportsDelete = true
  · rw [if_pos supported, if_pos supported]
    refine h.bind (h.delete key) fun outcome => ?_
    cases outcome with
    | ok outcome => exact h.pure _
    | error e => cases e <;> exact h.pure _
  · rw [if_neg supported, if_neg supported]
    exact h.pure _

/-- A relation that holds of each call holds of every request. -/
theorem request (h : Acts E s backend) (r : Request) : E (r.perform s) (r.perform (s.withBackend backend)) := by
  cases r with
  | create c => exact h.map _ (h.creation c)
  | read query resolve key => exact h.query resolve key query
  | snapshot => exact h.map _ h.snapshot
  | delete key => exact h.map _ (h.deletion key)

/-- A relation that holds of each call holds of every operation. -/
theorem operation (h : Acts E s backend) (pending : Collections) (operation : Operation) :
    E (operation.perform s pending) (operation.perform (s.withBackend backend) pending) := by
  cases operation with
  | request r => exact h.bind (h.request r) fun _ => h.pure _
  | add collection key value type append => exact h.pure _
  | flush collection =>
    exact h.bind (h.bind (h.createAll _) fun _ => h.pure _) fun _ => h.pure _

end Acts

/-- A relation that holds of each call that looks. -/
structure Looking (backend : Backend σ) (R : σ → List Call → σ → Prop) : Prop extends Chained R where
  read : ∀ context key s, R s [.read context key] (backend.read context key s).2
  readAll : ∀ context s, R s [.readAll context] (backend.readAll context s).2
  external : ∀ r s, R s [.external r] s

section Looking

open Traced

variable {R : σ → List Call → σ → Prop}

theorem Looking.looks {s : Store σ} (h : Looking s.backend R) :
    Looks (fun ⦃_⦄ (x _ : Action σ _) => Within R x) s s.backend where
  toComposed := composed_within h.toChained
  read := fun key => within_call (h.read s.context key)
  readAll := within_call (h.readAll s.context)
  ask := fun _ r => within_call (h.external r)

theorem within_snapshot {s : Store σ} (h : Looking s.backend R) : Within R s.snapshot := h.looks.snapshot

/-- Whatever is read, only looking calls are made. -/
theorem within_query {r : Reader σ} (h : Looking r.store.backend R) (key : String) (query : Query) :
    Within R (query.perform r key) :=
  h.looks.query r.resolve key query

/-- What holds of each of some requests to write holds of writing them one after the other. -/
theorem within_createAll {s : Store σ} (chained : Chained R) {outputs : List PendingOutput}
    (creating : ∀ output ∈ outputs, Within R ((Creation.ofPending output).perform s)) :
    Within R (s.createAll outputs) := by
  induction outputs with
  | nil => exact within_pure chained _
  | cons output rest ih =>
    obtain ⟨head, tail⟩ := List.forall_mem_cons.mp creating
    refine within_bind chained head fun first => within_bind chained (ih tail) fun others => ?_
    split <;> exact within_pure chained _

def Deleting (backend : Backend σ) (R : σ → List Call → σ → Prop) : Prop :=
  ∀ context key s, R s [.delete context key] (backend.delete context key s).2

theorem within_delete {s : Store σ} (chained : Chained R) (deleting : Deleting s.backend R) (key : String) :
    Within R (s.delete key) := by
  unfold Store.delete
  split
  · refine within_bind chained (within_call (deleting s.context key)) fun answer => ?_
    split <;> exact within_pure chained _
  · exact within_pure chained _

/-- One operation: what holds of each call that looks or deletes, and of its requests to write, holds of it. -/
theorem within_operation {s : Store σ} (looking : Looking s.backend R) (deleting : Deleting s.backend R)
    {pending : Collections} {operation : Operation}
    (creating : ∀ c ∈ operation.creations pending, Within R (c.perform s)) :
    Within R (operation.perform s pending) := by
  have chained := looking.toChained
  cases operation with
  | request r =>
    refine within_bind chained ?_ fun _ => within_pure chained _
    cases r with
    | create c => exact within_map chained _ (creating c List.mem_cons_self)
    | read query resolve key => exact within_query (r := ⟨s, resolve⟩) looking key query
    | snapshot => exact within_map chained _ (within_snapshot looking)
    | delete key => exact within_map chained _ (within_delete chained deleting key)
  | add collection key value type append => exact within_pure chained _
  | flush collection =>
    refine within_bind chained ?_ fun _ => within_pure chained _
    refine within_bind chained ?_ fun _ => within_pure chained _
    exact within_createAll chained fun output inside => creating _ (List.mem_map_of_mem inside)

section Calls

variable {Q : Call → Prop} (other : ∀ call, (∀ context key bytes, call ≠ .create context key bytes) → Q call)
include other

theorem looking_of_calls (backend : Backend σ) : Looking backend fun _ calls _ => ∀ call ∈ calls, Q call where
  nil := fun _ _ inside => nomatch inside
  append := fun _ _ _ _ _ first second => List.forall_mem_append.mpr ⟨first, second⟩
  read := fun _ _ _ => List.forall_mem_singleton.mpr (other _ (by simp))
  readAll := fun _ _ => List.forall_mem_singleton.mpr (other _ (by simp))
  external := fun _ _ => List.forall_mem_singleton.mpr (other _ (by simp))

/-- What holds of all calls but those to create, and of the calls of each request to write, holds of all calls of the
operation. -/
theorem calls_of_operation {s : Store σ} {pending : Collections} {operation : Operation}
    (creating : ∀ c ∈ operation.creations pending, ∀ state, ∀ call ∈ (c.perform s).calls state, Q call) (state : σ) :
    ∀ call ∈ (operation.perform s pending).calls state, Q call := by
  have deleting : Deleting s.backend fun _ calls _ => ∀ call ∈ calls, Q call := fun _ _ _ =>
    List.forall_mem_singleton.mpr (other _ (by simp))
  exact within_operation (looking_of_calls other s.backend) deleting creating state

end Calls

end Looking

end VariableStore
