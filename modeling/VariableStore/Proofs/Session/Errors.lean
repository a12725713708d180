import VariableStore.Proofs.Session.Gate
import VariableStore.Proofs.Session.LastWrite
import VariableStore.Proofs.Session.OneLevel
/-!
Errors of a session. An operation fails for what it is asked, never for what the backend does or holds: a key that
names no variable where one is needed, a variable of another type, or a payload that cannot be stored. `refusal?` says
with which error, given the arguments, the output request and the options of the store, and in a run of operations it
also takes the outputs that are pending.
-/
namespace VariableStore

variable {σ τ : Type}

def Answer.error? : Answer → Option Error
  | .written result => VariableStore.error? result
  | .text result => VariableStore.error? result
  | .texts result => VariableStore.error? result
  | .bytes result => VariableStore.error? result
  | .bytesList result => VariableStore.error? result
  | .keyValue result => VariableStore.error? result
  | .keyValues result => VariableStore.error? result
  | .entity result => VariableStore.error? result
  | .entities result => VariableStore.error? result
  | .flushed result => VariableStore.error? result
  | .value _ | .stored _ | .snapshot _ | .deleted _ | .gathered => none

section Reading

def Query.refusal? (key : String) (query : Query) : Option Error :=
  query.type?.bind fun type => error? (Reader.target key type)

theorem Query.storedAs_type? {query : Query} {type : VariableType} (h : query.type? = some type) :
    type.storedAs = type := by
  cases query <;> cases h <;> rfl

theorem typeOf_of_literal {key : String} (literal : Variable.isVariable key = false) :
    Variable.typeOf key = .string := by
  have unread : Variable.parse? key = none := by simpa [Variable.isVariable] using literal
  rw [Variable.typeOf, unread]
  rfl

/-- A key is refused exactly if values of its type are stored as another type than the one that is needed. -/
theorem error?_target (key : String) (type : VariableType) : error? (Reader.target key type) =
    if (Variable.typeOf key).storedAs = type.storedAs then none
    else some (.typeMismatch key type (Variable.typeOf key)) := by
  unfold Reader.target VariableType.check
  split <;> rfl

theorem Query.refusal?_eq {query : Query} {type : VariableType} (h : query.type? = some type) (key : String) :
    query.refusal? key =
      if (Variable.typeOf key).storedAs = type then none
      else some (.typeMismatch key type (Variable.typeOf key)) := by
  rw [refusal?, h, Option.bind_some, error?_target, storedAs_type? h]

variable (r : Reader σ) (key : String)

/-- A read under a key that must be of some type fails only for the key, if what is read then never fails. -/
theorem error?_of_target {α : Type} (type : VariableType) {read : Variable → Action σ (Except Error (Option α))}
    (kept : ∀ v m, error? ((read v).answer m) = none) (m : σ) :
    error? (Traced.answer (match Reader.target key type with
      | .error e => pure (.error e)
      | .ok none => pure (.ok none)
      | .ok (some v) => read v) m) = error? (Reader.target key type) := by
  rcases Reader.target key type with e | _ | v
  · rfl
  · rfl
  · exact kept v m

theorem error?_typed (type : VariableType) (m : σ) :
    error? ((r.typed key type).answer m) = error? (Reader.target key type) :=
  error?_of_target key type (fun _ _ => rfl) m

/-- What is done with a value that was found cannot fail any more. -/
theorem error?_typed_bind {α : Type} (type : VariableType)
    {f : Except Error (Option TypedValue) → Action σ (Except Error α)}
    (kept : ∀ found m, error? ((f found).answer m) = error? found) (m : σ) :
    error? ((r.typed key type >>= f).answer m) = error? (Reader.target key type) := by
  rw [Traced.answer_bind, kept, error?_typed]

theorem error?_string (m : σ) :
    error? ((r.string key).answer m) = error? (Reader.target key .string) := by
  unfold Reader.string
  by_cases named : Variable.isVariable key = true
  · rw [if_pos named]
    refine error?_typed_bind r key .string (fun found m => ?_) m
    rcases found with e | _ | value
    · rfl
    · rfl
    · cases value <;> rfl
  -- A literal is a string, so it is of the type that is needed.
  · rw [if_neg named, error?_target, typeOf_of_literal (by simpa using named), if_pos rfl]
    rfl

theorem error?_binary (m : σ) : error? ((r.binary key).answer m) = error? (Reader.target key .binary) := by
  refine error?_typed_bind r key .binary (fun found m => ?_) m
  rcases found with e | _ | value
  · rfl
  · rfl
  · cases value <;> rfl

theorem error?_binaryStored (m : σ) :
    error? ((r.binaryStored key).answer m) = error? (Reader.target key .binary) := by
  refine error?_of_target key .binary (fun v m => ?_) m
  rw [Traced.answer_bind]
  cases (r.store.fetch v.text).answer m with
  | none => rfl
  | some raw =>
    simp only
    cases Envelope.binaryText raw <;> rfl

theorem error?_binaryArrayStored (m : σ) :
    error? ((r.binaryArrayStored key).answer m) = error? (Reader.target key .binaryArray) := by
  refine error?_of_target key .binaryArray (fun v m => ?_) m
  rw [Traced.answer_bind]
  cases (r.store.fetch v.text).answer m with
  | none => rfl
  | some raw =>
    simp only
    cases Envelope.binaryTexts raw <;> rfl

/-- Whatever the backend answers, a read reports the error with which it is refused. -/
theorem Query.error?_perform (query : Query) (m : σ) :
    ((query.perform r key).answer m).error? = query.refusal? key := by
  cases query <;> simp only [perform, Traced.answer_map, Answer.error?, refusal?, type?, Option.bind_some,
    Option.bind_none]
  case string => exact error?_string r key m
  case binary => exact error?_binary r key m
  case binaryStored => exact error?_binaryStored r key m
  case binaryArrayStored => exact error?_binaryArrayStored r key m
  case binaryAsText =>
    rw [Reader.binaryAsText, Traced.answer_bind, Traced.answer_pure, error?_map, error?_binary]
  case stringArray | binaryArray | keyValue | keyValueArray | entity | entityArray =>
    refine error?_typed_bind r key _ (fun found m => ?_) m
    rcases found with e | _ | value
    · rfl
    · rfl
    · cases value <;> rfl

/-- A read that is refused makes no call. -/
theorem calls_of_refused {query : Query} {type : VariableType} (h : query.type? = some type)
    (other : (Variable.typeOf key).storedAs ≠ type) (m : σ) : (query.perform r key).calls m = [] := by
  have named : query = .string → Variable.isVariable key = true := by
    rintro rfl
    cases h
    by_contra literal
    exact other (congrArg VariableType.storedAs (typeOf_of_literal (by simpa using literal)))
  have refused : Reader.target key type = .error (.typeMismatch key type (Variable.typeOf key)) := by
    rw [← error?_eq_some_iff, error?_target, Query.storedAs_type? h, if_neg other]
  have silent : r.scope.typed key type = [] := by
    unfold Scope.typed
    rw [refused]
  have failed : (r.typed key type).answer m = .error (.typeMismatch key type (Variable.typeOf key)) := by
    unfold Reader.typed
    rw [refused]
    rfl
  rw [calls_query r h key named, silent, failed]
  rfl

end Reading

section Writing

variable {s : Store σ}

/-- Why a request to write cannot do with a key that names no variable: it takes no bare key, it gives no type to
complete one with, or writes are not gated. -/
def Creation.keyFault? (s : Store σ) : Creation → Option KeyFault
  | raw _ _ => some .fullVariableNeeded
  | any _ _ none => some .typeNeeded
  | _ => if s.options.gated then none else some .gateNeeded

def Creation.refusal? (s : Store σ) (c : Creation) : Option Error :=
  match c.target? s with
  | .error e => some e
  | .ok none => none
  | .ok (some v) => if s.admits v c.value then error? (c.encoding s.options.validate v) else none

theorem Store.target_eq_error_iff {key : String} {type : VariableType} {e : Error} :
    s.target key type = .error e ↔
      (Variable.parse? key = none ∧ s.options.gated = false ∧ e = .invalidVariable key .gateNeeded) ∨
      ∃ v, Variable.parse? key = some v ∧ v.type.storedAs ≠ type.storedAs ∧ e = .typeMismatch key type v.type := by
  unfold Store.target
  cases Variable.parse? key with
  | none => cases s.options.gated <;> simp [@eq_comm _ e]
  | some v =>
    simp only [VariableType.check]
    by_cases same : v.type.storedAs = type.storedAs <;> simp [same, Except.map, @eq_comm _ e]

theorem Creation.keyFault?_of_type? {c : Creation} {type : VariableType} (h : c.type? = some type) :
    c.keyFault? s = if s.options.gated then none else some .gateNeeded := by
  cases c with
  | raw key value => cases h
  | any key value own =>
    cases h
    rfl
  | _ => rfl

/-- A request to write has no target because its key names no variable where it has to, or one of another type. -/
theorem Creation.target?_eq_error_iff {c : Creation} {e : Error} : c.target? s = .error e ↔
    (Variable.parse? c.key = none ∧ ∃ fault, c.keyFault? s = some fault ∧ e = .invalidVariable c.key fault) ∨
      ∃ v type, Variable.parse? c.key = some v ∧ c.type? = some type ∧ v.type.storedAs ≠ type.storedAs ∧
        e = .typeMismatch c.key type v.type := by
  cases typed : c.type? with
  | some type =>
    rw [target?_of_type? typed, Store.target_eq_error_iff, keyFault?_of_type? typed]
    cases s.options.gated <;> simp
  | none =>
    cases c with
    | raw key value =>
      simp only [target?, Creation.key, keyFault?]
      cases Variable.parse? key <;> simp [@eq_comm _ e]
    | any key value type =>
      cases typed
      simp only [target?, Creation.key, keyFault?, Option.none_or]
      cases read : Variable.parse? key with
      | none => simp [@eq_comm _ e]
      | some v => simp [Store.target, read, VariableType.check, Except.map]
    | _ => cases typed

/-- Whatever the backend answers, a request to write reports the error with which it is refused. -/
theorem Creation.error?_perform (c : Creation) (m : σ) : error? ((c.perform s).answer m) = c.refusal? s := by
  rw [perform_eq, refusal?]
  rcases c.target? s with e | _ | v
  · rfl
  · rfl
  simp only [Store.write]
  by_cases admitted : s.admits v c.value = true
  · rw [if_pos admitted, if_pos admitted]
    cases c.encoding s.options.validate v <;> rfl
  · rw [if_neg admitted, if_neg admitted]
    rfl

/-- The ways in which a request to write is refused: its key names no variable where it has to, or one of another type,
or the gate lets it through and its payload cannot be stored. -/
theorem Creation.refusal?_eq_some_iff {c : Creation} {e : Error} : c.refusal? s = some e ↔
    (Variable.parse? c.key = none ∧ ∃ fault, c.keyFault? s = some fault ∧ e = .invalidVariable c.key fault) ∨
      (∃ v type, Variable.parse? c.key = some v ∧ c.type? = some type ∧ v.type.storedAs ≠ type.storedAs ∧
        e = .typeMismatch c.key type v.type) ∨
      ∃ v, c.target? s = .ok (some v) ∧ s.admits v c.value = true ∧ c.encoding s.options.validate v = .error e := by
  rw [← or_assoc, ← target?_eq_error_iff, refusal?]
  rcases c.target? s with e' | _ | v
  · simp
  · simp
  · by_cases admitted : s.admits v c.value = true <;> simp [admitted, error?_eq_some_iff]

/-- Writing several outputs reports the first error of their requests. -/
theorem error?_createAll (outputs : List PendingOutput) (m : σ) : error? ((s.createAll outputs).answer m) =
    outputs.findSome? fun output => (Creation.ofPending output).refusal? s := by
  induction outputs generalizing m with
  | nil => rfl
  | cons output rest ih =>
    have same : s.createAny output.key output.value (some output.type) = (Creation.ofPending output).perform s := rfl
    have first := (Creation.ofPending output).error?_perform (s := s) m
    rw [Store.createAll, Traced.answer_bind, Traced.answer_bind, same, List.findSome?_cons, ← first]
    cases ((Creation.ofPending output).perform s).answer m with
    | error e => rfl
    | ok ack => exact (error?_map _ _).trans (ih _)

end Writing

def Request.refusal? (s : Store σ) : Request → Option Error
  | create c => c.refusal? s
  | read query _ key => query.refusal? key
  | snapshot | delete _ => none

theorem Request.error?_perform (s : Store σ) (r : Request) (m : σ) :
    ((r.perform s).answer m).error? = r.refusal? s := by
  cases r with
  | create c => exact c.error?_perform m
  | read query resolve key => exact query.error?_perform ⟨s, resolve⟩ key m
  | snapshot => rfl
  | delete key => rfl

namespace Operation

/-- The error with which an operation is refused. A flush is refused with the first error of its requests. -/
def refusal? (s : Store σ) (pending : Collections) : Operation → Option Error
  | request r => r.refusal? s
  | add _ _ _ _ _ => none
  | flush collection => (pending collection).entries.findSome? fun output => (Creation.ofPending output).refusal? s

def left (pending : Collections) : Operation → Collections
  | request _ => pending
  | add collection key value type append =>
    pending.set collection ((pending collection).add key value type append)
  | flush collection => pending.set collection []

theorem pending_perform (s : Store σ) (pending : Collections) (operation : Operation) (m : σ) :
    ((operation.perform s pending).answer m).2 = operation.left pending := by
  cases operation <;> rfl

/-- One operation: whatever the backend does, it reports the error with which it is refused. -/
theorem error?_perform (s : Store σ) (pending : Collections) (operation : Operation) (m : σ) :
    ((operation.perform s pending).answer m).1.error? = operation.refusal? s pending := by
  cases operation with
  | request r => exact r.error?_perform s m
  | add collection key value type append => rfl
  | flush collection => exact error?_createAll (pending collection).entries m

def refusals (s : Store σ) : Collections → List Operation → List (Option Error)
  | _, [] => []
  | pending, operation :: rest => operation.refusal? s pending :: refusals s (operation.left pending) rest

/-- A run of operations: whatever the backend does, each reports the error with which it is refused. -/
theorem errors_of_run (s : Store σ) (session : Session σ) (operations : List Operation) :
    (session.run s operations).1.map (fun event => event.answer.error?) =
      refusals s session.pending operations := by
  induction operations generalizing session with
  | nil => rfl
  | cons operation rest ih =>
    have first : (session.step s operation).1.answer.error? = operation.refusal? s session.pending :=
      operation.error?_perform s session.pending session.state
    have left : (session.step s operation).2.pending = operation.left session.pending :=
      operation.pending_perform s session.pending session.state
    have others := ih (session.step s operation).2
    rw [left] at others
    rw [Session.run, List.map_cons, refusals, first, others]

end Operation

section Agreement

variable {s : Store σ} {t : Store τ}

/-- What a request to write is refused with depends on the output request and the options alone. -/
theorem Creation.refusal?_congr (outputs : s.outputs = t.outputs) (options : s.options = t.options) (c : Creation) :
    c.refusal? s = c.refusal? t := by
  obtain ⟨_, _, asked, chosen, _⟩ := s
  obtain ⟨_, _, _, _, _⟩ := t
  obtain rfl : asked = _ := outputs
  obtain rfl : chosen = _ := options
  cases c <;> rfl

theorem Operation.refusal?_congr (outputs : s.outputs = t.outputs) (options : s.options = t.options)
    (pending : Collections) (operation : Operation) : operation.refusal? s pending = operation.refusal? t pending := by
  have creations := Creation.refusal?_congr outputs options
  cases operation with
  | request r => cases r <;> simp only [refusal?, Request.refusal?, creations]
  | add collection key value type append => rfl
  | flush collection => simp only [refusal?, creations]

theorem Operation.refusals_congr (outputs : s.outputs = t.outputs) (options : s.options = t.options)
    (pending : Collections) (operations : List Operation) :
    refusals s pending operations = refusals t pending operations := by
  induction operations generalizing pending with
  | nil => rfl
  | cons operation rest ih => rw [refusals, refusals, ih, refusal?_congr outputs options]

end Agreement

/-- Two stores with the same output request and options report the same errors for the same operations, one by one and
in runs, whatever their backends do and hold and whatever external values are. A read for some type reports an error
exactly if values of the type of its key are stored as another type, and then it makes no call; other reads, snapshots
and deletes never do. A request to write reports an error exactly if its key names no variable where it has to, or one
of another type, or the gate lets it through and its payload cannot be stored; a flush exactly if one of its requests
does. -/
theorem errors_of_arguments {s : Store σ} {t : Store τ} (outputs : s.outputs = t.outputs)
    (options : s.options = t.options) (m : σ) (n : τ) :
    (∀ (pending : Collections) (operation : Operation), ((operation.perform s pending).answer m).1.error? =
      ((operation.perform t pending).answer n).1.error?) ∧
    (∀ (pending : Collections) (operations : List Operation),
      ((Session.mk pending m).run s operations).1.map (fun event => event.answer.error?) =
        ((Session.mk pending n).run t operations).1.map fun event => event.answer.error?) ∧
    (∀ (query : Query) (type : VariableType) (resolve : Bool) (key : String), query.type? = some type →
      ((query.perform ⟨s, resolve⟩ key).answer m).error? =
        (if (Variable.typeOf key).storedAs = type then none
          else some (.typeMismatch key type (Variable.typeOf key))) ∧
      ((Variable.typeOf key).storedAs ≠ type → (query.perform ⟨s, resolve⟩ key).calls m = [])) ∧
    (∀ (resolve : Bool) (key : String), ((Query.any.perform ⟨s, resolve⟩ key).answer m).error? = none ∧
      ((Query.raw.perform ⟨s, resolve⟩ key).answer m).error? = none ∧
      ((Request.snapshot.perform s).answer m).error? = none ∧
      (((Request.delete key).perform s).answer m).error? = none) ∧
    (∀ (c : Creation) (e : Error), (c.perform s).answer m = .error e ↔
      (Variable.parse? c.key = none ∧ ∃ fault, c.keyFault? s = some fault ∧ e = .invalidVariable c.key fault) ∨
      (∃ v type, Variable.parse? c.key = some v ∧ c.type? = some type ∧ v.type.storedAs ≠ type.storedAs ∧
        e = .typeMismatch c.key type v.type) ∨
      ∃ v, c.target? s = .ok (some v) ∧ s.admits v c.value = true ∧ c.encoding s.options.validate v = .error e) ∧
    (∀ (pending : PendingOutputs) (l : σ), (∃ e, ((s.flush pending).answer m).1 = .error e) ↔
      ∃ output ∈ pending.entries, ∃ e, ((Creation.ofPending output).perform s).answer l = .error e) := by
  refine ⟨fun pending operation => ?_, fun pending operations => ?_, fun query type resolve key matching => ⟨?_, ?_⟩,
    fun resolve key => ⟨rfl, rfl, rfl, rfl⟩, fun c e => ?_, fun pending l => ?_⟩
  · rw [Operation.error?_perform, Operation.error?_perform, Operation.refusal?_congr outputs options]
  · rw [Operation.errors_of_run, Operation.errors_of_run]
    exact Operation.refusals_congr outputs options pending operations
  · rw [Query.error?_perform, Query.refusal?_eq matching]
  · exact fun other => calls_of_refused ⟨s, resolve⟩ key matching other m
  · rw [← error?_eq_some_iff, Creation.error?_perform, Creation.refusal?_eq_some_iff]
  · have flushed : error? ((s.flush pending).answer m).1 = _ := error?_createAll pending.entries m
    simp only [← error?_eq_some_iff, flushed, Creation.error?_perform, ← Option.isSome_iff_exists,
      List.findSome?_isSome_iff]

def brokenStore : Store Unit where
  backend := {
    create := fun _ _ _ s => (.error (.failure "connection refused" false), s)
    read := fun _ _ s => (.error (.failure "connection refused" false), s) }
  context := "elsewhere"
  options := { gated := false }

/-- Text is asked for under a key of bytes. -/
theorem errors_of_arguments_of_bytes :
    let read : Operation := .request (.read .string true "#App:1:a!Binary")
    ((read.perform plainStore fun _ => []).answer Memory.empty).1.error? =
        ((read.perform brokenStore fun _ => []).answer ()).1.error? ∧
      ((Query.string.perform ⟨brokenStore, true⟩ "#App:1:a!Binary").answer ()).error? =
        some (.typeMismatch "#App:1:a!Binary" .string .binary) ∧
      (Query.string.perform ⟨brokenStore, true⟩ "#App:1:a!Binary").calls () = [] := by
  have type : Variable.typeOf "#App:1:a!Binary" = .binary := by decide +kernel
  obtain ⟨same, -, reads, -⟩ := errors_of_arguments (s := brokenStore) (t := plainStore) rfl rfl () Memory.empty
  obtain ⟨error, silent⟩ := reads .string .string true "#App:1:a!Binary" rfl
  rw [type] at error silent
  exact ⟨(same _ _).symm, error, silent (by decide)⟩

end VariableStore
