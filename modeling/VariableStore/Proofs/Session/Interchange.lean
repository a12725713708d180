import VariableStore.Backend
import VariableStore.Proofs.Endpoint
import VariableStore.Proofs.Envelope.Empty
import VariableStore.Proofs.Memory
import VariableStore.Proofs.Session.Steps
/-!
Writes and reads of values over backends that keep the bytes of variables alike. What is asked for is the text of some
variable whatever the request, so two such backends give the same answers in every run, but for what they say of a write
that they took. The interface of a platform and the memory are such backends, as far as no entry without bytes is read.
-/
namespace VariableStore

variable {σ τ : Type}

/-- An answer without what the backend says of a write that it took. -/
def Answer.withoutAck : Answer → Answer
  | written result => .written (result.map fun ack => ack.map fun _ => .accepted)
  | answer => answer

def Request.isOfValues : Request → Bool
  | create _ => true
  | read query _ _ => query ≠ .raw
  | snapshot | delete _ => false

/-- Two backends keep the variables of a context alike. From states that are related they read the same bytes for each
variable, and they both take a write of bytes of a kind or both fail; and then their states are related again. -/
structure Backend.Agrees (R : σ → τ → Prop) (kind : Bytes → Prop) (context : String) (b : Backend σ) (c : Backend τ) :
    Prop where
  read : ∀ (v : Variable) x y, R x y → (b.read context v.text x).1 = (c.read context v.text y).1 ∧
    R (b.read context v.text x).2 (c.read context v.text y).2
  create : ∀ (v : Variable) bytes x y, kind bytes → R x y →
    (b.create context v.text bytes x).1.toOption.isSome = (c.create context v.text bytes y).1.toOption.isSome ∧
      R (b.create context v.text bytes x).2 (c.create context v.text bytes y).2

theorem map_const_congr {α β : Type} {a b : Option α} {c : β} (h : a.isSome = b.isSome) :
    a.map (fun _ => c) = b.map fun _ => c := by
  cases a <;> cases b <;> first | rfl | cases h

namespace Backend.Agrees

variable {R : σ → τ → Prop} {kind : Bytes → Prop} {s : Store σ} {backend : Backend τ}

theorem fetches (h : s.backend.Agrees R kind s.context backend) : Fetches (Traced.Alike R) s backend where
  toComposed := Traced.composed_alike R
  read v := Traced.alike_call (h.read v)
  ask _ _ := Traced.alike_call fun _ _ related => ⟨rfl, related⟩

/-- One request to write: it is refused with the same error, skipped or taken over both backends. -/
theorem creation (h : s.backend.Agrees R kind s.context backend) {c : Creation}
    (fits : ∀ v bytes, c.target? s = .ok (some v) → c.encoding s.options.validate v = .ok bytes → kind bytes) {x : σ}
    {y : τ} (related : R x y) :
    (Answer.written ((c.perform s).answer x)).withoutAck =
        (Answer.written ((c.perform (s.withBackend backend)).answer y)).withoutAck ∧
      R ((c.perform s).after x) ((c.perform (s.withBackend backend)).after y) := by
  rw [Creation.perform_eq, Creation.perform_eq, Creation.target?_withBackend]
  rcases named : c.target? s with e | _ | v
  · exact ⟨rfl, related⟩
  · exact ⟨rfl, related⟩
  have admits : (s.withBackend backend).admits v c.value = s.admits v c.value := rfl
  have encoding : c.encoding (s.withBackend backend).options.validate v = c.encoding s.options.validate v := rfl
  simp only [Store.write, admits, encoding]
  by_cases admitted : s.admits v c.value = true
  · rw [if_pos admitted, if_pos admitted]
    cases encoded : c.encoding s.options.validate v with
    | error e => exact ⟨rfl, related⟩
    | ok bytes =>
      obtain ⟨taken, after⟩ := h.create v bytes x y (fits v bytes named encoded) related
      exact ⟨congrArg (fun ack => Answer.written (.ok ack)) (map_const_congr taken), after⟩
  · rw [if_neg admitted, if_neg admitted]
    exact ⟨rfl, related⟩

/-- One request for values: the same answer over both backends. -/
theorem request (h : s.backend.Agrees R kind s.context backend) {r : Request} (values : r.isOfValues = true)
    (fits : ∀ c, r = .create c → ∀ v bytes, c.target? s = .ok (some v) → c.encoding s.options.validate v = .ok bytes →
      kind bytes) {x : σ} {y : τ} (related : R x y) :
    ((r.perform s).answer x).withoutAck = ((r.perform (s.withBackend backend)).answer y).withoutAck ∧
      R ((r.perform s).after x) ((r.perform (s.withBackend backend)).after y) := by
  cases r with
  | create c => exact h.creation (fits c rfl) related
  | read query resolve key =>
    obtain ⟨answer, -, after⟩ := h.fetches.query resolve key (of_decide_eq_true values) x y related
    exact ⟨congrArg Answer.withoutAck answer, after⟩
  | snapshot | delete key => cases values

/-- A run of requests for values: the same answers over both backends. -/
theorem run (h : s.backend.Agrees R kind s.context backend) {requests : List Request}
    (values : ∀ r ∈ requests, r.isOfValues = true)
    (fits : ∀ c, .create c ∈ requests → ∀ v bytes, c.target? s = .ok (some v) →
      c.encoding s.options.validate v = .ok bytes → kind bytes) {x : σ} {y : τ} (related : R x y) :
    ((Request.performAll s requests).answer x).map Answer.withoutAck =
        ((Request.performAll (s.withBackend backend) requests).answer y).map Answer.withoutAck ∧
      R ((Request.performAll s requests).after x) ((Request.performAll (s.withBackend backend) requests).after y) := by
  induction requests generalizing x y with
  | nil => exact ⟨rfl, related⟩
  | cons r rest ih =>
    obtain ⟨first, others⟩ := List.forall_mem_cons.mp values
    obtain ⟨answer, after⟩ := h.request first (fun c own => fits c (own ▸ List.mem_cons_self)) related
    obtain ⟨answers, last⟩ := ih others (fun c inside => fits c (List.mem_cons_of_mem _ inside)) after
    rw [Request.answer_performAll_cons, Request.answer_performAll_cons, List.map_cons, List.map_cons, answer, answers]
    exact ⟨rfl, last⟩

end Backend.Agrees

section Endpoint

variable {e : Endpoint} {context : String} {exchange : Http.Exchange σ} {kept : σ → String → Option Bytes}

/-- The server keeps under the paths of variables what the memory keeps under their texts. -/
def Http.Mirrors (kept : σ → String → Option Bytes) (e : Endpoint) (context : String) (x : σ) (m : Memory) : Prop :=
  ∀ v : Variable, kept x (e.path v.text) = m.get? context v.text

/-- A write leaves the server a mirror of the memory. -/
theorem Http.Mirrors.create (reaches : e.Reaches context) (keeps : Http.Keeps exchange context kept) {x : σ} {m : Memory}
    (mirrors : Http.Mirrors kept e context x m) (v : Variable) (bytes : Bytes) :
    Http.Mirrors kept e context ((e.backend exchange).create context v.text bytes x).2 (m.create context v.text bytes).2 := by
  intro w
  rw [(Endpoint.create_of_keeps reaches keeps v bytes x).2, Memory.get?_create, mirrors w]
  by_cases same : v.text = w.text
  · simp [same]
  · have apart : e.path v.text ≠ e.path w.text := fun joined => same (reaches.path_injective joined)
    simp [same, apart]

def Endpoint.store (e : Endpoint) (exchange : Http.Exchange Memory) (context : String) : Store Memory :=
  { backend := e.backend exchange, context, options := { gated := false } }

end Endpoint

end VariableStore
