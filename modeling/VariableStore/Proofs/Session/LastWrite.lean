import VariableStore.Proofs.Memory
import VariableStore.Proofs.Session.Steps
/-!
Writing over the backend in memory. A request to write that is not acknowledged changes nothing, and one that is
changes the one field that it names. So after any run of requests each field of the context holds what the last
outcome about it left there, and no other context has changed.
-/
namespace VariableStore

variable {s : Store Memory}

/-- Keeping bytes is one call, answered by the memory. -/
theorem put_memory (memory : s.backend = Memory.backend) (v : Variable) (bytes : Bytes) :
    s.put v bytes = Traced.call (.create s.context v.text bytes)
      (fun m => (some (m.create s.context v.text bytes).1, (m.create s.context v.text bytes).2)) := by
  funext m
  rw [Store.put, memory]
  rfl

/-- A request to write over memory is a step of the memory, or it does nothing. -/
theorem Creation.perform_memory (memory : s.backend = Memory.backend) (c : Creation) (m : Memory) :
    (∃ v bytes, c.target? s = .ok (some v) ∧ c.encoding s.options.validate v = .ok bytes ∧
      (c.perform s).answer m = .ok (some (m.create s.context v.text bytes).1) ∧
      (c.perform s).after m = (m.create s.context v.text bytes).2) ∨
    ((∃ e, (c.perform s).answer m = .error e) ∨ (c.perform s).answer m = .ok none) ∧
      (c.perform s).after m = m := by
  rcases c.perform_cases s with ⟨v, bytes, target, -, encoded, eq⟩ | ⟨e, eq⟩ | eq
  · rw [eq, put_memory memory]
    exact .inl ⟨v, bytes, target, encoded, rfl, rfl⟩
  · rw [eq]
    exact .inr ⟨.inl ⟨e, rfl⟩, rfl⟩
  · rw [eq]
    exact .inr ⟨.inr rfl, rfl⟩

theorem delete_memory (memory : s.backend = Memory.backend) (key : String) (m : Memory) :
    (s.delete key).answer m = some (m.delete s.context key).1 ∧
      (s.delete key).after m = (m.delete s.context key).2 := by
  unfold Store.delete
  rw [memory]
  exact ⟨rfl, rfl⟩

/-- Looking changes nothing in memory. -/
theorem looking_memory (memory : s.backend = Memory.backend) :
    Looking s.backend (fun before _ after => after = before) where
  nil := fun _ => rfl
  append := fun _ _ _ _ _ first second => second.trans first
  read := fun _ _ _ => by rw [memory]; rfl
  readAll := fun _ _ => by rw [memory]; rfl
  external := fun _ _ => rfl

/-- What an answer to a request says about a field of the context: nothing, or what is in the field from then
on. Only an acknowledged write and an outcome of `deleted` say anything. -/
def Request.leaves (s : Store Memory) (field : String) : Request → Answer → Option (Option Bytes)
  | create c, .written (.ok (some _)) =>
    match c.target? s with
    | .ok (some v) =>
      match c.encoding s.options.validate v with
      | .ok bytes => if v.text = field then some (some bytes) else none
      | .error _ => none
    | _ => none
  | delete key, .deleted (some .deleted) => if key = field then some none else none
  | _, _ => none

def Request.lastLeft (s : Store Memory) (field : String) (requests : List Request) (answers : List Answer) :
    Option (Option Bytes) :=
  ((requests.zip answers).filterMap fun (r, answer) => r.leaves s field answer).getLast?

/-- One request: a field of the context holds what the answer says about it, or what it held. -/
theorem Request.get?_after (memory : s.backend = Memory.backend) (r : Request) (m : Memory) (field : String) :
    ((r.perform s).after m).get? s.context field =
      (r.leaves s field ((r.perform s).answer m)).getD (m.get? s.context field) := by
  cases r with
  | create c =>
    rw [perform, Traced.answer_map, Traced.after_map]
    rcases c.perform_memory memory m with ⟨v, bytes, target, encoded, answer, after⟩ | ⟨answer, after⟩
    · rw [answer, after, Memory.get?_create]
      simp only [leaves, target, encoded]
      by_cases same : v.text = field <;> simp [same]
    · rw [after]
      rcases answer with ⟨e, answer⟩ | answer
      · rw [answer]
        rfl
      · rw [answer]
        rfl
  | read query resolve key =>
    have same : (query.perform ⟨s, resolve⟩ key).after m = m :=
      within_query (r := ⟨s, resolve⟩) (looking_memory memory) key query m
    rw [perform, same]
    rfl
  | snapshot =>
    have same : s.snapshot.after m = m := within_snapshot (looking_memory memory) m
    rw [perform, Traced.after_map, same]
    rfl
  | delete key =>
    obtain ⟨answer, after⟩ := delete_memory memory key m
    rw [perform, Traced.answer_map, Traced.after_map, answer, after]
    rcases Memory.delete_outcome m s.context key with ⟨present, outcome⟩ | ⟨absent, eq⟩
    · rw [outcome, Memory.get?_delete]
      simp only [leaves]
      by_cases same : key = field <;> simp [same]
    · rw [eq]
      rfl

/-- Whatever a store does over memory, other contexts stay as they are. -/
theorem acts_elsewhere (memory : s.backend = Memory.backend) {there : String} (h : s.context ≠ there) :
    Acts (fun ⦃_⦄ (x _ : Action Memory _) =>
      Traced.Within (fun m _ after => after.context there = m.context there) x) s s.backend where
  toLooks := Looking.looks {
    nil := fun _ => rfl
    append := fun _ _ _ _ _ first second => second.trans first
    read := fun context key m => congrArg (Memory.context · there) ((looking_memory memory).read context key m)
    readAll := fun context m => congrArg (Memory.context · there) ((looking_memory memory).readAll context m)
    external := fun _ _ => rfl }
  create := fun key bytes => Traced.within_call fun m => by
    rw [memory]
    exact Memory.context_create m h key bytes
  delete := fun key => Traced.within_call fun m => by
    rw [memory]
    exact Memory.context_delete m h key
  supportsDelete := rfl

/-- One request: other contexts stay as they are. -/
theorem Request.context_after (memory : s.backend = Memory.backend) (r : Request) (m : Memory) {there : String}
    (h : s.context ≠ there) : ((r.perform s).after m).context there = m.context there :=
  (acts_elsewhere memory h).request r m

/-- A run of requests: a field of the context holds what was said of it last, or what it held. -/
theorem Request.get?_after_run (memory : s.backend = Memory.backend) (requests : List Request) (m : Memory)
    (field : String) : ((performAll s requests).after m).get? s.context field =
      (lastLeft s field requests ((performAll s requests).answer m)).getD (m.get? s.context field) := by
  induction requests generalizing m with
  | nil => rfl
  | cons r rest ih =>
    have step := r.get?_after memory m field
    have later := ih ((r.perform s).after m)
    rw [answer_performAll_cons, after_performAll_cons, later, step]
    simp only [lastLeft, List.zip_cons_cons, List.filterMap_cons]
    -- The first request counts only where no later one says anything.
    cases r.leaves s field ((r.perform s).answer m) with
    | none => rfl
    | some left =>
      rw [List.getLast?_cons]
      rfl

/-- A run of requests: other contexts stay as they are. -/
theorem Request.context_after_run (memory : s.backend = Memory.backend) (requests : List Request) (m : Memory)
    {there : String} (h : s.context ≠ there) :
    ((performAll s requests).after m).context there = m.context there := by
  induction requests generalizing m with
  | nil => rfl
  | cons r rest ih => rw [after_performAll_cons, ih, r.context_after memory m h]

/-- Over memory, a request to write that is refused or skipped leaves the whole memory as it was, and one that is
acknowledged sets the one field of its target to the encoding and says whether the field is new. After any run of
requests a field of the context holds what was said of it last, and other contexts stay as they are. -/
theorem last_write_wins (memory : s.backend = Memory.backend) (m : Memory) :
    (∀ c : Creation, (∀ e, (c.perform s).answer m = .error e → (c.perform s).after m = m) ∧
      ((c.perform s).answer m = .ok none → (c.perform s).after m = m) ∧
      ∀ ack, (c.perform s).answer m = .ok (some ack) → ∃ v bytes, c.target? s = .ok (some v) ∧
        c.encoding s.options.validate v = .ok bytes ∧
        (∀ there field, ((c.perform s).after m).get? there field =
          if s.context = there ∧ v.text = field then some bytes else m.get? there field) ∧
        (ack = .created ↔ m.get? s.context v.text = none)) ∧
    ∀ requests : List Request,
      (∀ field, ((Request.performAll s requests).after m).get? s.context field =
        (Request.lastLeft s field requests ((Request.performAll s requests).answer m)).getD
          (m.get? s.context field)) ∧
      ∀ there, s.context ≠ there → ((Request.performAll s requests).after m).context there = m.context there := by
  refine ⟨fun c => ?_, fun requests => ⟨Request.get?_after_run memory requests m, fun there =>
    Request.context_after_run memory requests m⟩⟩
  rcases c.perform_memory memory m with ⟨v, bytes, target, encoded, answer, after⟩ | ⟨answer, after⟩
  · rw [answer, after]
    refine ⟨fun e h => (nomatch h), fun h => (nomatch h), fun ack h => ?_⟩
    cases h
    refine ⟨v, bytes, target, encoded, fun there field => ?_, ?_⟩
    · exact Memory.get?_create m s.context there v.text field bytes
    · rw [Memory.create_ack]
      split <;> simp [*]
  · refine ⟨fun _ _ => after, fun _ => after, fun ack h => ?_⟩
    rcases answer with ⟨e, answer⟩ | answer
    · rw [answer] at h
      cases h
    · rw [answer] at h
      cases h

def plainStore : Store Memory := { backend := Memory.backend, context := "run", options := { gated := false } }

theorem last_write_wins_of_rewrite :
    let requests : List Request :=
      [.create (.typed .string "#App:1:a!String" (.text "old")), .delete "#App:1:a!String",
        .create (.raw " #App:1:a!String" (.text "new")), .read .any true "#App:1:a!String"]
    ((Request.performAll plainStore requests).after Memory.empty).get? "run" "#App:1:a!String" =
      some (Utf8.encode "new") := by
  intro requests
  have last : (Request.lastLeft plainStore "#App:1:a!String" requests
      ((Request.performAll plainStore requests).answer Memory.empty)).getD none = some (Utf8.encode "new") := by
    decide +kernel
  exact (((last_write_wins rfl Memory.empty).2 requests).1 "#App:1:a!String").trans last

end VariableStore
