import VariableStore.Backend
import VariableStore.Proofs.Except
import VariableStore.Proofs.OutputRequest
import VariableStore.Proofs.Session.Steps
/-!
The gate. Where writes are gated, nothing reaches the backend but writes that were asked for, whatever the
backend does, in whatever order operations come, and however they name what they write. The gate compares texts
of variables; since what is listed was read from texts, that is to compare variables.
-/
namespace VariableStore

variable {σ : Type}

/-- The variable to write was read from a text or found in the output request. -/
theorem Store.target_ok {s : Store σ} {key : String} {type : VariableType} {v : Variable}
    (h : s.target key type = .ok (some v)) :
    Variable.parse? key = some v ∨ s.outputs.find? key type = some v := by
  unfold Store.target at h
  split at h
  · next read =>
    obtain ⟨-, -, eq⟩ := map_eq_ok.mp h
    cases eq
    exact .inl read
  · split at h
    · exact .inr (Except.ok.inj h)
    · cases h

theorem Creation.target?_of_type? {s : Store σ} {c : Creation} {type : VariableType} (h : c.type? = some type) :
    c.target? s = s.target c.key type := by
  cases c with
  | typed own key value =>
    cases h
    rfl
  | any key value own =>
    cases h
    rfl
  | raw key value => cases h
  | keyValue key record =>
    cases h
    rfl
  | entity key e =>
    cases h
    rfl

/-- The variable to write is read from the key that is given, or found in the output request. -/
theorem Creation.target?_ok {s : Store σ} {c : Creation} {v : Variable} (h : c.target? s = .ok (some v)) :
    Variable.parse? c.key = some v ∨ ∃ type, s.outputs.find? c.key type = some v := by
  cases typed : c.type? with
  | some type =>
    rw [target?_of_type? typed] at h
    exact (Store.target_ok h).imp_right fun found => ⟨type, found⟩
  | none =>
    cases c with
    | raw key value =>
      simp only [target?] at h
      split at h
      · next read =>
        cases h
        exact .inl read
      · cases h
    | any key value type =>
      simp only [target?] at h
      split at h
      · exact (Store.target_ok h).imp_right fun found => ⟨_, found⟩
      · cases h
    | _ => cases typed

/-- A call to create is one that some of these requests to write may make: in the context of the store, to a
variable that is listed, with the encoding of the payload, which is null only for a list type. -/
def Asked (s : Store σ) (creations : List Creation) (call : Call) : Prop :=
  ∀ context key bytes, call = .create context key bytes → context = s.context ∧
    ∃ c ∈ creations, ∃ v ∈ s.outputs.listed, c.target? s = .ok (some v) ∧ key = v.text ∧
      c.encoding s.options.validate v = .ok bytes ∧ (c.value.isNull = true → v.type.isArray = true)

theorem asked_of_other {s : Store σ} {creations : List Creation} {call : Call}
    (h : ∀ context key bytes, call ≠ .create context key bytes) : Asked s creations call :=
  fun context key bytes eq => absurd eq (h context key bytes)

def AllAsked (s : Store σ) (creations : List Creation) (_ : σ) (calls : List Call) (_ : σ) : Prop :=
  ∀ call ∈ calls, Asked s creations call

theorem looking_allAsked (s : Store σ) (creations : List Creation) :
    Looking s.backend (AllAsked s creations) :=
  looking_of_calls (fun _ => asked_of_other) s.backend

section Gated

open Traced

variable {s : Store σ} {creations : List Creation}

/-- The gate lets through only variables that are listed, and null only for lists. -/
theorem listed_of_admits (gated : s.options.gated = true) (sound : s.outputs.Sound) {c : Creation} {v : Variable}
    (target : c.target? s = .ok (some v)) (admitted : s.admits v c.value = true) :
    v ∈ s.outputs.listed ∧ (c.value.isNull = true → v.type.isArray = true) := by
  simp only [Store.admits, gated, Bool.not_true, Bool.false_or, Bool.and_eq_true] at admitted
  obtain ⟨contained, shaped⟩ := admitted
  refine ⟨?_, fun null => by simpa [null] using shaped⟩
  rcases Creation.target?_ok target with read | ⟨type, found⟩
  · exact (sound.contains_iff read).mp contained
  · exact OutputRequest.listed_of_find? found

theorem within_creation (gated : s.options.gated = true) (sound : s.outputs.Sound) {c : Creation}
    (inside : c ∈ creations) : Within (AllAsked s creations) (c.perform s) := by
  have chained := (looking_allAsked s creations).toChained
  rcases c.perform_cases s with ⟨v, bytes, target, admitted, encoded, eq⟩ | ⟨e, eq⟩ | eq
  · obtain ⟨listed, null⟩ := listed_of_admits gated sound target admitted
    have call : Within (AllAsked s creations) (s.put v bytes) := by
      refine within_bind chained (within_call fun state => ?_) fun _ => within_pure chained _
      refine List.forall_mem_singleton.mpr fun context key written eq => ?_
      cases eq
      exact ⟨rfl, c, inside, v, listed, target, rfl, encoded, null⟩
    rw [eq]
    exact within_map chained _ call
  · rw [eq]
    exact within_pure chained _
  · rw [eq]
    exact within_pure chained _

/-- One operation: each call to create is one that it asks for. -/
theorem allAsked_operation (gated : s.options.gated = true) (sound : s.outputs.Sound) (pending : Collections)
    (operation : Operation) :
    Within (AllAsked s (operation.creations pending)) (operation.perform s pending) := by
  intro state
  exact calls_of_operation (fun _ => asked_of_other) (fun c inside => within_creation gated sound inside) state

end Gated

/-- Every call to create in a run is one that its operation asks for. -/
theorem asked_of_run {s : Store σ} (gated : s.options.gated = true) (sound : s.outputs.Sound)
    (session : Session σ) (operations : List Operation) :
    ∀ event ∈ (session.run s operations).1, ∀ call ∈ event.calls,
      Asked s (event.operation.creations event.pending) call := by
  induction operations generalizing session with
  | nil => exact fun _ inside => nomatch inside
  | cons operation rest ih =>
    refine List.forall_mem_cons.mpr ⟨?_, ih _⟩
    exact allAsked_operation gated sound session.pending operation session.state

/-- Where writes are gated, every call to create in a run of operations is made in the context of the store, to a
listed variable, with the bytes that this variable's type or a raw write makes of the payload, and not for null
unless the type is a list. No variable that is not listed is ever written. -/
theorem create_calls_of_run {s : Store σ} (texts : List String) (gated : s.options.gated = true)
    (outputs : s.outputs = .ofTexts texts) (session : Session σ) (operations : List Operation) :
    ∀ event ∈ (session.run s operations).1, ∀ context key bytes, Call.create context key bytes ∈ event.calls →
      context = s.context ∧
      (∃ c ∈ event.operation.creations event.pending, ∃ v ∈ s.outputs.listed, c.target? s = .ok (some v) ∧
        key = v.text ∧ c.encoding s.options.validate v = .ok bytes ∧
        (c.value.isNull = true → v.type.isArray = true)) ∧
      ∀ text w, Variable.parse? text = some w → w ∉ s.outputs.listed → key ≠ w.text := by
  intro event inside context key bytes called
  have sound : s.outputs.Sound := outputs ▸ OutputRequest.sound_ofTexts texts
  obtain ⟨here, c, hc, v, listed, target, rfl, encoded, null⟩ :=
    asked_of_run gated sound session operations event inside _ called context key bytes rfl
  refine ⟨here, ⟨c, hc, v, listed, target, rfl, encoded, null⟩, fun text w read other same => other ?_⟩
  obtain ⟨own, readOwn⟩ := sound.read v listed
  rw [← Variable.eq_of_text_eq readOwn read same]
  exact listed

def listStore : Store Memory := ⟨Memory.backend, "run", .ofTexts ["#App:1:b!StringArray"], {}, none⟩

/-- Adds to the list under its bare key, flushes, and writes past the request. -/
def listOperations : List Operation :=
  [.add 0 "b" (.text "x") .stringArray true, .flush 0, .request (.create (.raw " #App:1:c!String" (.text "x")))]

theorem create_calls_of_listOperations :
    ((Session.mk (fun _ => []) Memory.empty).run listStore listOperations).1.map Event.calls =
      [[], [.create "run" "#App:1:b!StringArray" (Utf8.encode "[\"x\"]")], []] ∧
    ∀ event ∈ ((Session.mk (fun _ => []) Memory.empty).run listStore listOperations).1, ∀ context key bytes,
      Call.create context key bytes ∈ event.calls → context = "run" ∧
      (∃ c ∈ event.operation.creations event.pending, ∃ v ∈ listStore.outputs.listed,
        c.target? listStore = .ok (some v) ∧ key = v.text ∧
        c.encoding true v = .ok bytes ∧ (c.value.isNull = true → v.type.isArray = true)) ∧
      ∀ text w, Variable.parse? text = some w → w ∉ listStore.outputs.listed → key ≠ w.text :=
  ⟨by decide +kernel, create_calls_of_run ["#App:1:b!StringArray"] rfl rfl _ _⟩

/-! ## Bare keys

The output request completes a bare key to the last variable that is entered under it and the type to write. Nothing
else is written, so a write under a bare key is as exact as the lookup that it rests on.
-/

theorem makes_put (s : Store σ) (v : Variable) (bytes : Bytes) :
    Traced.Makes [.create s.context v.text bytes] (s.put v bytes) :=
  (Traced.makes_call _ _).bind_pure _

/-- A request to write creates nothing but the variable that it names. -/
theorem Creation.target?_of_called {s : Store σ} {c : Creation} {state : σ} {context field : String}
    {bytes : Bytes} (called : Call.create context field bytes ∈ (c.perform s).calls state) :
    ∃ v, c.target? s = .ok (some v) ∧ field = v.text := by
  rcases c.perform_cases s with ⟨v, encoded, target, -, -, eq⟩ | ⟨e, eq⟩ | eq
  · rw [eq, (makes_put s v encoded).map _ state, List.mem_singleton] at called
    cases called
    exact ⟨v, target, rfl⟩
  · rw [eq] at called
    cases called
  · rw [eq] at called
    cases called

/-- A write under a bare key goes to the variable that the output request finds for it. -/
theorem find?_of_called {s : Store σ} {c : Creation} {type : VariableType} (typed : c.type? = some type)
    (bare : Variable.parse? c.key = none) {state : σ} {context field : String} {bytes : Bytes}
    (called : Call.create context field bytes ∈ (c.perform s).calls state) :
    ∃ v, s.outputs.find? c.key type = some v ∧ field = v.text := by
  obtain ⟨v, target, text⟩ := Creation.target?_of_called called
  rw [Creation.target?_of_type? typed] at target
  rcases Store.target_ok target with read | found
  · rw [bare] at read
    cases read
  · exact ⟨v, found, text⟩

/-- A lookup by key and type in a request for some texts finds the last of the different variables that have the
key and the type name or overlap with them, and nothing if there is none. Variables overlap only where a type name
holds a hyphen. Where the type is the one that its name stands for and no variable asked for overlaps, the lookup is
exact, and a typed write under a bare key, in any store with this request, goes to no variable of another key or
type. -/
theorem typed_lookup_exact (texts : List String) (key : String) (type : VariableType) :
    let requested := texts.filterMap Variable.parse?
    let request := OutputRequest.ofTexts texts
    (request.isRequestedAs key type = true ↔
      ∃ v ∈ requested, (v.key = key ∧ v.type.name = type.name) ∨ v.Overlaps key type) ∧
    request.find? key type = (requested.eraseDups.filter fun v =>
      (v.key = key ∧ v.type.name = type.name) ∨ v.Overlaps key type).getLast? ∧
    (∀ v : Variable, v.Overlaps key type → '-' ∈ v.type.name.toList ∨ '-' ∈ type.name.toList) ∧
    (VariableType.ofName type.name = type → (∀ v ∈ requested, ¬ v.Overlaps key type) →
      (request.isRequestedAs key type = true ↔ ∃ v ∈ requested, v.key = key ∧ v.type = type) ∧
      request.find? key type = (requested.eraseDups.filter fun v => v.key = key ∧ v.type = type).getLast? ∧
      ∀ (σ : Type) (s : Store σ) (c : Creation), s.outputs = request → c.key = key → c.type? = some type →
        Variable.parse? key = none → ∀ state context field bytes,
        Call.create context field bytes ∈ (c.perform s).calls state →
        ∃ v ∈ requested, Variable.parse? field = some v ∧ v.key = key ∧ v.type = type) := by
  intro requested request
  refine ⟨?_, ?_, fun v => Variable.Overlaps.hyphen, fun named apart => ?_⟩
  · simp only [request, OutputRequest.isRequestedAs_ofTexts, Variable.index_eq_iff]
    rfl
  · simp only [request, OutputRequest.find?_ofTexts, Variable.index_eq_iff]
    rfl
  -- Of the variables asked for, the joined text picks out those with the key and type, and no others.
  have own : ∀ v ∈ requested, (v.index = Variable.indexOf key type ↔ v.key = key ∧ v.type = type) := by
    intro v inside
    obtain ⟨s, -, read⟩ := List.mem_filterMap.mp inside
    exact Variable.index_eq_iff_of_apart read named (apart v inside)
  have found : request.find? key type =
      (requested.eraseDups.filter fun v => v.key = key ∧ v.type = type).getLast? := by
    rw [OutputRequest.find?_ofTexts]
    refine congrArg List.getLast? (List.filter_congr fun v inside => ?_)
    exact decide_eq_decide.mpr (own v (List.mem_eraseDups.mp inside))
  refine ⟨?_, found, ?_⟩
  · rw [OutputRequest.isRequestedAs_ofTexts]
    exact exists_congr fun v => and_congr_right (own v)
  · intro σ s c outputs here typed bare state context field bytes called
    subst here
    obtain ⟨v, looked, rfl⟩ := find?_of_called typed bare called
    rw [outputs, found] at looked
    obtain ⟨inside, same⟩ := List.mem_filter.mp (List.mem_of_getLast? looked)
    obtain ⟨s, listed, read⟩ := List.mem_filterMap.mp (List.mem_eraseDups.mp inside)
    exact ⟨v, List.mem_eraseDups.mp inside, Variable.parse?_text read, of_decide_eq_true same⟩

def requestedStore (texts : List String) : Store Memory := ⟨Memory.backend, "run", .ofTexts texts, {}, none⟩

/-- A hyphen in a type name does no harm to the key in front of it. The last of two variables is found, although
the first one is named once more behind it. -/
theorem typed_lookup_exact_of_repetition :
    let s := requestedStore ["#App:1:a!X-String", "#App:1:a!String", "#App:2:a!String", "#App:1:a!String"]
    let creation : Creation := .typed .string "a" (.text "x")
    s.outputs.isRequestedAs "a" .string = true ∧
      s.outputs.find? "a" .string = some ⟨"App", "2", "a", .string⟩ ∧
      (creation.perform s).calls Memory.empty = [.create "run" "#App:2:a!String" (Utf8.encode "\"x\"")] ∧
      ∀ context field bytes, Call.create context field bytes ∈ (creation.perform s).calls Memory.empty →
        ∃ v, Variable.parse? field = some v ∧ v.key = "a" ∧ v.type = .string := by
  intro s creation
  have apart : ∀ v ∈ ["#App:1:a!X-String", "#App:1:a!String", "#App:2:a!String", "#App:1:a!String"].filterMap
      Variable.parse?, ¬ v.Overlaps "a" .string := by decide +kernel
  obtain ⟨asked, found, written⟩ := (typed_lookup_exact _ "a" .string).2.2.2 rfl apart
  refine ⟨asked.mpr (by decide +kernel), found.trans (by decide +kernel), by decide +kernel, ?_⟩
  intro context field bytes called
  obtain ⟨v, -, own⟩ := written Memory s creation rfl rfl rfl (by decide +kernel) _ context field bytes called
  exact ⟨v, own⟩

/-- A variable of another key and another type is found and written, where the hyphen in its type name can be taken
for the one that joins keys and types. -/
theorem typed_lookup_overlapping :
    let s := requestedStore ["#App:1:a!X-String"]
    let v : Variable := ⟨"App", "1", "a", .custom "X-String"⟩
    ["#App:1:a!X-String"].filterMap Variable.parse? = [v] ∧ v.key ≠ "a-X" ∧ v.type ≠ .string ∧
      s.outputs.isRequestedAs "a-X" .string = true ∧ s.outputs.find? "a-X" .string = some v ∧
      (s.create .string "a-X" (.text "x")).calls Memory.empty = [.create "run" v.text (Utf8.encode "x")] := by
  decide +kernel

end VariableStore
