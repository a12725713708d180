import VariableStore.Proofs.List
import VariableStore.Proofs.PendingOutputs
import VariableStore.Proofs.Session.Gate
import VariableStore.Proofs.Session.LastWrite
/-!
Two ways to name an output. A value may be added under the key of a variable that is asked for or under the whole text
of the variable. The two names make two entries, and both are written to the one variable, so of the values gathered
under them the one that was entered last is left. Where values are added under one name alone, or all that count are
added under the name that was entered last, the name makes no difference.
-/
namespace VariableStore

section Flushing

variable {σ : Type}

/-- The bytes that a payload becomes under a variable, if it is let through and can be stored. -/
def Store.stored? (s : Store σ) (v : Variable) (value : Payload) : Option Bytes :=
  if s.admits v value then (Envelope.encode v.type value s.options.validate).toOption else none

/-- The bytes that an output becomes under a variable, if it names this one. -/
def Store.left? (s : Store σ) (v : Variable) (output : PendingOutput) : Option Bytes :=
  match s.target output.key output.type with
  | .ok (some w) => if w = v then s.stored? v output.value else none
  | _ => none

theorem Store.left?_of_target {s : Store σ} {v : Variable} {output : PendingOutput}
    (h : s.target output.key output.type = .ok (some v)) : s.left? v output = s.stored? v output.value := by
  simp [left?, h]

variable {s : Store Memory} {v : Variable}

/-- Writing a payload over memory is a step of the memory with what the payload becomes, or it does nothing. -/
theorem after_write (memory : s.backend = Memory.backend) (v : Variable) (value : Payload) (m : Memory) :
    (s.write v value (Envelope.encode v.type value s.options.validate)).after m =
      match s.stored? v value with
      | some bytes => (m.create s.context v.text bytes).2
      | none => m := by
  unfold Store.write Store.stored?
  by_cases admitted : s.admits v value = true
  · rw [if_pos admitted, if_pos admitted]
    cases Envelope.encode v.type value s.options.validate with
    | error e => rfl
    | ok bytes =>
      simp only [put_memory memory]
      rfl
  · rw [if_neg admitted, if_neg admitted]
    rfl

/-- Writing one output: the field of a variable holds what the output becomes under it, or what it held. -/
theorem get?_createAny (memory : s.backend = Memory.backend) (sound : s.outputs.Sound) {spelling : String}
    (read : Variable.parse? spelling = some v) (output : PendingOutput) (m : Memory) :
    ((s.createAny output.key output.value (some output.type)).after m).get? s.context v.text =
      (s.left? v output).or (m.get? s.context v.text) := by
  have request : s.createAny output.key output.value (some output.type) = s.create output.type output.key output.value :=
    rfl
  rw [request, Store.create, Store.left?]
  rcases named : s.target output.key output.type with e | _ | w
  · rfl
  · rfl
  obtain ⟨spelling', read'⟩ : ∃ spelling, Variable.parse? spelling = some w :=
    (Store.target_ok named).elim (fun own => ⟨_, own⟩) fun found => sound.read w (OutputRequest.listed_of_find? found)
  simp only [after_write memory]
  by_cases own : w = v
  · subst own
    rw [if_pos rfl]
    cases s.stored? w output.value with
    | none => rfl
    | some bytes => simp [Memory.get?_create]
  · have apart : w.text ≠ v.text := fun same => own (Variable.eq_of_text_eq read' read same)
    rw [if_neg own]
    cases s.stored? w output.value with
    | none => rfl
    | some bytes => simp [Memory.get?_create, apart]

/-- Writing several outputs: the field of a variable holds what the last one of those that leave something there
becomes, or what it held. -/
theorem get?_createAll (memory : s.backend = Memory.backend) (sound : s.outputs.Sound) {spelling : String}
    (read : Variable.parse? spelling = some v) (outputs : List PendingOutput) (m : Memory) :
    ((s.createAll outputs).after m).get? s.context v.text =
      (outputs.reverse.findSome? (s.left? v)).or (m.get? s.context v.text) := by
  induction outputs generalizing m with
  | nil => rfl
  | cons output rest ih =>
    have step : (s.createAll (output :: rest)).after m =
        (s.createAll rest).after ((s.createAny output.key output.value (some output.type)).after m) := by
      rw [Store.createAll, Traced.after_bind, Traced.after_bind]
      cases (s.createAny output.key output.value (some output.type)).answer m <;> rfl
    rw [step, ih, get?_createAny memory sound read, List.reverse_cons, List.findSome?_append, Option.or_assoc,
      List.findSome?_singleton]

end Flushing

namespace Addition

/-- The addition is made for a variable, under its key or under its whole text. -/
def For (v : Variable) (a : Addition) : Prop := a.type = v.type ∧ (a.key = v.key ∨ a.key = v.text)

instance (v : Variable) (a : Addition) : Decidable (a.For v) := inferInstanceAs (Decidable (_ ∧ _))

def spelled (key : String) (a : Addition) : Addition := { a with key := key }

/-- What waits does not depend on the keys. -/
theorem outcome_spelled (key : String) (waiting : Option Payload) (as : List Addition) :
    outcome waiting (as.map (spelled key)) = outcome waiting as := by
  rw [outcome, List.foldl_map]
  rfl

/-- Where one addition replaces, nothing in front of it counts. -/
theorem outcome_of_replacing {a : Addition} (h : a.append = false ∨ a.type.isArray = false) (waiting : Option Payload)
    (before after : List Addition) : outcome waiting (before ++ a :: after) = outcome none (a :: after) := by
  rw [outcome, List.foldl_append, List.foldl_cons, outcome, List.foldl_cons]
  simp only [onto_of_replacing h]

end Addition

section Spellings

open Addition PendingOutputs

variable {s : Store Memory} {v : Variable} {as : List Addition}

/-- Flushing what was added: the field of a variable holds what the last entered one of the values that leave something
there becomes, or what it held. -/
theorem get?_flush (memory : s.backend = Memory.backend) (sound : s.outputs.Sound) {spelling : String}
    (read : Variable.parse? spelling = some v) (standard : ∀ a ∈ as, a.type ∈ VariableType.standard) (m : Memory) :
    ((s.flush (enterAll [] as)).after m).get? s.context v.text =
      ((as.map Addition.name).eraseDups.reverse.findSome? fun name => (outcome none (under name.1 name.2 as)).bind
        fun value => s.left? v ⟨name.1, name.2, value⟩).or (m.get? s.context v.text) := by
  have flushed : (s.flush (enterAll [] as)).after m = (s.createAll (enterAll [] as).entries).after m := rfl
  rw [flushed, get?_createAll memory sound read, entries_enterAll standard, ← List.filterMap_reverse,
    findSome?_filterMap]
  simp only [Option.bind_map]
  rfl

/-- Both names of a variable that the request finds for its key lead to it. -/
theorem target_of_for (gated : s.options.gated = true) {spelling : String} (read : Variable.parse? spelling = some v)
    (found : s.outputs.find? v.key v.type = some v) {a : Addition} (own : a.For v) :
    s.target a.key a.type = .ok (some v) := by
  obtain ⟨type, key | key⟩ := own
  · simp [Store.target, key, type, Variable.parse?_key read, gated, found]
  · simp [Store.target, key, type, Variable.parse?_text read, VariableType.check, Except.map]

/-- Flushing what was added for a variable under its two names. -/
theorem get?_flush_of_for (memory : s.backend = Memory.backend) (gated : s.options.gated = true) (sound : s.outputs.Sound)
    (found : s.outputs.find? v.key v.type = some v) (standard : v.type ∈ VariableType.standard)
    (own : ∀ a ∈ as, a.For v) (m : Memory) :
    ((s.flush (enterAll [] as)).after m).get? s.context v.text =
      ((as.map Addition.name).eraseDups.reverse.findSome? fun name =>
        (outcome none (under name.1 name.2 as)).bind (s.stored? v)).or (m.get? s.context v.text) := by
  obtain ⟨spelling, read⟩ := sound.read v (OutputRequest.listed_of_find? found)
  have types : ∀ a ∈ as, a.type ∈ VariableType.standard := fun a inside => (own a inside).1 ▸ standard
  rw [get?_flush memory sound read types]
  refine congrArg (Option.or · _) (findSome?_congr fun name inside => ?_)
  obtain ⟨a, added, rfl⟩ := List.mem_map.mp (List.mem_eraseDups.mp (List.mem_reverse.mp inside))
  refine Option.bind_congr fun value _ => ?_
  exact Store.left?_of_target (target_of_for gated read found (own a added))

/-- Where all is added under one name, the field holds what the value gathered there becomes, or what it held. -/
theorem get?_flush_of_one (memory : s.backend = Memory.backend) (gated : s.options.gated = true) (sound : s.outputs.Sound)
    (found : s.outputs.find? v.key v.type = some v) (standard : v.type ∈ VariableType.standard)
    (own : ∀ a ∈ as, a.For v) {name : String × VariableType} (one : ∀ a ∈ as, a.name = name) (m : Memory) :
    ((s.flush (enterAll [] as)).after m).get? s.context v.text =
      ((outcome none as).bind (s.stored? v)).or (m.get? s.context v.text) := by
  rw [get?_flush_of_for memory gated sound found standard own]
  cases as with
  | nil => rfl
  | cons a rest =>
    have same : ∀ other ∈ (a :: rest).map Addition.name, other = a.name := by
      intro other inside
      obtain ⟨b, added, rfl⟩ := List.mem_map.mp inside
      rw [one b added, one a List.mem_cons_self]
    have all : under a.name.1 a.name.2 (a :: rest) = a :: rest :=
      List.filter_eq_self.mpr fun b added => by simp [one b added, one a List.mem_cons_self]
    rw [List.map_cons, eraseDups_of_same (List.map_cons ▸ same), List.reverse_singleton, List.findSome?_singleton, all]

/-- Values are added for a variable of a standard type that a gated store finds for its key, each under the key or under
the whole text. After a flush over memory the field of the variable holds what the value gathered under the name that was
entered last becomes, or, if that one is not let through or cannot be stored, the other one, or what it held. Where all
are added under one name, whichever it is, that is what all values together become. And where, from one on that replaces,
all are added under the name that was entered last, and what they make can be stored, the field is left as if they had
all been added under one name. -/
theorem stored_of_spellings (memory : s.backend = Memory.backend) (gated : s.options.gated = true) {texts : List String}
    (outputs : s.outputs = .ofTexts texts) (found : s.outputs.find? v.key v.type = some v)
    (standard : v.type ∈ VariableType.standard) (own : ∀ a ∈ as, a.For v) (m : Memory) :
    let stored : List Addition → Option Bytes := fun as => ((s.flush (enterAll [] as)).after m).get? s.context v.text
    stored as = ((as.map Addition.name).eraseDups.reverse.findSome? fun name =>
      (outcome none (under name.1 name.2 as)).bind (s.stored? v)).or (m.get? s.context v.text) ∧
    ∀ key, key = v.key ∨ key = v.text →
      stored (as.map (spelled key)) = ((outcome none as).bind (s.stored? v)).or (m.get? s.context v.text) ∧
      ∀ before first after, as = before ++ first :: after → first.append = false ∨ v.type.isArray = false →
        (∀ a ∈ after, a.key = first.key) → (as.map Addition.name).eraseDups.getLast? = some first.name →
        (outcome none as).bind (s.stored? v) ≠ none → stored as = stored (as.map (spelled key)) := by
  intro stored
  have sound : s.outputs.Sound := outputs ▸ OutputRequest.sound_ofTexts texts
  have mixed := get?_flush_of_for memory gated sound found standard own m
  refine ⟨mixed, fun key named => ?_⟩
  have uniform : stored (as.map (spelled key)) =
      ((outcome none as).bind (s.stored? v)).or (m.get? s.context v.text) := by
    have own' : ∀ a ∈ as.map (spelled key), a.For v :=
      List.forall_mem_map.mpr fun a added => ⟨(own a added).1, named⟩
    have one : ∀ a ∈ as.map (spelled key), a.name = (key, v.type) :=
      List.forall_mem_map.mpr fun a added => congrArg (Prod.mk key) (own a added).1
    rw [← outcome_spelled key none as]
    exact get?_flush_of_one memory gated sound found standard own' one m
  refine ⟨uniform, fun before first after cut replaces same last storable => ?_⟩
  obtain ⟨earlier, names⟩ := List.getLast?_eq_some_iff.mp last
  have types : ∀ a ∈ as, a.type = v.type := fun a added => (own a added).1
  have first_type : first.type = v.type := types first (by simp [cut])
  have gathered : outcome none (under first.name.1 first.name.2 as) = outcome none as := by
    have kept : under first.name.1 first.name.2 (first :: after) = first :: after := by
      refine List.filter_eq_self.mpr fun a added => decide_eq_true ?_
      have typed : a.type = v.type := types a (cut ▸ List.mem_append_right _ added)
      rcases List.mem_cons.mp added with rfl | added
      · rfl
      · exact Prod.ext_iff.mpr ⟨same a added, typed.trans first_type.symm⟩
    have split : under first.name.1 first.name.2 as = under first.name.1 first.name.2 before ++ first :: after := by
      rw [cut, under, List.filter_append]
      exact congrArg _ kept
    rw [split, cut, outcome_of_replacing (first_type ▸ replaces), outcome_of_replacing (first_type ▸ replaces)]
  have left : stored as = _ := mixed
  rw [left, uniform, names, List.reverse_append, List.reverse_singleton, List.singleton_append, List.findSome?_cons,
    gathered]
  cases becomes : (outcome none as).bind (s.stored? v) with
  | none => exact absurd becomes storable
  | some bytes => rfl

/-- Strings that are added for a list under its key and then under its whole text; the second one replaces. -/
def respelled : List Addition :=
  [⟨"k", .text "lost", .stringArray, true⟩, ⟨"#App:1:k!StringArray", .list [.text "a"], .stringArray, false⟩,
    ⟨"#App:1:k!StringArray", .text "b", .stringArray, true⟩]

theorem stored_of_spellings_of_respelled :
    let s := requestedStore ["#App:1:k!StringArray"]
    let stored : List Addition → Option Bytes := fun as =>
      ((s.flush (enterAll [] as)).after Memory.empty).get? "run" "#App:1:k!StringArray"
    stored respelled = stored (respelled.map (spelled "k")) ∧
      stored (respelled.map (spelled "k")) = some (Utf8.encode "[\"a\",\"b\"]") := by
  intro s stored
  have found : s.outputs.find? "k" .stringArray = some ⟨"App", "1", "k", .stringArray⟩ := by decide +kernel
  have own : ∀ a ∈ respelled, a.For ⟨"App", "1", "k", .stringArray⟩ := by decide +kernel
  obtain ⟨-, one⟩ := stored_of_spellings rfl rfl rfl found (by decide) own Memory.empty
  obtain ⟨together, same⟩ := one "k" (.inl rfl)
  refine ⟨?_, together.trans (by decide +kernel)⟩
  exact same [⟨"k", .text "lost", .stringArray, true⟩] _ _ rfl (.inl rfl) (by decide) (by decide +kernel)
    (by decide +kernel)

/-- Two strings that are added for one list: under its key and under its whole text one of them is lost, under either name
alone none. -/
theorem stored_of_spellings_lost :
    let s := requestedStore ["#App:1:k!StringArray"]
    let v : Variable := ⟨"App", "1", "k", .stringArray⟩
    let stored : List Addition → Option Bytes := fun as =>
      ((s.flush (enterAll [] as)).after Memory.empty).get? "run" v.text
    let mixed : List Addition := [⟨v.key, .text "a", v.type, true⟩, ⟨v.text, .text "b", v.type, true⟩]
    s.outputs.find? v.key v.type = some v ∧ v.type ∈ VariableType.standard ∧ (∀ a ∈ mixed, a.For v) ∧
      stored mixed = some (Utf8.encode "[\"b\"]") ∧
      stored (mixed.map (spelled v.key)) = some (Utf8.encode "[\"a\",\"b\"]") ∧
      stored (mixed.map (spelled v.text)) = some (Utf8.encode "[\"a\",\"b\"]") := by
  decide +kernel

end Spellings

end VariableStore
