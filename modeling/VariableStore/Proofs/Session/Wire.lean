import VariableStore.Proofs.Reference.Scan
import VariableStore.Proofs.Session.Errors
/-!
Keys on the wire. Every key under which something is created is the text of a variable that a request, an output that is
pending or the output request names, read from the name that is given. So it has the form of such texts, and it is on the
wire if the digits of these names are 0 to 9.
-/
namespace VariableStore

variable {σ : Type}

def Operation.Names (P : String → Prop) : Operation → Prop
  | request (.create c) => P c.key
  | add _ key _ _ _ => P key
  | _ => True

def Collections.Names (P : String → Prop) (pending : Collections) : Prop :=
  ∀ collection, ∀ output ∈ (pending collection).entries, P output.key

/-- Something is created only under the text of a variable that is read from a key with the property or from one of the
texts. -/
def Spelled (P : String → Prop) (texts : List String) (call : Call) : Prop :=
  ∀ context key bytes, call = .create context key bytes →
    ∃ spelling v, (P spelling ∨ spelling ∈ texts) ∧ Variable.parse? spelling = some v ∧ key = v.text

section Spelled

variable {P : String → Prop} {texts : List String} {s : Store σ}

theorem spelled_of_other {call : Call} (h : ∀ context key bytes, call ≠ .create context key bytes) :
    Spelled P texts call :=
  fun context key bytes eq => absurd eq (h context key bytes)

theorem spelled_creation (outputs : s.outputs = .ofTexts texts) {c : Creation} (named : P c.key) (state : σ) :
    ∀ call ∈ (c.perform s).calls state, Spelled P texts call := by
  rintro _ inside context key bytes rfl
  obtain ⟨v, target, rfl⟩ := Creation.target?_of_called inside
  rcases Creation.target?_ok target with read | ⟨type, found⟩
  · exact ⟨c.key, v, .inl named, read, rfl⟩
  · rw [outputs] at found
    have listed := OutputRequest.listed_of_find? found
    rw [OutputRequest.listed_ofTexts] at listed
    obtain ⟨spelling, given, read⟩ := List.mem_filterMap.mp (List.mem_eraseDups.mp listed)
    exact ⟨spelling, v, .inr given, read, rfl⟩

/-- One operation creates only under what it, an output that is pending or the output request names. -/
theorem spelled_operation (outputs : s.outputs = .ofTexts texts) {pending : Collections}
    (waiting : pending.Names P) {operation : Operation} (named : operation.Names P) (state : σ) :
    ∀ call ∈ (operation.perform s pending).calls state, Spelled P texts call := by
  refine calls_of_operation (fun _ => spelled_of_other) (fun c inside => ?_) state
  refine spelled_creation outputs ?_
  cases operation with
  | request r =>
    cases r with
    | create own =>
      obtain rfl := List.mem_singleton.mp inside
      exact named
    | _ => cases inside
  | add => cases inside
  | flush collection =>
    obtain ⟨output, entry, rfl⟩ := List.mem_map.mp inside
    exact waiting collection output entry

/-- What waits after an addition has the key that was given or that of something that waited before. -/
theorem key_of_mem_add {pending : PendingOutputs} {key : String} {value : Payload} {type : VariableType} {append : Bool}
    {output : PendingOutput} (h : output ∈ (pending.add key value type append).entries) :
    output.key = key ∨ ∃ old ∈ pending.entries, output.key = old.key := by
  obtain ⟨⟨index, _⟩, inside, rfl⟩ := List.mem_map.mp h
  have entered : ∀ {name entry}, (name, entry) ∈ pending → entry ∈ pending.entries := fun before =>
    List.mem_map.mpr ⟨_, before, rfl⟩
  unfold PendingOutputs.add at inside
  split at inside
  · rcases Table.mem_insert inside with new | before
    · cases new
      cases found : Table.get? (Variable.indexOf key type) pending with
      | none => exact .inl rfl
      | some entry => exact .inr ⟨entry, entered (Table.mem_of_get? found), rfl⟩
    · exact .inr ⟨_, entered before, rfl⟩
  · rcases Table.mem_insert inside with new | before
    · cases new
      exact .inl rfl
    · exact .inr ⟨_, entered before, rfl⟩

/-- What waits after an operation was waiting before or is named by the operation. -/
theorem names_left {pending : Collections} (waiting : pending.Names P) {operation : Operation}
    (named : operation.Names P) : (operation.left pending).Names P := by
  have changed : ∀ {collection own}, (∀ output ∈ PendingOutputs.entries own, P output.key) →
      (pending.set collection own).Names P := by
    intro collection own all other output entry
    unfold Collections.set at entry
    split at entry
    · exact all output entry
    · exact waiting other output entry
  cases operation with
  | request r => exact waiting
  | add collection key value type append =>
    refine changed fun output entry => ?_
    obtain same | ⟨old, before, same⟩ := key_of_mem_add entry
    · exact same ▸ named
    · exact same ▸ waiting collection old before
  | flush collection => exact changed fun output entry => nomatch entry

/-- A run of operations creates only under what they, the outputs that are pending at first or the output request
name. -/
theorem spelled_of_run (outputs : s.outputs = .ofTexts texts) {session : Session σ}
    (waiting : session.pending.Names P) {operations : List Operation}
    (named : ∀ operation ∈ operations, operation.Names P) :
    ∀ event ∈ (session.run s operations).1, ∀ call ∈ event.calls, Spelled P texts call := by
  induction operations generalizing session with
  | nil => exact fun _ inside => nomatch inside
  | cons operation rest ih =>
    obtain ⟨head, tail⟩ := List.forall_mem_cons.mp named
    have left : (session.step s operation).2.pending = operation.left session.pending :=
      operation.pending_perform s session.pending session.state
    have next : (session.step s operation).2.pending.Names P := left ▸ names_left waiting head
    exact List.forall_mem_cons.mpr ⟨spelled_operation outputs waiting head session.state, ih next tail⟩

end Spelled

/-- A name of a variable whose job has only the digits 0 to 9, or of none. -/
def PlainName (spelling : String) : Prop := ∀ v, Variable.parse? spelling = some v → v.Plain

instance (spelling : String) : Decidable (PlainName spelling) :=
  decidable_of_iff ((Variable.parse? spelling).all (fun v => v.Plain) = true) (by
    cases read : Variable.parse? spelling <;> simp [PlainName, read])

/-- In any run of operations, gated or not, everything is created under a text of the form of variables, which is on the
wire exactly if it is ASCII. If the names that are given have jobs of the digits 0 to 9, it is. A variable that is
reported of a text is a slice of it, at the range of bytes that is reported, and has that form; it is on the wire exactly
if it is ASCII, and exactly if its job has only the digits 0 to 9. -/
theorem keys_on_wire {s : Store σ} {texts : List String} (outputs : s.outputs = .ofTexts texts) :
    (∀ (session : Session σ) (operations : List Operation), ∀ event ∈ (session.run s operations).1,
      ∀ context key bytes, Call.create context key bytes ∈ event.calls →
      Variable.HasForm Text.isDecimalDigit key ∧ (Variable.OnWire key ↔ Variable.Ascii key)) ∧
    (∀ (session : Session σ) (operations : List Operation), (∀ text ∈ texts, PlainName text) →
      session.pending.Names PlainName → (∀ operation ∈ operations, operation.Names PlainName) →
      ∀ event ∈ (session.run s operations).1, ∀ context key bytes, Call.create context key bytes ∈ event.calls →
      Variable.OnWire key ∧ Variable.Ascii key) ∧
    ∀ text, ∀ o ∈ Occurrence.scan text, ∀ v, o.reference = .internal v →
      (∃ before after, text = before ++ o.text ++ after ∧ o.start = Utf8.length before ∧
        o.stop = o.start + Utf8.length o.text) ∧
      Variable.HasForm Text.isDecimalDigit o.text ∧ (Variable.OnWire o.text ↔ Variable.Ascii o.text) ∧
      (Variable.OnWire o.text ↔ v.Plain) := by
  refine ⟨?_, ?_, ?_⟩
  · intro session operations event inside context key bytes called
    have named : ∀ operation ∈ operations, operation.Names fun _ => True := by
      intro operation _
      rcases operation with (_ | _ | _ | _) | _ | _ <;> trivial
    obtain ⟨spelling, v, -, read, rfl⟩ :=
      spelled_of_run outputs (fun _ _ _ => trivial) named event inside _ called context key bytes rfl
    have text := Variable.wireText_of_parse? read
    exact ⟨text.form, text.onWire_iff_ascii⟩
  · intro session operations plain waiting named event inside context key bytes called
    obtain ⟨spelling, v, given, read, rfl⟩ :=
      spelled_of_run outputs waiting named event inside _ called context key bytes rfl
    have text := Variable.wireText_of_parse? read
    have onWire : Variable.OnWire v.text := text.onWire_iff_plain.mpr (given.elim (· v read) (plain spelling · v read))
    exact ⟨onWire, text.onWire_iff_ascii.mp onWire⟩
  · intro text o inside v internal
    have form := Occurrence.wireText_of_mem_scan inside internal
    exact ⟨(Occurrence.slice_of_mem_scan inside).1, form.form, form.onWire_iff_ascii, form.onWire_iff_plain⟩

def paddedOperations : List Operation :=
  [.add 0 "a" (.text "x") .string false, .flush 0, .request (.create (.raw "\t#App:7:b!Host-Name\n" (.text "x")))]

theorem keys_on_wire_of_padded :
    let s := requestedStore ["#App:7:a!String", " #App:7:b!Host-Name"]
    let session : Session Memory := ⟨fun _ => [], Memory.empty⟩
    (session.run s paddedOperations).1.map Event.calls =
        [[], [.create "run" "#App:7:a!String" (Utf8.encode "\"x\"")],
          [.create "run" "#App:7:b!Host-Name" (Utf8.encode "x")]] ∧
      (∀ event ∈ (session.run s paddedOperations).1, ∀ context key bytes,
        Call.create context key bytes ∈ event.calls → Variable.OnWire key ∧ Variable.Ascii key) ∧
      ∃ o ∈ Occurrence.scan "é#App:7:a!Strings", o.start = 2 ∧ o.stop = 17 ∧ Variable.OnWire o.text := by
  intro s session
  obtain ⟨-, written, reported⟩ := keys_on_wire (s := s) rfl
  have waiting : session.pending.Names PlainName := fun _ _ entry => nomatch entry
  have named : ∀ operation ∈ paddedOperations, operation.Names PlainName := by
    simp only [paddedOperations, List.forall_mem_cons, Operation.Names, Creation.key]
    exact ⟨by decide +kernel, trivial, by decide +kernel, by simp⟩
  have found : Occurrence.scan "é#App:7:a!Strings" =
      [⟨2, 17, "#App:7:a!String", .internal ⟨"App", "7", "a", .string⟩⟩] := by decide +kernel
  refine ⟨by decide +kernel, written session paddedOperations (by decide +kernel) waiting named, ?_⟩
  refine ⟨_, found ▸ List.mem_cons_self, rfl, rfl, ?_⟩
  exact (reported _ _ (found ▸ List.mem_cons_self) _ rfl).2.2.2.mpr (by decide +kernel)

/-- A job may have digits of another script, and then so has the key under which something is created, and the reference
that is reported. -/
theorem keys_off_wire :
    let s := requestedStore ["#App:٣:a!String"]
    let session : Session Memory := ⟨fun _ => [], Memory.empty⟩
    (session.run s [.request (.create (.typed .string "a" (.text "x")))]).1.map Event.calls =
        [[.create "run" "#App:٣:a!String" (Utf8.encode "\"x\"")]] ∧
      Occurrence.scan "#App:٣:a!String" =
        [⟨0, 16, "#App:٣:a!String", .internal ⟨"App", "٣", "a", .string⟩⟩] ∧
      ¬ Variable.Ascii "#App:٣:a!String" ∧ ¬ Variable.OnWire "#App:٣:a!String" := by
  have other : ¬ Variable.Ascii "#App:٣:a!String" := by decide +kernel
  exact ⟨by decide +kernel, by decide +kernel, other, fun onWire => other onWire.ascii⟩

end VariableStore
