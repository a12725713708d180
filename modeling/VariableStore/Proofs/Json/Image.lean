import VariableStore.Proofs.Json.Structure
import VariableStore.Proofs.Table
import VariableStore.Json.Reader
/-!
What the reader returns: a value without repeated names that nests no deeper than the bound. The invariant is
about the open arrays and objects: what the frame at height `h` has read so far nests at most `bound - h` deep.
Tokens keep it because the values that they carry have no structure.
-/
namespace VariableStore.Json

open Reading

variable {bound : Nat}

/-- A token that carries no value, or one without structure. -/
def Token.Flat (t : Token) : Prop := ∀ j, t = .leaf j → ∀ d, j.Proper d

theorem flat_leaf {word : List Char} {j : Json} (h : ofWord? word = some j) : Token.Flat (.leaf j) := by
  rintro k ⟨⟩ d
  unfold ofWord? at h
  split at h
  · cases h; exact Proper.null d
  split at h
  · cases h; exact Proper.bool d _
  split at h
  · cases h; exact Proper.bool d _
  · obtain ⟨n, -, rfl⟩ := Option.map_eq_some_iff.mp h
    exact Proper.number d n

theorem flat_start {c : Char} {t : Token} {next : Place} (h : start c = some (some t, next)) : t.Flat := by
  rintro j rfl
  unfold start at h
  split at h
  · cases h
  split at h
  · cases h
  · split at h <;> cases h

theorem flat_found {c : Char} {token : Option Token} {place : Place} (h : start c = some (token, place)) :
    ∀ t ∈ found token [], t.Flat := by
  cases token with
  | none => simp [found]
  | some t => exact List.forall_mem_singleton.mpr (flat_start h)

theorem found_eq_append (token : Option Token) (tokens : List Token) :
    found token tokens = found token [] ++ tokens := by
  cases token <;> rfl

/-- One character leaves the tokens that were found and adds flat ones, if any. -/
theorem scanStep_adds {tokens next : List Token} {place after : Place} {c : Char}
    (h : scanStep tokens place c = some (next, after)) : ∃ new, next = new ++ tokens ∧ ∀ t ∈ new, t.Flat := by
  have same : tokens = next → ∃ new, next = new ++ tokens ∧ ∀ t ∈ new, t.Flat := fun eq => ⟨[], eq.symm, by simp⟩
  cases place with
  | between =>
    obtain ⟨⟨t, p⟩, began, eq⟩ := Option.map_eq_some_iff.mp h
    cases eq
    exact ⟨_, found_eq_append t tokens, flat_found began⟩
  | word read =>
    simp only [scanStep] at h
    split at h
    · cases h; exact same rfl
    · simp only [Option.bind_eq_bind, Option.bind_eq_some_iff] at h
      obtain ⟨leaf, value, ⟨t, p⟩, began, eq⟩ := h
      cases eq
      refine ⟨found t [] ++ [.leaf leaf], by rw [found_eq_append, List.append_assoc]; rfl, ?_⟩
      exact List.forall_mem_append.mpr ⟨flat_found began, List.forall_mem_singleton.mpr (flat_leaf value)⟩
  | text read =>
    simp only [scanStep] at h
    split at h
    · cases h
      exact ⟨[.text _], rfl, List.forall_mem_singleton.mpr (by rintro j ⟨⟩)⟩
    split at h
    · cases h; exact same rfl
    split at h
    · cases h
    · cases h; exact same rfl
  | backslash read =>
    simp only [scanStep] at h
    split at h
    · cases h; exact same rfl
    · obtain ⟨e, -, eq⟩ := Option.map_eq_some_iff.mp h
      cases eq
      exact same rfl
  | code read high digits value =>
    simp only [scanStep, Option.bind_eq_bind, Option.bind_eq_some_iff] at h
    obtain ⟨digit, -, h⟩ := h
    split at h
    · obtain ⟨p, -, eq⟩ := Option.map_eq_some_iff.mp h
      cases eq
      exact same rfl
    · cases h; exact same rfl
  | low read high =>
    simp only [scanStep] at h
    split at h
    · cases h; exact same rfl
    · cases h
  | lowMark read high =>
    simp only [scanStep] at h
    split at h
    · cases h; exact same rfl
    · cases h

/-- The rest of a text adds flat tokens behind those that were found. -/
theorem scanFrom_adds {tokens all : List Token} {place : Place} {cs : List Char}
    (h : scanFrom tokens place cs = some all) : ∃ new, all = tokens.reverse ++ new ∧ ∀ t ∈ new, t.Flat := by
  induction cs generalizing tokens place with
  | nil =>
    cases place with
    | between =>
      cases h
      exact ⟨[], (List.append_nil _).symm, by simp⟩
    | word read =>
      obtain ⟨leaf, value, eq⟩ := Option.map_eq_some_iff.mp h
      cases eq
      exact ⟨[.leaf leaf], List.reverse_cons, List.forall_mem_singleton.mpr (flat_leaf value)⟩
    | _ => cases h
  | cons c rest ih =>
    rw [scanFrom] at h
    split at h
    · next next after step =>
      obtain ⟨added, rfl, first⟩ := scanStep_adds step
      obtain ⟨new, rfl, others⟩ := ih h
      refine ⟨added.reverse ++ new, by rw [List.reverse_append, List.append_assoc], ?_⟩
      exact List.forall_mem_append.mpr ⟨fun t ht => first t (List.mem_reverse.mp ht), others⟩
    · cases h

def Frame.Sound (d : Nat) : Frame → Prop
  | .items read => ∀ j ∈ read, j.Proper d
  | .fields read | .member read _ => Table.Distinct read ∧ ∀ field ∈ read, field.2.Proper d

/-- What each open frame has read so far nests no deeper than its height leaves. -/
def StackSound (bound : Nat) : List Frame → Prop
  | [] => True
  | frame :: outer => outer.length < bound ∧ frame.Sound (bound - (outer.length + 1)) ∧ StackSound bound outer

def Reading.Sound (bound : Nat) (state : Reading) : Prop :=
  StackSound bound state.1 ∧ ∀ j, state.2 = .nothing j → j.Proper bound

theorem complete_sound {stack : List Frame} {j : Json} (sound : StackSound bound stack)
    (proper : j.Proper (bound - stack.length)) : (complete j stack).Sound bound := by
  cases stack with
  | nil => exact ⟨trivial, by rintro k ⟨⟩; exact proper⟩
  | cons frame outer =>
    obtain ⟨height, read, rest⟩ := sound
    cases frame with
    | items values =>
      exact ⟨⟨height, List.forall_mem_cons.mpr ⟨proper, read⟩, rest⟩, by rintro k ⟨⟩⟩
    | fields values => exact ⟨⟨height, read, rest⟩, by rintro k ⟨⟩⟩
    | member values name =>
      refine ⟨⟨height, ⟨Table.Distinct.insert read.1 name j, fun field hf => ?_⟩, rest⟩, by rintro k ⟨⟩⟩
      rcases Table.mem_insert hf with rfl | hf
      · exact proper
      · exact read.2 field hf

theorem leave_sound {stack : List Frame} {t : Token} {next : Reading} (h : leave stack t = some next)
    (sound : StackSound bound stack) : next.Sound bound := by
  unfold leave at h
  split at h
  · next read outer =>
    obtain ⟨height, inner, rest⟩ := sound
    have room : bound - outer.length = bound - (outer.length + 1) + 1 := by omega
    cases h
    apply complete_sound rest
    rw [room]
    exact (proper_array_iff _ _).mpr fun j hj => inner j (List.mem_reverse.mp hj)
  · next read outer =>
    obtain ⟨height, inner, rest⟩ := sound
    have room : bound - outer.length = bound - (outer.length + 1) + 1 := by omega
    cases h
    apply complete_sound rest
    rw [room]
    exact (proper_object_iff _ _).mpr inner
  · cases h

theorem begin_sound {stack : List Frame} {t : Token} {next : Reading} (h : begin bound stack t = some next)
    (flat : t.Flat) (sound : StackSound bound stack) : next.Sound bound := by
  unfold begin at h
  split at h
  · cases h; exact complete_sound sound (Proper.string _ _)
  · next j => cases h; exact complete_sound sound (flat j rfl _)
  · unfold enter at h
    split at h
    · next open? => cases h; exact ⟨⟨open?, by simp [Frame.Sound], sound⟩, by rintro k ⟨⟩⟩
    · cases h
  · unfold enter at h
    split at h
    · next open? =>
      cases h
      exact ⟨⟨open?, by simp [Frame.Sound, Table.Distinct, Table.keys], sound⟩, by rintro k ⟨⟩⟩
    · cases h
  · cases h

theorem step_sound {state next : Reading} {t : Token} (h : step bound state t = some next) (flat : t.Flat)
    (sound : state.Sound bound) : next.Sound bound := by
  obtain ⟨frames, -⟩ := sound
  unfold step at h
  split at h
  · exact begin_sound h flat frames
  · exact leave_sound h frames
  · exact begin_sound h flat frames
  · exact leave_sound h frames
  · cases h; exact ⟨frames, by rintro k ⟨⟩⟩
  · cases h; exact ⟨frames, by rintro k ⟨⟩⟩
  · cases h; exact ⟨frames, by rintro k ⟨⟩⟩
  · cases h; exact ⟨frames, by rintro k ⟨⟩⟩
  · cases h; exact ⟨frames, by rintro k ⟨⟩⟩
  · exact leave_sound h frames
  · cases h

theorem run_sound {state last : Reading} {ts : List Token} (h : run bound state ts = some last)
    (flat : ∀ t ∈ ts, t.Flat) (sound : state.Sound bound) : last.Sound bound := by
  induction ts generalizing state with
  | nil => cases h; exact sound
  | cons t rest ih =>
    obtain ⟨head, tail⟩ := List.forall_mem_cons.mp flat
    rw [run] at h
    split at h
    · next next step => exact ih h tail (step_sound step head sound)
    · cases h

/-- What is read names no field twice and nests no deeper than the bound. -/
theorem proper_of_ofCharsWithin? {cs : List Char} {j : Json} (h : ofCharsWithin? bound cs = some j) :
    j.Proper bound := by
  obtain ⟨tokens, scanned, read⟩ := Option.bind_eq_some_iff.mp h
  obtain ⟨new, rfl, flat⟩ := scanFrom_adds scanned
  unfold ofTokens? at read
  split at read
  · next last state value =>
    cases read
    exact (run_sound value flat ⟨trivial, by rintro k ⟨⟩⟩).2 j rfl
  · cases read

theorem proper_of_ofBytes? {b : Bytes} {j : Json} (h : ofBytes? b = some j) : j.Proper maxDepth := by
  obtain ⟨cs, -, read⟩ := Option.bind_eq_some_iff.mp h
  exact proper_of_ofCharsWithin? read

end VariableStore.Json
