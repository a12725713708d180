import VariableStore.Proofs.Except
import VariableStore.Proofs.PendingOutputs
import VariableStore.Proofs.Session.Gate
/-!
Flushing, over any backend. A flush writes the pending outputs one after the other, each from the state that the ones in
front of it have left, and what becomes of each is kept beside. So an output that is refused, that the gate stops or that
the backend does not take does nothing to those behind it. The answer is made of what became of all of them at the end.
-/
namespace VariableStore

section Writing

variable {σ : Type} (s : Store σ)

/-- Writes outputs one after the other, and returns what became of each. -/
def Store.writeEach (outputs : List PendingOutput) : Action σ (List (Except Error (Option WriteAck))) :=
  outputs.mapM fun output => s.createAny output.key output.value (some output.type)

def isAcknowledged : Except Error (Option WriteAck) → Bool
  | .ok (some _) => true
  | _ => false

/-- The first error among the results of some writes, or the number of those that the backend took. -/
def tally (results : List (Except Error (Option WriteAck))) : Except Error Nat :=
  match results.findSome? error? with
  | some e => .error e
  | none => .ok (results.countP isAcknowledged)

/-- One result in front of others: its error comes first, and else it counts if the backend took what was written. -/
theorem tally_cons (first : Except Error (Option WriteAck)) (others : List (Except Error (Option WriteAck))) :
    tally (first :: others) =
      match first with
      | .error e => .error e
      | .ok ack => (tally others).map fun count => count + (if ack.isSome then 1 else 0) := by
  cases first with
  | error e => rfl
  | ok ack =>
    simp only [tally, List.findSome?_cons, error?, List.countP_cons]
    cases others.findSome? error? with
    | some e => rfl
    | none => cases ack <;> rfl

theorem writeEach_cons (output : PendingOutput) (rest : List PendingOutput) :
    s.writeEach (output :: rest) = do
      let first ← s.createAny output.key output.value (some output.type)
      return first :: (← s.writeEach rest) :=
  List.mapM_cons

theorem writeEach_append (before after : List PendingOutput) :
    s.writeEach (before ++ after) = do return (← s.writeEach before) ++ (← s.writeEach after) :=
  List.mapM_append

/-- Writing outputs for one answer is writing each of them, and making the answer of the results. -/
theorem createAll_eq (outputs : List PendingOutput) : s.createAll outputs = tally <$> s.writeEach outputs := by
  induction outputs with
  | nil => rfl
  | cons output rest ih =>
    rw [Store.createAll, ih, writeEach_cons, map_bind]
    apply congrArg
    funext first
    rw [map_bind, bind_map_left]
    apply congrArg
    funext others
    rw [map_pure, tally_cons]
    cases first <;> rfl

/-- Writing outputs around one: that one is written from the state that those in front of it leave, and those behind it
from the state that it leaves, whatever its result is. -/
theorem writeEach_around (before after : List PendingOutput) (output : PendingOutput) (m : σ) :
    let one := s.createAny output.key output.value (some output.type)
    let reached := (s.writeEach before).after m
    let left := one.after reached
    (s.writeEach (before ++ output :: after)).answer m =
      (s.writeEach before).answer m ++ one.answer reached :: (s.writeEach after).answer left ∧
    (s.writeEach (before ++ output :: after)).calls m =
      (s.writeEach before).calls m ++ (one.calls reached ++ (s.writeEach after).calls left) ∧
    (s.writeEach (before ++ output :: after)).after m = (s.writeEach after).after left := by
  intro one reached left
  simp only [writeEach_append, writeEach_cons, Traced.answer_bind, Traced.calls_bind, Traced.after_bind]
  refine ⟨rfl, ?_, rfl⟩
  simp only [Traced.calls, pure, Traced.done, List.append_nil]
  rfl

end Writing

open PendingOutputs

variable {σ : Type}

/-- A flush makes the calls and leaves the state of writing each pending output once, in order, from the state that the
ones in front of it have left and whatever becomes of them. It reports the first error among the results, or the number of
outputs that the backend took, and either way nothing is pending after it, so a further flush makes no call and returns
zero. The outputs stand in the order in which something was first added under their keys and types. -/
theorem flush_isolates_failures (s : Store σ) (p : PendingOutputs) (m : σ) :
    let results := (s.writeEach p.entries).answer m
    (s.flush p).calls m = (s.writeEach p.entries).calls m ∧
    (s.flush p).after m = (s.writeEach p.entries).after m ∧
    (s.flush p).answer m = (tally results, []) ∧
    (∀ before output after, p.entries = before ++ output :: after →
      let one := s.createAny output.key output.value (some output.type)
      let reached := (s.writeEach before).after m
      let left := one.after reached
      results = (s.writeEach before).answer m ++ one.answer reached :: (s.writeEach after).answer left ∧
      (s.flush p).calls m =
        (s.writeEach before).calls m ++ (one.calls reached ++ (s.writeEach after).calls left) ∧
      (s.flush p).after m = (s.writeEach after).after left) ∧
    (∀ later, (s.flush ((s.flush p).answer m).2).run later = ((.ok 0, []), [], later)) ∧
    ∀ as, p = enterAll [] as → p.entries.map (fun output => Variable.indexOf output.key output.type) =
      (as.map fun a => Variable.indexOf a.key a.type).eraseDups := by
  have flushed : s.flush p = (fun results => (tally results, [])) <$> s.writeEach p.entries := by
    rw [Store.flush, createAll_eq, bind_map_left, ← bind_pure_comp]
  rw [flushed, Traced.calls_map, Traced.after_map, Traced.answer_map]
  refine ⟨rfl, rfl, rfl, ?_, fun later => rfl, ?_⟩
  · intro before output after cut
    rw [cut]
    exact writeEach_around s before after output m
  · rintro as rfl
    have all : (as.map fun a => Variable.indexOf a.key a.type).removeAll (Table.keys ([] : PendingOutputs)) =
        as.map fun a => Variable.indexOf a.key a.type := List.filter_eq_self.mpr fun _ _ => rfl
    rw [(joined_nil.enterAll as).map_entries, keys_enterAll, all]
    rfl

/-- Outputs of which the first one is refused and the second one is not asked for; the others go to one variable. -/
def refusedAndOthers : List Addition :=
  [⟨"#App:1:k!String", .text "x", .binary, true⟩, ⟨"other", .text "x", .string, true⟩, ⟨"k", .text "v", .string, true⟩,
    ⟨"#App:1:k!String", .text "w", .string, true⟩, ⟨"other", .text "y", .string, true⟩]

theorem flush_isolates_failures_of_refused :
    let s := requestedStore ["#App:1:k!String"]
    let p := enterAll [] refusedAndOthers
    (s.flush p).calls Memory.empty = [.create "run" "#App:1:k!String" (Utf8.encode "\"v\""),
      .create "run" "#App:1:k!String" (Utf8.encode "\"w\"")] ∧
    (error? ((s.flush p).answer Memory.empty).1).map Error.message =
      some "type mismatch for #App:1:k!String: expected Binary, found String" ∧
    p.entries.map (fun output => Variable.indexOf output.key output.type) =
      ["#App:1:k!String-Binary", "other-String", "k-String", "#App:1:k!String-String"] := by
  intro s p
  obtain ⟨calls, -, answer, -, -, order⟩ := flush_isolates_failures s p Memory.empty
  refine ⟨calls.trans (by decide +kernel), ?_, (order refusedAndOthers rfl).trans (by decide +kernel)⟩
  rw [answer]
  decide +kernel

end VariableStore
