import Mathlib.Data.Set.Card
import VariableStore.Backend
import VariableStore.Proofs.Table
/-!
The backend in memory as a function from contexts and keys to bytes. Each request changes at most one value of
it, and no table but that of its context.
-/
namespace VariableStore.Memory

theorem context_insert (m : Memory) (here there : String) (t : Table Bytes) :
    context (Table.insert here t m) there = if here = there then t else m.context there := by
  simp only [context, Table.get?_insert]
  split <;> rfl

/-- What is kept after a value was written. -/
theorem get?_create (m : Memory) (here there key other : String) (value : Bytes) :
    (m.create here key value).2.get? there other =
      if here = there ∧ key = other then some value else m.get? there other := by
  simp only [get?, create, context_insert]
  by_cases same : here = there
  · subst same
    simp [Table.get?_insert]
  · simp [same]

theorem context_create (m : Memory) {here there : String} (h : here ≠ there) (key : String) (value : Bytes) :
    (m.create here key value).2.context there = m.context there := by
  simp [create, context_insert, h]

/-- A write says that it made an entry exactly if there was none. -/
theorem create_ack (m : Memory) (here key : String) (value : Bytes) :
    (m.create here key value).1 = if m.get? here key = none then .created else .updated := by
  simp only [create]
  cases m.get? here key <;> rfl

/-- What is kept after a key was deleted. -/
theorem get?_delete (m : Memory) (here there key other : String) :
    (m.delete here key).2.get? there other = if here = there ∧ key = other then none else m.get? there other := by
  unfold delete
  split
  · simp only [get?, context_insert]
    by_cases same : here = there
    · subst same
      simp [Table.get?_erase]
    · simp [same]
  · next absent =>
    by_cases same : here = there ∧ key = other
    · obtain ⟨rfl, rfl⟩ := same
      simp [absent]
    · rw [if_neg same]

theorem context_delete (m : Memory) {here there : String} (h : here ≠ there) (key : String) :
    (m.delete here key).2.context there = m.context there := by
  unfold delete
  split
  · simp [context_insert, h]
  · rfl

/-- A delete says that it removed an entry exactly if there was one, and then only it changes anything. -/
theorem delete_outcome (m : Memory) (here key : String) :
    (m.get? here key ≠ none ∧ (m.delete here key).1 = .deleted) ∨
      (m.get? here key = none ∧ m.delete here key = (.notFound, m)) := by
  unfold delete
  cases m.get? here key with
  | none => exact .inr ⟨rfl, rfl⟩
  | some value => exact .inl ⟨by simp, rfl⟩

/-- What is kept after a context was forgotten. -/
theorem get?_clear (m : Memory) (here there key : String) :
    (m.clear here).get? there key = if here = there then none else m.get? there key := by
  simp only [get?, context, clear, Table.get?_erase]
  split <;> rfl

end VariableStore.Memory

/-! ## One level

The backend in memory as one flat partial map. The memory has a table for each context, and a context may be absent or
have an empty table; none of its answers tells these apart. Whatever is asked of it, in whatever order, each answer is
the one that a single partial map from contexts and keys to bytes gives: what is read is what was written last and not
removed since, and what is counted is what is bound.
-/

namespace VariableStore

inductive Memory.Command where
  | create (context key : String) (value : Bytes)
  | read (context key : String)
  | delete (context key : String)
  | readAll (context : String)
  | clear (context : String)
  | size (context : String)
  | isEmpty
  deriving DecidableEq, Repr

inductive Memory.Reply where
  | written (result : Except StorageError WriteAck)
  | value (result : Except StorageError (Option Bytes))
  | deleted (result : Except StorageError DeleteOutcome)
  | all (result : Except StorageError (Table Bytes))
  | cleared
  | size (n : Nat)
  | isEmpty (b : Bool)

def Memory.Command.perform (m : Memory) : Command → Reply × Memory
  | create context key value => let (result, m) := backend.create context key value m; (.written result, m)
  | read context key => let (result, m) := backend.read context key m; (.value result, m)
  | delete context key => let (result, m) := backend.delete context key m; (.deleted result, m)
  | readAll context => let (result, m) := backend.readAll context m; (.all result, m)
  | clear context => (.cleared, m.clear context)
  | size context => (.size (m.size context), m)
  | isEmpty => (.isEmpty m.isEmpty, m)

def Memory.run (m : Memory) : List Command → List Reply × Memory
  | [] => ([], m)
  | command :: rest =>
    let (reply, next) := command.perform m
    let (replies, last) := run next rest
    (reply :: replies, last)

/-- A partial map from contexts and keys to bytes. -/
abbrev Flat := String × String → Option Bytes

namespace Flat

open Memory (Command Reply)

def empty : Flat := fun _ => none

def after (f : Flat) : Command → Flat
  | .create context key value => Function.update f (context, key) (some value)
  | .delete context key => Function.update f (context, key) none
  | .clear context => fun place => if place.1 = context then none else f place
  | .read _ _ | .readAll _ | .size _ | .isEmpty => f

def afterAll (f : Flat) (commands : List Command) : Flat := commands.foldl after f

/-- The answer that a map gives. All of a context is a table with an entry for each key that is bound. -/
def Gives (f : Flat) : Command → Reply → Prop
  | .create context key _, reply =>
    reply = .written (.ok (if f (context, key) = none then .created else .updated))
  | .read context key, reply => reply = .value (.ok (f (context, key)))
  | .delete context key, reply =>
    reply = .deleted (.ok (if f (context, key) = none then .notFound else .deleted))
  | .readAll context, reply =>
    ∃ t, reply = .all (.ok t) ∧ Table.Distinct t ∧ ∀ key, Table.get? key t = f (context, key)
  | .clear _, reply => reply = .cleared
  | .size context, reply => ∃ n : Nat, reply = .size n ∧ Set.encard {key | f (context, key) ≠ none} = n
  | .isEmpty, reply => ∃ b, reply = .isEmpty b ∧ (b = true ↔ ∀ place, f place = none)

inductive GivesAll : Flat → List Command → List Reply → Prop
  | nil (f : Flat) : GivesAll f [] []
  | cons {f : Flat} {command : Command} {reply : Reply} {commands : List Command} {replies : List Reply} :
    f.Gives command reply → GivesAll (f.after command) commands replies →
      GivesAll f (command :: commands) (reply :: replies)

end Flat

namespace Table

variable {β : Type}

/-- The entries of a table with names of their own are as many as the names that are found. -/
theorem encard_bound {t : Table β} (h : t.Distinct) : Set.encard {key | get? key t ≠ none} = t.length := by
  have names : {key | get? key t ≠ none} = ((keys t).toFinset : Set String) := by
    ext key
    rw [Set.mem_ofPred_eq, get?_ne_none_iff, List.coe_toFinset, Set.mem_ofPred_eq]
  rw [names, Set.encard_coe_eq_coe_finsetCard, List.toFinset_card_of_nodup h, keys, List.length_map]

end Table

namespace Memory

/-- No context has two tables, and no key has two entries in one. -/
structure Sound (m : Memory) : Prop where
  contexts : Table.Distinct m
  keys : ∀ entry ∈ m, Table.Distinct entry.2

theorem sound_empty : Sound empty := ⟨List.nodup_nil, fun _ inside => nomatch inside⟩

theorem Sound.context {m : Memory} (h : m.Sound) (here : String) : (m.context here).Distinct := by
  rw [Memory.context]
  cases found : Table.get? here m with
  | none => exact List.nodup_nil
  | some t => exact h.keys _ (Table.mem_of_get? found)

theorem Sound.insert {m : Memory} (h : m.Sound) (here : String) {t : Table Bytes} (distinct : t.Distinct) :
    Sound (Table.insert here t m) := by
  refine ⟨h.contexts.insert here t, fun entry inside => ?_⟩
  rcases Table.mem_insert inside with rfl | old
  · exact distinct
  · exact h.keys entry old

theorem Sound.create {m : Memory} (h : m.Sound) (here key : String) (value : Bytes) : Sound (m.create here key value).2 :=
  h.insert here ((h.context here).insert key value)

theorem Sound.delete {m : Memory} (h : m.Sound) (here key : String) : Sound (m.delete here key).2 := by
  unfold Memory.delete
  split
  · exact h.insert here ((h.context here).erase key)
  · exact h

theorem Sound.clear {m : Memory} (h : m.Sound) (here : String) : Sound (m.clear here) :=
  ⟨h.contexts.erase here, fun entry inside => h.keys entry (List.mem_of_mem_filter inside)⟩

/-- A memory is empty if no key is found in any context, also where contexts with empty tables are left. -/
theorem Sound.isEmpty_iff {m : Memory} (h : m.Sound) : m.isEmpty = true ↔ ∀ here key, m.get? here key = none := by
  rw [isEmpty, List.all_eq_true]
  constructor
  · intro all here key
    rw [get?, Memory.context]
    cases found : Table.get? here m with
    | none => rfl
    | some t => exact (Table.isEmpty_iff t).mp (all (here, t) (Table.mem_of_get? found)) key
  · rintro none ⟨here, t⟩ inside
    have found := (Table.get?_eq_some_iff h.contexts here t).mpr inside
    have same : m.context here = t := by rw [Memory.context, found, Option.getD_some]
    exact (Table.isEmpty_iff t).mpr fun key => same ▸ none here key

/-- A memory that keeps what a flat map binds. -/
structure Represents (m : Memory) (f : Flat) : Prop where
  sound : m.Sound
  get? : ∀ here key, m.get? here key = f (here, key)

theorem represents_empty : Represents empty Flat.empty := ⟨sound_empty, fun _ _ => rfl⟩

variable {m : Memory} {f : Flat}

/-- One command: the memory goes on keeping what the map binds. -/
theorem Represents.after (h : m.Represents f) (command : Command) :
    (command.perform m).2.Represents (f.after command) := by
  cases command with
  | create context key value =>
    refine ⟨h.sound.create context key value, fun here name => ?_⟩
    rw [Command.perform, Flat.after, Function.update_apply, ← h.get?]
    exact (get?_create m context here key name value).trans (by simp [eq_comm])
  | delete context key =>
    refine ⟨h.sound.delete context key, fun here name => ?_⟩
    rw [Command.perform, Flat.after, Function.update_apply, ← h.get?]
    exact (get?_delete m context here key name).trans (by simp [eq_comm])
  | clear context =>
    refine ⟨h.sound.clear context, fun here name => ?_⟩
    rw [Command.perform, Flat.after]
    exact (get?_clear m context here name).trans (by simp [eq_comm, h.get?])
  | _ => exact h

/-- One command: the memory answers as the map does. -/
theorem Represents.gives (h : m.Represents f) (command : Command) : f.Gives command (command.perform m).1 := by
  cases command with
  | create context key value =>
    rw [Flat.Gives, ← h.get?, ← create_ack m context key value]
    rfl
  | read context key =>
    rw [Flat.Gives, ← h.get?]
    rfl
  | delete context key =>
    rw [Flat.Gives, ← h.get?]
    rcases delete_outcome m context key with ⟨present, outcome⟩ | ⟨absent, same⟩
    · rw [if_neg present, ← outcome]
      rfl
    · have answer : (m.delete context key).1 = .notFound := by rw [same]
      rw [if_pos absent, ← answer]
      rfl
  | readAll context => exact ⟨m.context context, rfl, h.sound.context context, h.get? context⟩
  | clear context => rfl
  | size context =>
    refine ⟨m.size context, rfl, ?_⟩
    simp only [← h.get?]
    exact Table.encard_bound (h.sound.context context)
  | isEmpty =>
    refine ⟨m.isEmpty, rfl, h.sound.isEmpty_iff.trans ?_⟩
    simp only [h.get?, Prod.forall]

/-- A run of commands: the memory answers as the map does and goes on keeping what the map binds. -/
theorem Represents.run (h : m.Represents f) (commands : List Command) :
    f.GivesAll commands (m.run commands).1 ∧ (m.run commands).2.Represents (f.afterAll commands) := by
  induction commands generalizing m f with
  | nil => exact ⟨.nil f, h⟩
  | cons command rest ih =>
    obtain ⟨replies, last⟩ := ih (h.after command)
    exact ⟨.cons (h.gives command) replies, last⟩

/-- From an empty memory, in any run of commands over any contexts and keys, every answer is that of one partial map that
starts with nothing bound: a write binds a pair of context and key and says whether it was bound, a delete unbinds one pair
and says so, forgetting a context unbinds its pairs, a read gives what is bound, all of a context is what is bound in it,
its size is the number of keys bound in it, and the memory is empty if nothing is bound. What is kept at the end is what
the map binds then. -/
theorem answers_of_flat_map (commands : List Command) :
    Flat.GivesAll Flat.empty commands (Memory.run empty commands).1 ∧
      ∀ here key, (Memory.run empty commands).2.get? here key = Flat.empty.afterAll commands (here, key) := by
  obtain ⟨replies, last⟩ := represents_empty.run commands
  exact ⟨replies, last.get?⟩

/-- A context whose last key was deleted is still there and counts for nothing. -/
example : (Memory.run empty [.create "c" "k" [1], .delete "c" "k", .size "c", .isEmpty, .delete "c" "k"]).1.drop 2 =
    [.size 0, .isEmpty true, .deleted (.ok .notFound)] := by
  rfl

end Memory

end VariableStore
