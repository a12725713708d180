import VariableStore.Proofs.Session.LastWrite
/-!
Sessions side by side over one memory. All that a store sees of the memory is the table of its context, so what others
do under other contexts makes no difference to it: neither whole operations of other sessions between its own, in
whatever order they come, nor calls of others between its own calls.

A store that keeps to one table does the same over any backend that holds this table, whatever else the backend holds
(`Backend.Holds`). The memory holds the table of each context, and so does a memory where others make calls under other
contexts before each request (`Memory.crowded`).
-/
namespace VariableStore

variable {σ τ : Type}

/-- The backend of a single table, which all contexts share. -/
def Table.backend : Backend (Table Bytes) where
  create _ key value t := (.ok (if contains key t then .updated else .created), insert key value t)
  read _ key t := (.ok (get? key t), t)
  delete _ key t := if contains key t then (.ok .deleted, erase key t) else (.ok .notFound, t)
  readAll _ t := (.ok t, t)
  supportsDelete := true

/-- A backend that answers what is asked under a context as the backend of one of its tables does, and changes this
table in the same way. -/
structure Backend.Holds (b : Backend σ) (context : String) (table : σ → Table Bytes) : Prop where
  create : ∀ key value s,
    Prod.map id table (b.create context key value s) = Table.backend.create context key value (table s)
  read : ∀ key s, Prod.map id table (b.read context key s) = Table.backend.read context key (table s)
  delete : ∀ key s, Prod.map id table (b.delete context key s) = Table.backend.delete context key (table s)
  readAll : ∀ s, Prod.map id table (b.readAll context s) = Table.backend.readAll context (table s)
  supportsDelete : b.supportsDelete = true

/-- The memory holds the table of each context. -/
theorem Memory.holds (context : String) : Memory.backend.Holds context (Memory.context · context) where
  create key value m := by
    refine Prod.ext rfl ?_
    simp [backend, create, Table.backend, context_insert]
  read _ _ := rfl
  delete key m := by
    cases present : Table.get? key (m.context context) <;>
      simp [backend, delete, get?, Table.backend, Table.contains, present, context_insert]
  readAll _ := rfl
  supportsDelete := rfl

/-- Requests that two backends answer from the same table are answered alike. -/
theorem alike_of_table {α : Type} {table : σ → Table Bytes} {table' : τ → Table Bytes} {k : Call}
    {step : σ → α × σ} {step' : τ → α × τ} {single : Table Bytes → α × Table Bytes}
    (here : ∀ x, Prod.map id table (step x) = single (table x))
    (there : ∀ y, Prod.map id table' (step' y) = single (table' y)) :
    Traced.Alike (fun x y => table x = table' y) (Traced.call k step) (Traced.call k step') := by
  refine Traced.alike_call fun x y same => ?_
  have both : Prod.map id table (step x) = Prod.map id table' (step' y) := by
    rw [here, there, same]
  exact ⟨congrArg Prod.fst both, congrArg Prod.snd both⟩

/-- A store does the same over two backends that hold the same table for its context. -/
theorem acts_alike {s : Store σ} {backend : Backend τ} {table : σ → Table Bytes} {table' : τ → Table Bytes}
    (here : s.backend.Holds s.context table) (there : backend.Holds s.context table') :
    Acts (Traced.Alike fun x y => table x = table' y) s backend where
  toComposed := Traced.composed_alike _
  read key := alike_of_table (here.read key) (there.read key)
  readAll := alike_of_table here.readAll there.readAll
  ask _ _ := Traced.alike_call fun _ _ same => ⟨rfl, same⟩
  create key bytes := alike_of_table (here.create key bytes) (there.create key bytes)
  delete key := alike_of_table (here.delete key) (there.delete key)
  supportsDelete := here.supportsDelete.trans there.supportsDelete.symm

namespace Session

/-- One operation: sessions that run alike leave the same event, and the same outputs pending. -/
theorem step_alike {R : σ → τ → Prop} {s : Store σ} {backend : Backend τ} (acts : Acts (Traced.Alike R) s backend)
    {x : Session σ} {y : Session τ} (pending : x.pending = y.pending) (related : R x.state y.state)
    (operation : Operation) :
    (x.step s operation).1 = (y.step (s.withBackend backend) operation).1 ∧
      (x.step s operation).2.pending = (y.step (s.withBackend backend) operation).2.pending ∧
      R (x.step s operation).2.state (y.step (s.withBackend backend) operation).2.state := by
  obtain ⟨answer, calls, after⟩ := acts.operation x.pending operation x.state y.state related
  rw [pending] at answer calls after
  simp only [Traced.answer, Traced.calls] at answer calls
  simp only [step, pending, answer, calls]
  exact ⟨trivial, trivial, after⟩

/-- A run of operations: sessions that run alike leave the same events, and the same outputs pending. -/
theorem run_alike {R : σ → τ → Prop} {s : Store σ} {backend : Backend τ} (acts : Acts (Traced.Alike R) s backend)
    {x : Session σ} {y : Session τ} (pending : x.pending = y.pending) (related : R x.state y.state)
    (operations : List Operation) :
    (x.run s operations).1 = (y.run (s.withBackend backend) operations).1 ∧
      (x.run s operations).2.pending = (y.run (s.withBackend backend) operations).2.pending ∧
      R (x.run s operations).2.state (y.run (s.withBackend backend) operations).2.state := by
  induction operations generalizing x y with
  | nil => exact ⟨rfl, pending, related⟩
  | cons operation rest ih =>
    obtain ⟨event, left, after⟩ := step_alike acts pending related operation
    obtain ⟨events, last, final⟩ := ih left after
    exact ⟨List.cons_eq_cons.mpr ⟨event, events⟩, last, final⟩

end Session

section Sharing

variable {ι α : Type} [DecidableEq ι]

/-- Sessions over one state: what is pending in each, and the state. -/
structure Sharing (ι σ : Type) where
  pending : ι → Collections
  state : σ

def Sharing.session (x : Sharing ι σ) (i : ι) : Session σ := ⟨x.pending i, x.state⟩

def Sharing.step (stores : ι → Store σ) (x : Sharing ι σ) (turn : ι × Operation) : Event × Sharing ι σ :=
  let (event, next) := (x.session turn.1).step (stores turn.1) turn.2
  (event, ⟨fun i => if i = turn.1 then next.pending else x.pending i, next.state⟩)

def Sharing.run (stores : ι → Store σ) (x : Sharing ι σ) : List (ι × Operation) → List (ι × Event) × Sharing ι σ
  | [] => ([], x)
  | turn :: rest =>
    let (event, next) := x.step stores turn
    let (events, last) := run stores next rest
    ((turn.1, event) :: events, last)

/-- What belongs to one of the sessions. -/
def own (i : ι) (entries : List (ι × α)) : List α :=
  entries.filterMap fun entry => if entry.1 = i then some entry.2 else none

theorem own_cons_self (i : ι) (a : α) (entries : List (ι × α)) : own i ((i, a) :: entries) = a :: own i entries := by
  simp [own]

theorem own_cons_of_ne {i j : ι} (h : j ≠ i) (a : α) (entries : List (ι × α)) :
    own i ((j, a) :: entries) = own i entries := by
  simp [own, h]

variable {stores : ι → Store Memory}

/-- A run of operations of several sessions: each session leaves the events that it leaves alone, the same outputs
pending, and the same table. -/
theorem Sharing.run_own (memory : ∀ i, (stores i).backend = Memory.backend)
    (apart : ∀ i j, i ≠ j → (stores i).context ≠ (stores j).context) (i : ι) (turns : List (ι × Operation))
    {x : Sharing ι Memory} {y : Session Memory} (pending : x.pending i = y.pending)
    (same : x.state.context (stores i).context = y.state.context (stores i).context) :
    own i (x.run stores turns).1 = (y.run (stores i) (own i turns)).1 ∧
      (x.run stores turns).2.pending i = (y.run (stores i) (own i turns)).2.pending ∧
      (x.run stores turns).2.state.context (stores i).context =
        (y.run (stores i) (own i turns)).2.state.context (stores i).context := by
  induction turns generalizing x y with
  | nil => exact ⟨rfl, pending, same⟩
  | cons turn rest ih =>
    obtain ⟨j, operation⟩ := turn
    by_cases here : j = i
    -- An operation of the session itself is the next one that it does alone, and finds the same table there.
    · subst here
      have holds : (stores j).backend.Holds (stores j).context (Memory.context · (stores j).context) := by
        rw [memory j]
        exact Memory.holds _
      obtain ⟨event, left, after⟩ :=
        Session.step_alike (x := x.session j) (acts_alike holds holds) pending same operation
      have next : (x.step stores (j, operation)).2.pending j = (y.step (stores j) operation).2.pending :=
        (if_pos rfl).trans left
      obtain ⟨events, last, final⟩ := ih next after
      rw [own_cons_self]
      refine ⟨?_, last, final⟩
      exact (own_cons_self j _ _).trans (List.cons_eq_cons.mpr ⟨event, events⟩)
    -- An operation of another one leaves the table and what is pending, so the session alone waits.
    · have next : (x.step stores (j, operation)).2.pending i = x.pending i := if_neg (Ne.symm here)
      have kept : (x.step stores (j, operation)).2.state.context (stores i).context =
          x.state.context (stores i).context :=
        (acts_elsewhere (memory j) (apart j i here)).operation (x.pending j) operation x.state
      obtain ⟨events, last, final⟩ := ih (next.trans pending) (kept.trans same)
      rw [own_cons_of_ne here]
      exact ⟨(own_cons_of_ne here _ _).trans events, last, final⟩

end Sharing

section Crowded

def Call.context? : Call → Option String
  | create context _ _ | read context _ | delete context _ | readAll context => some context
  | external _ => none

def Memory.after (m : Memory) : Call → Memory
  | .create context key value => (m.create context key value).2
  | .delete context key => (m.delete context key).2
  | .read _ _ | .readAll _ | .external _ => m

theorem Memory.context_after (m : Memory) {call : Call} {context : String} (h : call.context? ≠ some context) :
    (m.after call).context context = m.context context := by
  cases call with
  | create here key value => exact context_create m (fun same => h (congrArg some same)) key value
  | delete here key => exact context_delete m (fun same => h (congrArg some same)) key
  | _ => rfl

/-- Calls of others, none of them under this context: those before the first request, those before the second, and so
on. -/
structure Others (context : String) where
  before : Nat → List Call
  elsewhere : ∀ n, ∀ call ∈ before n, call.context? ≠ some context

namespace Others

variable {context : String}

/-- The memory after the calls before the first request. -/
def act (o : Others context) (m : Memory) : Memory := (o.before 0).foldl Memory.after m

def later (o : Others context) : Others context := ⟨fun n => o.before (n + 1), fun n => o.elsewhere (n + 1)⟩

theorem context_act (o : Others context) (m : Memory) : (o.act m).context context = m.context context := by
  have elsewhere := o.elsewhere 0
  unfold act
  generalize o.before 0 = calls at elsewhere
  induction calls generalizing m with
  | nil => rfl
  | cons call rest ih =>
    obtain ⟨first, others⟩ := List.forall_mem_cons.mp elsewhere
    rw [List.foldl_cons, ih _ others, Memory.context_after m first]

end Others

/-- The memory as a backend, where others make calls before each request. -/
def Memory.crowded (context : String) : Backend (Others context × Memory) where
  create here key value s :=
    let (answer, m) := Memory.backend.create here key value (s.1.act s.2)
    (answer, s.1.later, m)
  read here key s :=
    let (answer, m) := Memory.backend.read here key (s.1.act s.2)
    (answer, s.1.later, m)
  delete here key s :=
    let (answer, m) := Memory.backend.delete here key (s.1.act s.2)
    (answer, s.1.later, m)
  readAll here s :=
    let (answer, m) := Memory.backend.readAll here (s.1.act s.2)
    (answer, s.1.later, m)
  supportsDelete := true

theorem Memory.crowded_holds (context : String) :
    (Memory.crowded context).Holds context fun s => s.2.context context where
  create key value s := by
    rw [← s.1.context_act s.2, ← (Memory.holds context).create key value (s.1.act s.2)]
    rfl
  read key s := by
    rw [← s.1.context_act s.2, ← (Memory.holds context).read key (s.1.act s.2)]
    rfl
  delete key s := by
    rw [← s.1.context_act s.2, ← (Memory.holds context).delete key (s.1.act s.2)]
    rfl
  readAll s := by
    rw [← s.1.context_act s.2, ← (Memory.holds context).readAll (s.1.act s.2)]
    rfl
  supportsDelete := rfl

/-- All calls of a store are made under its context. -/
theorem acts_under (s : Store σ) : Acts (fun ⦃_⦄ (x _ : Action σ _) => Traced.Within (fun _ calls _ =>
    ∀ call ∈ calls, ∀ context, call.context? = some context → context = s.context) x) s s.backend where
  toComposed := Traced.composed_within {
    nil := fun _ _ inside => nomatch inside
    append := fun _ _ _ _ _ first second => List.forall_mem_append.mpr ⟨first, second⟩ }
  read key := Traced.within_call fun _ => by simp [Call.context?]
  readAll := Traced.within_call fun _ => by simp [Call.context?]
  ask _ _ := Traced.within_call fun _ => by simp [Call.context?]
  create key bytes := Traced.within_call fun _ => by simp [Call.context?]
  delete key := Traced.within_call fun _ => by simp [Call.context?]
  supportsDelete := rfl

end Crowded

/-- Sessions of stores with different contexts over one memory are isolated: in whatever order their operations come,
each session leaves the events that it leaves when its own operations run alone from the same table of its context, the
same outputs pending, and the same table. Nor do the calls inside its operations have to come in a row. Every call of an
operation is made under the context of its store, and whatever calls others make under other contexts before each of
its own calls, a session leaves the same. -/
theorem sessions_isolated {ι : Type} [DecidableEq ι] {stores : ι → Store Memory}
    (memory : ∀ i, (stores i).backend = Memory.backend)
    (apart : ∀ i j, i ≠ j → (stores i).context ≠ (stores j).context) (i : ι) :
    (∀ (turns : List (ι × Operation)) (x : Sharing ι Memory) (alone : Memory),
      alone.context (stores i).context = x.state.context (stores i).context →
      let shared := x.run stores turns
      let single := (Session.mk (x.pending i) alone).run (stores i) (own i turns)
      own i shared.1 = single.1 ∧ shared.2.pending i = single.2.pending ∧
        shared.2.state.context (stores i).context = single.2.state.context (stores i).context) ∧
    (∀ (pending : Collections) (operation : Operation) (m : Memory),
      ∀ call ∈ (operation.perform (stores i) pending).calls m, ∀ context, call.context? = some context →
        context = (stores i).context) ∧
    ∀ (others : Others (stores i).context) (pending : Collections) (operations : List Operation) (m alone : Memory),
      alone.context (stores i).context = m.context (stores i).context →
      let crowded := (Session.mk pending (others, m)).run
        ((stores i).withBackend (Memory.crowded (stores i).context)) operations
      let single := (Session.mk pending alone).run (stores i) operations
      crowded.1 = single.1 ∧ crowded.2.pending = single.2.pending ∧
        crowded.2.state.2.context (stores i).context = single.2.state.context (stores i).context := by
  refine ⟨fun turns x alone same => Sharing.run_own memory apart i turns rfl same.symm,
    fun pending operation m => (acts_under (stores i)).operation pending operation m, ?_⟩
  intro others pending operations m alone same crowded single
  have holds : (stores i).backend.Holds (stores i).context (Memory.context · (stores i).context) := by
    rw [memory i]
    exact Memory.holds _
  obtain ⟨events, left, table⟩ := Session.run_alike (x := ⟨pending, alone⟩) (y := ⟨pending, (others, m)⟩)
    (acts_alike holds (Memory.crowded_holds _)) rfl same operations
  exact ⟨events.symm, left.symm, table.symm⟩

def neighbours : Bool → Store Memory
  | true => plainStore
  | false => { plainStore with context := "beside" }

/-- The neighbour deletes and writes the key that was written, before it is read. -/
theorem sessions_isolated_of_neighbours :
    let turns : List (Bool × Operation) :=
      [(true, .request (.create (.typed .string "#App:1:a!String" (.text "x")))),
        (false, .request (.delete "#App:1:a!String")),
        (false, .request (.create (.typed .string "#App:1:a!String" (.text "y")))),
        (true, .request (.read .any true "#App:1:a!String"))]
    let shared := (Sharing.mk (fun _ _ => []) Memory.empty).run neighbours turns
    own true shared.1 = ((Session.mk (fun _ => []) Memory.empty).run (neighbours true) (own true turns)).1 ∧
      shared.2.state.context (neighbours true).context = [("#App:1:a!String", Utf8.encode "\"x\"")] := by
  intro turns shared
  have memory : ∀ i, (neighbours i).backend = Memory.backend := by
    rintro (_ | _) <;> rfl
  have apart : ∀ i j, i ≠ j → (neighbours i).context ≠ (neighbours j).context := by decide
  obtain ⟨events, -, table⟩ :=
    (sessions_isolated memory apart true).1 turns (Sharing.mk (fun _ _ => []) Memory.empty) Memory.empty rfl
  refine ⟨events, ?_⟩
  rw [table]
  decide +kernel

end VariableStore
