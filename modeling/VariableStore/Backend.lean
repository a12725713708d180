import VariableStore.Reference
import VariableStore.Table
import VariableStore.Traced
/-!
Backends, the places that keep bytes under a context and a key. A backend answers four requests, each by a step
of its state, and says whether it can delete. It may fail on any request; two of them it may not support at all.

Calls made to a backend, and to whoever knows external values, are traced.
-/
namespace VariableStore

inductive WriteAck where
  | created
  | updated
  | accepted
  deriving DecidableEq, Repr

def WriteAck.isNew : WriteAck → Bool
  | .created => true
  | _ => false

inductive DeleteOutcome where
  | deleted
  | notFound
  | unsupported
  deriving DecidableEq, Repr

/-- How a backend fails: it lacks the operation, it got an answer that makes no sense, or something else broke,
perhaps with a cause that it can name. -/
inductive StorageError where
  | unsupported (operation : String)
  | invalidResponse (key message : String)
  | failure (message : String) (caused : Bool)
  deriving DecidableEq, Repr

def StorageError.message : StorageError → String
  | .unsupported operation => "operation not supported by backend: " ++ operation
  | .invalidResponse key message => "invalid backend response for key " ++ key ++ ": " ++ message
  | .failure message _ => "backend error: " ++ message

def StorageError.hasCause : StorageError → Bool
  | .failure _ caused => caused
  | _ => false

inductive Call where
  | create (context key : String) (value : Bytes)
  | read (context key : String)
  | delete (context key : String)
  | readAll (context : String)
  | external (r : ExternalReference)
  deriving DecidableEq, Repr

structure Backend (σ : Type) where
  create : String → String → Bytes → σ → Except StorageError WriteAck × σ
  read : String → String → σ → Except StorageError (Option Bytes) × σ
  delete : String → String → σ → Except StorageError DeleteOutcome × σ :=
    fun _ _ s => (.error (.unsupported "delete"), s)
  readAll : String → σ → Except StorageError (Table Bytes) × σ :=
    fun _ s => (.error (.unsupported "read_all"), s)
  supportsDelete : Bool := false

/-- A computation that calls a backend. -/
abbrev Action (σ α : Type) := Traced Call σ α

/-! ## Memory

One table of bytes for each context. It supports every request and never fails.
-/

/-- The tables of all contexts. -/
abbrev Memory := Table (Table Bytes)

namespace Memory

def empty : Memory := []

def context (m : Memory) (context : String) : Table Bytes := (Table.get? context m).getD []

def get? (m : Memory) (context key : String) : Option Bytes := Table.get? key (m.context context)

def create (m : Memory) (context key : String) (value : Bytes) : WriteAck × Memory :=
  let ack := if (m.get? context key).isSome then .updated else .created
  (ack, Table.insert context (Table.insert key value (m.context context)) m)

def delete (m : Memory) (context key : String) : DeleteOutcome × Memory :=
  match m.get? context key with
  | some _ => (.deleted, Table.insert context (Table.erase key (m.context context)) m)
  | none => (.notFound, m)

def clear (m : Memory) (context : String) : Memory := Table.erase context m

def size (m : Memory) (context : String) : Nat := (m.context context).length

def isEmpty (m : Memory) : Bool := m.all fun entry => entry.2.isEmpty

def backend : Backend Memory where
  create context key value m := let (ack, m) := m.create context key value; (.ok ack, m)
  read context key m := (.ok (m.get? context key), m)
  delete context key m := let (outcome, m) := m.delete context key; (.ok outcome, m)
  readAll context m := (.ok (m.context context), m)
  supportsDelete := true

end Memory

end VariableStore
