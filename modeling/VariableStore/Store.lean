import VariableStore.Backend
import VariableStore.Envelope
import VariableStore.Output
import VariableStore.Reference
/-!
Stores: typed variables of one context, kept by a backend.

What a caller does wrong is an error. What goes wrong in the backend, and bytes that are no value of their type,
is no error: it is as if there were nothing.
-/
namespace VariableStore

/-- What a store does: `validate` checks payloads before they are written, `gated` lets only requested variables
be written, `resolve` replaces references in texts that are read, and `scanBound` is the number of bytes up to
which a text is looked through for them. -/
structure StoreOptions where
  validate : Bool := true
  gated : Bool := true
  resolve : Bool := true
  scanBound : UInt64 := 65536
  deriving DecidableEq, Repr, Inhabited

abbrev ExternalResolver := ExternalReference → Option String

structure Store (σ : Type) where
  backend : Backend σ
  context : String
  outputs : OutputRequest := .empty
  options : StoreOptions := {}
  external : Option ExternalResolver := none

namespace Store

variable {σ : Type}

def put (s : Store σ) (v : Variable) (value : Bytes) : Action σ (Option WriteAck) := do
  let answer ← Traced.call (.create s.context v.text value) (s.backend.create s.context v.text value)
  return answer.toOption

def fetch (s : Store σ) (key : String) : Action σ (Option Bytes) := do
  let answer ← Traced.call (.read s.context key) (s.backend.read s.context key)
  return answer.toOption.join

/-- All that is kept in the context, if the backend can tell. -/
def snapshot (s : Store σ) : Action σ (Option (Table Bytes)) := do
  let answer ← Traced.call (.readAll s.context) (s.backend.readAll s.context)
  return answer.toOption

def fetchTyped (s : Store σ) (v : Variable) : Action σ (Option TypedValue) := do
  match ← s.fetch v.text with
  | some raw => return (Envelope.decode v.type raw).toOption.join
  | none => return none

/-- Removes what is kept under a key, which is taken as it is written. -/
def delete (s : Store σ) (key : String) : Action σ (Option DeleteOutcome) :=
  if s.backend.supportsDelete then do
    match ← Traced.call (.delete s.context key) (s.backend.delete s.context key) with
    | .ok outcome => return some outcome
    | .error (.unsupported _) => return some .unsupported
    | .error _ => return none
  else return some .unsupported

def ask (resolver : ExternalResolver) (r : ExternalReference) : Action σ (Option String) :=
  Traced.call (.external r) fun s => (resolver r, s)

def sources (s : Store σ) : Sources (Action σ) where
  lookup := s.fetchTyped
  external := s.external.map ask

def resolveText (s : Store σ) (text : String) : Action σ String :=
  s.sources.resolve s.options.scanBound.toNat text

/-! ## Writing

A key names the variable to write either by its whole text or, where writes are gated, as a bare key that the output
request completes. Nothing is written that the gate does not let through: a variable that is not asked for, or null
for a type that is no list.
-/

/-- The variable that a key names for a value of a type. A bare key that nobody asks for names none. -/
def target (s : Store σ) (key : String) (type : VariableType) : Except Error (Option Variable) :=
  match Variable.parse? key with
  | some v => (VariableType.check key v.type type).map fun _ => some v
  | none =>
    if s.options.gated then .ok (s.outputs.find? key type)
    else .error (.invalidVariable key .gateNeeded)

def admits (s : Store σ) (v : Variable) (value : Payload) : Bool :=
  (!s.options.gated || s.outputs.contains v) && (!value.isNull || v.type.isArray)

/-- Writes a payload to a variable in the envelope that `encode` makes, if the gate lets it through. -/
def write (s : Store σ) (v : Variable) (value : Payload) (encode : Except Error Bytes) :
    Action σ (Except Error (Option WriteAck)) :=
  if s.admits v value then
    match encode with
    | .ok bytes => do return .ok (← s.put v bytes)
    | .error e => return .error e
  else return .ok none

def create (s : Store σ) (type : VariableType) (key : String) (value : Payload) :
    Action σ (Except Error (Option WriteAck)) :=
  match s.target key type with
  | .error e => return .error e
  | .ok none => return .ok none
  | .ok (some v) => s.write v value (Envelope.encode v.type value s.options.validate)

/-- Writes a value of the type that is given, or of the type that the key names. -/
def createAny (s : Store σ) (key : String) (value : Payload) (type : Option VariableType) :
    Action σ (Except Error (Option WriteAck)) :=
  match type.or ((Variable.parse? key).map Variable.type) with
  | some type => s.create type key value
  | none => return .error (.invalidVariable key .typeNeeded)

/-- Writes a value as it is under a variable of any type. -/
def createRaw (s : Store σ) (key : String) (value : Payload) : Action σ (Except Error (Option WriteAck)) :=
  match Variable.parse? key with
  | some v => s.write v value (Envelope.encodeRaw value)
  | none => return .error (.invalidVariable key .fullVariableNeeded)

def createKeyValue (s : Store σ) (key : String) (record : KeyValue) :
    Action σ (Except Error (Option WriteAck)) :=
  s.create .keyValue key (.json record.toJson)

def createEntity (s : Store σ) (key : String) (e : Entity) : Action σ (Except Error (Option WriteAck)) :=
  s.create .entity key (.json e.toJson)

/-- Writes outputs one after the other, whatever becomes of each, and returns the number of those that the
backend took, or the first error. -/
def createAll (s : Store σ) : List PendingOutput → Action σ (Except Error Nat)
  | [] => return .ok 0
  | output :: rest => do
    let first ← s.createAny output.key output.value (some output.type)
    let others ← s.createAll rest
    match first with
    | .error e => return .error e
    | .ok ack => return others.map fun count => count + (if ack.isSome then 1 else 0)

/-- Writes all pending outputs and leaves none. -/
def flush (s : Store σ) (pending : PendingOutputs) : Action σ (Except Error Nat × PendingOutputs) := do
  return (← s.createAll pending.entries, [])

end Store

end VariableStore
