import VariableStore.Store.Read
import VariableStore.Store
/-!
Sessions: requests made to one store, one after the other, with values gathered between them.

A request to write names a variable in one of several ways (`Creation.target?`) and hands over a payload. What
the payload is stored as depends on the variable and on the way of writing alone (`Creation.encoding`). All else
that is asked of a store is a read or a delete. A session keeps its state and any number of collections of
pending outputs, told apart by numbers, and each of its operations leaves an event.
-/
namespace VariableStore

variable {σ : Type}

inductive Creation where
  | typed (type : VariableType) (key : String) (value : Payload)
  | any (key : String) (value : Payload) (type : Option VariableType)
  | raw (key : String) (value : Payload)
  | keyValue (key : String) (record : KeyValue)
  | entity (key : String) (e : Entity)

namespace Creation

def value : Creation → Payload
  | typed _ _ value | any _ value _ | raw _ value => value
  | keyValue _ record => .json record.toJson
  | entity _ e => .json e.toJson

def key : Creation → String
  | typed _ key _ | any key _ _ | raw key _ | keyValue key _ | entity key _ => key

def type? : Creation → Option VariableType
  | typed type _ _ => some type
  | any _ _ type => type
  | raw _ _ => none
  | keyValue _ _ => some .keyValue
  | entity _ _ => some .entity

def encoding (validate : Bool) (v : Variable) : Creation → Except Error Bytes
  | raw _ value => Envelope.encodeRaw value
  | c => Envelope.encode v.type c.value validate

/-- The variable to write, or none for a bare key that nobody asks for. -/
def target? (s : Store σ) : Creation → Except Error (Option Variable)
  | typed type key _ => s.target key type
  | any key _ type =>
    match type.or ((Variable.parse? key).map Variable.type) with
    | some type => s.target key type
    | none => .error (.invalidVariable key .typeNeeded)
  | raw key _ =>
    match Variable.parse? key with
    | some v => .ok (some v)
    | none => .error (.invalidVariable key .fullVariableNeeded)
  | keyValue key _ => s.target key .keyValue
  | entity key _ => s.target key .entity

def perform (s : Store σ) : Creation → Action σ (Except Error (Option WriteAck))
  | typed type key value => s.create type key value
  | any key value type => s.createAny key value type
  | raw key value => s.createRaw key value
  | keyValue key record => s.createKeyValue key record
  | entity key e => s.createEntity key e

def ofPending (output : PendingOutput) : Creation := .any output.key output.value (some output.type)

end Creation

inductive Query where
  | any | string | stringArray | binary | binaryStored | binaryAsText | binaryArray | binaryArrayStored
  | keyValue | keyValueArray | entity | entityArray | raw
  deriving DecidableEq, Repr

inductive Answer where
  | written (result : Except Error (Option WriteAck))
  | value (result : Option TypedValue)
  | text (result : Except Error (Option String))
  | texts (result : Except Error (Option (List (Option String))))
  | bytes (result : Except Error (Option Bytes))
  | bytesList (result : Except Error (Option (List (Option Bytes))))
  | keyValue (result : Except Error (Option KeyValue))
  | keyValues (result : Except Error (Option (List KeyValue)))
  | entity (result : Except Error (Option Entity))
  | entities (result : Except Error (Option (List Entity)))
  | stored (result : Option Bytes)
  | snapshot (result : Option (Table Bytes))
  | deleted (result : Option DeleteOutcome)
  | flushed (result : Except Error Nat)
  | gathered

def Query.perform (r : Reader σ) (key : String) : Query → Action σ Answer
  | any => Answer.value <$> r.any key
  | string => Answer.text <$> r.string key
  | stringArray => Answer.texts <$> r.stringArray key
  | binary => Answer.bytes <$> r.binary key
  | binaryStored => Answer.bytes <$> r.binaryStored key
  | binaryAsText => Answer.text <$> r.binaryAsText key
  | binaryArray => Answer.bytesList <$> r.binaryArray key
  | binaryArrayStored => Answer.bytesList <$> r.binaryArrayStored key
  | keyValue => Answer.keyValue <$> r.keyValue key
  | keyValueArray => Answer.keyValues <$> r.keyValueArray key
  | entity => Answer.entity <$> r.entity key
  | entityArray => Answer.entities <$> r.entityArray key
  | raw => Answer.stored <$> r.raw key

/-- A request to a store. A read says whether references in texts are replaced. -/
inductive Request where
  | create (c : Creation)
  | read (query : Query) (resolve : Bool) (key : String)
  | snapshot
  | delete (key : String)

def Request.perform (s : Store σ) : Request → Action σ Answer
  | create c => Answer.written <$> c.perform s
  | read query resolve key => query.perform ⟨s, resolve⟩ key
  | snapshot => Answer.snapshot <$> s.snapshot
  | delete key => Answer.deleted <$> s.delete key

def Request.performAll (s : Store σ) : List Request → Action σ (List Answer)
  | [] => return []
  | r :: rest => do
    let first ← r.perform s
    let others ← performAll s rest
    return first :: others

theorem Request.answer_performAll_cons (s : Store σ) (r : Request) (rest : List Request) (state : σ) :
    (performAll s (r :: rest)).answer state =
      (r.perform s).answer state :: (performAll s rest).answer ((r.perform s).after state) := rfl

theorem Request.after_performAll_cons (s : Store σ) (r : Request) (rest : List Request) (state : σ) :
    (performAll s (r :: rest)).after state = (performAll s rest).after ((r.perform s).after state) := rfl

/-- An operation of a session: a request, or adding to or flushing a collection of pending outputs. -/
inductive Operation where
  | request (r : Request)
  | add (collection : Nat) (key : String) (value : Payload) (type : VariableType) (append : Bool)
  | flush (collection : Nat)

abbrev Collections := Nat → PendingOutputs

def Collections.set (c : Collections) (collection : Nat) (pending : PendingOutputs) : Collections :=
  fun n => if n = collection then pending else c n

structure Session (σ : Type) where
  pending : Collections
  state : σ

/-- What an operation leaves behind: the outputs that were pending before it, its answer, and its calls. -/
structure Event where
  pending : Collections
  operation : Operation
  answer : Answer
  calls : List Call

def Operation.creations (pending : Collections) : Operation → List Creation
  | request (.create c) => [c]
  | flush collection => (pending collection).entries.map Creation.ofPending
  | _ => []

def Operation.perform (s : Store σ) (pending : Collections) : Operation → Action σ (Answer × Collections)
  | request r => do return (← r.perform s, pending)
  | add collection key value type append =>
    return (.gathered, pending.set collection ((pending collection).add key value type append))
  | flush collection => do
    let (count, left) ← s.flush (pending collection)
    return (.flushed count, pending.set collection left)

def Session.step (s : Store σ) (session : Session σ) (operation : Operation) : Event × Session σ :=
  let ((answer, pending), calls, state) := operation.perform s session.pending session.state
  (⟨session.pending, operation, answer, calls⟩, ⟨pending, state⟩)

def Session.run (s : Store σ) (session : Session σ) : List Operation → List Event × Session σ
  | [] => ([], session)
  | operation :: rest =>
    let (event, next) := session.step s operation
    let (events, last) := run s next rest
    (event :: events, last)

end VariableStore
