import VariableStore.Store
/-!
Reading from a store.

A key that is no variable is a literal: as a string, or as a value of any type, it stands for itself. References
in strings, and in the text values of key and value records, are replaced if the reader says so. A record value
that is nothing but one variable is replaced by the value of that variable as JSON, not as text.
-/
namespace VariableStore

structure Reader (σ : Type) where
  store : Store σ
  resolve : Bool

/-- The view with the store's own choice on references. -/
def Store.reader {σ : Type} (s : Store σ) : Reader σ := ⟨s, s.options.resolve⟩

namespace Reader

variable {σ : Type}

def text (r : Reader σ) (s : String) : Action σ String :=
  if r.resolve then r.store.resolveText s else return s

/-- The JSON value of a variable that makes up a whole record value. -/
def wholeValue (r : Reader σ) (v : Variable) : Action σ Json :=
  if v.type.single = .binary then return .string binaryToken
  else do
    let value ← r.store.fetchTyped v
    return (value.bind TypedValue.toJson?).getD (.string nullToken)

def recordValue (r : Reader σ) : Json → Action σ Json
  | .string s =>
    match Variable.parse? s with
    | some v => r.wholeValue v
    | none => do return .string (← r.store.resolveText s)
  | j => return j

def record (r : Reader σ) (kv : KeyValue) : Action σ KeyValue :=
  if r.resolve then do return { kv with value := ← r.recordValue kv.value } else return kv

def records (r : Reader σ) : List KeyValue → Action σ (List KeyValue)
  | [] => return []
  | kv :: rest => do
    let first ← r.record kv
    let others ← r.records rest
    return first :: others

/-- The variable of a key that must be of a type. A literal counts as a string and is no variable. -/
def target (key : String) (type : VariableType) : Except Error (Option Variable) :=
  (VariableType.check key (Variable.typeOf key) type).map fun _ => Variable.parse? key

def typed (r : Reader σ) (key : String) (type : VariableType) : Action σ (Except Error (Option TypedValue)) :=
  match target key type with
  | .error e => return .error e
  | .ok none => return .ok none
  | .ok (some v) => do return .ok (← r.store.fetchTyped v)

def any (r : Reader σ) (key : String) : Action σ (Option TypedValue) :=
  match Variable.parse? key with
  | none => do return some (.string (← r.text key))
  | some v => do
    match ← r.store.fetchTyped v with
    | some (.string s) => return some (.string (← r.text s))
    | some (.keyValue kv) => return some (.keyValue (← r.record kv))
    | some (.keyValueArray kvs) => return some (.keyValueArray (← r.records kvs))
    | other => return other

def string (r : Reader σ) (key : String) : Action σ (Except Error (Option String)) :=
  if Variable.isVariable key then do
    match ← r.typed key .string with
    | .ok (some (.string s)) => return .ok (some (← r.text s))
    | .ok _ => return .ok none
    | .error e => return .error e
  else do return .ok (some (← r.text key))

def stringArray (r : Reader σ) (key : String) : Action σ (Except Error (Option (List (Option String)))) := do
  match ← r.typed key .stringArray with
  | .ok (some (.stringArray items)) => return .ok (some items)
  | .ok _ => return .ok none
  | .error e => return .error e

def binary (r : Reader σ) (key : String) : Action σ (Except Error (Option Bytes)) := do
  match ← r.typed key .binary with
  | .ok (some (.binary b)) => return .ok (some b)
  | .ok _ => return .ok none
  | .error e => return .error e

/-- Reads bytes as the base64 text that is stored. -/
def binaryStored (r : Reader σ) (key : String) : Action σ (Except Error (Option Bytes)) :=
  match target key .binary with
  | .error e => return .error e
  | .ok none => return .ok none
  | .ok (some v) => do
    match ← r.store.fetch v.text with
    | none => return .ok none
    | some raw =>
      match Envelope.binaryText raw with
      | .ok text => return .ok (if text = "null" then none else some (Utf8.encode text))
      | .error _ => return .ok none

def binaryAsText (r : Reader σ) (key : String) : Action σ (Except Error (Option String)) := do
  return (← r.binary key).map fun b => b.bind Utf8.decode?

def binaryArray (r : Reader σ) (key : String) : Action σ (Except Error (Option (List (Option Bytes)))) := do
  match ← r.typed key .binaryArray with
  | .ok (some (.binaryArray items)) => return .ok (some items)
  | .ok _ => return .ok none
  | .error e => return .error e

def binaryArrayStored (r : Reader σ) (key : String) :
    Action σ (Except Error (Option (List (Option Bytes)))) :=
  match target key .binaryArray with
  | .error e => return .error e
  | .ok none => return .ok none
  | .ok (some v) => do
    match ← r.store.fetch v.text with
    | none => return .ok none
    | some raw =>
      match Envelope.binaryTexts raw with
      | .ok texts => return .ok (texts.map fun items => items.map fun text => text.map Utf8.encode)
      | .error _ => return .ok none

def keyValue (r : Reader σ) (key : String) : Action σ (Except Error (Option KeyValue)) := do
  match ← r.typed key .keyValue with
  | .ok (some (.keyValue kv)) => return .ok (some (← r.record kv))
  | .ok _ => return .ok none
  | .error e => return .error e

def keyValueArray (r : Reader σ) (key : String) : Action σ (Except Error (Option (List KeyValue))) := do
  match ← r.typed key .keyValueArray with
  | .ok (some (.keyValueArray kvs)) => return .ok (some (← r.records kvs))
  | .ok _ => return .ok none
  | .error e => return .error e

def entity (r : Reader σ) (key : String) : Action σ (Except Error (Option Entity)) := do
  match ← r.typed key .entity with
  | .ok (some (.entity e)) => return .ok (some e)
  | .ok _ => return .ok none
  | .error e => return .error e

def entityArray (r : Reader σ) (key : String) : Action σ (Except Error (Option (List Entity))) := do
  match ← r.typed key .entityArray with
  | .ok (some (.entityArray es)) => return .ok (some es)
  | .ok _ => return .ok none
  | .error e => return .error e

/-- The bytes under a key, which is taken as it is written. -/
def raw (r : Reader σ) (key : String) : Action σ (Option Bytes) := r.store.fetch key

end Reader

end VariableStore
