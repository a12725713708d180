import VariableStore.Record
import VariableStore.Text.Utf8
/-!
Values: payloads, which are handed over for writing, and typed values, which are read.
-/
namespace VariableStore

/-! ## Payloads

A payload is nothing, bytes, a JSON value, or a list of payloads. A list of payloads without bytes stands for a JSON
array, its JSON view.
-/

inductive Payload where
  | null
  | bytes (b : Bytes)
  | json (j : Json)
  | list (items : List Payload)
  deriving BEq, Repr, Inhabited

/-- The kinds of payload that messages tell apart. -/
inductive Shape where
  | null | bytes | array | boolean | number | text | object
  deriving DecidableEq, Repr

def Shape.name : Shape → String
  | null => "null"
  | bytes => "bytes"
  | array => "array"
  | boolean => "boolean"
  | number => "number"
  | text => "text"
  | object => "object"

def Json.shape : Json → Shape
  | null => .null
  | bool _ => .boolean
  | number _ => .number
  | string _ => .text
  | array _ => .array
  | object _ => .object

namespace Payload

def shape : Payload → Shape
  | null => .null
  | bytes _ => .bytes
  | json j => j.shape
  | list _ => .array

/-- Whether a payload is null in either form. -/
def isNull : Payload → Bool
  | null => true
  | json j => j.isNull
  | _ => false

def elements? : Payload → Option (List Payload)
  | list items => some items
  | json (.array items) => some (items.map json)
  | _ => none

theorem isNull_of_elements? {p : Payload} {items : List Payload} (h : p.elements? = some items) :
    p.isNull = false := by
  unfold elements? at h
  split at h
  · rfl
  · rfl
  · cases h

mutual

/-- The JSON view of a payload, if it holds no bytes. -/
def toJson? : Payload → Option Json
  | null => some .null
  | json j => some j
  | bytes _ => none
  | list items => (itemsToJson? items).map .array

def itemsToJson? : List Payload → Option (List Json)
  | [] => some []
  | item :: rest =>
    match item.toJson?, itemsToJson? rest with
    | some j, some js => some (j :: js)
    | _, _ => none

end

def text (s : String) : Payload := json (.string s)

/-- A list with null for each value that is not there. -/
def ofOptions {α : Type} (form : α → Payload) (items : List (Option α)) : Payload :=
  list (items.map fun item => (item.map form).getD null)

/-- The items that a payload adds to a list: its elements, nothing for null, else the payload itself. -/
def items (p : Payload) : List Payload :=
  if p.isNull then [] else p.elements?.getD [p]

end Payload

/-! ## Typed values

There is one form of typed values for each type as which values are stored. A typed value is a payload again
(`toPayload`), and all but the binary ones have a JSON form.
-/

inductive TypedValue where
  | binary (b : Bytes)
  | binaryArray (items : List (Option Bytes))
  | keyValue (record : KeyValue)
  | keyValueArray (records : List KeyValue)
  | string (s : String)
  | stringArray (items : List (Option String))
  | entity (e : Entity)
  | entityArray (es : List Entity)
  | raw (b : Bytes)
  deriving Repr

/-- What stands in a text for a value that is not there. -/
def nullToken : String := "<null>"

/-- What stands in a text for a binary value. -/
def binaryToken : String := "<binary>"

namespace TypedValue

def isBinary : TypedValue → Bool
  | binary _ | binaryArray _ => true
  | _ => false

def string? : TypedValue → Option String
  | string s => some s
  | _ => none

def keyValue? : TypedValue → Option KeyValue
  | keyValue record => some record
  | _ => none

def entity? : TypedValue → Option Entity
  | entity e => some e
  | _ => none

def optionalText : Option String → Json
  | some s => .string s
  | none => .null

/-- The JSON form of a value. Binary values have none, and uninterpreted bytes have one if they are UTF-8. -/
def toJson? : TypedValue → Option Json
  | binary _ | binaryArray _ => none
  | raw b => (Utf8.decode? b).map .string
  | keyValue record => some record.toJson
  | keyValueArray records => some (.array (records.map KeyValue.toJson))
  | string s => some (.string s)
  | stringArray items => some (.array (items.map optionalText))
  | entity e => some e.toJson
  | entityArray es => some (.array (es.map Entity.toJson))

def toPayload : TypedValue → Payload
  | binary b | raw b => .bytes b
  | binaryArray items => .ofOptions .bytes items
  | keyValue record => .json record.toJson
  | keyValueArray records => .list (records.map fun r => .json r.toJson)
  | string s => .text s
  | stringArray items => .ofOptions .text items
  | entity e => .json e.toJson
  | entityArray es => .list (es.map fun e => .json e.toJson)

/-- The text that stands for a value inside another text: a string as it is, a structure as compact JSON. -/
def render : TypedValue → String
  | string s => s
  | raw b => Utf8.decodeLossy b
  | v => if v.isBinary then binaryToken else (v.toJson?.map Json.compact).getD nullToken

def renderOption (v : Option TypedValue) : String := (v.map render).getD nullToken

end TypedValue

end VariableStore
