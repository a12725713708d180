import VariableStore.Error
import VariableStore.Json.Reader
import VariableStore.Payload
import VariableStore.Text.Class
import VariableStore.Text.Encoded
/-!
Envelopes, the bytes under which payloads of a type are stored: `encode` makes them and `decode` reads them.
-/
namespace VariableStore.Envelope

/-! ## Strings

A string is stored as a JSON string. Booleans and numbers are taken as their text; arrays and objects are taken as
their compact text only where nothing is validated. In a list every element is taken so, and null stays null. Bytes
that are no JSON are read as a string by themselves.
-/

def textOfBytes (type : VariableType) (b : Bytes) : Except Error String :=
  (Utf8.decode b).mapError fun fault => .invalidData type (.notUtf8 fault)

def stringText (p : Payload) (validate : Bool) : Except Error String :=
  match p with
  | .bytes b => textOfBytes .string b
  | .json j =>
    match j.scalarText? with
    | some text => .ok text
    | none =>
      if j.isNull then .error (.invalidData .string .isNull)
      else if validate then .error (.invalidData .string (.expected "text" j.shape))
      else .ok j.compact
  | .null | .list _ => .error (.invalidData .string (.expected "text" p.shape))

def encodeString (p : Payload) (validate : Bool) : Except Error Bytes := do
  return (Json.string (← stringText p validate)).bytes

def decodeString (raw : Bytes) : Except Error (Option TypedValue) :=
  match Json.ofBytes? raw with
  | some .null => .ok none
  | some j => .ok (some (.string j.coercedText))
  | none =>
    match Utf8.decode raw with
    | .ok text => .ok (some (.string text))
    | .error fault => .error (.serialization (.notUtf8 .string fault))

def elementText (p : Payload) : Except Error (Option String) :=
  match p with
  | .null | .json .null => .ok none
  | .bytes b => (textOfBytes .stringArray b).map some
  | .json j => .ok (some j.coercedText)
  | .list _ =>
    match p.toJson? with
    | some j => .ok (some j.compact)
    | none => .error (.invalidData .stringArray .nestedBytes)

def elements (type : VariableType) (p : Payload) : Except Error (List Payload) :=
  match p.elements? with
  | some items => .ok items
  | none => .error (.invalidData type (.expected "an array" p.shape))

def encodeStringArray (p : Payload) : Except Error Bytes := do
  if p.isNull then return Json.null.bytes
  let texts ← (← elements .stringArray p).mapM elementText
  return (Json.array (texts.map TypedValue.optionalText)).bytes

def storedJson (type : VariableType) (raw : Bytes) : Except Error Json :=
  match Json.ofBytes? raw with
  | some j => .ok j
  | none => .error (.serialization (.notJson type))

/-- The items of a stored list, which may be null. -/
def storedItems (type : VariableType) (raw : Bytes) : Except Error (Option (List Json)) := do
  match ← storedJson type raw with
  | .null => return none
  | .array items => return some items
  | j => throw (.serialization (.notArray type j))

/-- The text of a stored element; null stays null. -/
def storedText? : Json → Option String
  | .null => none
  | j => some j.coercedText

def decodeStringArray (raw : Bytes) : Except Error (Option TypedValue) := do
  let items ← storedItems .stringArray raw
  return items.map fun items => .stringArray (items.map storedText?)

/-! ## Bytes

Bytes are stored as bare base64 text, and in a list as a JSON string of base64 text each. A stored text may have white
space around it or be a JSON string.
-/

/-- The bytes that a payload is stored as. A text stands for its bytes only where nothing is validated. -/
def payloadBytes (type : VariableType) (p : Payload) (validate : Bool) : Except Error Bytes :=
  match p, validate with
  | .bytes b, _ => .ok b
  | .json (.string s), false => .ok (Utf8.encode s)
  | _, _ => .error (.invalidData type (.expected "bytes" p.shape))

def encodeBinary (p : Payload) (validate : Bool) : Except Error Bytes := do
  return Utf8.encode (Base64.encode (← payloadBytes .binary p validate))

def binaryText (raw : Bytes) : Except Error String :=
  match Utf8.decode raw with
  | .error fault => .error (.serialization (.notUtf8 .binary fault))
  | .ok s =>
    match Text.trimChars s.toList with
    | '"' :: rest =>
      match Json.ofChars? ('"' :: rest) with
      | some (.string s) => .ok s
      | _ => .error (.serialization .notQuoted)
    | text => .ok (String.ofList text)

def bytesOfBase64 (type : VariableType) (text : String) : Except Error Bytes :=
  match Base64.decode? text with
  | some b => .ok b
  | none => .error (.serialization (.notBase64 type))

/-- Reads bytes. The text `null` stands for nothing. -/
def decodeBinary (raw : Bytes) : Except Error (Option TypedValue) := do
  let text ← binaryText raw
  if text = "null" then return none
  return some (.binary (← bytesOfBase64 .binary text))

def elementBase64 (validate : Bool) (p : Payload) : Except Error (Option String) :=
  if p.isNull then .ok none
  else (payloadBytes .binaryArray p validate).map fun b => some (Base64.encode b)

def encodeBinaryArray (p : Payload) (validate : Bool) : Except Error Bytes := do
  if p.isNull then return Json.null.bytes
  let texts ← (← elements .binaryArray p).mapM (elementBase64 validate)
  return (Json.array (texts.map TypedValue.optionalText)).bytes

def storedBase64 : Json → Except Error (Option String)
  | .null => .ok none
  | .string s => .ok (some s)
  | j => .error (.serialization (.notBase64Text j))

def binaryTexts (raw : Bytes) : Except Error (Option (List (Option String))) := do
  match ← storedItems .binaryArray raw with
  | none => return none
  | some items => return some (← items.mapM storedBase64)

def elementBytes : Option String → Except Error (Option Bytes)
  | none => .ok none
  | some text => (bytesOfBase64 .binaryArray text).map some

def decodeBinaryArray (raw : Bytes) : Except Error (Option TypedValue) := do
  match ← binaryTexts raw with
  | none => return none
  | some texts => return some (.binaryArray (← texts.mapM elementBytes))

/-! ## Records

Key and value records, entities, and lists of them are stored as JSON objects, as the writer gave them. Where
something is validated a record must have all its fields with values of the right kind.
-/

/-- The first of the names that an object has no field for. -/
def missing? (names : List String) (fields : Table Json) : Option String :=
  names.find? fun name => !Table.contains name fields

/-- Checks that a value is an object with fields of all these names. -/
def checkFields (names : List String) (j : Json) : Except DataFault (Table Json) :=
  match j with
  | .object fields =>
    match missing? names fields with
    | some name => .error (.missingField name)
    | none => .ok fields
  | _ => .error (.expected "an object" j.shape)

/-- Checks a key and value record: the key must be text. -/
def checkKeyValue (j : Json) : Except DataFault Unit := do
  let fields ← checkFields ["key", "value"] j
  match Table.get? "key" fields with
  | some (.string _) => return ()
  | _ => throw .keyNotText

/-- Checks an entity: it must read as one. -/
def checkEntity (j : Json) : Except DataFault Unit := do
  let _ ← checkFields ["id", "value", "type"] j
  match Entity.ofJson? j with
  | .ok _ => return ()
  | .error m => throw (.mismatch m)

def recordJson (type : VariableType) (check : Json → Except DataFault Unit) (p : Payload) (validate : Bool) :
    Except Error Json := do
  match p.toJson? with
  | none => throw (.invalidData type (.expected "an object" p.shape))
  | some j =>
    if validate then (check j).mapError (.invalidData type)
    return j

def encodeRecord (type : VariableType) (check : Json → Except DataFault Unit) (p : Payload) (validate : Bool) :
    Except Error Bytes := do
  if p.isNull then throw (.invalidData type .isNull)
  return (← recordJson type check p validate).bytes

def encodeRecords (type : VariableType) (check : Json → Except DataFault Unit) (p : Payload)
    (validate : Bool) : Except Error Bytes := do
  if p.isNull then return Json.null.bytes
  let items ← (← elements type p).mapM fun item => recordJson type check item validate
  return (Json.array items).bytes

/-- Stores a key and value record. A list is refused as such, also one that holds bytes. -/
def encodeKeyValue (p : Payload) (validate : Bool) : Except Error Bytes :=
  if validate && p.elements?.isSome then .error (.invalidData .keyValue (.expected "an object" .array))
  else encodeRecord .keyValue checkKeyValue p validate

def storedKeyValue (j : Json) : Except Error KeyValue :=
  (KeyValue.ofJson? j).mapError fun m => .serialization (.malformed .keyValue m)

def storedEntity (j : Json) : Except Error Entity :=
  (Entity.ofJson? j).mapError fun m => .serialization (.malformed .entity m)

/-- Reads one record; null stands for nothing. -/
def decodeRecord {α : Type} (type : VariableType) (read : Json → Except Error α) (form : α → TypedValue)
    (raw : Bytes) : Except Error (Option TypedValue) := do
  match ← storedJson type raw with
  | .null => return none
  | j => return some (form (← read j))

def decodeRecords {α : Type} (type : VariableType) (read : Json → Except Error α)
    (form : List α → TypedValue) (raw : Bytes) : Except Error (Option TypedValue) := do
  match ← storedItems type raw with
  | none => return none
  | some items => return some (form (← items.mapM read))

/-! ## All types

Enhanced entities have the envelopes of plain ones. Values of custom types are stored as they are, text as its bytes
and other JSON as its compact text.
-/

def encodeRaw (p : Payload) : Except Error Bytes :=
  match p with
  | .bytes b => .ok b
  | .json (.string s) => .ok (Utf8.encode s)
  | _ =>
    if p.isNull then .error (.invalidData .raw .isNull)
    else
      match p.toJson? with
      | some j => .ok j.bytes
      | none => .error (.invalidData .raw (.bytesInside p.shape))

def encode (type : VariableType) (p : Payload) (validate : Bool) : Except Error Bytes :=
  match type with
  | .binary => encodeBinary p validate
  | .binaryArray => encodeBinaryArray p validate
  | .keyValue => encodeKeyValue p validate
  | .keyValueArray => encodeRecords .keyValueArray checkKeyValue p validate
  | .string => encodeString p validate
  | .stringArray => encodeStringArray p
  | .entity | .enhancedEntity => encodeRecord .entity checkEntity p validate
  | .entityArray | .enhancedEntityArray => encodeRecords .entityArray checkEntity p validate
  | .custom _ => encodeRaw p

/-- Reads a value of a type. A stored null stands for nothing. -/
def decode (type : VariableType) (raw : Bytes) : Except Error (Option TypedValue) :=
  match type with
  | .binary => decodeBinary raw
  | .binaryArray => decodeBinaryArray raw
  | .keyValue => decodeRecord .keyValue storedKeyValue .keyValue raw
  | .keyValueArray => decodeRecords .keyValueArray storedKeyValue .keyValueArray raw
  | .string => decodeString raw
  | .stringArray => decodeStringArray raw
  | .entity | .enhancedEntity => decodeRecord .entity storedEntity .entity raw
  | .entityArray | .enhancedEntityArray => decodeRecords .entityArray storedEntity .entityArray raw
  | .custom _ => .ok (some (.raw raw))

/-- The type that speaks for the envelopes of a type. -/
def ownerOf : VariableType → VariableType
  | .custom _ => .raw
  | t => t.storedAs

end VariableStore.Envelope
