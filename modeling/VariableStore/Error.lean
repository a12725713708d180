import VariableStore.Number
import VariableStore.Payload
import VariableStore.Variable
/-!
Errors, given by their causes. Each kind of error has one message function, and `Error.message` puts what is
common to a kind in front of it.

Causes of the form `stated` carry a reason that a caller words itself.
-/
namespace VariableStore

/-- Why a payload cannot be stored under a type. -/
inductive DataFault where
  | isNull
  | expected (wanted : String) (found : Shape)
  | notUtf8 (fault : Utf8.Fault)
  | nestedBytes
  | bytesInside (found : Shape)
  | missingField (name : String)
  | keyNotText
  | mismatch (m : Json.Mismatch)
  | stated (reason : String)
  deriving Repr

def DataFault.message : DataFault → String
  | .isNull => "value is null"
  | .expected wanted found => "expected " ++ wanted ++ ", found " ++ found.name
  | .notUtf8 fault => "bytes are not UTF-8: " ++ fault.message
  | .nestedBytes => "nested list contains bytes"
  | .bytesInside found => "cannot serialize " ++ found.name ++ " containing bytes"
  | .missingField name => "missing field `" ++ name ++ "`"
  | .keyNotText => "`key` must be text"
  | .mismatch m => m.message
  | .stated reason => reason

/-- Why stored bytes are no value of a type. -/
inductive StoredFault where
  | notJson (type : VariableType)
  | notBase64 (type : VariableType)
  | notUtf8 (type : VariableType) (fault : Utf8.Fault)
  | notQuoted
  | notArray (type : VariableType) (found : Json)
  | notBase64Text (found : Json)
  | malformed (type : VariableType) (m : Json.Mismatch)
  | stated (reason : String)
  deriving Repr

/-- The text of a reason. What a grammar has to say about a text that is not of it is left out. -/
def StoredFault.message : StoredFault → String
  | .notJson type => "stored " ++ type.name ++ " is not valid JSON: "
  | .notBase64 type => "stored " ++ type.name ++ " is not valid base64: "
  | .notUtf8 type fault => "stored " ++ type.name ++ " is not UTF-8: " ++ fault.message
  | .notQuoted => ""
  | .notArray type found => "stored " ++ type.name ++ " is not a JSON array: " ++ found.compact
  | .notBase64Text found => "stored BinaryArray element is not a base64 string: " ++ found.compact
  | .malformed type m => "stored " ++ type.name ++ " is malformed: " ++ m.message
  | .stated reason => reason

/-- Why a key names no variable to act on. -/
inductive KeyFault where
  | notVariable
  | typeNeeded
  | fullVariableNeeded
  | gateNeeded
  | stated (reason : String)
  deriving DecidableEq, Repr

def KeyFault.message : KeyFault → String
  | .notVariable => "does not match #<AppType>:<jobId>:<key>!<Type>"
  | .typeNeeded => "a type is required for a key that is not a variable"
  | .fullVariableNeeded => "raw writes need a full variable"
  | .gateNeeded => "a bare key needs output gating to find its variable"
  | .stated reason => reason

/-- Why a configuration cannot be loaded. -/
inductive ConfigFault where
  | notToml
  | notPort (setting : String) (fault : IntegerFault)
  | noFile
  | fileNotUtf8
  | stated (reason : String)
  deriving DecidableEq, Repr

def ConfigFault.message : ConfigFault → String
  | .notToml => "TOML parse error: "
  | .notPort setting fault => setting ++ " is not a port: " ++ fault.message
  | .noFile => "No such file or directory (os error 2)"
  | .fileNotUtf8 => "stream did not contain valid UTF-8"
  | .stated reason => reason

/-- An error that a caller can avoid. -/
inductive Error where
  | invalidData (type : VariableType) (fault : DataFault)
  | typeMismatch (subject : String) (expected actual : VariableType)
  | serialization (fault : StoredFault)
  | invalidVariable (key : String) (fault : KeyFault)
  | config (fault : ConfigFault)
  deriving Repr

def Error.message : Error → String
  | .invalidData type fault => "invalid data for " ++ type.name ++ ": " ++ fault.message
  | .typeMismatch subject expected actual =>
    "type mismatch for " ++ subject ++ ": expected " ++ expected.name ++ ", found " ++ actual.name
  | .serialization fault => "serialization error: " ++ fault.message
  | .invalidVariable key fault => "invalid variable " ++ key ++ ": " ++ fault.message
  | .config fault => "configuration error: " ++ fault.message

def Error.isInvalidData : Error → Bool
  | .invalidData _ _ => true
  | _ => false

def Error.isTypeMismatch : Error → Bool
  | .typeMismatch _ _ _ => true
  | _ => false

/-- Accepts a value of one type where another is expected if both are stored as the same type. The error names
the variable or text in question. -/
def VariableType.check (subject : String) (actual expected : VariableType) : Except Error Unit :=
  if actual.storedAs = expected.storedAs then .ok ()
  else .error (.typeMismatch subject expected actual)

end VariableStore
