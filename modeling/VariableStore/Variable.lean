import VariableStore.Text.Class
/-!
Variables and their types.
-/
namespace VariableStore

/-! ## Types

There are five kinds of value, each with a type for one value and one for a list of them; any other name is a custom
type. The two enhanced entity types differ from the plain ones in name only: a value of theirs is stored as a plain
entity, so `storedAs` joins them.
-/

inductive VariableType where
  | binary | binaryArray
  | keyValue | keyValueArray
  | string | stringArray
  | entity | entityArray
  | enhancedEntity | enhancedEntityArray
  | custom (name : String)
  deriving DecidableEq, Repr

namespace VariableType

/-- The types with a name of their own, in the order in which they are listed. -/
def standard : List VariableType :=
  [binary, binaryArray, keyValue, keyValueArray, string, stringArray, entity, entityArray, enhancedEntity,
    enhancedEntityArray]

def name : VariableType → String
  | binary => "Binary"
  | binaryArray => "BinaryArray"
  | keyValue => "KeyValue"
  | keyValueArray => "KeyValueArray"
  | string => "String"
  | stringArray => "StringArray"
  | entity => "TCEntity"
  | entityArray => "TCEntityArray"
  | enhancedEntity => "TCEnhancedEntity"
  | enhancedEntityArray => "TCEnhancedEntityArray"
  | custom name => name

def ofName (name : String) : VariableType :=
  (standard.find? fun t => t.name = name).getD (custom name)

def isArray : VariableType → Bool
  | binaryArray | keyValueArray | stringArray | entityArray | enhancedEntityArray => true
  | _ => false

def isCustom : VariableType → Bool
  | custom _ => true
  | _ => false

/-- The type of the items of a list type; another type itself. -/
def single : VariableType → VariableType
  | binaryArray => binary
  | keyValueArray => keyValue
  | stringArray => string
  | entityArray => entity
  | enhancedEntityArray => enhancedEntity
  | t => t

/-- The list type over a type; a list type or custom type itself. -/
def array : VariableType → VariableType
  | binary => binaryArray
  | keyValue => keyValueArray
  | string => stringArray
  | entity => entityArray
  | enhancedEntity => enhancedEntityArray
  | t => t

def storedAs : VariableType → VariableType
  | enhancedEntity => entity
  | enhancedEntityArray => entityArray
  | t => t

/-- The custom type that stands for bytes without interpretation. -/
def raw : VariableType := custom "Raw"

theorem name_ofName (name : String) : (ofName name).name = name := by
  unfold ofName
  cases found : standard.find? (fun t => t.name = name) with
  | none => rfl
  | some t => simpa using List.find?_some found

theorem ofName_name {t : VariableType} (h : t ∈ standard) : ofName t.name = t := by
  simp only [standard, List.mem_cons, List.not_mem_nil, or_false] at h
  rcases h with rfl | rfl | rfl | rfl | rfl | rfl | rfl | rfl | rfl | rfl <;> rfl

end VariableType

/-! ## Variables

The text of a variable is `#<application>:<job>:<key>!<type>`.

`Variable.parse?` accepts the texts of this form, with white space around them: letters for the application, decimal
digits of any script for the job, a run of key characters, and a type name. A type name that begins like a standard
one without being standard is refused.
-/

structure Variable where
  application : String
  job : String
  key : String
  type : VariableType
  deriving DecidableEq, Repr

namespace Variable

def isApplicationChar (c : Char) : Bool := c.isAlpha

def isKeyChar (c : Char) : Bool := c.isAlphanum || c == '_' || c == '.' || c == '-' || c == '[' || c == ']'

def isTypeChar (c : Char) : Bool := c.isAlphanum || c == '_' || c == '-'

def text (v : Variable) : String :=
  "#" ++ v.application ++ ":" ++ v.job ++ ":" ++ v.key ++ "!" ++ v.type.name

/-- A key and a type in one text. -/
def indexOf (key : String) (type : VariableType) : String := key ++ "-" ++ type.name

def index (v : Variable) : String := indexOf v.key v.type

/-- The names that no custom type may begin with. -/
def reserved : List String := ["String", "Binary", "KeyValue", "TCEntity", "TCEnhancedEntity"]

/-- Whether a type name is a standard one or begins like none of them. -/
def isTypeName (name : List Char) : Bool :=
  !(VariableType.ofName (String.ofList name)).isCustom || !reserved.any fun r => r.toList.isPrefixOf name

/-- A run of one or more characters of a class in front of a list that goes on with `mark`: the run, and what
follows the mark. -/
def run? (member : Char → Bool) (mark : Char) (cs : List Char) : Option (List Char × List Char) :=
  match cs.takeWhile member, cs.dropWhile member with
  | first :: more, c :: rest => if c = mark then some (first :: more, rest) else none
  | _, _ => none

/-- The parts of a variable in front of its type name, and what follows them. -/
structure Opening where
  application : List Char
  job : List Char
  key : List Char
  rest : List Char
  deriving DecidableEq, Repr

/-- Reads a variable up to the mark in front of its type name. -/
def Opening.read? : List Char → Option Opening
  | '#' :: cs => do
    let (application, cs) ← run? isApplicationChar ':' cs
    let (job, cs) ← run? Text.isDecimalDigit ':' cs
    let (key, cs) ← run? isKeyChar '!' cs
    some ⟨application, job, key, cs⟩
  | _ => none

def Opening.variable (o : Opening) (typeName : List Char) : Variable :=
  ⟨String.ofList o.application, String.ofList o.job, String.ofList o.key,
    VariableType.ofName (String.ofList typeName)⟩

def ofChars? (cs : List Char) : Option Variable := do
  let o ← Opening.read? cs
  if !o.rest.isEmpty && o.rest.all isTypeChar && isTypeName o.rest then some (o.variable o.rest) else none

/-- The variable that a text stands for, white space around it aside. -/
def parse? (s : String) : Option Variable := ofChars? (Text.trimChars s.toList)

def isVariable (s : String) : Bool := (parse? s).isSome

/-- The type of the variable that a text stands for; any other text is a string by itself. -/
def typeOf (s : String) : VariableType := ((parse? s).map Variable.type).getD .string

end Variable

end VariableStore
