import VariableStore.Payload
import VariableStore.Text.Utf8
import VariableStore.Variable
/-!
References in texts, and their replacement.
-/
namespace VariableStore

/-! ## References

References are marked places of a text that stand for values: variables, which begin with `#`, and external references
of the form `&{provider:lookup:id}` or with `$` in place of `&`.

`scan` cuts a text into pieces, references and the characters between them. It goes from left to right: where a
reference begins it is taken whole, and the search goes on behind it. A variable inside a text ends with the standard
type name that its end begins with, list types first, or else with all type characters there are.
-/

structure ExternalReference where
  provider : String
  lookup : String
  id : String
  deriving DecidableEq, Repr

inductive Reference where
  | internal (v : Variable)
  | external (r : ExternalReference)
  deriving DecidableEq, Repr

namespace Reference

/-- The standard type names in the order in which the end of a variable is compared with them: a name comes
after every longer name that begins with it. -/
def typeNames : List String :=
  ["StringArray", "BinaryArray", "KeyValueArray", "TCEntityArray", "TCEnhancedEntityArray", "String", "Binary",
    "KeyValue", "TCEntity", "TCEnhancedEntity"]

def typeName (cs : List Char) : List Char :=
  match typeNames.find? fun name => name.toList.isPrefixOf cs with
  | some name => name.toList
  | none => cs.takeWhile Variable.isTypeChar

/-- The variable at the front of a list of characters, and the characters behind it. -/
def internal? (cs : List Char) : Option (Variable × List Char) := do
  let o ← Variable.Opening.read? cs
  match typeName o.rest with
  | [] => none
  | name => some (o.variable name, o.rest.drop name.length)

def external? : List Char → Option (ExternalReference × List Char)
  | mark :: brace :: cs => do
    if (mark = '&' ∨ mark = '$') ∧ brace = '\x7b' then
      let (provider, cs) ← Variable.run? Variable.isApplicationChar ':' cs
      let (lookup, cs) ← Variable.run? Variable.isKeyChar ':' cs
      let (id, cs) ← Variable.run? Variable.isKeyChar '\x7d' cs
      some (⟨String.ofList provider, String.ofList lookup, String.ofList id⟩, cs)
    else none
  | _ => none

def read? (cs : List Char) : Option (Reference × List Char) :=
  match internal? cs with
  | some (v, rest) => some (.internal v, rest)
  | none => (external? cs).map fun (r, rest) => (.external r, rest)

end Reference

/-- A piece of a text: a character by itself, or a reference with the characters that it is written with. -/
inductive Piece where
  | plain (c : Char)
  | reference (source : List Char) (r : Reference)
  deriving DecidableEq, Repr

namespace Piece

def source : Piece → List Char
  | plain c => [c]
  | reference source _ => source

/-- Cuts characters into pieces after the first `skip` of them. -/
def scanFrom : Nat → List Char → List Piece
  | _, [] => []
  | skip + 1, _ :: rest => scanFrom skip rest
  | 0, c :: rest =>
    match Reference.read? (c :: rest) with
    | some (r, behind) =>
      let size := (c :: rest).length - behind.length
      .reference ((c :: rest).take size) r :: scanFrom (size - 1) rest
    | none => .plain c :: scanFrom 0 rest

def scan (s : String) : List Piece := scanFrom 0 s.toList

end Piece

/-- A reference found in a text, with the range of bytes that it takes there. -/
structure Occurrence where
  start : Nat
  stop : Nat
  text : String
  reference : Reference
  deriving DecidableEq, Repr

/-- The references among pieces that begin at byte `start`. -/
def Occurrence.ofPieces (start : Nat) : List Piece → List Occurrence
  | [] => []
  | piece :: rest =>
    let stop := start + (Utf8.encodeChars piece.source).length
    match piece with
    | .plain _ => ofPieces stop rest
    | .reference source r => ⟨start, stop, String.ofList source, r⟩ :: ofPieces stop rest

def Occurrence.scan (s : String) : List Occurrence := ofPieces 0 (Piece.scan s)

/-! ## Resolution

Each reference is replaced in place, and what replaces it is not looked through again, so resolution is one level
deep. A reference that is written twice is looked up once. A binary variable is replaced by a token without a look, a
value that is not there by another token, and an external reference stays as it is where there is nobody to ask. A
text of more bytes than the bound is left alone.
-/

/-- Where values come from: variables are looked up, and there may be somebody to ask for external ones. -/
structure Sources (m : Type → Type) where
  lookup : Variable → m (Option TypedValue)
  external : Option (ExternalReference → m (Option String))

namespace Sources

variable {m : Type → Type} [Monad m]

/-- The text that replaces a reference, which is written as `source`. -/
def replacement (s : Sources m) (source : List Char) : Reference → m String
  | .internal v =>
    if v.type.single = .binary then pure binaryToken
    else do return TypedValue.renderOption (← s.lookup v)
  | .external r =>
    match s.external with
    | some ask => do return (← ask r).getD nullToken
    | none => pure (String.ofList source)

/-- Replaces the references among pieces, given the replacements of those met before by their sources. -/
def substitute (s : Sources m) (known : List (List Char × String)) : List Piece → m (List Char)
  | [] => pure []
  | .plain c :: rest => do return c :: (← substitute s known rest)
  | .reference source r :: rest =>
    match known.lookup source with
    | some text => do return text.toList ++ (← substitute s known rest)
    | none => do
      let text ← s.replacement source r
      return text.toList ++ (← substitute s ((source, text) :: known) rest)

/-- Replaces the references in a text of at most `bound` bytes. -/
def resolve (s : Sources m) (bound : Nat) (text : String) : m String :=
  if bound < Utf8.length text then pure text
  else do return String.ofList (← s.substitute [] (Piece.scan text))

end Sources

end VariableStore
