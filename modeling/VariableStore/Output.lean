import VariableStore.Payload
import VariableStore.Table
import VariableStore.Variable
/-!
Outputs: those that somebody asks for, and those that are gathered until they are written.
-/
namespace VariableStore

/-! ## Output requests

An output request holds the variables that somebody downstream asks for. Only these are written where writes are
gated.

A request is a list of different variables in the order in which they were first named. Beside it stand the texts of
what is listed, and two indexes, by key and by key and type. An index leads from a name to the place of the variable
that was entered last under it.
-/

structure OutputRequest where
  listed : List Variable
  byKey : Table Nat
  byIndex : Table Nat
  texts : List String
  deriving Repr

namespace OutputRequest

def empty : OutputRequest := ⟨[], [], [], []⟩

instance : Inhabited OutputRequest := ⟨empty⟩

/-- Whether exactly this variable is asked for. Variables are compared by their texts. -/
def contains (r : OutputRequest) (v : Variable) : Bool := r.texts.contains v.text

/-- Enters a variable, unless it is there. A name that is in an index leads to the new variable from then on. -/
def insert (r : OutputRequest) (v : Variable) : OutputRequest :=
  if r.contains v then r
  else
    { listed := r.listed ++ [v]
      byKey := Table.insert v.key r.listed.length r.byKey
      byIndex := Table.insert v.index r.listed.length r.byIndex
      texts := v.text :: r.texts }

/-- The request for the variables that these texts stand for. Other texts are skipped. -/
def ofTexts (texts : List String) : OutputRequest := (texts.filterMap Variable.parse?).foldl insert empty

def ofCommas (s : String) : OutputRequest := ofTexts (Text.splitCommas s)

def isRequested (r : OutputRequest) (key : String) : Bool := Table.contains key r.byKey

def isRequestedAs (r : OutputRequest) (key : String) (type : VariableType) : Bool :=
  Table.contains (Variable.indexOf key type) r.byIndex

/-- The variable entered last under a key and type. -/
def find? (r : OutputRequest) (key : String) (type : VariableType) : Option Variable :=
  (Table.get? (Variable.indexOf key type) r.byIndex).bind fun place => r.listed[place]?

def byKey? (r : OutputRequest) (key : String) : Option Variable :=
  (Table.get? key r.byKey).bind fun place => r.listed[place]?

def size (r : OutputRequest) : Nat := r.listed.length

end OutputRequest

/-! ## Pending outputs

Pending outputs are values gathered under a key and a type until they are written in one go. Values added to a list
type one after the other become one list, unless a value is to replace what is there. Entries stay in the order in
which they were first made.
-/

structure PendingOutput where
  key : String
  type : VariableType
  value : Payload
  deriving Repr

/-- The values waiting to be written, by key and type. -/
abbrev PendingOutputs := Table PendingOutput

namespace PendingOutputs

/-- Adds a value. To a list type it is appended, as the items that it stands for, if `append` says so; else it
replaces the entry. -/
def add (p : PendingOutputs) (key : String) (value : Payload) (type : VariableType) (append : Bool) :
    PendingOutputs :=
  let index := Variable.indexOf key type
  if append && type.isArray then
    let entry := (Table.get? index p).getD ⟨key, type, .list []⟩
    Table.insert index { entry with value := .list (entry.value.items ++ value.items) } p
  else Table.insert index ⟨key, type, value⟩ p

def value? (p : PendingOutputs) (key : String) (type : VariableType) : Option Payload :=
  (Table.get? (Variable.indexOf key type) p).map PendingOutput.value

def entries (p : PendingOutputs) : List PendingOutput := p.map Prod.snd

end PendingOutputs

end VariableStore
