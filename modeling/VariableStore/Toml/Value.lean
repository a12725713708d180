import VariableStore.Json.Basic
import VariableStore.Number
import VariableStore.Table
/-!
The values of a TOML document, and the tables that hold them while it is read.
-/
namespace VariableStore.Toml

/-! ## Values

The values of a TOML document, and what they are as JSON.
-/

/-- A value. A date or a time is known to be one and no more. -/
inductive Value where
  | string (s : String)
  | integer (i : Int)
  | float (x : NumberText)
  | boolean (b : Bool)
  | moment
  | array (items : List Value)
  | table (entries : List (String × Value))
  deriving Repr, Inhabited

namespace Value

/-- A float that stands for a number that JSON cannot hold. It still tells a reader that it is a float. -/
def placeholder : Json.Number := .real (.zero false)

mutual

/-- A value as JSON. A moment is an object without fields. -/
def toJson : Value → Json
  | string s => .string s
  | integer i => .number ((Json.Number.ofInt? i).getD placeholder)
  | float (.finite x) => .number (.real x)
  | float _ => .number placeholder
  | boolean b => .bool b
  | moment => .object []
  | array items => .array (itemsToJson items)
  | table entries => .object (entriesToJson entries)

def itemsToJson : List Value → List Json
  | [] => []
  | item :: rest => item.toJson :: itemsToJson rest

def entriesToJson : List (String × Value) → List (String × Json)
  | [] => []
  | (name, value) :: rest => (name, value.toJson) :: entriesToJson rest

end

end Value

/-! ## Tables

What stands under a name is a value for good, or a table that may still grow, or a list of tables the last of which
may. A table remembers how it came about, since a header may not open twice what a header opened before, nor what
dotted keys made.
-/

/-- How a table came about: by a header of its own, on the way of a longer header, or by a dotted key. -/
inductive Origin where
  | header
  | way
  | dots
  deriving DecidableEq, Repr

inductive Node where
  | value (v : Value)
  | table (origin : Origin) (entries : List (String × Node))
  | tables (closed : List Value) (last : List (String × Node))
  deriving Repr, Inhabited

abbrev Entries := Table Node

mutual

/-- The value of a node, which grows no more. -/
def Node.close : Node → Value
  | .value v => v
  | .table _ entries => .table (closeEntries entries)
  | .tables closed last => .array (closed ++ [.table (closeEntries last)])

def closeEntries : List (String × Node) → List (String × Value)
  | [] => []
  | (name, node) :: rest => (name, node.close) :: closeEntries rest

end

namespace Entries

/-- Puts a value under a dotted key, given as the names in front and the last name. Each name in front leads to
a table that dotted keys made; the ones before the last of them may also be tables on the way of a header, or the
last table of a list. -/
def assign (v : Value) (name : String) : List String → Entries → Option Entries
  | [], t => if Table.contains name t then none else some (Table.insert name (.value v) t)
  | first :: path, t =>
    match Table.get? first t with
    | none => do return Table.insert first (.table .dots (← assign v name path [])) t
    | some (.table .dots inner) => do return Table.insert first (.table .dots (← assign v name path inner)) t
    | some (.table .way inner) =>
      if path.isEmpty then none
      else do return Table.insert first (.table .way (← assign v name path inner)) t
    | some (.tables closed last) =>
      if path.isEmpty then none
      else do return Table.insert first (.tables closed (← assign v name path last)) t
    | some (.table .header _) | some (.value _) => none

/-- Changes the table that the names of a header lead to. -/
def descend (change : Entries → Option Entries) : List String → Entries → Option Entries
  | [], t => change t
  | first :: path, t =>
    match Table.get? first t with
    | none => do return Table.insert first (.table .way (← descend change path [])) t
    | some (.table origin inner) => do
      return Table.insert first (.table origin (← descend change path inner)) t
    | some (.tables closed last) => do return Table.insert first (.tables closed (← descend change path last)) t
    | some (.value _) => none

def openTable (name : String) (t : Entries) : Option Entries :=
  match Table.get? name t with
  | none => some (Table.insert name (.table .header []) t)
  | some (.table .way inner) => some (Table.insert name (.table .header inner) t)
  | some _ => none

def openNext (name : String) (t : Entries) : Option Entries :=
  match Table.get? name t with
  | none => some (Table.insert name (.tables [] []) t)
  | some (.tables closed last) =>
    some (Table.insert name (.tables (closed ++ [.table (closeEntries last)]) []) t)
  | some _ => none

end Entries

end VariableStore.Toml
