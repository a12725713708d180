import VariableStore.Json.Shape
/-!
Records: key and value records, and entities.
-/
namespace VariableStore

/-! ## Key and value records

A record is a key, a value of any kind, and whatever other fields a producer wrote.

A record has two JSON forms. `toJson` is an object in which an extra field takes the place of a field of the same
name; `written` has the fields of the record first and then the extra ones, so that a name can come twice.
-/

structure KeyValue where
  key : String
  value : Json
  extra : Table Json
  deriving Repr

namespace KeyValue

/-- All fields, those of the record first. -/
def fields (r : KeyValue) : List (String × Json) :=
  ("key", .string r.key) :: ("value", r.value) :: r.extra

def toJson (r : KeyValue) : Json := .object (Table.insertAll [] r.fields)

/-- The text of the record with all its fields one after the other. -/
def written (r : KeyValue) : String := (Json.object r.fields).compact

structure Draft where
  key : Option String := none
  value : Option Json := none
  extra : Table Json := []

def Draft.add (d : Draft) : String × Json → Except Json.Mismatch Draft
  | ("key", j) => return { d with key := some (← j.string?) }
  | ("value", j) => return { d with value := some j }
  | (name, j) => return { d with extra := d.extra ++ [(name, j)] }

def Draft.finish (d : Draft) : Except Json.Mismatch KeyValue :=
  match d.key, d.value with
  | some key, some value => .ok ⟨key, value, d.extra⟩
  | none, _ => .error (.missingField "key")
  | _, none => .error (.missingField "value")

/-- The record that an object stands for. Fields are taken in order, so the first bad one is reported, and a
missing one only after them. -/
def ofJson? : Json → Except Json.Mismatch KeyValue
  | .object fields => do (← fields.foldlM Draft.add {}).finish
  | j => .error (.wrongType j "struct KeyValue")

end KeyValue

/-! ## Entities

An entity is an id, a value, a type name, and whatever other fields a producer wrote. An id may be written as a number
and is then its text. The two JSON forms are those of key and value records.
-/

structure Entity where
  id : String
  value : String
  type : String
  extra : Table Json
  deriving Repr

namespace Entity

def fields (e : Entity) : List (String × Json) :=
  ("id", .string e.id) :: ("value", .string e.value) :: ("type", .string e.type) :: e.extra

def toJson (e : Entity) : Json := .object (Table.insertAll [] e.fields)

def written (e : Entity) : String := (Json.object e.fields).compact

def idText? : Json → Except Json.Mismatch String
  | .string s => .ok s
  | .number n => .ok (String.ofList n.text)
  | j => .error (.entityId j)

structure Draft where
  id : Option String := none
  value : Option String := none
  type : Option String := none
  extra : Table Json := []

def Draft.add (d : Draft) : String × Json → Except Json.Mismatch Draft
  | ("id", j) => return { d with id := some (← idText? j) }
  | ("value", j) => return { d with value := some (← j.string?) }
  | ("type", j) => return { d with type := some (← j.string?) }
  | (name, j) => return { d with extra := d.extra ++ [(name, j)] }

def Draft.finish (d : Draft) : Except Json.Mismatch Entity :=
  match d.id, d.value, d.type with
  | some id, some value, some type => .ok ⟨id, value, type, d.extra⟩
  | none, _, _ => .error (.missingField "id")
  | _, none, _ => .error (.missingField "value")
  | _, _, none => .error (.missingField "type")

def ofJson? : Json → Except Json.Mismatch Entity
  | .object fields => do (← fields.foldlM Draft.add {}).finish
  | j => .error (.wrongType j "struct TcEntity")

end Entity

end VariableStore
