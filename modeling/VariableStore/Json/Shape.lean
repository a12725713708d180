import VariableStore.Json.Basic
import VariableStore.Text.Class
/-!
Expected shapes of JSON values. `Mismatch` lists the ways in which a value fails to be what a reader of it
expects, and its message names what was found and what was expected.
-/
namespace VariableStore.Json

/-- How a value differs from an expected shape. -/
inductive Mismatch where
  | wrongType (found : Json) (expected : String)
  | outOfRange (found : Json.Number) (expected : String)
  | missingField (name : String)
  /-- A list that ends before a field without a default. -/
  | tooShort (length : Nat) (expected : String)
  | tooLong (length : Nat)
  /-- An entity id that is neither text nor a number. -/
  | entityId (found : Json)
  /-- A value that is neither of two forms. -/
  | noForm (expected : String)
  deriving Repr

def Number.described : Number → String
  | .real x => "floating point `" ++ String.ofList (Number.text (.real x)) ++ "`"
  | n => "integer `" ++ String.ofList n.text ++ "`"

def described : Json → String
  | null => "null"
  | bool b => "boolean `" ++ (if b then "true" else "false") ++ "`"
  | number n => n.described
  | string s => "string " ++ Text.quote s
  | array _ => "sequence"
  | object _ => "map"

def Mismatch.message : Mismatch → String
  | .wrongType found expected => "invalid type: " ++ found.described ++ ", expected " ++ expected
  | .outOfRange found expected => "invalid value: " ++ found.described ++ ", expected " ++ expected
  | .missingField name => "missing field `" ++ name ++ "`"
  | .tooShort length expected => s!"invalid length {length}, expected " ++ expected
  | .tooLong length => s!"invalid length {length}, expected fewer elements in array"
  | .entityId found => "entity id must be text or a number, found " ++ found.compact
  | .noForm expected => "data did not match any variant of untagged enum " ++ expected

def string? : Json → Except Mismatch String
  | string s => .ok s
  | j => .error (.wrongType j "a string")

def bool? : Json → Except Mismatch Bool
  | bool b => .ok b
  | j => .error (.wrongType j "a boolean")

/-- A value that must be an integer below a bound; `expected` names the type with that bound. -/
def natBelow? (bound : Nat) (expected : String) : Json → Except Mismatch Nat
  | number (.natural n fits) =>
    if n < bound then .ok n else .error (.outOfRange (.natural n fits) expected)
  | number (.negative n positive fits) => .error (.outOfRange (.negative n positive fits) expected)
  | j => .error (.wrongType j expected)

/-! ## Records with known fields

A record is read from an object, whose fields come in any order and may have names that nobody knows, or from a list
of the values of the fields in their own order, which may stop early. Either way the values are taken in the order in
which they stand, so the first bad one is reported.
-/

/-- A record under construction: the name that messages give it, and its fields in order, each with what its
value does to the record. -/
structure Fields (α : Type) where
  name : String
  fields : List (String × (α → Json → Except Mismatch α))

namespace Fields

variable {α : Type}

def takeObject (f : Fields α) (start : α) (fields : List (String × Json)) : Except Mismatch α :=
  fields.foldlM (fun a (name, j) => match f.fields.lookup name with
    | some take => take a j
    | none => .ok a) start

def takeList (f : Fields α) (start : α) (items : List Json) : Except Mismatch α :=
  (f.fields.zip items).foldlM (fun a (field, j) => field.2 a j) start

/-- Reads a record onto `start`, which holds the defaults. A list with more items than there are fields is
refused where `exact` says so. -/
def read (f : Fields α) (exact : Bool) (start : α) : Json → Except Mismatch α
  | .object fields => f.takeObject start fields
  | .array items => do
    let a ← f.takeList start items
    if exact && f.fields.length < items.length then .error (.tooLong items.length) else .ok a
  | j => .error (.wrongType j f.name)

end Fields

def orNull? {α : Type} (read : Json → Except Mismatch α) : Json → Except Mismatch (Option α)
  | .null => .ok none
  | j => do return some (← read j)

def word16? (j : Json) : Except Mismatch UInt16 := do return UInt16.ofNat (← j.natBelow? UInt16.size "u16")

def word32? (j : Json) : Except Mismatch UInt32 := do return UInt32.ofNat (← j.natBelow? UInt32.size "u32")

def word64? (expected : String) (j : Json) : Except Mismatch UInt64 := do
  return UInt64.ofNat (← j.natBelow? UInt64.size expected)

end VariableStore.Json
