import VariableStore.Toml.Quoted
import VariableStore.Toml.Value
import VariableStore.Toml.Word
/-!
TOML documents: statements, one to a line, and the table that they make up.
-/
namespace VariableStore.Toml

/-! ## Statements

A statement is a value for a dotted key, or a header, which opens a table or one more table of a list. Values in
brackets may go over several lines.

The bounds that the readers here take are numbers of steps; the reader of a whole document gives as many as it has
characters to read.
-/

/-- The names of a dotted key: those in front, and the last. -/
structure Path where
  front : List String
  last : String
  deriving DecidableEq, Repr

def Path.names (p : Path) : List String := p.front ++ [p.last]

inductive Statement where
  | assign (path : Path) (v : Value)
  | openTable (path : Path)
  | openNext (path : Path)
  deriving Repr

/-- Goes past white space, line ends and comments. `inside` says that a comment has begun. -/
def skipSpace (inside : Bool) : List Char → List Char
  | [] => []
  | '\n' :: rest => skipSpace false rest
  | '\r' :: '\n' :: rest => skipSpace false rest
  | c :: rest =>
    if inside then if isPlain c then skipSpace true rest else c :: rest
    else if c = '#' then skipSpace true rest
    else if isGap c then skipSpace false rest
    else c :: rest

def skipGaps (cs : List Char) : List Char := cs.dropWhile isGap

/-- Goes past the rest of a line, which may hold a comment. -/
def pastLine? (cs : List Char) : Option (List Char) :=
  let rest := match skipGaps cs with
    | '#' :: rest => rest.dropWhile isPlain
    | rest => rest
  if rest.isEmpty then some [] else pastNewline? rest

def isNameChar (c : Char) : Bool := c.isAlphanum || c = '_' || c = '-'

def name? (cs : List Char) : Option (String × List Char) :=
  let bare := cs.takeWhile isNameChar
  if bare.isEmpty then (Quoted.line? cs).map fun (text, rest) => (String.ofList text, rest)
  else some (String.ofList bare, cs.dropWhile isNameChar)

/-- Reads a dotted key and the white space after it. -/
def path? : Nat → List Char → Option (Path × List Char)
  | 0, _ => none
  | steps + 1, cs => do
    let (name, rest) ← name? cs
    match skipGaps rest with
    | '.' :: rest =>
      let (path, rest) ← path? steps (skipGaps rest)
      return ({ path with front := name :: path.front }, rest)
    | rest => return (⟨[], name⟩, rest)

def maxDepth : Nat := 80

mutual

/-- Reads a value in which arrays and tables lie at most `depth` deep. -/
def value? : Nat → Nat → List Char → Option (Value × List Char)
  | 0, _, _ => none
  | _ + 1, 0, '[' :: _ => none
  | _ + 1, 0, '\x7b' :: _ => none
  | steps + 1, depth + 1, '[' :: rest => items? steps depth [] (skipSpace false rest)
  | steps + 1, depth + 1, '\x7b' :: rest => fields? steps depth [] (skipSpace false rest)
  | _ + 1, _, cs =>
    match Quoted.text? cs with
    | some (text, rest) => some (.string (String.ofList text), rest)
    | none => do
      let (word, rest) := Word.split cs
      return (← Word.value? word, rest)

/-- Reads the items of an array up to its bracket, behind those that are already read. -/
def items? : Nat → Nat → List Value → List Char → Option (Value × List Char)
  | 0, _, _, _ => none
  | _ + 1, _, read, ']' :: rest => some (.array read, rest)
  | steps + 1, depth, read, cs => do
    let (v, rest) ← value? steps depth cs
    match skipSpace false rest with
    | ',' :: rest => items? steps depth (read ++ [v]) (skipSpace false rest)
    | ']' :: rest => some (.array (read ++ [v]), rest)
    | _ => none

def fields? : Nat → Nat → Entries → List Char → Option (Value × List Char)
  | 0, _, _, _ => none
  | _ + 1, _, read, '\x7d' :: rest => some (.table (closeEntries read), rest)
  | steps + 1, depth, read, cs => do
    let (path, rest) ← path? steps cs
    match rest with
    | '=' :: rest =>
      let (v, rest) ← value? steps depth (skipGaps rest)
      let read ← Entries.assign v path.last path.front read
      match skipSpace false rest with
      | ',' :: rest => fields? steps depth read (skipSpace false rest)
      | '\x7d' :: rest => some (.table (closeEntries read), rest)
      | _ => none
    | _ => none

end

/-- Reads a statement and the rest of its line. -/
def statement? (steps : Nat) : List Char → Option (Statement × List Char)
  | '[' :: '[' :: rest => do
    let (path, rest) ← path? steps (skipGaps rest)
    match rest with
    | ']' :: ']' :: rest => return (.openNext path, ← pastLine? rest)
    | _ => none
  | '[' :: rest => do
    let (path, rest) ← path? steps (skipGaps rest)
    match rest with
    | ']' :: rest => return (.openTable path, ← pastLine? rest)
    | _ => none
  | cs => do
    let (path, rest) ← path? steps cs
    match rest with
    | '=' :: rest =>
      let (v, rest) ← value? steps maxDepth (skipGaps rest)
      return (.assign path v, ← pastLine? rest)
    | _ => none

def statements? : Nat → List Char → Option (List Statement)
  | 0, _ => none
  | steps + 1, cs =>
    match skipSpace false cs with
    | [] => some []
    | rest => do
      let (statement, rest) ← statement? (2 * cs.length + 2) rest
      return statement :: (← statements? steps rest)

/-! ## Documents

A key stands in the table of the last header in front of it.
-/

/-- A document up to some statement: what its table holds, and the names of the header in force. -/
structure Document where
  entries : Entries := []
  header : List String := []

namespace Document

def add (d : Document) : Statement → Option Document
  | .assign path v => do
    return { d with entries := ← Entries.descend (Entries.assign v path.last path.front) d.header d.entries }
  | .openTable path => do
    return ⟨← Entries.descend (Entries.openTable path.last) path.front d.entries, path.names⟩
  | .openNext path => do
    return ⟨← Entries.descend (Entries.openNext path.last) path.front d.entries, path.names⟩

def pastMark : List Char → List Char
  | '\ufeff' :: rest => rest
  | cs => cs

def ofText? (s : String) : Option Value := do
  let cs := pastMark s.toList
  let d ← (← statements? (cs.length + 1) cs).foldlM add {}
  return .table (closeEntries d.entries)

end Document

end VariableStore.Toml
