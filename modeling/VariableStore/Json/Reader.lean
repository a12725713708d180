import VariableStore.Json.Basic
import VariableStore.Text.Utf8
/-!
Reading a JSON text, by way of its tokens.
-/
namespace VariableStore.Json

/-! ## Tokens

The tokens are brackets and separators, strings with their escapes resolved, and the words between them, each of which
is a literal name or a number. White space ends a word and is dropped.

`scan` reads the text once, character by character. Its state says whether it is between tokens, in a word or at which
point of a string.
-/

inductive Token where
  | openArray | closeArray | openObject | closeObject | colon | comma
  | text (s : String)
  | leaf (j : Json)
  deriving Repr

def isSpace (c : Char) : Bool := c == ' ' || c == '\n' || c == '\t' || c == '\r'

def isWordChar (c : Char) : Bool := c.isAlphanum || c == '+' || c == '-' || c == '.'

def ofWord? (word : List Char) : Option Json :=
  if word = ['n', 'u', 'l', 'l'] then some .null
  else if word = ['t', 'r', 'u', 'e'] then some (.bool true)
  else if word = ['f', 'a', 'l', 's', 'e'] then some (.bool false)
  else (Number.ofWord? word).map .number

def hexValue? (c : Char) : Option Nat :=
  if c.isDigit then some (c.toNat - 48)
  else if 'a' ≤ c ∧ c ≤ 'f' then some (c.toNat - 87)
  else if 'A' ≤ c ∧ c ≤ 'F' then some (c.toNat - 55)
  else none

/-- The character that a backslash and a letter stand for. -/
def escaped? : Char → Option Char
  | '"' => some '"'
  | '\\' => some '\\'
  | '/' => some '/'
  | 'b' => some '\x08'
  | 'f' => some '\x0c'
  | 'n' => some '\x0a'
  | 'r' => some '\x0d'
  | 't' => some '\x09'
  | _ => none

/-- The place of the scanner. Characters read are held with the last one first. In `code` a four digit escape
is being read, after a high surrogate if there is one; in `low` and `lowMark` the rest of the escape that must
follow a high surrogate is due. -/
inductive Place where
  | between
  | word (read : List Char)
  | text (read : List Char)
  | backslash (read : List Char)
  | code (read : List Char) (high : Option Nat) (digits value : Nat)
  | low (read : List Char) (high : Nat)
  | lowMark (read : List Char) (high : Nat)

/-- The place after four digits of an escape: a high surrogate waits for a low one, and the two make one
character. -/
def closeCode (read : List Char) (high : Option Nat) (value : Nat) : Option Place :=
  match high with
  | none =>
    if 0xD800 ≤ value ∧ value < 0xDC00 then some (.low read value)
    else if 0xDC00 ≤ value ∧ value < 0xE000 then none
    else some (.text (Char.ofNat value :: read))
  | some h =>
    if 0xDC00 ≤ value ∧ value < 0xE000 then
      some (.text (Char.ofNat (0x10000 + (h - 0xD800) * 0x400 + (value - 0xDC00)) :: read))
    else none

/-- Reads a character between tokens: the token that it makes, if any, and the next place. -/
def start (c : Char) : Option (Option Token × Place) :=
  if isSpace c then some (none, .between)
  else if isWordChar c then some (none, .word [c])
  else match c with
    | '[' => some (some .openArray, .between)
    | ']' => some (some .closeArray, .between)
    | '\x7b' => some (some .openObject, .between)
    | '\x7d' => some (some .closeObject, .between)
    | ':' => some (some .colon, .between)
    | ',' => some (some .comma, .between)
    | '"' => some (none, .text [])
    | _ => none

/-- Adds a token, if there is one, to the tokens found, the last of which is first. -/
def found (token : Option Token) (tokens : List Token) : List Token :=
  match token with
  | none => tokens
  | some t => t :: tokens

def scanStep (tokens : List Token) (place : Place) (c : Char) : Option (List Token × Place) :=
  match place with
  | .between => (start c).map fun (t, next) => (found t tokens, next)
  | .word read =>
    if isWordChar c then some (tokens, .word (c :: read))
    else do
      let leaf ← ofWord? read.reverse
      let (t, next) ← start c
      some (found t (.leaf leaf :: tokens), next)
  | .text read =>
    if c = '"' then some (.text (String.ofList read.reverse) :: tokens, .between)
    else if c = '\\' then some (tokens, .backslash read)
    else if c.toNat < 32 then none
    else some (tokens, .text (c :: read))
  | .backslash read =>
    if c = 'u' then some (tokens, .code read none 0 0)
    else (escaped? c).map fun e => (tokens, .text (e :: read))
  | .code read high digits value => do
    let digit ← hexValue? c
    let value := value * 16 + digit
    if digits = 3 then (closeCode read high value).map fun next => (tokens, next)
    else some (tokens, .code read high (digits + 1) value)
  | .low read high => if c = '\\' then some (tokens, .lowMark read high) else none
  | .lowMark read high => if c = 'u' then some (tokens, .code read (some high) 0 0) else none

/-- Reads the rest of a text and returns all tokens in order. A text cannot end inside a string. -/
def scanFrom (tokens : List Token) (place : Place) : List Char → Option (List Token)
  | [] =>
    match place with
    | .between => some tokens.reverse
    | .word read => (ofWord? read.reverse).map fun leaf => (Token.leaf leaf :: tokens).reverse
    | _ => none
  | c :: rest =>
    match scanStep tokens place c with
    | some (tokens, next) => scanFrom tokens next rest
    | none => none

def scan? (cs : List Char) : Option (List Token) := scanFrom [] .between cs

/-! ## Values

What is read is the strict grammar, one value with white space around it, with a bound on the number of arrays and
objects inside one another, `maxDepth` unless a caller has a bound of its own. A field name that comes twice in an
object keeps its first place and its last value.

The reader takes the tokens one by one and keeps a stack of the arrays and objects that are open, so its depth is the
length of that stack.
-/

def maxDepth : Nat := 127

/-- An array or object that is open: the items so far, the last one first; the fields so far; or the fields so
far and the name whose value is due. -/
inductive Frame where
  | items (read : List Json)
  | fields (read : Table Json)
  | member (read : Table Json) (name : String)

/-- What must come next. -/
inductive Due where
  | value
  | valueOrClose
  | nameOrClose
  | name
  | colon
  | separator
  | nothing (read : Json)

/-- The open arrays and objects, the innermost first, and what must come next. -/
abbrev Reading := List Frame × Due

def Reading.complete (j : Json) : List Frame → Reading
  | [] => ([], .nothing j)
  | .items read :: outer => (.items (j :: read) :: outer, .separator)
  | .member read name :: outer => (.fields (Table.insert name j read) :: outer, .separator)
  | .fields read :: outer => (.fields read :: outer, .separator)

/-- Opens an array or object, unless too many are open. -/
def Reading.enter (depth : Nat) (frame : Frame) (due : Due) (stack : List Frame) : Option Reading :=
  if stack.length < depth then some (frame :: stack, due) else none

def Reading.leave : List Frame → Token → Option Reading
  | .items read :: outer, .closeArray => some (complete (.array read.reverse) outer)
  | .fields read :: outer, .closeObject => some (complete (.object read) outer)
  | _, _ => none

def Reading.begin (depth : Nat) (stack : List Frame) : Token → Option Reading
  | .text s => some (complete (.string s) stack)
  | .leaf j => some (complete j stack)
  | .openArray => enter depth (.items []) .valueOrClose stack
  | .openObject => enter depth (.fields []) .nameOrClose stack
  | _ => none

def Reading.step (depth : Nat) : Reading → Token → Option Reading
  | (stack, .value), t => begin depth stack t
  | (stack, .valueOrClose), .closeArray => leave stack .closeArray
  | (stack, .valueOrClose), t => begin depth stack t
  | (stack, .nameOrClose), .closeObject => leave stack .closeObject
  | (.fields read :: outer, .nameOrClose), .text s => some (.member read s :: outer, .colon)
  | (.fields read :: outer, .name), .text s => some (.member read s :: outer, .colon)
  | (stack, .colon), .colon => some (stack, .value)
  | (.items read :: outer, .separator), .comma => some (.items read :: outer, .value)
  | (.fields read :: outer, .separator), .comma => some (.fields read :: outer, .name)
  | (stack, .separator), t => leave stack t
  | _, _ => none

def Reading.run (depth : Nat) (state : Reading) : List Token → Option Reading
  | [] => some state
  | t :: rest =>
    match Reading.step depth state t with
    | some next => run depth next rest
    | none => none

def ofTokens? (depth : Nat) (tokens : List Token) : Option Json :=
  match Reading.run depth ([], .value) tokens with
  | some (_, .nothing j) => some j
  | _ => none

/-- The value that a text stands for, with at most `depth` arrays and objects inside one another. -/
def ofCharsWithin? (depth : Nat) (cs : List Char) : Option Json := (scan? cs).bind (ofTokens? depth)

def ofChars? (cs : List Char) : Option Json := ofCharsWithin? maxDepth cs

def ofText? (s : String) : Option Json := ofChars? s.toList

def ofBytes? (bytes : Bytes) : Option Json := (Utf8.decodeChars bytes).toOption.bind ofChars?

def bytes (j : Json) : Bytes := Utf8.encodeChars j.chars

end VariableStore.Json
