import VariableStore.Toml.Value
/-!
Quoted texts. Double quotes allow escapes and single quotes do not; three quotes in place of one let a text go
over several lines. A text starts after its opening quotes here.
-/
namespace VariableStore.Toml

def isGap (c : Char) : Bool := c = ' ' || c = '\t'

/-- A character that may stand on a line as it is: any but a control other than the tab. -/
def isPlain (c : Char) : Bool := c = '\t' || (32 ≤ c.toNat && c.toNat ≠ 127)

def pastNewline? : List Char → Option (List Char)
  | '\n' :: rest => some rest
  | '\r' :: '\n' :: rest => some rest
  | _ => none

namespace Quoted

/-- The number of hexadecimal digits in an escape. -/
def escapeWidth? : Char → Option Nat
  | 'x' => some 2
  | 'u' => some 4
  | 'U' => some 8
  | _ => none

/-- The character that one letter after a backslash stands for. -/
def letter? : Char → Option Char
  | 'b' => some '\x08'
  | 't' => some '\t'
  | 'n' => some '\n'
  | 'f' => some '\x0c'
  | 'r' => some '\r'
  | 'e' => some '\x1b'
  | '"' => some '"'
  | '\\' => some '\\'
  | _ => none

def hexadecimal? (cs : List Char) : Option Nat :=
  cs.foldl (fun n c => do
    let n ← n
    if c.isDigit then some (n * 16 + (c.toNat - 48))
    else if 'a' ≤ c.toLower && c.toLower ≤ 'f' then some (n * 16 + (c.toLower.toNat - 87))
    else none) (some 0)

def charOf? (n : Nat) : Option Char := if h : n.isValidChar then some (Char.ofNatAux n h) else none

/-- The character of an escape, and how many characters the escape takes after the backslash. -/
def escape? : List Char → Option (Char × Nat)
  | [] => none
  | c :: rest =>
    match escapeWidth? c with
    | none => (letter? c).map fun d => (d, 1)
    | some width => do
      let digits := rest.take width
      if digits.length = width then return (← charOf? (← hexadecimal? digits), width + 1) else none

/-- Reads up to the closing quote, where what may stand in between is plain. -/
def raw? (quote : Char) : List Char → Option (List Char × List Char)
  | [] => none
  | c :: rest =>
    if c = quote then some ([], rest)
    else if isPlain c then (raw? quote rest).map fun (text, rest) => (c :: text, rest)
    else none

def escaped? (cs : List Char) : Option (List Char × List Char) :=
  match cs with
  | [] => none
  | '"' :: rest => some ([], rest)
  | '\\' :: rest =>
    match escape? rest with
    | none => none
    | some (c, used) => (escaped? (rest.drop used)).map fun (text, rest) => (c :: text, rest)
  | c :: rest => if isPlain c then (escaped? rest).map fun (text, rest) => (c :: text, rest) else none
termination_by cs.length
decreasing_by all_goals (simp only [List.length_drop, List.length_cons]; omega)

/-- Goes past three closing quotes. Up to two quotes in front of them belong to the text. -/
def close? (quote : Char) (cs : List Char) : Option (List Char × List Char) :=
  let run := min 5 (cs.takeWhile (· = quote)).length
  if 3 ≤ run then some (List.replicate (run - 3) quote, cs.drop run) else none

/-- Reads lines up to the closing quotes, where what may stand in between is plain. -/
def rawLines? (quote : Char) (cs : List Char) : Option (List Char × List Char) :=
  match close? quote cs with
  | some closed => some closed
  | none =>
    match cs with
    | '\r' :: '\n' :: rest => (rawLines? quote rest).map fun (text, rest) => ('\r' :: '\n' :: text, rest)
    | c :: rest =>
      if c = '\n' || isPlain c then (rawLines? quote rest).map fun (text, rest) => (c :: text, rest) else none
    | [] => none

/-- Reads lines up to the closing quotes, with escapes. A backslash at the end of a line leaves out all white
space that follows: `folding` says that this is so. -/
def escapedLines? (folding : Bool) (cs : List Char) : Option (List Char × List Char) :=
  match close? '"' cs with
  | some closed => some closed
  | none =>
    match cs with
    | [] => none
    | '\r' :: '\n' :: rest =>
      if folding then escapedLines? true rest
      else (escapedLines? false rest).map fun (text, rest) => ('\r' :: '\n' :: text, rest)
    | '\\' :: rest =>
      if (pastNewline? (rest.dropWhile isGap)).isSome then escapedLines? true rest
      else match escape? rest with
        | none => none
        | some (c, used) => (escapedLines? false (rest.drop used)).map fun (text, rest) => (c :: text, rest)
    | c :: rest =>
      if folding && (c = '\n' || isGap c) then escapedLines? true rest
      else if c = '\n' || isPlain c then
        (escapedLines? false rest).map fun (text, rest) => (c :: text, rest)
      else none
termination_by cs.length
decreasing_by all_goals (simp only [List.length_drop, List.length_cons]; omega)

/-- A line end right after three opening quotes is no part of the text. -/
def opened (cs : List Char) : List Char := (pastNewline? cs).getD cs

def line? : List Char → Option (List Char × List Char)
  | '"' :: rest => escaped? rest
  | '\'' :: rest => raw? '\'' rest
  | _ => none

def text? : List Char → Option (List Char × List Char)
  | '"' :: '"' :: '"' :: rest => escapedLines? false (opened rest)
  | '\'' :: '\'' :: '\'' :: rest => rawLines? '\'' (opened rest)
  | cs => line? cs

end Quoted

end VariableStore.Toml
