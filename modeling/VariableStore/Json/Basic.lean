import VariableStore.Number
import VariableStore.Table
/-!
JSON values, their numbers and their compact text.
-/
namespace VariableStore.Json

/-! ## Numbers

An integer literal is kept as an integer where 64 bits hold it, unsigned without a sign and in two's complement with
one; every other literal is a binary64 number, and so is `-0`.

A binary64 literal is read in two steps that each round: the leading digits that 64 bits hold become a number, and
that is scaled by one power of ten. Most literals, all those of up to fifteen digits with small exponents among them,
come out as the nearest number; some long ones come out as a neighbour of it. A literal past the largest number is no
JSON number.
-/

inductive Number where
  | natural (n : Nat) (fits : n < UInt64.size)
  | negative (n : Nat) (positive : 0 < n) (fits : n ≤ UInt64.size / 2)
  | real (x : Binary64)
  deriving DecidableEq, Repr

namespace Number

/-- Exponents from -5 to 15 are written positionally. -/
def layout : Decimal.Layout := ⟨-5, 16⟩

def text : Number → List Char
  | natural n _ => Nat.toDigits 10 n
  | negative n _ _ => '-' :: Nat.toDigits 10 n
  | real x => x.text layout

structure Literal where
  minus : Bool
  whole : List Char
  fraction : List Char
  exponent : Option Int
  deriving DecidableEq, Repr

/-- The exponent part of a literal after its mark: an optional sign and digits up to the end. -/
def exponentOf? (cs : List Char) : Option Int :=
  let (minus, digits) := match cs with
    | '+' :: rest => (false, rest)
    | '-' :: rest => (true, rest)
    | rest => (false, rest)
  if digits.isEmpty || !digits.all Char.isDigit then none
  else
    let size := Nat.ofDigitChars 10 digits 0
    some (if minus then -(size : Int) else size)

/-- Splits a word into the parts of a literal: an optional minus, whole digits without a needless zero in
front, a fraction after a point, and an exponent after an `e`. -/
def Literal.ofWord? (word : List Char) : Option Literal :=
  let (minus, unsigned) := match word with
    | '-' :: rest => (true, rest)
    | rest => (false, rest)
  let whole := unsigned.takeWhile Char.isDigit
  let wholeValid := match whole with
    | [] => false
    | ['0'] => true
    | first :: _ => first ≠ '0'
  let (fractionValid, fraction, rest) := match unsigned.dropWhile Char.isDigit with
    | '.' :: rest =>
      let digits := rest.takeWhile Char.isDigit
      (!digits.isEmpty, digits, rest.dropWhile Char.isDigit)
    | rest => (true, [], rest)
  if !(wholeValid && fractionValid) then none
  else match rest with
    | [] => some ⟨minus, whole, fraction, none⟩
    | mark :: rest =>
      if mark = 'e' ∨ mark = 'E' then (exponentOf? rest).map fun e => ⟨minus, whole, fraction, some e⟩
      else none

/-- The largest significand that is kept while digits are read. -/
def capacity : Nat := UInt64.size

/-- Appends digits to a significand while it stays below `capacity`, and returns the digits left. -/
def gather (significand : Nat) : List Char → Nat × List Char
  | [] => (significand, [])
  | c :: rest =>
    let next := significand * 10 + (c.toNat - 48)
    if next < capacity then gather next rest else (significand, c :: rest)

/-- The largest power of ten that scales at once. -/
def reach : Nat := 308

def power (e : Nat) : Option Binary64 := Binary64.ofRatio? false (Nat.pow 10 e) 1

/-- Divides by `10 ^ e`, by `10 ^ reach` at a time. -/
def scaleDown (x : Binary64) (e : Nat) : Option Binary64 :=
  if e ≤ reach then do x.div? (← power e)
  else if x.significand = 0 then some x
  else do scaleDown (← x.div? (← power reach)) (e - reach)
termination_by e
decreasing_by simp only [reach] at *; omega

/-- Multiplies by `10 ^ e`. No number other than zero can be scaled up past `reach`. -/
def scaleUp (x : Binary64) (e : Nat) : Option Binary64 :=
  if e ≤ reach then do x.mul? (← power e)
  else if x.significand = 0 then some x
  else none

/-- The number `significand * 10 ^ exponent`, rounded once for the significand and once for the power. -/
def scaled? (significand : Nat) (exponent : Int) : Option Binary64 := do
  let x ← Binary64.ofRatio? false significand 1
  match exponent with
  | .ofNat e => scaleUp x e
  | .negSucc e => scaleDown x (e + 1)

/-- The binary64 number that a literal stands for. Digits past the capacity count only as powers of ten in the
whole part, and not at all in the fraction. -/
def Literal.real? (l : Literal) : Option Binary64 :=
  let (whole, dropped) := gather 0 l.whole
  let (significand, ignored) := gather whole l.fraction
  let exponent := l.exponent.getD 0 + dropped.length - (l.fraction.length - ignored.length : Nat)
  (scaled? significand exponent).map (Binary64.negateIf l.minus)

def Literal.number? (l : Literal) : Option Number :=
  let whole := Nat.ofDigitChars 10 l.whole 0
  if l.fraction.isEmpty && l.exponent.isNone then
    if l.minus then
      if h : 0 < whole ∧ whole ≤ UInt64.size / 2 then some (.negative whole h.1 h.2)
      else l.real?.map .real
    else if h : whole < UInt64.size then some (.natural whole h)
    else l.real?.map .real
  else l.real?.map .real

def ofWord? (word : List Char) : Option Number := (Literal.ofWord? word).bind Literal.number?

/-- An integer as a number: unsigned if it is not negative, and rounded to binary64 past 64 bits. -/
def ofInt? (i : Int) : Option Number := ofWord? (toString i).toList

end Number

end VariableStore.Json

/-! ## Values

An object keeps its fields in order, and the reader gives no field twice.

The text of a value has no white space. In strings only the quote, the backslash and the controls below the space are
escaped, the latter by a letter where JSON has one.
-/

namespace VariableStore

inductive Json where
  | null
  | bool (b : Bool)
  | number (n : Json.Number)
  | string (s : String)
  | array (items : List Json)
  | object (fields : List (String × Json))
  deriving BEq, Repr, Inhabited

namespace Json

def hexDigit (n : Nat) : Char := Nat.digitChar (n % 16)

def escape (c : Char) : List Char :=
  match c with
  | '"' => ['\\', '"']
  | '\\' => ['\\', '\\']
  | '\x08' => ['\\', 'b']
  | '\x09' => ['\\', 't']
  | '\x0a' => ['\\', 'n']
  | '\x0c' => ['\\', 'f']
  | '\x0d' => ['\\', 'r']
  | c => if c.toNat < 32 then ['\\', 'u', '0', '0', hexDigit (c.toNat / 16), hexDigit c.toNat] else [c]

def quoted (s : String) : List Char := '"' :: (s.toList.flatMap escape ++ ['"'])

def commaSeparated : List (List Char) → List Char
  | [] => []
  | [part] => part
  | part :: parts => part ++ ',' :: commaSeparated parts

mutual

def chars : Json → List Char
  | null => ['n', 'u', 'l', 'l']
  | bool true => ['t', 'r', 'u', 'e']
  | bool false => ['f', 'a', 'l', 's', 'e']
  | number n => n.text
  | string s => quoted s
  | array items => '[' :: (commaSeparated (itemChars items) ++ [']'])
  | object fields => '\x7b' :: (commaSeparated (fieldChars fields) ++ ['\x7d'])

def itemChars : List Json → List (List Char)
  | [] => []
  | item :: rest => item.chars :: itemChars rest

def fieldChars : List (String × Json) → List (List Char)
  | [] => []
  | (name, value) :: rest => (quoted name ++ ':' :: value.chars) :: fieldChars rest

end

def compact (j : Json) : String := String.ofList j.chars

def isNull : Json → Bool
  | null => true
  | _ => false

/-- The text that a scalar other than null stands for: a string itself, a boolean or a number as written. -/
def scalarText? : Json → Option String
  | string s => some s
  | bool b => some (if b then "true" else "false")
  | number n => some (String.ofList n.text)
  | null | array _ | object _ => none

/-- The text of any value but null: that of a scalar, or the compact text of a structure. -/
def coercedText (j : Json) : String := j.scalarText?.getD j.compact

end Json

end VariableStore
