import VariableStore.Toml.Value
/-!
Words: values that are written without quotes or brackets. A word is a boolean, an integer in one of four bases,
a float, a date, a time, or a date with a time.
-/
namespace VariableStore.Toml

def isWordChar (c : Char) : Bool := c.isAlphanum || c = '_' || c = '+' || c = '-' || c = '.' || c = ':'

namespace Word

/-- Digits, between any two of which an underscore may stand. The underscores are left out. -/
def digits? (isDigit : Char → Bool) : List Char → Option (List Char)
  | [] => none
  | [c] => if isDigit c then some [c] else none
  | c :: '_' :: rest => if isDigit c then (digits? isDigit rest).map (c :: ·) else none
  | c :: rest => if isDigit c then (digits? isDigit rest).map (c :: ·) else none

/-- Decimal digits without a needless zero in front. -/
def whole? (cs : List Char) : Option (List Char) :=
  match digits? Char.isDigit cs with
  | some ['0'] => some ['0']
  | some ('0' :: _) => none
  | other => other

def signed : List Char → List Char × List Char
  | '+' :: rest => (['+'], rest)
  | '-' :: rest => (['-'], rest)
  | rest => ([], rest)

def digitValue (c : Char) : Nat :=
  if c.isDigit then c.toNat - 48 else c.toLower.toNat - 87

def isDigitOf (base : Nat) (c : Char) : Bool :=
  (c.isDigit || ('a' ≤ c.toLower && c.toLower ≤ 'f')) && digitValue c < base

def ofDigits (base : Nat) (cs : List Char) : Nat := cs.foldl (fun n c => n * base + digitValue c) 0

/-- The integer that a word stands for, whatever its size. -/
def unboundedInteger? : List Char → Option Int
  | '0' :: 'x' :: cs => (digits? (isDigitOf 16) cs).map fun ds => ofDigits 16 ds
  | '0' :: 'o' :: cs => (digits? (isDigitOf 8) cs).map fun ds => ofDigits 8 ds
  | '0' :: 'b' :: cs => (digits? (isDigitOf 2) cs).map fun ds => ofDigits 2 ds
  | cs =>
    let (sign, unsigned) := signed cs
    (whole? unsigned).map fun ds =>
      let n : Int := ofDigits 10 ds
      if sign = ['-'] then -n else n

/-- Whether an integer fits into 128 bits, those below zero in two's complement. -/
def fits : Int → Bool
  | .ofNat n => n < Nat.pow 2 128
  | .negSucc n => n < Nat.pow 2 127

/-- The integer that a word stands for. It must fit into 128 bits. -/
def integer? (cs : List Char) : Option Int := (unboundedInteger? cs).filter fits

/-- The float that a word stands for. Only the name of infinity stands for an infinite one. -/
def float? (cs : List Char) : Option NumberText := do
  let (sign, unsigned) := signed cs
  if unsigned = "inf".toList then some .infinite
  else if unsigned = "nan".toList then some .notANumber
  else
    let isMark : Char → Bool := fun c => c = 'e' || c = 'E'
    let mantissa := unsigned.takeWhile fun c => !isMark c
    let whole ← whole? (mantissa.takeWhile (· ≠ '.'))
    let fraction ← match mantissa.dropWhile (· ≠ '.') with
      | [] => some []
      | point :: rest => (digits? Char.isDigit rest).map (point :: ·)
    let exponent ← match unsigned.dropWhile fun c => !isMark c with
      | [] => some []
      | mark :: rest =>
        let (sign, unsigned) := signed rest
        (digits? Char.isDigit unsigned).map fun ds => mark :: sign ++ ds
    match ← NumberText.ofChars? (sign ++ whole ++ fraction ++ exponent) with
    | .finite x => if fraction.isEmpty && exponent.isEmpty then none else some (.finite x)
    | _ => none

/-- Reads a number of as many digits as are asked for. -/
def fixed? (width : Nat) (cs : List Char) : Option (Nat × List Char) :=
  let ds := cs.take width
  if ds.length = width && ds.all Char.isDigit then some (ofDigits 10 ds, cs.drop width) else none

def past? (c : Char) : List Char → Option (List Char)
  | d :: rest => if d = c then some rest else none
  | [] => none

def daysOf (year month : Nat) : Nat :=
  if month = 2 then if year % 4 = 0 && (year % 100 ≠ 0 || year % 400 = 0) then 29 else 28
  else if month = 4 || month = 6 || month = 9 || month = 11 then 30
  else 31

def pastDate? (cs : List Char) : Option (List Char) := do
  let (year, cs) ← fixed? 4 cs
  let (month, cs) ← fixed? 2 (← past? '-' cs)
  let (day, cs) ← fixed? 2 (← past? '-' cs)
  if 1 ≤ month && month ≤ 12 && 1 ≤ day && day ≤ daysOf year month then some cs else none

def pastFraction? : List Char → Option (List Char)
  | '.' :: rest => if (rest.takeWhile Char.isDigit).isEmpty then none else some (rest.dropWhile Char.isDigit)
  | rest => some rest

/-- Goes past a time, in which the seconds may be left out. -/
def pastTime? (cs : List Char) : Option (List Char) := do
  let (hour, cs) ← fixed? 2 cs
  let (minute, cs) ← fixed? 2 (← past? ':' cs)
  if hour ≤ 23 && minute ≤ 59 then
    match cs with
    | ':' :: rest =>
      let (second, cs) ← fixed? 2 rest
      if second ≤ 60 then pastFraction? cs else none
    | _ => some cs
  else none

/-- Whether a text is nothing or the distance of a time zone. -/
def isOffset : List Char → Bool
  | [] => true
  | [c] => c = 'Z' || c = 'z'
  | sign :: cs =>
    (sign = '+' || sign = '-') &&
      match fixed? 2 cs with
      | some (hours, ':' :: rest) =>
        match fixed? 2 rest with
        | some (minutes, []) => hours ≤ 23 && minutes ≤ 59
        | _ => false
      | _ => false

def isDate (cs : List Char) : Bool := pastDate? cs = some []

def isTime (cs : List Char) : Bool := pastTime? cs = some []

/-- Whether a word is a date with a time, and perhaps a time zone. -/
def isDateTime (cs : List Char) : Bool :=
  match pastDate? cs with
  | some (mark :: rest) =>
    (mark = 'T' || mark = 't' || mark = ' ') &&
      match pastTime? rest with
      | some offset => isOffset offset
      | none => false
  | _ => false

def value? (cs : List Char) : Option Value :=
  if cs = "true".toList then some (.boolean true)
  else if cs = "false".toList then some (.boolean false)
  else if isDate cs || isTime cs || isDateTime cs then some .moment
  else
    match integer? cs with
    | some i => some (.integer i)
    | none => (float? cs).map .float

/-- Splits off a word. A date and a time with a single space between them are one word. -/
def split (cs : List Char) : List Char × List Char :=
  let word := cs.takeWhile isWordChar
  match cs.dropWhile isWordChar with
  | ' ' :: c :: rest =>
    if isDate word && c.isDigit then
      (word ++ ' ' :: (c :: rest).takeWhile isWordChar, (c :: rest).dropWhile isWordChar)
    else (word, ' ' :: c :: rest)
  | rest => (word, rest)

end Word

end VariableStore.Toml
