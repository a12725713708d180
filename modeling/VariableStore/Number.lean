/-!
Numbers: those of the binary64 format with their texts, and unsigned integers with a bound.
-/
namespace VariableStore

/-! ## The binary64 format

A finite number is a sign and a multiple of 2^-1074, the smallest positive number of the format: `significand` shifted
left by `exponent`. Each number has one such form, so equality is decided on the parts; the two zeros differ.
`ofRatio?` is the one place where rounding happens: to the nearest number, a tie to the even significand. Products and
quotients are the rounded exact ones.
-/

/-- A finite binary64 number: `significand * 2 ^ exponent` units of 2^-1074, negated if `negative`. -/
structure Binary64 where
  negative : Bool
  significand : Nat
  exponent : Nat
  significand_lt : significand < Nat.pow 2 53
  exponent_le : exponent ≤ 2045
  normal : exponent = 0 ∨ Nat.pow 2 52 ≤ significand
  deriving DecidableEq, Repr

namespace Binary64

def zero (negative : Bool) : Binary64 := ⟨negative, 0, 0, by decide, by decide, .inl rfl⟩

instance : Inhabited Binary64 := ⟨zero false⟩

/-- The magnitude in units of 2^-1074. -/
def units (x : Binary64) : Nat := x.significand * Nat.pow 2 x.exponent

/-- The same magnitude with the other sign if `flip`. -/
def negateIf (flip : Bool) (x : Binary64) : Binary64 := { x with negative := x.negative != flip }

/-- How many units make one. -/
def one : Nat := Nat.pow 2 1074

/-- The number with these parts, if they are in range. A significand of 2^53, which rounding up can give, is
taken as 2^52 at the next exponent. -/
def ofParts? (negative : Bool) (significand exponent : Nat) : Option Binary64 :=
  if h : significand < Nat.pow 2 53 ∧ exponent ≤ 2045 ∧ (exponent = 0 ∨ Nat.pow 2 52 ≤ significand) then
    some ⟨negative, significand, exponent, h.1, h.2.1, h.2.2⟩
  else if h : significand = Nat.pow 2 53 ∧ exponent + 1 ≤ 2045 then
    some ⟨negative, Nat.pow 2 52, exponent + 1, by decide, h.2, .inr (Nat.le_refl _)⟩
  else none

/-- The integer nearest to a quotient, a tie going to the even one. -/
def nearest (numerator denominator : Nat) : Nat :=
  let quotient := numerator / denominator
  let remainder := 2 * (numerator % denominator)
  if denominator < remainder ∨ (denominator = remainder ∧ quotient % 2 = 1) then quotient + 1 else quotient

/-- The number nearest to `numerator / denominator` units, or nothing if that is past the largest one. -/
def ofUnits? (negative : Bool) (numerator denominator : Nat) : Option Binary64 :=
  let shift := (numerator / denominator).log2 - 52
  ofParts? negative (nearest numerator (denominator * Nat.pow 2 shift)) shift

/-- The number nearest to `numerator / denominator`, or nothing if that is past the largest one. -/
def ofRatio? (negative : Bool) (numerator denominator : Nat) : Option Binary64 :=
  ofUnits? negative (numerator * one) denominator

def ofDecimal? (negative : Bool) (significand : Nat) : Int → Option Binary64
  | .ofNat e => ofRatio? negative (significand * Nat.pow 10 e) 1
  | .negSucc e => ofRatio? negative significand (Nat.pow 10 (e + 1))

def mul? (x y : Binary64) : Option Binary64 :=
  ofUnits? (x.negative != y.negative) (x.units * y.units) one

def div? (x y : Binary64) : Option Binary64 :=
  ofUnits? (x.negative != y.negative) (x.units * one) y.units

end Binary64

/-! ## The shortest text

The text has the fewest digits that read back as the number, and of those the nearest to it. `digits` decides the
number, `Layout` how digits and exponent are written.
-/

/-- A decimal number `significand * 10 ^ exponent`. -/
structure Decimal where
  significand : Nat
  exponent : Int
  deriving DecidableEq, Repr

namespace Binary64

/-- More decimal places than the smallest positive number needs for its first digit. -/
def deepest : Nat := 400

/-- The exponent of ten of the first digit of a number other than zero. -/
def leading (x : Binary64) : Int :=
  ((Nat.toDigits 10 (x.units * Nat.pow 10 deepest / one)).length : Int) - 1 - deepest

/-- The number of steps of `10 ^ exponent` in a number, as a fraction. -/
def steps (x : Binary64) : Int → Nat × Nat
  | .ofNat e => (x.units, one * Nat.pow 10 e)
  | .negSucc e => (x.units * Nat.pow 10 (e + 1), one)

/-- Whether a decimal number rounds to `x`. -/
def reads (x : Binary64) (d : Decimal) : Bool :=
  ofDecimal? x.negative d.significand d.exponent = some x

/-- The decimal number with this exponent that is nearest to `x` among those that round to `x`. Only the two
neighbours of `x` on the grid of such numbers can be meant; a tie goes to the even one. -/
def neighbour? (x : Binary64) (exponent : Int) : Option Decimal :=
  let (numerator, denominator) := x.steps exponent
  let low := numerator / denominator
  let below : Decimal := ⟨low, exponent⟩
  let above : Decimal := ⟨low + 1, exponent⟩
  match x.reads below, x.reads above with
  | true, true => some ⟨nearest numerator denominator, exponent⟩
  | true, false => some below
  | false, true => some above
  | false, false => none

/-- The decimal number with `count` digits that is nearest to `x` among those that round to `x`. -/
def withDigits? (x : Binary64) (count : Nat) : Option Decimal := x.neighbour? (x.leading - count + 1)

/-- The first answer for `count`, `count + 1`, … digits, `fuel` of them. -/
def fewestFrom (x : Binary64) (count : Nat) : Nat → Option Decimal
  | 0 => none
  | fuel + 1 => (x.withDigits? count).or (fewestFrom x (count + 1) fuel)

/-- The decimal number with the fewest digits that rounds to `x`. Seventeen digits always suffice; the exact
value stands behind them, so that the answer rounds to `x` whatever the search finds. -/
def decimal (x : Binary64) : Decimal :=
  if x.significand = 0 then ⟨0, 0⟩
  else (x.fewestFrom 1 17).getD ⟨x.units * Nat.pow 5 1074, -1074⟩

end Binary64

/-- How a decimal number is laid out: `positionalFrom` and `positionalTo` bound the exponents of the first
digit that are written without an exponent. -/
structure Decimal.Layout where
  positionalFrom : Int
  positionalTo : Int

/-- The digits of a decimal number without the zeros at their end. -/
def Decimal.digits (d : Decimal) : List Char :=
  match ((Nat.toDigits 10 d.significand).reverse.dropWhile (· = '0')).reverse with
  | [] => ['0']
  | ds => ds

/-- The exponent of ten of the first digit. -/
def Decimal.leading (d : Decimal) : Int :=
  if d.significand = 0 then 0 else d.exponent + (Nat.toDigits 10 d.significand).length - 1

/-- Digits with a point after the first `place` of them; there is a digit on both sides of the point. -/
def Decimal.pointed (digits : List Char) : Int → List Char
  | .ofNat place =>
    let whole := digits.take (place + 1) ++ List.replicate (place + 1 - digits.length) '0'
    let fraction := digits.drop (place + 1)
    whole ++ '.' :: (if fraction.isEmpty then ['0'] else fraction)
  | .negSucc zeros => '0' :: '.' :: List.replicate zeros '0' ++ digits

/-- Digits in scientific form: a point after the first one if there are more, and an exponent with its sign. -/
def Decimal.scientific (digits : List Char) (exponent : Int) : List Char :=
  let mantissa := match digits with
    | first :: more@(_ :: _) => first :: '.' :: more
    | _ => digits
  let sign := if exponent < 0 then '-' else '+'
  mantissa ++ 'e' :: sign :: Nat.toDigits 10 exponent.natAbs

def Decimal.text (layout : Decimal.Layout) (d : Decimal) : List Char :=
  if layout.positionalFrom ≤ d.leading ∧ d.leading < layout.positionalTo then
    Decimal.pointed d.digits d.leading
  else Decimal.scientific d.digits d.leading

def Binary64.text (layout : Decimal.Layout) (x : Binary64) : List Char :=
  (if x.negative then ['-'] else []) ++ x.decimal.text layout

/-! ## Reading

A decimal text is read with a single rounding, to the nearest number.
-/

/-- A number text: finite, or past the largest number, or one of the names for infinity, or not a number. -/
inductive NumberText where
  | finite (x : Binary64)
  | infinite
  | notANumber
  deriving DecidableEq, Repr

namespace NumberText

/-- Digits with an optional point among them: the digits of both sides, and how many stand behind the point.
There must be a digit on one side. -/
def significand? (cs : List Char) : Option (List Char × Nat × List Char) :=
  let whole := cs.takeWhile Char.isDigit
  let (fraction, rest) := match cs.dropWhile Char.isDigit with
    | '.' :: rest => (rest.takeWhile Char.isDigit, rest.dropWhile Char.isDigit)
    | rest => ([], rest)
  if whole.isEmpty && fraction.isEmpty then none else some (whole ++ fraction, fraction.length, rest)

def exponent? : List Char → Option Int
  | [] => some 0
  | mark :: cs =>
    if mark = 'e' ∨ mark = 'E' then
      let (minus, digits) := match cs with
        | '-' :: rest => (true, rest)
        | '+' :: rest => (false, rest)
        | rest => (false, rest)
      if digits.isEmpty || !digits.all Char.isDigit then none
      else
        let size : Int := Nat.ofDigitChars 10 digits 0
        some (if minus then -size else size)
    else none

/-- The exponent past which no digits of the given number make a difference. -/
def horizon (digits : List Char) : Int := digits.length + 400

/-- The number `significand * 10 ^ exponent`. Exponents past the horizon give zero or infinity at once. -/
def ofParts (minus : Bool) (digits : List Char) (exponent : Int) : NumberText :=
  let significand := Nat.ofDigitChars 10 digits 0
  if significand = 0 ∨ exponent < -horizon digits then .finite (.zero minus)
  else if horizon digits < exponent then .infinite
  else
    match Binary64.ofDecimal? minus significand exponent with
    | some x => .finite x
    | none => .infinite

/-- Reads a decimal text with an optional sign, or the name of infinity or of no number in any case. -/
def ofChars? (cs : List Char) : Option NumberText :=
  let (minus, unsigned) := match cs with
    | '-' :: rest => (true, rest)
    | '+' :: rest => (false, rest)
    | rest => (false, rest)
  let name := String.ofList (unsigned.map Char.toLower)
  if name = "inf" ∨ name = "infinity" then some .infinite
  else if name = "nan" then some .notANumber
  else do
    let (digits, places, rest) ← significand? unsigned
    let exponent ← exponent? rest
    some (ofParts minus digits (exponent - places))

end NumberText

/-! ## Unsigned integers

An unsigned integer with a bound is read from the left to the right. A plus sign may stand in front. What comes first
in the text is reported: a character that is no digit, or the digit that leads past the bound.
-/

inductive IntegerFault where
  | empty
  | invalidDigit
  | tooLarge
  deriving DecidableEq, Repr

def IntegerFault.message : IntegerFault → String
  | .empty => "cannot parse integer from empty string"
  | .invalidDigit => "invalid digit found in string"
  | .tooLarge => "number too large to fit in target type"

namespace Unsigned

/-- Appends digits to a number below a bound. -/
def extend (bound value : Nat) : List Char → Except IntegerFault Nat
  | [] => .ok value
  | c :: rest =>
    if c.isDigit then
      let next := value * 10 + (c.toNat - 48)
      if next < bound then extend bound next rest else .error .tooLarge
    else .error .invalidDigit

def ofChars? (bound : Nat) : List Char → Except IntegerFault Nat
  | [] => .error .empty
  | ['+'] => .error .invalidDigit
  | '+' :: digits => extend bound 0 digits
  | digits => extend bound 0 digits

end Unsigned

end VariableStore
