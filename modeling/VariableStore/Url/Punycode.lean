/-!
Punycode: a label of a domain written in ASCII. The ASCII characters of the label come first; behind the last
hyphen stand, in a number system whose digits have weights that adapt, the steps that lead from one of the other
characters to the next in order of their code points.
-/
namespace VariableStore.Url.Punycode

def digit (n : Nat) : Char := if n < 26 then Char.ofNat (97 + n) else Char.ofNat (22 + n)

def digitValue? (c : Char) : Option Nat :=
  if c.isDigit then some (c.toNat - 22)
  else if c.isAlpha then some (c.toLower.toNat - 97)
  else none

/-- The least value of a digit at a place that does not end a number. -/
def threshold (place bias : Nat) : Nat := max 1 (min 26 (place - bias))

/-- Divides a step down until it is small, and counts the places that this took. -/
def damp (delta place : Nat) : Nat × Nat :=
  if 455 < delta then damp (delta / 35) (place + 36) else (delta, place)
termination_by delta

/-- The bias after a step, with `count` characters placed so far. -/
def adapt (delta count : Nat) (first : Bool) : Nat :=
  let scaled := if first then delta / 700 else delta / 2
  let (small, place) := damp (scaled + scaled / count) 0
  place + 36 * small / (small + 38)

/-- The digits of a step from a place on, the places counted by 36. -/
def digits (bias place n : Nat) : List Char :=
  let t := threshold place bias
  if n < t then [digit n]
  else digit (t + (n - t) % (36 - t)) :: digits bias (place + 36) ((n - t) / (36 - t))
termination_by n
decreasing_by
  have least : 1 ≤ threshold place bias := Nat.le_max_left _ _
  exact Nat.lt_of_le_of_lt (Nat.div_le_self _ _) (by omega)

/-- The state of writing: the step so far, the bias, and the characters placed. -/
structure Progress where
  delta : Nat
  bias : Nat
  placed : Nat
  written : List Char

/-- Passes over a character of the label while those with a code point are placed. -/
def pass (ascii code : Nat) (p : Progress) (c : Char) : Progress :=
  if c.toNat < code then { p with delta := p.delta + 1 }
  else if c.toNat = code then
    ⟨0, adapt p.delta (p.placed + 1) (p.placed = ascii), p.placed + 1,
      p.written ++ digits p.bias 36 p.delta⟩
  else p

/-- Places the characters with each code point of a rising list, of which `next` is a lower bound. -/
def place (label : List Char) (ascii : Nat) : Nat → List Nat → Progress → Progress
  | _, [], p => p
  | next, code :: codes, p =>
    let start := { p with delta := p.delta + (code - next) * (p.placed + 1) }
    let after := label.foldl (pass ascii code) start
    place label ascii (code + 1) codes { after with delta := after.delta + 1 }

/-- The code points outside ASCII, rising. -/
def foreign (label : List Char) : List Nat :=
  (((label.map Char.toNat).filter (128 ≤ ·)).mergeSort).eraseDups

def encode (label : List Char) : List Char :=
  let ascii := label.filter (·.toNat < 128)
  let p := place label ascii.length 128 (foreign label) ⟨0, 72, ascii.length, []⟩
  ascii ++ (if ascii.isEmpty then [] else ['-']) ++ p.written

/-- Reads a step: digits with rising weights up to the first small one. -/
def step? (bias : Nat) : Nat → Nat → Nat → List Char → Option (Nat × List Char)
  | _, _, _, [] => none
  | place, weight, sum, c :: rest => do
    let n ← digitValue? c
    let t := threshold place bias
    if n < t then some (sum + n * weight, rest)
    else step? bias (place + 36) (weight * (36 - t)) (sum + n * weight) rest

/-- Reads as many steps as there are characters, each of which places one character of the label. -/
def unplace? : Nat → Nat → Nat → Nat → List Char → List Char → Option (List Char)
  | _, _, _, _, label, [] => some label
  | 0, _, _, _, _, _ => none
  | bound + 1, bias, code, position, label, cs => do
    let (moved, rest) ← step? bias 36 1 0 cs
    let count := label.length + 1
    let code' := code + (position + moved) / count
    let position' := (position + moved) % count
    let c ← if h : code'.isValidChar then some (Char.ofNatAux code' h) else none
    unplace? bound (adapt moved count (label.all (·.toNat < 128))) code' (position' + 1)
      (label.insertIdx position' c) rest

/-- Reads a label. A hyphen in front of the steps is there only if there are ASCII characters before it. -/
def decode? (cs : List Char) : Option (List Char) :=
  let tail := (cs.reverse.takeWhile (· ≠ '-')).reverse
  let ascii := (cs.take (cs.length - tail.length)).dropLast
  if cs.any (128 ≤ ·.toNat) || (ascii.isEmpty && tail.length < cs.length) then none
  else unplace? (tail.length + 1) 72 128 0 ascii tail

end VariableStore.Url.Punycode
