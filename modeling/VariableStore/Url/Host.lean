import VariableStore.Text.Class
import VariableStore.Text.Encoded
import VariableStore.Url.Domain
/-!
Hosts of URLs, in the form in which they are written.
-/
namespace VariableStore.Url

/-! ## Escapes

Each part of a URL has its own set of characters that must be escaped; controls and characters outside ASCII must be
escaped everywhere. A percent sign is left as it is.
-/

/-- Escapes controls, what is outside ASCII, and the characters of a set. -/
def escape (set : List Char) (cs : List Char) : List Char :=
  cs.flatMap fun c =>
    if c.toNat < 32 || 127 ≤ c.toNat || set.contains c then (Utf8.encodeChars [c]).flatMap Percent.escape
    else [c]

/-- The bytes of a part in which escapes are undone. What only looks like an escape is kept. -/
def unescape : List Char → Bytes
  | [] => []
  | '%' :: p :: q :: rest =>
    match Percent.hexValue? p, Percent.hexValue? q with
    | some high, some low => UInt8.ofNat (high * 16 + low) :: unescape rest
    | _, _ => 37 :: unescape (p :: q :: rest)
  | c :: rest => Utf8.encodeChars [c] ++ unescape rest

def fragmentSet : List Char := [' ', '"', '<', '>', Char.ofNat 96]

def querySet : List Char := [' ', '"', '#', '<', '>']

def specialQuerySet : List Char := '\'' :: querySet

def pathSet : List Char := querySet ++ ['?', Char.ofNat 96, '\x7b', '\x7d']

def userSet : List Char := pathSet ++ ['/', ':', ';', '=', '@', '[', '\\', ']', '^', '|']

/-! ## Addresses

An address of version 4 is one to four numbers with points between them, the last of which fills up the bytes that are
left; each may be decimal, octal or hexadecimal. An address of version 6 is eight pieces of 16 bits, with one run of
zeros left out, and the last two may be written as an address of version 4.
-/

namespace Ipv4

/-- The base of a number, and its digits. -/
def base (cs : List Char) : Nat × List Char :=
  match cs with
  | '0' :: 'x' :: rest => (16, rest)
  | '0' :: 'X' :: rest => (16, rest)
  | '0' :: c :: rest => (8, c :: rest)
  | cs => (10, cs)

/-- The value of a digit in any base up to 16, and 16 for anything else. -/
def digitValue (c : Char) : Nat :=
  if c.isDigit then c.toNat - 48
  else if 'a' ≤ c.toLower ∧ c.toLower ≤ 'f' then c.toLower.toNat - 87
  else 16

/-- A number of any size. A prefix without digits is zero. -/
def number? (cs : List Char) : Option Nat :=
  if cs.isEmpty then none
  else
    let (base, digits) := base cs
    if digits.all fun c => digitValue c < base then
      some (digits.foldl (fun n c => n * base + digitValue c) 0)
    else none

/-- The parts of a domain, without an empty one at the end. -/
def parts (domain : List Char) : List (List Char) :=
  let parts := Text.splitChars '.' domain
  if parts.getLast? = some [] then parts.dropLast else parts

/-- Whether a domain must be an address, since its last part is a number. -/
def isMeant (domain : List Char) : Bool :=
  match (parts domain).getLast? with
  | none => false
  | some last => (!last.isEmpty && last.all Char.isDigit) || (number? last).isSome

/-- The address that numbers stand for, with `weight` for the first of them. -/
def ofNumbers? (weight : Nat) : List Nat → Option Nat
  | [] => none
  | [last] => if last < weight * 256 then some last else none
  | n :: rest => do
    let tail ← ofNumbers? (weight / 256) rest
    if n < 256 then some (n * weight + tail) else none

def ofChars? (domain : List Char) : Option Nat := do
  let parts := parts domain
  if 4 < parts.length then none
  else ofNumbers? (16777216) (← parts.mapM number?)

def text (address : Nat) : List Char :=
  let byte (weight : Nat) : List Char := Nat.toDigits 10 (address / weight % 256)
  byte 16777216 ++ '.' :: byte 65536 ++ '.' :: byte 256 ++ '.' :: byte 1

end Ipv4

namespace Ipv6

/-- A piece of at most four hexadecimal digits. -/
def piece? (cs : List Char) : Option Nat :=
  if cs.isEmpty || 4 < cs.length || cs.any (fun c => 16 ≤ Ipv4.digitValue c) then none
  else some (cs.foldl (fun n c => n * 16 + Ipv4.digitValue c) 0)

/-- A decimal byte without a needless zero in front. -/
def byte? (cs : List Char) : Option Nat :=
  let n := Nat.ofDigitChars 10 cs 0
  if cs.isEmpty || cs.any (fun c => !c.isDigit) || (cs.head? = some '0' && 1 < cs.length) || 255 < n then none
  else some n

/-- The two pieces of an address of version 4. -/
def tail? (cs : List Char) : Option (List Nat) := do
  match ← (Text.splitChars '.' cs).mapM byte? with
  | [a, b, c, d] => some [a * 256 + b, c * 256 + d]
  | _ => none

/-- The pieces between colons. Only the last may be an address of version 4. -/
def pieces? : List (List Char) → Option (List Nat)
  | [] => some []
  | [last] => if last.contains '.' then tail? last else (piece? last).map fun n => [n]
  | first :: rest => do return (← piece? first) :: (← pieces? rest)

def run? (cs : List Char) : Option (List Nat) := if cs.isEmpty then some [] else pieces? (Text.splitChars ':' cs)

def splitPair : List Char → Option (List Char × List Char)
  | ':' :: ':' :: rest => some ([], rest)
  | c :: rest => (splitPair rest).map fun (front, back) => (c :: front, back)
  | [] => none

def ofChars? (cs : List Char) : Option (List Nat) := do
  match splitPair cs with
  | none =>
    let pieces ← run? cs
    if pieces.length = 8 then some pieces else none
  | some (front, back) =>
    if front.contains '.' then none
    else
      let front ← run? front
      let back ← run? back
      let missing := 8 - (front.length + back.length)
      if missing = 0 then none else some (front ++ List.replicate missing 0 ++ back)

def zeros (pieces : List Nat) : Nat := (pieces.takeWhile (· = 0)).length

/-- Where the first longest run of zeros starts, from a position on, and its length. -/
def longest (start : Nat) : List Nat → Nat × Nat
  | [] => (start, 0)
  | n :: rest =>
    let here := zeros (n :: rest)
    let later := longest (start + 1) rest
    if later.2 ≤ here then (start, here) else later

def pieceText (n : Nat) : List Char := Nat.toDigits 16 n

def joined : List Nat → List Char
  | [] => []
  | [n] => pieceText n
  | n :: rest => pieceText n ++ ':' :: joined rest

/-- The text of an address. The first longest run of zeros is left out, unless it is a single one. -/
def text (pieces : List Nat) : List Char :=
  let (start, length) := longest 0 pieces
  if length < 2 then joined pieces
  else joined (pieces.take start) ++ ':' :: ':' :: joined (pieces.drop (start + length))

end Ipv6

/-! ## Hosts

A host in brackets is an address of version 6. In special URLs any other host is a domain, or an address of version 4
if its last part is a number; elsewhere it is kept as it is, with escapes.
-/

namespace Host

/-- An address in brackets, without the opening one. -/
def bracketed? (cs : List Char) : Option (List Char) := do
  if cs.getLast? = some ']' then
    let pieces ← Ipv6.ofChars? cs.dropLast
    return '[' :: (Ipv6.text pieces ++ [']'])
  else none

def special? (cs : List Char) : Option (List Char) :=
  match cs with
  | '[' :: rest => bracketed? rest
  | _ => do
    let domain ← Domain.ofChars? (← (Utf8.decode? (unescape cs)).map String.toList)
    if domain.isEmpty then none
    else if Ipv4.isMeant domain then (Ipv4.ofChars? domain).map Ipv4.text
    else some domain

def forbidden : List Char :=
  ['\x00', '\t', '\n', '\r', ' ', '#', '/', ':', '<', '>', '?', '@', '[', '\\', ']', '^', '|']

def plain? (cs : List Char) : Option (List Char) :=
  match cs with
  | '[' :: rest => bracketed? rest
  | _ => if cs.any forbidden.contains then none else some (escape [] cs)

end Host

end VariableStore.Url
