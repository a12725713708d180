import VariableStore.Text.Utf8
/-!
Bytes as texts of ASCII characters: base64, and percent encoding.
-/
namespace VariableStore.Base64

/-! ## Base64

Three bytes are four digits of six bits; one or two bytes at the end are two or three digits, filled up with `=`. The
reader accepts what the writer produces and nothing else: bits that no byte uses must be zero.
-/

def digit (n : Nat) : Char :=
  if n < 26 then Char.ofNat (65 + n)
  else if n < 52 then Char.ofNat (71 + n)
  else if n < 62 then Char.ofNat (n - 4)
  else if n = 62 then '+'
  else '/'

def value? (c : Char) : Option Nat :=
  let n := c.toNat
  if 65 ≤ n ∧ n ≤ 90 then some (n - 65)
  else if 97 ≤ n ∧ n ≤ 122 then some (n - 71)
  else if 48 ≤ n ∧ n ≤ 57 then some (n + 4)
  else if c = '+' then some 62
  else if c = '/' then some 63
  else none

def encodeChars : Bytes → List Char
  | a :: b :: c :: rest =>
    let n := a.toNat * 65536 + b.toNat * 256 + c.toNat
    digit (n / 262144) :: digit (n / 4096 % 64) :: digit (n / 64 % 64) :: digit (n % 64) :: encodeChars rest
  | [a, b] =>
    let n := a.toNat * 1024 + b.toNat * 4
    [digit (n / 4096), digit (n / 64 % 64), digit (n % 64), '=']
  | [a] => [digit (a.toNat / 4), digit (a.toNat * 16 % 64), '=', '=']
  | [] => []

def byte (n : Nat) : UInt8 := UInt8.ofNat (n % 256)

def decodeChars? : List Char → Option Bytes
  | [] => some []
  | [p, q, '=', '='] => do
    let n := (← value? p) * 64 + (← value? q)
    if n % 16 = 0 then some [byte (n / 16)] else none
  | [p, q, r, '='] => do
    let n := ((← value? p) * 64 + (← value? q)) * 64 + (← value? r)
    if n % 4 = 0 then some [byte (n / 1024), byte (n / 4)] else none
  | p :: q :: r :: s :: rest => do
    let n := (((← value? p) * 64 + (← value? q)) * 64 + (← value? r)) * 64 + (← value? s)
    let bytes ← decodeChars? rest
    some (byte (n / 65536) :: byte (n / 256) :: byte n :: bytes)
  | _ => none

def encode (b : Bytes) : String := String.ofList (encodeChars b)

def decode? (s : String) : Option Bytes := decodeChars? s.toList

end VariableStore.Base64

/-! ## Percent encoding

A text is encoded as one segment of a path: letters, digits and `-`, `.`, `_`, `~` stand for themselves, and every
byte of any other character is a percent sign with two hexadecimal digits. `decode?` reads such a segment back.
-/

namespace VariableStore.Percent

def isUnreserved (b : UInt8) : Bool :=
  let c := Char.ofNat b.toNat
  b < 128 && (c.isAlphanum || c == '-' || c == '.' || c == '_' || c == '~')

def hexDigit (n : Nat) : Char := if n < 10 then Char.ofNat (48 + n) else Char.ofNat (55 + n)

def escape (b : UInt8) : List Char := ['%', hexDigit (b.toNat / 16), hexDigit (b.toNat % 16)]

def encodeByte (b : UInt8) : List Char := if isUnreserved b then [Char.ofNat b.toNat] else escape b

def encodeBytes (b : Bytes) : List Char := b.flatMap encodeByte

def encode (s : String) : String := String.ofList (encodeBytes (Utf8.encode s))

def hexValue? (c : Char) : Option Nat :=
  if c.isDigit then some (c.toNat - 48)
  else if 'A' ≤ c ∧ c ≤ 'F' then some (c.toNat - 55)
  else if 'a' ≤ c ∧ c ≤ 'f' then some (c.toNat - 87)
  else none

def decodeBytes? : List Char → Option Bytes
  | [] => some []
  | '%' :: p :: q :: rest => do
    let high ← hexValue? p
    let low ← hexValue? q
    let bytes ← decodeBytes? rest
    some (UInt8.ofNat (high * 16 + low) :: bytes)
  | c :: rest => do
    let bytes ← decodeBytes? rest
    if isUnreserved (UInt8.ofNat c.toNat) && c.toNat < 128 then some (UInt8.ofNat c.toNat :: bytes) else none

def decode? (s : String) : Option String := (decodeBytes? s.toList).bind Utf8.decode?

end VariableStore.Percent
