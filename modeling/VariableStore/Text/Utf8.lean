/-!
UTF-8. A text is written as bytes by `encode` and read back by `decode`, which says where and how a byte
string stops being UTF-8; `decodeLossy` puts U+FFFD for each broken sequence instead of stopping.

The reader goes byte by byte. Between two characters its state is empty; inside a character it holds the
sequence begun so far, with the range that the next byte must lie in. These ranges exclude overlong forms,
surrogates and values past U+10FFFF, so a sequence is given up at the first byte that cannot belong to it.
-/
namespace VariableStore

abbrev Bytes := List UInt8

namespace Utf8

/-- How a byte string fails to be UTF-8: a sequence of `length` bytes from `index` that no character has, or
an end of input inside the sequence from `index`. -/
inductive Fault where
  | invalid (index length : Nat)
  | incomplete (index : Nat)
  deriving DecidableEq, Repr

/-- The text of a fault. The first form speaks of bytes also when there is one. -/
def Fault.message : Fault → String
  | .invalid index length => s!"invalid utf-8 sequence of {length} bytes from index {index}"
  | .incomplete index => s!"incomplete utf-8 byte sequence from index {index}"

/-- A character begun: `size` bytes are read and carry `bits`, `missing` bytes are to come, and the next of
them lies between `low` and `high`. -/
structure Sequence where
  size : Nat
  bits : Nat
  missing : Nat
  low : UInt8
  high : UInt8
  deriving DecidableEq, Repr

/-- What a byte means between two characters. -/
inductive Lead where
  | char (c : Char)
  | sequence (s : Sequence)
  | stray
  deriving DecidableEq, Repr

def continuing (missing bits : Nat) : Lead := .sequence ⟨1, bits, missing, 0x80, 0xBF⟩

def lead (b : UInt8) : Lead :=
  if b < 0x80 then .char (Char.ofNat b.toNat)
  else if b < 0xC2 then .stray
  else if b < 0xE0 then continuing 1 (b.toNat % 32)
  else if b = 0xE0 then .sequence ⟨1, 0, 2, 0xA0, 0xBF⟩
  else if b = 0xED then .sequence ⟨1, 13, 2, 0x80, 0x9F⟩
  else if b < 0xF0 then continuing 2 (b.toNat % 16)
  else if b = 0xF0 then .sequence ⟨1, 0, 3, 0x90, 0xBF⟩
  else if b < 0xF4 then continuing 3 (b.toNat % 8)
  else if b = 0xF4 then .sequence ⟨1, 4, 3, 0x80, 0x8F⟩
  else .stray

/-- Reads the next byte of a character begun: the character if that was its last byte, the longer sequence if
not, and `stray` if the byte cannot stand here. -/
def Sequence.next (s : Sequence) (b : UInt8) : Lead :=
  if s.low ≤ b ∧ b ≤ s.high then
    let bits := s.bits * 64 + b.toNat % 64
    if s.missing ≤ 1 then .char (Char.ofNat bits)
    else .sequence ⟨s.size + 1, bits, s.missing - 1, 0x80, 0xBF⟩
  else .stray

/-- The reader's state: between characters, or inside one. -/
abbrev State := Option Sequence

/-- Reads the rest of the input. `index` is where the current character begins, and `done` holds the
characters read before it, the last one first. -/
def decodeFrom (done : List Char) (index : Nat) : State → Bytes → Except Fault (List Char)
  | none, [] => .ok done.reverse
  | some _, [] => .error (.incomplete index)
  | none, b :: rest =>
    match lead b with
    | .char c => decodeFrom (c :: done) (index + 1) none rest
    | .sequence s => decodeFrom done index (some s) rest
    | .stray => .error (.invalid index 1)
  | some s, b :: rest =>
    match s.next b with
    | .char c => decodeFrom (c :: done) (index + s.size + 1) none rest
    | .sequence t => decodeFrom done index (some t) rest
    | .stray => .error (.invalid index s.size)

def decodeChars (bytes : Bytes) : Except Fault (List Char) := decodeFrom [] 0 none bytes

def decode (bytes : Bytes) : Except Fault String := (decodeChars bytes).map String.ofList

def decode? (bytes : Bytes) : Option String := (decode bytes).toOption

def replacement : Char := '\uFFFD'

/-- Reads the rest of the input, with one `replacement` for each sequence given up. A byte that ends a
sequence without belonging to it is read anew as a first byte. -/
def decodeLossyFrom (done : List Char) : State → Bytes → List Char
  | none, [] => done.reverse
  | some _, [] => (replacement :: done).reverse
  | state, b :: rest =>
    let first := fun done => match lead b with
      | .char c => decodeLossyFrom (c :: done) none rest
      | .sequence s => decodeLossyFrom done (some s) rest
      | .stray => decodeLossyFrom (replacement :: done) none rest
    match state with
    | none => first done
    | some s =>
      match s.next b with
      | .char c => decodeLossyFrom (c :: done) none rest
      | .sequence t => decodeLossyFrom done (some t) rest
      | .stray => first (replacement :: done)

def decodeLossy (bytes : Bytes) : String := String.ofList (decodeLossyFrom [] none bytes)

def encodeChars (cs : List Char) : Bytes := cs.flatMap String.utf8EncodeChar

def encode (s : String) : Bytes := encodeChars s.toList

@[simp] theorem encodeChars_nil : encodeChars [] = [] := rfl

@[simp] theorem encodeChars_cons (c : Char) (cs : List Char) :
    encodeChars (c :: cs) = String.utf8EncodeChar c ++ encodeChars cs := rfl

@[simp] theorem encodeChars_append (cs ds : List Char) :
    encodeChars (cs ++ ds) = encodeChars cs ++ encodeChars ds := by
  simp [encodeChars]

@[simp] theorem encode_ofList (cs : List Char) : encode (String.ofList cs) = encodeChars cs := by
  simp [encode]

@[simp] theorem encode_append (s t : String) : encode (s ++ t) = encode s ++ encode t := by
  simp [encode]

def length (s : String) : Nat := (encode s).length

end Utf8

end VariableStore
