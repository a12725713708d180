import VariableStore.Url.Domain.Composition
import VariableStore.Url.Domain.Mapping
import VariableStore.Url.Domain.Mark
import VariableStore.Url.Punycode
/-!
Domains in ASCII, and what their labels must be like.
-/
namespace VariableStore.Url.Domain

/-! ## Joiners

Joiners are characters that cannot be seen and only change how letters hang together. A domain may hold one only where
it makes a difference: behind a sign that takes a vowel away, or, if it keeps letters apart, between two letters that
would hang together.

The tables are right for the characters that domains hold. A range may run on over others.
-/

/-- The character that keeps letters apart. -/
def separator : Char := Char.ofNat 0x200C

/-- The character that ties letters together. -/
def connector : Char := Char.ofNat 0x200D

/-- The letters that can hang together with both neighbours. -/
def joinBoth : List (Nat × Nat) := [
  (0x620, 0x620), (0x626, 0x626), (0x628, 0x628), (0x62A, 0x62E), (0x633, 0x63F), (0x641, 0x647),
  (0x649, 0x64A), (0x66E, 0x66F), (0x679, 0x687), (0x69A, 0x6BF), (0x6C1, 0x6C2), (0x6CC, 0x6CC),
  (0x6CE, 0x6CE), (0x6D0, 0x6D1), (0x6FA, 0x6FC), (0x6FF, 0x6FF), (0x712, 0x714), (0x71A, 0x71D),
  (0x71F, 0x727), (0x729, 0x729), (0x72B, 0x72B), (0x72D, 0x72E), (0x74E, 0x758), (0x75C, 0x76A),
  (0x76D, 0x770), (0x772, 0x772), (0x775, 0x777), (0x77A, 0x77F), (0x7CA, 0x7EA), (0x841, 0x845),
  (0x848, 0x848), (0x84A, 0x853), (0x855, 0x855), (0x860, 0x860), (0x862, 0x865), (0x868, 0x868),
  (0x886, 0x886), (0x889, 0x88D), (0x88F, 0x88F), (0x8A0, 0x8A9), (0x8AF, 0x8B0), (0x8B3, 0x8B8),
  (0x8BA, 0x8C8), (0x1807, 0x1807), (0x1820, 0x1878), (0x1887, 0x18A8), (0x18AA, 0x18AA), (0xA840, 0xA871),
  (0x10AC0, 0x10AC4), (0x10AD3, 0x10AD6), (0x10AD8, 0x10ADC), (0x10ADE, 0x10AE0), (0x10AEB, 0x10AEE),
  (0x10B80, 0x10B80), (0x10B82, 0x10B82), (0x10B86, 0x10B88), (0x10B8A, 0x10B8B), (0x10B8D, 0x10B8D),
  (0x10B90, 0x10B90), (0x10BAD, 0x10BAE), (0x10D01, 0x10D21), (0x10D23, 0x10D23), (0x10EC3, 0x10EC4),
  (0x10EC6, 0x10EC7), (0x10F30, 0x10F32), (0x10F34, 0x10F44), (0x10F51, 0x10F53), (0x10F70, 0x10F73),
  (0x10F76, 0x10F81), (0x10FB0, 0x10FB0), (0x10FB2, 0x10FB3), (0x10FB8, 0x10FB8), (0x10FBB, 0x10FBC),
  (0x10FBE, 0x10FBF), (0x10FC1, 0x10FC1), (0x10FC4, 0x10FC4), (0x10FCA, 0x10FCA), (0x1E922, 0x1E943)]

/-- The letters that can hang together with the next one only. -/
def joinNext : List (Nat × Nat) := [
  (0xA872, 0xA872), (0x10ACD, 0x10ACD), (0x10AD7, 0x10AD7), (0x10D00, 0x10D00), (0x10FCB, 0x10FCB)]

/-- The letters that can hang together with the one before only. -/
def joinBefore : List (Nat × Nat) := [
  (0x622, 0x625), (0x627, 0x627), (0x629, 0x629), (0x62F, 0x632), (0x648, 0x648), (0x671, 0x673),
  (0x688, 0x699), (0x6C0, 0x6C0), (0x6C3, 0x6CB), (0x6CD, 0x6CD), (0x6CF, 0x6CF), (0x6D2, 0x6D3),
  (0x6D5, 0x6D5), (0x6EE, 0x6EF), (0x710, 0x710), (0x715, 0x719), (0x71E, 0x71E), (0x728, 0x728),
  (0x72A, 0x72A), (0x72C, 0x72C), (0x72F, 0x72F), (0x74D, 0x74D), (0x759, 0x75B), (0x76B, 0x76C),
  (0x771, 0x771), (0x773, 0x774), (0x778, 0x779), (0x840, 0x840), (0x846, 0x847), (0x849, 0x849),
  (0x854, 0x854), (0x856, 0x858), (0x867, 0x867), (0x869, 0x882), (0x88E, 0x88E), (0x8AA, 0x8AC),
  (0x8AE, 0x8AE), (0x8B1, 0x8B2), (0x8B9, 0x8B9), (0x10AC5, 0x10AC5), (0x10AC7, 0x10AC7),
  (0x10AC9, 0x10ACA), (0x10ACE, 0x10AD2), (0x10ADD, 0x10ADD), (0x10AE1, 0x10AE1), (0x10AE4, 0x10AE4),
  (0x10AEF, 0x10AEF), (0x10B81, 0x10B81), (0x10B83, 0x10B85), (0x10B89, 0x10B89), (0x10B8C, 0x10B8C),
  (0x10B8E, 0x10B8F), (0x10B91, 0x10B91), (0x10BA9, 0x10BAC), (0x10D22, 0x10D22), (0x10EC2, 0x10EC2),
  (0x10F33, 0x10F33), (0x10F54, 0x10F54), (0x10F74, 0x10F75), (0x10FB4, 0x10FB6), (0x10FB9, 0x10FBA),
  (0x10FBD, 0x10FBD), (0x10FC2, 0x10FC3), (0x10FC9, 0x10FC9)]

/-- Whether letters can hang together past a character. These are the marks that take no place of their own, except
for a few that stand beside their letter. -/
def isPassed (c : Char) : Bool :=
  if [0xCBF, 0xCC6, 0x11A07, 0x11A08, 0x11C3F, 0x1E94B].contains c.toNat then true else isNonspacing c

/-- Whether the first character of a text that is not passed is of a kind. -/
def startsWith (kind : Char → Bool) (cs : List Char) : Bool := (cs.dropWhile isPassed).head?.any kind

/-- Whether a joiner may stand between two texts, of which the first is given from its end. -/
def mayJoin (joiner : Char) (before after : List Char) : Bool :=
  before.head?.any isVirama
    || (joiner = separator && !before.isEmpty
      && startsWith (fun c => Text.inRanges joinBoth c || Text.inRanges joinNext c) before
      && startsWith (fun c => Text.inRanges joinBoth c || Text.inRanges joinBefore c) after)

/-- Whether all joiners of a text are where they may be, behind a text that is given from its end. -/
def joinersFit (before : List Char) : List Char → Bool
  | [] => true
  | c :: rest =>
    (if c = separator || c = connector then mayJoin c before rest else true) && joinersFit (c :: before) rest

/-! ## Directions of writing

A domain that holds letters written from right to left is shown in pieces, and each piece must show which label it
belongs to. So every label of such a domain starts with a letter, ends with a letter or a digit of that direction, and
does not mix the directions.

The tables are right for the characters that domains hold. A range may run on over others.
-/

/-- How a character behaves in a line: as a letter of one of the two directions, as a European or Arabic digit, as
a mark on the character before it, or like its surroundings. -/
inductive Direction where
  | left
  | right
  | european
  | arabic
  | mark
  | neutral
  deriving DecidableEq, Repr

def rightward : List (Nat × Nat) := [
  (0x5BE, 0x5BE), (0x5C0, 0x5C0), (0x5C3, 0x5C3), (0x5C6, 0x5C6), (0x5D0, 0x5F4), (0x608, 0x608),
  (0x60B, 0x60B), (0x60D, 0x60D), (0x61B, 0x64A), (0x66D, 0x66F), (0x671, 0x6D5), (0x6E5, 0x6E6),
  (0x6EE, 0x6EF), (0x6FA, 0x710), (0x712, 0x72F), (0x74D, 0x7A5), (0x7B1, 0x7EA), (0x7F4, 0x7F5),
  (0x7FA, 0x7FA), (0x7FE, 0x815), (0x81A, 0x81A), (0x824, 0x824), (0x828, 0x828), (0x830, 0x858),
  (0x85E, 0x88F), (0x8A0, 0x8C9), (0xFBB2, 0xFBC2), (0xFE73, 0xFE73), (0x10800, 0x1091B),
  (0x10920, 0x10A00), (0x10A10, 0x10A35), (0x10A40, 0x10AE4), (0x10AEB, 0x10B35), (0x10B40, 0x10D23),
  (0x10D4A, 0x10D4F), (0x10D6F, 0x10D8F), (0x10E80, 0x10EA9), (0x10EAD, 0x10EC7), (0x10F00, 0x10F45),
  (0x10F51, 0x10F81), (0x10F86, 0x10FF6), (0x1E800, 0x1E8CF), (0x1E922, 0x1E943), (0x1E94B, 0x1ED3D)]

def europeanDigits : List (Nat × Nat) := [
  (0x30, 0x39), (0x6F0, 0x6F9), (0x102E1, 0x102FB)]

def arabicDigits : List (Nat × Nat) := [
  (0x660, 0x669), (0x66B, 0x66C), (0x10D30, 0x10D49), (0x10E60, 0x10E7E)]

/-- The characters that take on the direction of what is around them. -/
def neutrals : List (Nat × Nat) := [
  (0x0, 0x2F), (0x3A, 0x60), (0x7B, 0xD7), (0xF7, 0xF7), (0x2B9, 0x2BA), (0x2C2, 0x2CF), (0x2D2, 0x2ED),
  (0x2EF, 0x2FF), (0x375, 0x375), (0x3F6, 0x3F6), (0x58A, 0x58F), (0x606, 0x607), (0x609, 0x60A),
  (0x60C, 0x60C), (0x60E, 0x60F), (0x66A, 0x66A), (0x6DE, 0x6DE), (0x6E9, 0x6E9), (0x7F6, 0x7F9),
  (0x9F2, 0x9F3), (0x9FB, 0x9FB), (0xAF1, 0xAF1), (0xBF3, 0xBFA), (0xC78, 0xC7E), (0xE3F, 0xE3F),
  (0xF3A, 0xF3D), (0x1390, 0x1399), (0x1400, 0x1400), (0x169B, 0x169C), (0x17DB, 0x17DB), (0x17F0, 0x180A),
  (0x1940, 0x1945), (0x19DE, 0x19FF), (0x200C, 0x20C1), (0x2104, 0x214D), (0x218A, 0x2335),
  (0x237B, 0x2394), (0x2396, 0x26AB), (0x26AD, 0x27FF), (0x2900, 0x2BFF), (0x2CE5, 0x2CEA),
  (0x2CF9, 0x2CFF), (0x2E00, 0x3004), (0x3008, 0x3020), (0x3030, 0x3030), (0x3037, 0x3037),
  (0x303D, 0x303F), (0x30A0, 0x30A0), (0x30FB, 0x30FB), (0x31C0, 0x31E5), (0x4DC0, 0x4DFF),
  (0xA490, 0xA4C6), (0xA60D, 0xA60F), (0xA673, 0xA673), (0xA67E, 0xA67F), (0xA700, 0xA721),
  (0xA788, 0xA788), (0xA828, 0xA82B), (0xA838, 0xA839), (0xA874, 0xA877), (0xAB6A, 0xAB6B),
  (0xFBC3, 0xFDFF), (0xFE45, 0xFE46), (0xFFFD, 0xFFFD), (0x10101, 0x10101), (0x10140, 0x1018C),
  (0x10190, 0x101A0), (0x1091F, 0x1091F), (0x10B39, 0x10B3F), (0x10D6E, 0x10D6E), (0x10ED0, 0x10ED8),
  (0x11052, 0x11065), (0x11660, 0x1166C), (0x11FD5, 0x11FF1), (0x16FE2, 0x16FE2), (0x1CC00, 0x1CEF0),
  (0x1D1E9, 0x1D241), (0x1D245, 0x1D245), (0x1D300, 0x1D356), (0x1E2FF, 0x1E2FF), (0x1EEF0, 0x1F12F),
  (0x1F16D, 0x1F16F), (0x1F1AD, 0x1F1AD), (0x1F260, 0x1FBFA)]

/-- How a character behaves. Any character that is not listed is a letter written from left to right. -/
def direction (c : Char) : Direction :=
  if isNonspacing c then .mark
  else if Text.inRanges rightward c then .right
  else if Text.inRanges europeanDigits c then .european
  else if Text.inRanges arabicDigits c then .arabic
  else if Text.inRanges neutrals c then .neutral
  else .left

def isRightward (c : Char) : Bool := direction c = .right || direction c = .arabic

/-- Whether a label can stand in a domain with letters written from right to left. -/
def isOrderly (label : List Char) : Bool :=
  match label.map direction with
  | [] => true
  | first :: rest =>
    let rest := rest.reverse.dropWhile (· = .mark)
    match first with
    | .left =>
      rest.head?.all (fun last => last = .left || last = .european)
        && !rest.contains .right && !rest.contains .arabic
    | .right =>
      rest.head?.all (fun last => last = .right || last = .european || last = .arabic)
        && !rest.contains .left && !(rest.contains .european && rest.contains .arabic)
    | _ => false

/-! ## Labels

Labels are the parts of a domain between its points. A label with characters outside ASCII can be given as it is, or
in Punycode behind `xn--`; here it is kept as it is, and `ascii` writes it in Punycode.
-/

/-- A text as a domain holds it: every character has become what it becomes there, and the whole is composed. It is
`none` if a character belongs to no domain. -/
def normal? (cs : List Char) : Option (List Char) := (cs.mapM plain?).map fun words => composed words.flatten

/-- The ASCII characters that no domain holds. -/
def isForbidden (c : Char) : Bool := c.toNat ≤ 32 || c.toNat = 127 || "%#/:<>?@[\\]^|".contains c

def isForeign (c : Char) : Bool := 128 ≤ c.toNat

def codeFront : List Char := "xn--".toList

/-- The most characters that the code of a label has. -/
def codeLimit : Nat := 2000

/-- The most characters that a label with characters outside ASCII has. -/
def labelLimit : Nat := 1000

/-- What a code in Punycode stands for. It must stand for a text as domains hold it. A code that ends with a hyphen
stands for ASCII characters only, which need none. -/
def ofCode? (code : List Char) : Option (List Char) := do
  if code.isEmpty || code.getLast? = some '-' || codeLimit < code.length then none
  else
    let label ← Punycode.decode? code
    if normal? label = some label && !label.contains '.' then some label else none

/-- Whether a label with characters outside ASCII is sound: it does not start with a mark, its joiners are where
they may be, and it is not too long. -/
def isSound (label : List Char) : Bool :=
  !label.head?.any isMark && joinersFit [] label && label.length ≤ labelLimit

def label? (cs : List Char) : Option (List Char) := do
  let label ← if codeFront.isPrefixOf cs then ofCode? (cs.drop codeFront.length) else some cs
  if label.any isForbidden || (label.any isForeign && !isSound label) then none else some label

def ascii (label : List Char) : List Char :=
  if label.any isForeign then codeFront ++ Punycode.encode label else label

/-! ## Domains

However a domain is written, with capital or wide letters, with composed letters or with accents behind them, in
Punycode or not, it comes out the same. A domain is refused if one of its labels is not sound, or if it holds letters
written from right to left and one of its labels is not orderly.
-/

def labels? (cs : List Char) : Option (List (List Char)) := do
  let labels ← (Text.splitChars '.' (← normal? cs)).mapM label?
  if labels.any (·.any isRightward) && !labels.all isOrderly then none else some labels

def joined : List (List Char) → List Char
  | [] => []
  | [part] => part
  | part :: parts => part ++ '.' :: joined parts

def ofChars? (cs : List Char) : Option (List Char) := (labels? cs).map fun labels => joined (labels.map ascii)

end VariableStore.Url.Domain
