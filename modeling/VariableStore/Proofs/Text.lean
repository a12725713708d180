import VariableStore.Proofs.Utf8
import VariableStore.Text.Class
import VariableStore.Text.Encoded
/-!
Texts without white space at their ends, and bytes as texts: base64 and percent encoding can be undone.
-/
namespace VariableStore.Text

/-! ## White space

Trimming leaves a text alone that has no white space at its ends, and what it returns is such a text. White space
around a text makes no difference to it.
-/

theorem dropWhile_eq_self {cs : List Char} (h : ∀ c, cs.head? = some c → isBlank c = false) :
    cs.dropWhile isBlank = cs := by
  cases cs with
  | nil => rfl
  | cons c rest => exact List.dropWhile_cons_of_neg (by simp [h c rfl])

theorem trimChars_eq_self {cs : List Char} (front : ∀ c, cs.head? = some c → isBlank c = false)
    (back : ∀ c, cs.getLast? = some c → isBlank c = false) : trimChars cs = cs := by
  have last : ∀ c, cs.reverse.head? = some c → isBlank c = false := by
    rw [List.head?_reverse]
    exact back
  rw [trimChars, dropWhile_eq_self front, dropWhile_eq_self last, List.reverse_reverse]

theorem trimChars_of_plain {cs : List Char} (h : ∀ c ∈ cs, isBlank c = false) : trimChars cs = cs :=
  trimChars_eq_self (fun c hc => h c (List.mem_of_head? hc)) fun c hc => h c (List.mem_of_getLast? hc)

/-- White space around a text is trimmed away with what the text has at its own ends. -/
theorem trimChars_surrounded {left right : List Char} (cs : List Char) (before : ∀ c ∈ left, isBlank c = true)
    (behind : ∀ c ∈ right, isBlank c = true) : trimChars (left ++ cs ++ right) = trimChars cs := by
  have front : (left ++ cs ++ right).dropWhile isBlank = (cs ++ right).dropWhile isBlank := by
    rw [List.append_assoc, List.dropWhile_append_of_pos before]
  rw [trimChars, trimChars, front, List.dropWhile_append]
  split
  · next empty =>
    have nothing : cs.dropWhile isBlank = [] := List.isEmpty_iff.mp empty
    have all : right.dropWhile isBlank = [] := by
      rw [← List.append_nil right, List.dropWhile_append_of_pos behind]
      rfl
    rw [nothing, all]
  · have reversed : ∀ c ∈ right.reverse, isBlank c = true := fun c hc => behind c (List.mem_reverse.mp hc)
    rw [List.reverse_append, List.dropWhile_append_of_pos reversed]

def leading (s : String) : String := String.ofList (s.toList.takeWhile isBlank)

/-- The white space behind a text that has it in front removed. -/
def trailing (s : String) : String :=
  String.ofList ((s.toList.dropWhile isBlank).reverse.takeWhile isBlank).reverse

theorem isBlank_of_mem_leading {s : String} {c : Char} (inside : c ∈ (leading s).toList) : isBlank c = true := by
  rw [leading, String.toList_ofList] at inside
  exact List.all_eq_true.mp List.all_takeWhile c inside

theorem isBlank_of_mem_trailing {s : String} {c : Char} (inside : c ∈ (trailing s).toList) : isBlank c = true := by
  rw [trailing, String.toList_ofList, List.mem_reverse] at inside
  exact List.all_eq_true.mp List.all_takeWhile c inside

/-- A text is what trimming leaves of it, with the white space around. -/
theorem leading_trim_trailing (s : String) : leading s ++ trim s ++ trailing s = s := by
  rw [← String.toList_inj, String.toList_append, String.toList_append, toList_trim, leading, trailing, trimChars,
    String.toList_ofList, String.toList_ofList, List.append_assoc, ← List.reverse_append,
    List.takeWhile_append_dropWhile, List.reverse_reverse, List.takeWhile_append_dropWhile]

theorem head?_dropWhile {cs : List Char} {c : Char} (h : (cs.dropWhile isBlank).head? = some c) :
    isBlank c = false := by
  have first := List.head?_dropWhile_not isBlank cs
  rw [h] at first
  exact first

theorem trimChars_trimChars (cs : List Char) : trimChars (trimChars cs) = trimChars cs := by
  apply trimChars_eq_self
  · intro c hc
    -- What is dropped at the end was behind the first character, so that one is still the first.
    obtain ⟨rest, eq⟩ : ∃ rest, trimChars cs = c :: rest := by
      cases whole : trimChars cs with
      | nil => simp [whole] at hc
      | cons d rest => exact ⟨rest, by simpa [whole] using hc⟩
    have front : trimChars cs <+: cs.dropWhile isBlank := by
      rw [← List.reverse_suffix, trimChars, List.reverse_reverse]
      exact List.dropWhile_suffix isBlank
    rw [eq] at front
    obtain ⟨dropped, whole⟩ := front
    exact head?_dropWhile (by rw [← whole]; rfl)
  · intro c hc
    rw [trimChars, List.getLast?_reverse] at hc
    exact head?_dropWhile hc

end VariableStore.Text

/-! ## Base64

Base64 is canonical: bytes are read back from their text, and a text that can be read is the text of what it stands
for. So the text of no bytes but one spells a given word, and none holds a blank or a quote.
-/

namespace VariableStore.Base64

theorem value?_digit : ∀ n, n < 64 → value? (digit n) = some n := by decide

theorem value?_pad : value? '=' = none := by decide

theorem value?_pad_ne {c : Char} {n : Nat} (h : value? c = some n) : c ≠ '=' := by
  rintro rfl
  rw [value?_pad] at h
  cases h

/-- A digit has six bits and is the one that they are written with. -/
theorem value?_eq_some {c : Char} {n : Nat} (h : value? c = some n) : n < 64 ∧ digit n = c := by
  have back : Char.ofNat c.toNat = c := Char.ofNat_toNat c
  simp only [value?] at h
  split at h
  · cases h
    have capital : c.toNat - 65 < 26 := by omega
    have code : 65 + (c.toNat - 65) = c.toNat := by omega
    refine ⟨by omega, ?_⟩
    rw [digit, if_pos capital, code, back]
  split at h
  · cases h
    have capital : ¬c.toNat - 71 < 26 := by omega
    have small : c.toNat - 71 < 52 := by omega
    have code : 71 + (c.toNat - 71) = c.toNat := by omega
    refine ⟨by omega, ?_⟩
    rw [digit, if_neg capital, if_pos small, code, back]
  split at h
  · cases h
    have capital : ¬c.toNat + 4 < 26 := by omega
    have small : ¬c.toNat + 4 < 52 := by omega
    have decimal : c.toNat + 4 < 62 := by omega
    have code : c.toNat + 4 - 4 = c.toNat := by omega
    refine ⟨by omega, ?_⟩
    rw [digit, if_neg capital, if_neg small, if_pos decimal, code, back]
  split at h
  · next plus => cases h; rw [plus]; decide
  split at h
  · next slash => cases h; rw [slash]; decide
  · cases h

theorem toNat_byte {n : Nat} : (byte n).toNat = n % 256 := by
  rw [byte, UInt8.toNat_ofNat']
  omega

theorem byte_eq {b : UInt8} {n : Nat} (h : n % 256 = b.toNat) : byte n = b := by
  rw [← UInt8.toNat_inj, toNat_byte, h]

/-- Four digits are three bytes, whatever follows them. -/
theorem decodeChars?_quad {p q r s : Char} {i j k l : Nat} (rest : List Char) (hp : value? p = some i)
    (hq : value? q = some j) (hr : value? r = some k) (hs : value? s = some l) :
    decodeChars? (p :: q :: r :: s :: rest) = (decodeChars? rest).map fun bytes =>
      let n := ((i * 64 + j) * 64 + k) * 64 + l
      byte (n / 65536) :: byte (n / 256) :: byte n :: bytes := by
  have pad := value?_pad_ne hs
  rw [decodeChars?]
  · simp only [hp, hq, hr, hs]
    cases decodeChars? rest <;> rfl
  · intro _ hs'
    exact absurd hs' pad
  · intro hs'
    exact absurd hs' pad

theorem decodeChars?_triple {p q r : Char} {i j k : Nat} (hp : value? p = some i) (hq : value? q = some j)
    (hr : value? r = some k) : decodeChars? [p, q, r, '='] =
      let n := (i * 64 + j) * 64 + k
      if n % 4 = 0 then some [byte (n / 1024), byte (n / 4)] else none := by
  have pad := value?_pad_ne hr
  rw [decodeChars?]
  · simp only [hp, hq, hr]
    rfl
  · intro hr'
    exact absurd hr' pad

/-- Bytes are read back from their digits. -/
@[simp] theorem decodeChars?_encodeChars (b : Bytes) : decodeChars? (encodeChars b) = some b := by
  fun_induction encodeChars b with
  | case1 x y z rest n ih =>
    have hx := x.toNat_lt
    have hy := y.toNat_lt
    have hz := z.toNat_lt
    have whole : ((n / 262144 * 64 + n / 4096 % 64) * 64 + n / 64 % 64) * 64 + n % 64 = n := by omega
    rw [decodeChars?_quad _ (value?_digit _ (by omega)) (value?_digit _ (by omega))
      (value?_digit _ (by omega)) (value?_digit _ (by omega)), ih]
    simp only [Option.map_some, whole]
    rw [byte_eq (b := x) (by omega), byte_eq (b := y) (by omega), byte_eq (b := z) (by omega)]
  | case2 x y n =>
    have hx := x.toNat_lt
    have hy := y.toNat_lt
    have whole : (n / 4096 * 64 + n / 64 % 64) * 64 + n % 64 = n := by omega
    rw [decodeChars?_triple (value?_digit _ (by omega)) (value?_digit _ (by omega))
      (value?_digit _ (by omega))]
    simp only [whole, if_pos (show n % 4 = 0 by omega)]
    rw [byte_eq (b := x) (by omega), byte_eq (b := y) (by omega)]
  | case3 x =>
    have hx := x.toNat_lt
    simp only [decodeChars?, value?_digit _ (show x.toNat / 4 < 64 by omega),
      value?_digit _ (show x.toNat * 16 % 64 < 64 by omega)]
    show (if _ then _ else _) = _
    rw [if_pos (by omega), byte_eq (b := x) (by omega)]
  | case4 => rfl

/-- Digits that can be read are the digits of what they stand for. -/
theorem encodeChars_of_decodeChars? {cs : List Char} {b : Bytes} (h : decodeChars? cs = some b) :
    encodeChars b = cs := by
  fun_induction decodeChars? cs generalizing b with
  | case1 => cases h; rfl
  | case2 p q =>
    simp only [Option.bind_eq_bind, Option.bind_eq_some_iff] at h
    obtain ⟨i, hp, j, hq, h⟩ := h
    obtain ⟨hi, dp⟩ := value?_eq_some hp
    obtain ⟨hj, dq⟩ := value?_eq_some hq
    split at h
    · cases h
      simp only [encodeChars, toNat_byte]
      have first : (i * 64 + j) / 16 % 256 / 4 = i := by omega
      have second : (i * 64 + j) / 16 % 256 * 16 % 64 = j := by omega
      rw [first, second, dp, dq]
    · cases h
  | case3 p q r =>
    simp only [Option.bind_eq_bind, Option.bind_eq_some_iff] at h
    obtain ⟨i, hp, j, hq, k, hr, h⟩ := h
    obtain ⟨hi, dp⟩ := value?_eq_some hp
    obtain ⟨hj, dq⟩ := value?_eq_some hq
    obtain ⟨hk, dr⟩ := value?_eq_some hr
    split at h
    · cases h
      simp only [encodeChars, toNat_byte]
      generalize hn : (i * 64 + j) * 64 + k = n at *
      have whole : n / 1024 % 256 * 1024 + n / 4 % 256 * 4 = n := by omega
      have first : n / 4096 = i := by omega
      have second : n / 64 % 64 = j := by omega
      have third : n % 64 = k := by omega
      rw [whole, first, second, third, dp, dq, dr]
    · cases h
  | case4 p q r s rest _ _ ih =>
    simp only [Option.bind_eq_bind, Option.bind_eq_some_iff] at h
    obtain ⟨i, hp, j, hq, k, hr, l, hs, bytes, hrest, h⟩ := h
    obtain ⟨hi, dp⟩ := value?_eq_some hp
    obtain ⟨hj, dq⟩ := value?_eq_some hq
    obtain ⟨hk, dr⟩ := value?_eq_some hr
    obtain ⟨hl, ds⟩ := value?_eq_some hs
    cases h
    simp only [encodeChars, toNat_byte]
    generalize hn : ((i * 64 + j) * 64 + k) * 64 + l = n at *
    have whole : n / 65536 % 256 * 65536 + n / 256 % 256 * 256 + n % 256 = n := by omega
    have first : n / 262144 = i := by omega
    have second : n / 4096 % 64 = j := by omega
    have third : n / 64 % 64 = k := by omega
    have fourth : n % 64 = l := by omega
    rw [whole, first, second, third, fourth, dp, dq, dr, ds, ih hrest]
  | case5 => cases h

@[simp] theorem decode?_encode (b : Bytes) : decode? (encode b) = some b := by
  simp [decode?, encode]

/-- A text that can be read is the text of what it stands for. -/
theorem encode_of_decode? {s : String} {b : Bytes} (h : decode? s = some b) : encode b = s := by
  rw [encode, encodeChars_of_decodeChars? h, String.ofList_toList]

theorem decode?_eq_some_iff {s : String} {b : Bytes} : decode? s = some b ↔ s = encode b :=
  ⟨fun h => (encode_of_decode? h).symm, fun h => h ▸ decode?_encode b⟩

/-- The bytes whose base64 text is the word `null`. -/
def nullBytes : Bytes := [0x9E, 0xE9, 0x65]

theorem encode_eq_null_iff (b : Bytes) : encode b = "null" ↔ b = nullBytes := by
  constructor
  · intro h
    have back : decode? (encode b) = decode? "null" := by rw [h]
    rw [decode?_encode] at back
    exact Option.some.inj back
  · rintro rfl
    rfl

theorem digit_plain : ∀ n, n < 64 → Text.isBlank (digit n) = false ∧ digit n ≠ '"' := by decide

/-- A base64 text holds neither blanks nor quotes. -/
theorem encodeChars_plain (b : Bytes) : ∀ c ∈ encodeChars b, Text.isBlank c = false ∧ c ≠ '"' := by
  have pad : Text.isBlank '=' = false ∧ '=' ≠ '"' := by decide
  fun_induction encodeChars b with
  | case1 x y z rest n ih =>
    have hx := x.toNat_lt
    have hy := y.toNat_lt
    have hz := z.toNat_lt
    simp only [List.forall_mem_cons]
    exact ⟨digit_plain _ (by omega), digit_plain _ (by omega), digit_plain _ (by omega),
      digit_plain _ (by omega), ih⟩
  | case2 x y n =>
    have hx := x.toNat_lt
    have hy := y.toNat_lt
    simp only [List.forall_mem_cons]
    exact ⟨digit_plain _ (by omega), digit_plain _ (by omega), digit_plain _ (by omega), pad, by simp⟩
  | case3 x =>
    have hx := x.toNat_lt
    simp only [List.forall_mem_cons]
    exact ⟨digit_plain _ (by omega), digit_plain _ (by omega), pad, pad, by simp⟩
  | case4 => simp

end VariableStore.Base64

/-! ## Percent encoding

Percent encoding is read back as it is written, so texts are told apart by their segments. A segment holds nothing but
the characters that stand for themselves and escapes, so none of the marks that divide a URL.
-/

namespace VariableStore.Percent

theorem hexValue?_hexDigit : ∀ n < 16, hexValue? (hexDigit n) = some n := by decide

/-- A byte that stands for itself is no percent sign, and its character has its number. -/
theorem unreserved_byte : ∀ n < 256, isUnreserved (UInt8.ofNat n) = true →
    Char.ofNat n ≠ '%' ∧ (Char.ofNat n).toNat = n ∧ n < 128 := by
  decide +kernel

/-- The characters of one byte are read as that byte. -/
theorem decodeBytes?_encodeByte (b : UInt8) (rest : List Char) :
    decodeBytes? (encodeByte b ++ rest) = (decodeBytes? rest).map (b :: ·) := by
  have size : b.toNat < 256 := b.toNat_lt_size
  unfold encodeByte
  by_cases plain : isUnreserved b = true
  · obtain ⟨mark, value, ascii⟩ := unreserved_byte b.toNat size (by simpa using plain)
    rw [if_pos plain, List.singleton_append, decodeBytes?.eq_3 _ _ (by simp [mark])]
    cases decodeBytes? rest <;> simp [value, plain, ascii]
  · have digits : b.toNat / 16 * 16 + b.toNat % 16 = b.toNat := by omega
    rw [if_neg plain, escape]
    simp only [List.cons_append, List.nil_append, decodeBytes?, hexValue?_hexDigit _ (show b.toNat / 16 < 16 by omega),
      hexValue?_hexDigit _ (show b.toNat % 16 < 16 by omega)]
    cases decodeBytes? rest <;>
      simp only [Option.bind_eq_bind, Option.bind_some, Option.bind_none, Option.map_some, Option.map_none, digits,
        UInt8.ofNat_toNat]

theorem decodeBytes?_encodeBytes (b : Bytes) : decodeBytes? (encodeBytes b) = some b := by
  induction b with
  | nil => rfl
  | cons byte rest ih =>
    have split : encodeBytes (byte :: rest) = encodeByte byte ++ encodeBytes rest := rfl
    rw [split, decodeBytes?_encodeByte, ih]
    rfl

/-- The segment for a text is read as that text. -/
@[simp] theorem decode?_encode (s : String) : decode? (encode s) = some s := by
  simp [decode?, encode, decodeBytes?_encodeBytes]

theorem encode_injective {s t : String} (h : encode s = encode t) : s = t :=
  Option.some.inj ((decode?_encode s).symm.trans ((congrArg decode? h).trans (decode?_encode t)))

/-! ## What a segment consists of -/

/-- The characters that stand for themselves: letters, digits and four marks. -/
def unreserved : List Char := "ABCDEFGHIJKLMNOPQRSTUVWXYZabcdefghijklmnopqrstuvwxyz0123456789-._~".toList

def hexDigits : List Char := "0123456789ABCDEF".toList

/-- A text of characters that stand for themselves and of escapes, and of nothing else. -/
inductive Encoded : List Char → Prop
  | nil : Encoded []
  | plain {c : Char} {rest : List Char} : c ∈ unreserved → Encoded rest → Encoded (c :: rest)
  | escape {p q : Char} {rest : List Char} : p ∈ hexDigits → q ∈ hexDigits → Encoded rest →
      Encoded ('%' :: p :: q :: rest)

theorem hexDigit_mem : ∀ n < 16, hexDigit n ∈ hexDigits := by decide

theorem mem_unreserved : ∀ n < 256, isUnreserved (UInt8.ofNat n) = true → Char.ofNat n ∈ unreserved := by
  decide +kernel

theorem encoded_encodeBytes (b : Bytes) : Encoded (encodeBytes b) := by
  induction b with
  | nil => exact .nil
  | cons byte rest ih =>
    have size : byte.toNat < 256 := byte.toNat_lt_size
    have split : encodeBytes (byte :: rest) = encodeByte byte ++ encodeBytes rest := rfl
    rw [split, encodeByte]
    by_cases plain : isUnreserved byte = true
    · rw [if_pos plain]
      exact .plain (mem_unreserved byte.toNat size (by simpa using plain)) ih
    · rw [if_neg plain]
      exact .escape (hexDigit_mem _ (by omega)) (hexDigit_mem _ (by omega)) ih

theorem encoded_encode (s : String) : Encoded (encode s).toList := by
  rw [encode, String.toList_ofList]
  exact encoded_encodeBytes (Utf8.encode s)

/-- Every character of an encoded text stands for itself or is a percent sign. -/
theorem Encoded.mem {cs : List Char} (h : Encoded cs) : ∀ c ∈ cs, c ∈ '%' :: unreserved := by
  have digit : ∀ c ∈ hexDigits, c ∈ '%' :: unreserved := by
    have all : hexDigits.all (fun c => ('%' :: unreserved).contains c) = true := by decide
    exact fun c inside => List.contains_iff_mem.mp (List.all_eq_true.mp all c inside)
  induction h with
  | nil => exact List.forall_mem_nil _
  | plain head _ ih => exact List.forall_mem_cons.mpr ⟨List.mem_cons_of_mem _ head, ih⟩
  | escape high low _ ih =>
    rw [List.forall_mem_cons, List.forall_mem_cons, List.forall_mem_cons]
    exact ⟨List.mem_cons_self, digit _ high, digit _ low, ih⟩

/-- Whether marks are none of the characters of encoded texts. -/
def areApart (marks : List Char) : Bool := marks.all fun mark => !('%' :: unreserved).contains mark

theorem Encoded.apart {cs marks : List Char} (h : Encoded cs) (apart : areApart marks = true) : ∀ c ∈ cs, c ∉ marks := by
  intro c inside marked
  have other := List.all_eq_true.mp apart c marked
  rw [List.contains_iff_mem.mpr (h.mem c inside)] at other
  cases other

theorem Encoded.not_mem {cs : List Char} (h : Encoded cs) {mark : Char} (apart : areApart [mark] = true) : mark ∉ cs :=
  fun inside => h.apart apart mark inside (List.mem_singleton_self mark)

end VariableStore.Percent
