import VariableStore.Text.Utf8
/-!
UTF-8 is read back as it is written: the bytes of a text decode to that text. The reader takes the bytes of one
character from a state between characters to the next such state, whatever follows them, and a text is a run of
such steps. It reads nothing else: input on which it succeeds begins with the bytes of a character each time that
it stands between two, so the whole is the bytes of the text it gives.
-/
namespace VariableStore.Utf8

theorem lead_ascii : ∀ m, m < 0x80 → lead (UInt8.ofNat m) = .char (Char.ofNat m) := by decide

theorem lead_two : ∀ m, m < 32 → 2 ≤ m → lead (UInt8.ofNat (m + 0xC0)) = continuing 1 m := by decide

/-- The range of the second byte depends on the first one at both ends of its block. -/
theorem lead_three : ∀ m, m < 16 → lead (UInt8.ofNat (m + 0xE0)) =
    .sequence ⟨1, m, 2, if m = 0 then 0xA0 else 0x80, if m = 13 then 0x9F else 0xBF⟩ := by decide

theorem lead_four : ∀ m, m < 5 → lead (UInt8.ofNat (m + 0xF0)) =
    .sequence ⟨1, m, 3, if m = 0 then 0x90 else 0x80, if m = 4 then 0x8F else 0xBF⟩ := by decide

theorem next_inside (s : Sequence) (t : Nat) (ht : t < 64) (more : 1 < s.missing)
    (low : s.low.toNat ≤ t + 0x80) (high : t + 0x80 ≤ s.high.toNat) :
    s.next (UInt8.ofNat (t + 0x80)) =
      .sequence ⟨s.size + 1, s.bits * 64 + t, s.missing - 1, 0x80, 0xBF⟩ := by
  have value : (UInt8.ofNat (t + 0x80)).toNat = t + 0x80 := by
    rw [UInt8.toNat_ofNat']
    omega
  have inside : s.low ≤ UInt8.ofNat (t + 0x80) ∧ UInt8.ofNat (t + 0x80) ≤ s.high := by
    simp only [UInt8.le_iff_toNat_le, value]
    exact ⟨low, high⟩
  have digit : (t + 0x80) % 64 = t := by omega
  simp only [Sequence.next, if_pos inside, value, digit, if_neg (Nat.not_le_of_lt more)]

theorem next_last (s : Sequence) (t : Nat) (ht : t < 64) (last : s.missing ≤ 1)
    (low : s.low.toNat ≤ t + 0x80) (high : t + 0x80 ≤ s.high.toNat) :
    s.next (UInt8.ofNat (t + 0x80)) = .char (Char.ofNat (s.bits * 64 + t)) := by
  have value : (UInt8.ofNat (t + 0x80)).toNat = t + 0x80 := by
    rw [UInt8.toNat_ofNat']
    omega
  have inside : s.low ≤ UInt8.ofNat (t + 0x80) ∧ UInt8.ofNat (t + 0x80) ≤ s.high := by
    simp only [UInt8.le_iff_toNat_le, value]
    exact ⟨low, high⟩
  have digit : (t + 0x80) % 64 = t := by omega
  simp only [Sequence.next, if_pos inside, value, digit, if_pos last]

/-- Two bytes are still to come, the first of them in the range of the sequence. -/
theorem decodeFrom_two (done : List Char) (index size bits t u : Nat) (low high : UInt8) (rest : Bytes)
    (ht : t < 64) (hu : u < 64) (hlow : low.toNat ≤ t + 0x80) (hhigh : t + 0x80 ≤ high.toNat) :
    decodeFrom done index (some ⟨size, bits, 2, low, high⟩)
        (UInt8.ofNat (t + 0x80) :: UInt8.ofNat (u + 0x80) :: rest) =
      decodeFrom (Char.ofNat ((bits * 64 + t) * 64 + u) :: done) (index + (size + 1) + 1) none rest := by
  rw [decodeFrom, next_inside _ t ht (by simp) hlow hhigh]
  simp only
  rw [decodeFrom, next_last _ u hu (by simp) (by simp) (by simp; omega)]

/-- The bytes of one character are read as that character. -/
theorem decodeFrom_utf8EncodeChar (done : List Char) (index : Nat) (c : Char) (rest : Bytes) :
    ∃ next, decodeFrom done index none (String.utf8EncodeChar c ++ rest) =
      decodeFrom (c :: done) next none rest := by
  have valid : c.toNat < 0xD800 ∨ 0xDFFF < c.toNat ∧ c.toNat < 0x110000 := c.valid
  have back : Char.ofNat c.toNat = c := Char.ofNat_toNat c
  have code : c.val.toNat = c.toNat := rfl
  simp only [String.utf8EncodeChar, code]
  generalize c.toNat = n at valid back
  subst back
  by_cases one : n ≤ 0x7f
  · refine ⟨index + 1, ?_⟩
    rw [if_pos one, List.singleton_append, decodeFrom, lead_ascii n (by omega)]
  by_cases two : n ≤ 0x7ff
  · refine ⟨index + 1 + 1, ?_⟩
    have high : n / 64 % 0x20 = n / 64 := Nat.mod_eq_of_lt (by omega)
    have value : n / 64 * 64 + n % 64 = n := by omega
    simp only [if_neg one, if_pos two, high, List.cons_append, List.nil_append]
    rw [decodeFrom, lead_two (n / 64) (by omega) (by omega)]
    simp only [continuing]
    rw [decodeFrom, next_last _ (n % 64) (by omega) (by simp) (by simp) (by simp; omega)]
    simp only [value]
  by_cases three : n ≤ 0xffff
  · refine ⟨index + (1 + 1) + 1, ?_⟩
    have high : n / 4096 % 0x10 = n / 4096 := Nat.mod_eq_of_lt (by omega)
    have value : (n / 4096 * 64 + n / 64 % 64) * 64 + n % 64 = n := by omega
    simp only [if_neg one, if_neg two, if_pos three, high, List.cons_append, List.nil_append]
    rw [decodeFrom, lead_three (n / 4096) (by omega)]
    simp only
    rw [decodeFrom_two done index 1 _ _ _ _ _ rest (by omega) (by omega), value]
    · split <;> simp
      omega
    · split <;> (simp; omega)
  · refine ⟨index + (1 + 1 + 1) + 1, ?_⟩
    have high : n / 262144 % 0x08 = n / 262144 := Nat.mod_eq_of_lt (by omega)
    have value : ((n / 262144 * 64 + n / 4096 % 64) * 64 + n / 64 % 64) * 64 + n % 64 = n := by omega
    simp only [if_neg one, if_neg two, if_neg three, high, List.cons_append, List.nil_append]
    rw [decodeFrom, lead_four (n / 262144) (by omega)]
    simp only
    rw [decodeFrom, next_inside _ (n / 4096 % 64) (by omega) (by simp)]
    · simp only
      rw [decodeFrom_two done index (1 + 1) _ _ _ _ _ rest (by omega) (by omega) (by simp) (by simp; omega),
        value]
    · simp only
      split <;> simp
      omega
    · simp only
      split <;> (simp; omega)

theorem decodeFrom_encodeChars (done : List Char) (index : Nat) (cs : List Char) :
    decodeFrom done index none (encodeChars cs) = .ok (done.reverse ++ cs) := by
  induction cs generalizing done index with
  | nil => simp [decodeFrom]
  | cons c cs ih =>
    obtain ⟨next, step⟩ := decodeFrom_utf8EncodeChar done index c (encodeChars cs)
    rw [encodeChars_cons, step, ih]
    simp

@[simp] theorem decodeChars_encodeChars (cs : List Char) : decodeChars (encodeChars cs) = .ok cs :=
  decodeFrom_encodeChars [] 0 cs

/-- The bytes of a text decode to that text. -/
@[simp] theorem decode_encode (s : String) : decode (encode s) = .ok s := by
  simp [decode, encode, Except.map]

@[simp] theorem decode?_encode (s : String) : decode? (encode s) = some s := by
  simp [decode?, Except.toOption]

theorem encode_inj {s t : String} : encode s = encode t ↔ s = t := by
  refine ⟨fun same => ?_, fun same => by rw [same]⟩
  have back := decode_encode s
  rw [same, decode_encode] at back
  exact (Except.ok.inj back).symm

theorem lead_stray_low : ∀ m, m < 66 → lead (UInt8.ofNat (m + 0x80)) = .stray := by decide

theorem lead_stray_high : ∀ m, m < 11 → lead (UInt8.ofNat (m + 0xF5)) = .stray := by decide

/-- A byte that does not begin a character in any of the four ways is a stray one. -/
theorem lead_cases (b : UInt8) :
    (∃ m, m < 0x80 ∧ b = UInt8.ofNat m) ∨ (∃ m, 2 ≤ m ∧ m < 32 ∧ b = UInt8.ofNat (m + 0xC0)) ∨
    (∃ m, m < 16 ∧ b = UInt8.ofNat (m + 0xE0)) ∨ (∃ m, m < 5 ∧ b = UInt8.ofNat (m + 0xF0)) ∨ lead b = .stray := by
  have bound : b.toNat < 256 := b.toNat_lt
  have self : UInt8.ofNat b.toNat = b := UInt8.ofNat_toNat
  by_cases one : b.toNat < 0x80
  · exact .inl ⟨b.toNat, one, self.symm⟩
  by_cases low : b.toNat < 0xC2
  · have stray := lead_stray_low (b.toNat - 0x80) (by omega)
    rw [Nat.sub_add_cancel (by omega), self] at stray
    exact .inr (.inr (.inr (.inr stray)))
  by_cases two : b.toNat < 0xE0
  · exact .inr (.inl ⟨b.toNat - 0xC0, by omega, by omega, by rw [Nat.sub_add_cancel (by omega), self]⟩)
  by_cases three : b.toNat < 0xF0
  · exact .inr (.inr (.inl ⟨b.toNat - 0xE0, by omega, by rw [Nat.sub_add_cancel (by omega), self]⟩))
  by_cases four : b.toNat < 0xF5
  · exact .inr (.inr (.inr (.inl ⟨b.toNat - 0xF0, by omega, by rw [Nat.sub_add_cancel (by omega), self]⟩)))
  · have stray := lead_stray_high (b.toNat - 0xF5) (by omega)
    rw [Nat.sub_add_cancel (by omega), self] at stray
    exact .inr (.inr (.inr (.inr stray)))

/-- Inside a character, input that can be read goes on with a byte in the range of the sequence. -/
theorem decodeFrom_inside {done : List Char} {index : Nat} {s : Sequence} {bytes : Bytes} {cs : List Char}
    (low : 0x80 ≤ s.low.toNat) (high : s.high.toNat ≤ 0xBF)
    (h : decodeFrom done index (some s) bytes = .ok cs) :
    ∃ t rest, t < 64 ∧ bytes = UInt8.ofNat (t + 0x80) :: rest ∧ s.low.toNat ≤ t + 0x80 ∧
      t + 0x80 ≤ s.high.toNat := by
  cases bytes with
  | nil => cases h
  | cons b rest =>
    rw [decodeFrom] at h
    by_cases inside : s.low ≤ b ∧ b ≤ s.high
    · simp only [UInt8.le_iff_toNat_le] at inside
      have value : b.toNat - 0x80 + 0x80 = b.toNat := Nat.sub_add_cancel (by omega)
      refine ⟨b.toNat - 0x80, rest, by omega, ?_, by omega, by omega⟩
      rw [value, UInt8.ofNat_toNat]
    · simp only [Sequence.next, if_neg inside] at h
      cases h

theorem decodeFrom_last_ok {done : List Char} {index : Nat} {s : Sequence} {bytes : Bytes} {cs : List Char}
    (low : 0x80 ≤ s.low.toNat) (high : s.high.toNat ≤ 0xBF) (last : s.missing ≤ 1)
    (h : decodeFrom done index (some s) bytes = .ok cs) :
    ∃ t rest next, t < 64 ∧ bytes = UInt8.ofNat (t + 0x80) :: rest ∧
      decodeFrom (Char.ofNat (s.bits * 64 + t) :: done) next none rest = .ok cs := by
  obtain ⟨t, rest, ht, rfl, above, below⟩ := decodeFrom_inside low high h
  rw [decodeFrom, next_last s t ht last above below] at h
  exact ⟨t, rest, _, ht, rfl, h⟩

theorem decodeFrom_more_ok {done : List Char} {index : Nat} {s : Sequence} {bytes : Bytes} {cs : List Char}
    (low : 0x80 ≤ s.low.toNat) (high : s.high.toNat ≤ 0xBF) (more : 1 < s.missing)
    (h : decodeFrom done index (some s) bytes = .ok cs) :
    ∃ t rest, t < 64 ∧ bytes = UInt8.ofNat (t + 0x80) :: rest ∧ s.low.toNat ≤ t + 0x80 ∧
      t + 0x80 ≤ s.high.toNat ∧
      decodeFrom done index (some ⟨s.size + 1, s.bits * 64 + t, s.missing - 1, 0x80, 0xBF⟩) rest = .ok cs := by
  obtain ⟨t, rest, ht, rfl, above, below⟩ := decodeFrom_inside low high h
  rw [decodeFrom, next_inside s t ht more above below] at h
  exact ⟨t, rest, ht, rfl, above, below, h⟩

theorem toNat_ofNat {n : Nat} (valid : n.isValidChar) : (Char.ofNat n).val.toNat = n := by
  have self : Char.ofNat n = Char.ofNatAux n valid := dif_pos valid
  rw [self]
  rfl

theorem utf8EncodeChar_one {m : Nat} (hm : m < 0x80) : String.utf8EncodeChar (Char.ofNat m) = [UInt8.ofNat m] := by
  simp only [String.utf8EncodeChar, toNat_ofNat (show m.isValidChar from .inl (by omega))]
  rw [if_pos (by omega)]

theorem utf8EncodeChar_two {m t : Nat} (least : 2 ≤ m) (hm : m < 32) (ht : t < 64) :
    String.utf8EncodeChar (Char.ofNat (m * 64 + t)) = [UInt8.ofNat (m + 0xC0), UInt8.ofNat (t + 0x80)] := by
  have lead : (m * 64 + t) / 64 % 0x20 = m := by omega
  have last : (m * 64 + t) % 0x40 = t := by omega
  simp only [String.utf8EncodeChar, toNat_ofNat (show (m * 64 + t).isValidChar from .inl (by omega))]
  rw [if_neg (by omega), if_pos (by omega), lead, last]

theorem utf8EncodeChar_three {m t u : Nat} (hm : m < 16) (ht : t < 64) (hu : u < 64) (least : m = 0 → 32 ≤ t)
    (most : m = 13 → t < 32) : String.utf8EncodeChar (Char.ofNat ((m * 64 + t) * 64 + u)) =
      [UInt8.ofNat (m + 0xE0), UInt8.ofNat (t + 0x80), UInt8.ofNat (u + 0x80)] := by
  have valid : ((m * 64 + t) * 64 + u).isValidChar := by
    unfold Nat.isValidChar
    omega
  have lead : ((m * 64 + t) * 64 + u) / 4096 % 0x10 = m := by omega
  have middle : ((m * 64 + t) * 64 + u) / 64 % 0x40 = t := by omega
  have last : ((m * 64 + t) * 64 + u) % 0x40 = u := by omega
  simp only [String.utf8EncodeChar, toNat_ofNat valid]
  rw [if_neg (by omega), if_neg (by omega), if_pos (by omega), lead, middle, last]

theorem utf8EncodeChar_four {m t u v : Nat} (hm : m < 5) (ht : t < 64) (hu : u < 64) (hv : v < 64)
    (least : m = 0 → 16 ≤ t) (most : m = 4 → t < 16) :
    String.utf8EncodeChar (Char.ofNat (((m * 64 + t) * 64 + u) * 64 + v)) =
      [UInt8.ofNat (m + 0xF0), UInt8.ofNat (t + 0x80), UInt8.ofNat (u + 0x80), UInt8.ofNat (v + 0x80)] := by
  have valid : (((m * 64 + t) * 64 + u) * 64 + v).isValidChar := by
    unfold Nat.isValidChar
    omega
  have lead : (((m * 64 + t) * 64 + u) * 64 + v) / 262144 % 0x08 = m := by omega
  have second : (((m * 64 + t) * 64 + u) * 64 + v) / 4096 % 0x40 = t := by omega
  have third : (((m * 64 + t) * 64 + u) * 64 + v) / 64 % 0x40 = u := by omega
  have last : (((m * 64 + t) * 64 + u) * 64 + v) % 0x40 = v := by omega
  simp only [String.utf8EncodeChar, toNat_ofNat valid]
  rw [if_neg (by omega), if_neg (by omega), if_neg (by omega), lead, second, third, last]

/-- Input that can be read begins with the bytes of a character. -/
theorem decodeFrom_cons_ok {done : List Char} {index : Nat} {b : UInt8} {bytes : Bytes} {cs : List Char}
    (h : decodeFrom done index none (b :: bytes) = .ok cs) :
    ∃ c rest next, b :: bytes = String.utf8EncodeChar c ++ rest ∧
      decodeFrom (c :: done) next none rest = .ok cs := by
  rw [decodeFrom] at h
  obtain ⟨m, hm, rfl⟩ | ⟨m, least, hm, rfl⟩ | ⟨m, hm, rfl⟩ | ⟨m, hm, rfl⟩ | stray := lead_cases b
  · rw [lead_ascii m hm] at h
    exact ⟨_, bytes, _, by rw [utf8EncodeChar_one hm, List.singleton_append], h⟩
  · rw [lead_two m hm least] at h
    obtain ⟨t, rest, next, ht, rfl, read⟩ := decodeFrom_last_ok (by simp) (by simp) (by simp) h
    refine ⟨_, rest, next, ?_, read⟩
    rw [utf8EncodeChar_two least hm ht]
    rfl
  · rw [lead_three m hm] at h
    obtain ⟨t, _, ht, rfl, above, below, second⟩ := decodeFrom_more_ok
      (by simp only; split <;> simp) (by simp only; split <;> simp) (by simp) h
    obtain ⟨u, rest, next, hu, rfl, read⟩ := decodeFrom_last_ok (by simp) (by simp) (by simp) second
    refine ⟨_, rest, next, ?_, read⟩
    rw [utf8EncodeChar_three hm ht hu]
    · rfl
    · rintro rfl
      simp at above
      omega
    · rintro rfl
      simp at below
      omega
  · rw [lead_four m hm] at h
    obtain ⟨t, _, ht, rfl, above, below, second⟩ := decodeFrom_more_ok
      (by simp only; split <;> simp) (by simp only; split <;> simp) (by simp) h
    obtain ⟨u, _, hu, rfl, -, -, third⟩ := decodeFrom_more_ok (by simp) (by simp) (by simp) second
    obtain ⟨v, rest, next, hv, rfl, read⟩ := decodeFrom_last_ok (by simp) (by simp) (by simp) third
    refine ⟨_, rest, next, ?_, read⟩
    rw [utf8EncodeChar_four hm ht hu hv]
    · rfl
    · rintro rfl
      simp at above
      omega
    · rintro rfl
      simp at below
      omega
  · rw [stray] at h
    cases h

theorem length_utf8EncodeChar_pos (c : Char) : 0 < (String.utf8EncodeChar c).length := by
  rw [String.length_utf8EncodeChar]
  exact Char.utf8Size_pos c

theorem length_encodeChars_pos {cs : List Char} (filled : cs ≠ []) : 0 < (encodeChars cs).length := by
  obtain ⟨c, rest, rfl⟩ := List.exists_cons_of_ne_nil filled
  rw [encodeChars_cons, List.length_append]
  have first := length_utf8EncodeChar_pos c
  omega

/-- Of two beginnings of a text, the one with no more bytes is the beginning of the other. -/
theorem prefix_of_length_le {cs short long : List Char} (first : short <+: cs) (second : long <+: cs)
    (le : (encodeChars short).length ≤ (encodeChars long).length) : short <+: long := by
  rcases List.prefix_or_prefix_of_prefix first second with front | ⟨more, rfl⟩
  · exact front
  · rw [encodeChars_append, List.length_append] at le
    cases more with
    | nil => simp
    | cons c more =>
      have some := length_encodeChars_pos (List.cons_ne_nil c more)
      omega

theorem decodeFrom_ok {done : List Char} {index : Nat} {bytes : Bytes} {cs : List Char}
    (h : decodeFrom done index none bytes = .ok cs) :
    ∃ read, cs = done.reverse ++ read ∧ bytes = encodeChars read := by
  induction size : bytes.length using Nat.strongRecOn generalizing done index bytes with
  | ind n ih =>
    cases bytes with
    | nil =>
      cases h
      exact ⟨[], by simp, rfl⟩
    | cons b bytes =>
      obtain ⟨c, rest, next, split, h⟩ := decodeFrom_cons_ok h
      have shorter : rest.length < n := by
        have whole : (b :: bytes).length = (String.utf8EncodeChar c).length + rest.length := by
          rw [split, List.length_append]
        have some := length_utf8EncodeChar_pos c
        omega
      obtain ⟨read, eq, encoded⟩ := ih _ shorter h rfl
      exact ⟨c :: read, by simp [eq], by rw [split, encoded, encodeChars_cons]⟩

/-- Bytes that decode to a text are the bytes of that text, and no others are. -/
theorem decode_eq_ok_iff {bytes : Bytes} {s : String} : decode bytes = .ok s ↔ bytes = encode s := by
  constructor
  · intro h
    unfold decode decodeChars at h
    cases read : decodeFrom [] 0 none bytes with
    | error e =>
      rw [read] at h
      cases h
    | ok cs =>
      rw [read] at h
      obtain ⟨_, rfl, encoded⟩ := decodeFrom_ok read
      cases h
      simpa using encoded
  · rintro rfl
    exact decode_encode s

/-- Bytes without broken sequences are read alike by both readers. -/
theorem decodeLossyFrom_of_decodeFrom {done : List Char} {index : Nat} {state : State} {bytes : Bytes} {cs : List Char}
    (h : decodeFrom done index state bytes = .ok cs) : decodeLossyFrom done state bytes = cs := by
  induction bytes generalizing done index state with
  | nil =>
    cases state with
    | none =>
      cases h
      rfl
    | some s => cases h
  | cons b rest ih =>
    cases state with
    | none =>
      rw [decodeFrom] at h
      rw [decodeLossyFrom]
      cases first : lead b with
      | char c => exact ih (by simpa only [first] using h)
      | sequence s => exact ih (by simpa only [first] using h)
      | stray => simp [first] at h
    | some s =>
      rw [decodeFrom] at h
      rw [decodeLossyFrom]
      cases next : s.next b with
      | char c => exact ih (by simpa only [next] using h)
      | sequence t => exact ih (by simpa only [next] using h)
      | stray => simp [next] at h

@[simp] theorem decodeLossy_encode (s : String) : decodeLossy (encode s) = s := by
  rw [decodeLossy, encode, decodeLossyFrom_of_decodeFrom (decodeFrom_encodeChars [] 0 s.toList)]
  simp

theorem decode?_eq_some_iff {bytes : Bytes} {s : String} : decode? bytes = some s ↔ bytes = encode s := by
  rw [← decode_eq_ok_iff, decode?]
  cases decode bytes <;> simp [Except.toOption]

end VariableStore.Utf8
