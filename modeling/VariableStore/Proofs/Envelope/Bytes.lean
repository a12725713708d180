import VariableStore.Proofs.Envelope.Stability
/-!
Bytes in store, by themselves and in lists. A record that is read as bytes holds the base64 text that these bytes are
written as, and no other. What may differ between two records of the same bytes stands around that text: white space and
quotes, neither of which makes a difference to what is read. Lists of bytes are read back whole, the bytes whose text
spells a word of JSON among them, since each text stands in quotes and null does not.
-/
namespace VariableStore

namespace Json

/-- A character that stands for itself between quotes: no quote, no backslash and no control. -/
def Unescaped (c : Char) : Prop := c ≠ '"' ∧ c ≠ '\\' ∧ 32 ≤ c.toNat

instance (c : Char) : Decidable (Unescaped c) := inferInstanceAs (Decidable (_ ∧ _ ∧ _))

theorem escape_of_unescaped {c : Char} (h : Unescaped c) : escape c = [c] := by
  obtain ⟨quote, backslash, printable⟩ := h
  unfold escape
  split
  · exact absurd rfl quote
  · exact absurd rfl backslash
  · exact absurd printable (by decide)
  · exact absurd printable (by decide)
  · exact absurd printable (by decide)
  · exact absurd printable (by decide)
  · exact absurd printable (by decide)
  · rw [if_neg (by omega)]

theorem flatMap_escape_of_unescaped {cs : List Char} (h : ∀ c ∈ cs, Unescaped c) : cs.flatMap escape = cs := by
  induction cs with
  | nil => rfl
  | cons c cs ih =>
    obtain ⟨first, rest⟩ := List.forall_mem_cons.mp h
    rw [List.flatMap_cons, escape_of_unescaped first, ih rest]
    rfl

theorem quoted_of_unescaped {s : String} (h : ∀ c ∈ s.toList, Unescaped c) :
    quoted s = '"' :: (s.toList ++ ['"']) := by
  rw [quoted, flatMap_escape_of_unescaped h]

end Json

namespace Envelope

/-- A text without white space at its ends that stands for itself between quotes. -/
structure Plain (t : String) : Prop where
  trimmed : Text.trim t = t
  unescaped : ∀ c ∈ t.toList, Json.Unescaped c

/-- The records that hold a text: bare or in quotes, with any white space around it. -/
inductive Holds (t : String) : Bytes → Prop
  | bare (left right : String) (before : ∀ c ∈ left.toList, Text.isBlank c = true)
    (behind : ∀ c ∈ right.toList, Text.isBlank c = true) : Holds t (Utf8.encode (left ++ t ++ right))
  | quoted (left right : String) (before : ∀ c ∈ left.toList, Text.isBlank c = true)
    (behind : ∀ c ∈ right.toList, Text.isBlank c = true) :
    Holds t (Utf8.encode (left ++ ("\"" ++ t ++ "\"") ++ right))

/-- White space around a record makes no difference to its text. -/
theorem binaryText_surrounded {left right : String} (t : String) (before : ∀ c ∈ left.toList, Text.isBlank c = true)
    (behind : ∀ c ∈ right.toList, Text.isBlank c = true) :
    binaryText (Utf8.encode (left ++ t ++ right)) = binaryText (Utf8.encode t) := by
  simp only [binaryText, Utf8.decode_encode, String.toList_append, Text.trimChars_surrounded _ before behind]

theorem binaryText_bare {t : String} (plain : Plain t) : binaryText (Utf8.encode t) = .ok t := by
  have trimmed : Text.trimChars t.toList = t.toList := by rw [← Text.toList_trim, plain.trimmed]
  simp only [binaryText, Utf8.decode_encode, trimmed]
  split
  · next rest quote =>
    have first : '"' ∈ t.toList := quote ▸ List.mem_cons_self
    exact absurd rfl (plain.unescaped '"' first).1
  · rw [String.ofList_toList]

theorem binaryText_quoted {t : String} (plain : Plain t) : binaryText (Utf8.encode ("\"" ++ t ++ "\"")) = .ok t := by
  have marks : ("\"" ++ t ++ "\"").toList = '"' :: (t.toList ++ ['"']) := by simp
  have trimmed : Text.trimChars ('"' :: (t.toList ++ ['"'])) = '"' :: (t.toList ++ ['"']) := by
    apply Text.trimChars_eq_self
    · rintro c ⟨⟩
      decide
    · rintro c last
      rw [← List.cons_append, List.getLast?_concat] at last
      cases last
      decide
  have read : Json.ofChars? ('"' :: (t.toList ++ ['"'])) = some (.string t) := by
    rw [← Json.quoted_of_unescaped plain.unescaped, Json.ofChars?_quoted]
  simp only [binaryText, Utf8.decode_encode, marks, trimmed, read]

/-- Every record that holds a text has it as its text. -/
theorem binaryText_of_holds {t : String} {raw : Bytes} (plain : Plain t) (h : Holds t raw) :
    binaryText raw = .ok t := by
  cases h with
  | bare left right before behind => rw [binaryText_surrounded t before behind, binaryText_bare plain]
  | quoted left right before behind => rw [binaryText_surrounded _ before behind, binaryText_quoted plain]

/-- What is read depends on the text of a record alone. -/
theorem decodeBinary_congr {raw again : Bytes} (h : binaryText raw = binaryText again) :
    decodeBinary raw = decodeBinary again := by
  rw [decodeBinary, decodeBinary, h]

theorem encodeBinary_ok_iff {b raw : Bytes} {validate : Bool} :
    encode .binary (.bytes b) validate = .ok raw ↔ raw = Utf8.encode (Base64.encode b) := by
  rw [encode, encodeBinary_bytes, Except.ok.injEq, eq_comm]

/-- A record is read as bytes exactly if what these bytes are written as is its text, and not the word that stands for
nothing; and all records that hold one text are read alike. -/
theorem binary_read_canonical :
    (∀ (raw b : Bytes) (validate : Bool), decode .binary raw = .ok (some (.binary b)) ↔
      b ≠ Base64.nullBytes ∧
        ∃ t, binaryText raw = .ok t ∧ encode .binary (.bytes b) validate = .ok (Utf8.encode t)) ∧
    ∀ (t : String) (raw again : Bytes), Plain t → Holds t raw → Holds t again →
      decode .binary raw = decode .binary again := by
  constructor
  · intro raw b validate
    have text : (∃ t, binaryText raw = .ok t ∧ encode .binary (.bytes b) validate = .ok (Utf8.encode t)) ↔
        binaryText raw = .ok (Base64.encode b) := by
      simp only [encodeBinary_ok_iff, Utf8.encode_inj]
      simp
    rw [text]
    exact decodeBinary_some_iff.trans (by simp)
  · intro t raw again plain first second
    exact decodeBinary_congr ((binaryText_of_holds plain first).trans (binaryText_of_holds plain second).symm)

/-- The text of `hello` in quotes, with white space of two kinds around them. -/
theorem binary_read_canonical_of_quoted :
    decode .binary (Utf8.encode "\u00a0\"aGVsbG8=\"\n") = .ok (some (.binary [104, 101, 108, 108, 111])) := by
  have unescaped : "aGVsbG8=".toList.all (fun c => decide (Json.Unescaped c)) = true := by decide +kernel
  have plain : Plain "aGVsbG8=" :=
    ⟨by decide +kernel, fun c inside => of_decide_eq_true (List.all_eq_true.mp unescaped c inside)⟩
  obtain ⟨canonical, alike⟩ := binary_read_canonical
  have bare : decode .binary (Utf8.encode "aGVsbG8=") = .ok (some (.binary [104, 101, 108, 108, 111])) :=
    (canonical _ _ true).mpr ⟨by decide, "aGVsbG8=", binaryText_bare plain, rfl⟩
  have quoted : Holds "aGVsbG8=" (Utf8.encode "\u00a0\"aGVsbG8=\"\n") :=
    .quoted "\u00a0" "\n" (List.all_eq_true.mp (by decide +kernel)) (List.all_eq_true.mp (by decide +kernel))
  have unquoted : Holds "aGVsbG8=" (Utf8.encode "aGVsbG8=") :=
    .bare "" "" (List.all_eq_true.mp rfl) (List.all_eq_true.mp rfl)
  exact (alike _ _ _ plain quoted unquoted).trans bare

/-- A list of bytes and nulls can be stored, validated or not, and is read back as it was, as is the list of its base64
texts, with nothing in the places of the nulls. -/
theorem binaryArray_fidelity (items : List (Option Bytes)) :
    Lists (.ofOptions .bytes items) items ∧
    ∀ (p : Payload) (validate : Bool), Lists p items → ∃ raw, encode .binaryArray p validate = .ok raw ∧
      decode .binaryArray raw = .ok (some (.binaryArray items)) ∧
      binaryTexts raw = .ok (some (items.map (Option.map Base64.encode))) := by
  refine ⟨lists_ofOptions items, fun p validate lists => ?_⟩
  exact ⟨_, encodeBinaryArray_of_lists lists validate, decodeBinaryArray_bytes items, binaryTexts_texts _⟩

/-- Bytes whose text is the word `null`, no bytes, and a null in either form. -/
theorem binaryArray_fidelity_of_nulls : ∃ raw,
    encode .binaryArray (.list [.bytes Base64.nullBytes, .null, .bytes [], .json .null]) true = .ok raw ∧
      decode .binaryArray raw = .ok (some (.binaryArray [some Base64.nullBytes, none, some [], none])) ∧
      binaryTexts raw = .ok (some [some "null", none, some "", none]) := by
  obtain ⟨-, stored⟩ := binaryArray_fidelity [some Base64.nullBytes, none, some [], none]
  exact stored _ true ⟨_, rfl, .cons (.bytes _) (.cons (.null rfl) (.cons (.bytes []) (.cons (.null rfl) .nil)))⟩

end Envelope

end VariableStore
