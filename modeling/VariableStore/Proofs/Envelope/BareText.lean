import VariableStore.Envelope
import VariableStore.Proofs.Json.Image
import VariableStore.Proofs.Json.Roundtrip
/-!
How JSON texts begin. The first character behind the white space settles whether a text can be JSON at all: it is a
bracket that opens, a quote, or the beginning of a number or of a name. So prose, which mostly begins with another
letter or mark, is told from JSON by its first character.
-/
namespace VariableStore.Json

open Reading

/-- A character that the text of a value begins with. -/
def begins (c : Char) : Bool :=
  c == '"' || c == '[' || c == '\x7b' || c == '-' || c.isDigit || c == 'n' || c == 't' || c == 'f'

/-- White space in front of a text is passed over. -/
theorem scanFrom_dropWhile_isSpace (acc : List Token) (cs : List Char) :
    scanFrom acc .between (cs.dropWhile isSpace) = scanFrom acc .between cs := by
  induction cs with
  | nil => rfl
  | cons c rest ih =>
    cases space : isSpace c with
    | true =>
      rw [List.dropWhile_cons_of_pos space, ih]
      simp [scanFrom, scanStep, start, space, found]
    | false => rw [List.dropWhile_cons_of_neg (by simp [space])]

/-- A word that is begun is the front of a word with a value. -/
theorem ofWord?_of_scanFrom_word {acc ts : List Token} {read cs : List Char}
    (h : scanFrom acc (.word read) cs = some ts) : ∃ more j, ofWord? (read.reverse ++ more) = some j := by
  induction cs generalizing read with
  | nil =>
    obtain ⟨j, value, -⟩ := Option.map_eq_some_iff.mp h
    exact ⟨[], j, by rw [List.append_nil, value]⟩
  | cons c rest ih =>
    rw [scanFrom] at h
    by_cases letter : isWordChar c = true
    · simp only [scanStep, if_pos letter] at h
      obtain ⟨more, j, value⟩ := ih h
      exact ⟨c :: more, j, by simpa using value⟩
    · simp only [scanStep, if_neg letter] at h
      cases value : ofWord? read.reverse with
      | none => simp [value] at h
      | some j => exact ⟨[], j, by rw [List.append_nil, value]⟩

/-- A number begins with a minus or a digit. -/
theorem front_of_literal {c : Char} {word : List Char} {l : Number.Literal}
    (h : Number.Literal.ofWord? (c :: word) = some l) : c = '-' ∨ c.isDigit = true := by
  by_cases minus : c = '-'
  · exact .inl minus
  · cases digit : c.isDigit with
    | true => exact .inr rfl
    | false => simp [Number.Literal.ofWord?, minus, digit] at h

theorem begins_of_ofWord? {c : Char} {word : List Char} {j : Json} (h : ofWord? (c :: word) = some j) :
    begins c = true := by
  unfold ofWord? at h
  split at h
  · next name => rw [(List.cons.inj name).1]; rfl
  split at h
  · next name => rw [(List.cons.inj name).1]; rfl
  split at h
  · next name => rw [(List.cons.inj name).1]; rfl
  · obtain ⟨n, number, -⟩ := Option.map_eq_some_iff.mp h
    obtain ⟨l, literal, -⟩ := Option.bind_eq_some_iff.mp number
    rcases front_of_literal literal with rfl | digit
    · rfl
    · simp [begins, digit]

/-- No value begins with a token that closes or separates. -/
theorem not_ofTokens?_of_begin {bound : Nat} {t : Token} {ts : List Token} (h : begin bound [] t = none) :
    ofTokens? bound (t :: ts) = none := by
  have stuck : step bound ([], .value) t = none := h
  rw [ofTokens?, run, stuck]

/-- A character that is no white space begins a word, or makes a token that no value begins with, or is one that values
begin with. -/
theorem start_cases {c : Char} {token : Option Token} {place : Place} (h : start c = some (token, place))
    (space : isSpace c = false) (bound : Nat) :
    (token = none ∧ place = .word [c]) ∨ (∃ t, token = some t ∧ begin bound [] t = none) ∨ begins c = true := by
  unfold start at h
  rw [if_neg (by simp [space])] at h
  split at h
  · cases h
    exact .inl ⟨rfl, rfl⟩
  · right
    split at h
    · exact .inr rfl
    · cases h; exact .inl ⟨_, rfl, rfl⟩
    · exact .inr rfl
    · cases h; exact .inl ⟨_, rfl, rfl⟩
    · cases h; exact .inl ⟨_, rfl, rfl⟩
    · cases h; exact .inl ⟨_, rfl, rfl⟩
    · exact .inr rfl
    · cases h

/-- A text that stands for a value begins, behind its white space, with a character that values begin with. -/
theorem begins_of_ofChars? {cs : List Char} {j : Json} (h : ofChars? cs = some j) :
    ∃ c, (cs.dropWhile isSpace).head? = some c ∧ begins c = true := by
  obtain ⟨tokens, scanned, read⟩ := Option.bind_eq_some_iff.mp h
  rw [scan?, ← scanFrom_dropWhile_isSpace] at scanned
  have front := List.head?_dropWhile_not isSpace cs
  cases behind : cs.dropWhile isSpace with
  | nil =>
    rw [behind] at scanned
    cases scanned
    cases read
  | cons c rest =>
    rw [behind, List.head?_cons] at front
    have space : isSpace c = false := front
    refine ⟨c, rfl, ?_⟩
    rw [behind, scanFrom, scanStep] at scanned
    cases began : start c with
    | none => simp [began] at scanned
    | some made =>
      obtain ⟨token, place⟩ := made
      simp only [began, Option.map_some] at scanned
      obtain ⟨rfl, rfl⟩ | ⟨t, rfl, closing⟩ | first := start_cases began space maxDepth
      · obtain ⟨more, k, value⟩ := ofWord?_of_scanFrom_word scanned
        exact begins_of_ofWord? value
      · obtain ⟨later, rfl, -⟩ := scanFrom_adds scanned
        have unread : ofTokens? maxDepth (t :: later) = none := not_ofTokens?_of_begin closing
        exact absurd (unread.symm.trans read) (by simp)
      · exact first

end VariableStore.Json

/-! ## Bare texts

Bare text as a stored string. Older writers left out the quotes, and a stored text that is no JSON is read as it
stands. One that is JSON by chance is read as the compact text of its value, which is another text if the layout was
another: white space goes, and numbers are written anew. So a bare text is read as itself exactly if it is no JSON or
is laid out as the store itself would lay it out, and prose, which does not begin as JSON does, is always read as
itself.
-/

namespace VariableStore

theorem Json.coercedText_of_unquoted {j : Json} (unquoted : ∀ s, j ≠ .string s) : j.coercedText = j.compact := by
  cases j with
  | string s => exact absurd rfl (unquoted s)
  | bool b => cases b <;> rfl
  | _ => rfl

/-- The compact text of a value that was read is read as that value, with its numbers as they are read back. -/
theorem Json.ofText?_compact {t : String} {j : Json} (h : ofText? t = some j) : ofText? j.compact = some j.reread := by
  have proper : j.Proper maxDepth := proper_of_ofCharsWithin? h
  rw [ofText?_compact_eq, ofCharsWithin?_chars proper (readable j)]

namespace Envelope

/-- A text that is no JSON is read as it stands. -/
theorem decodeString_of_other {t : String} (h : Json.ofText? t = none) :
    decodeString (Utf8.encode t) = .ok (some (.string t)) := by
  rw [decodeString, Json.ofBytes?_encode, h, Utf8.decode_encode]

/-- A text that is JSON is read as the compact text of its value, if this is no string and not null. -/
theorem decodeString_of_json {t : String} {j : Json} (h : Json.ofText? t = some j) (nonnull : j ≠ .null)
    (unquoted : ∀ s, j ≠ .string s) : decodeString (Utf8.encode t) = .ok (some (.string j.compact)) := by
  rw [decodeString, Json.ofBytes?_encode, h, ← Json.coercedText_of_unquoted unquoted]
  cases j with
  | null => exact absurd rfl nonnull
  | _ => rfl

/-- Every stored text that is neither a JSON string nor null is read as a text. It is read as itself exactly if it is no
JSON or the compact text of the value that it stands for, and so if it does not begin as JSON does; otherwise it is read
as that compact text, which stands for the same value with its numbers as they are read back. -/
theorem bare_text_verbatim_iff {raw : Bytes} {t : String} (text : Utf8.decode raw = .ok t)
    (bare : ∀ j, Json.ofText? t = some j → j ≠ .null ∧ ∀ s, j ≠ .string s) :
    ∃ u, decode .string raw = .ok (some (.string u)) ∧
      (u = t ↔ ∀ j, Json.ofText? t = some j → t = j.compact) ∧
      (∀ j, Json.ofText? t = some j → u = j.compact ∧ Json.ofText? u = some j.reread) ∧
      ((∀ c, (t.toList.dropWhile Json.isSpace).head? = some c → Json.begins c = false) → u = t) := by
  obtain rfl := Utf8.decode_eq_ok_iff.mp text
  cases read : Json.ofText? t with
  | none => exact ⟨t, decodeString_of_other read, by simp, by simp, fun _ => rfl⟩
  | some j =>
    obtain ⟨nonnull, unquoted⟩ := bare j read
    refine ⟨j.compact, decodeString_of_json read nonnull unquoted, ?_, ?_, ?_⟩
    · simp [eq_comm]
    · rintro k ⟨⟩
      exact ⟨rfl, Json.ofText?_compact read⟩
    · intro prose
      obtain ⟨c, first, begins⟩ := Json.begins_of_ofChars? read
      exact absurd (prose c first) (by simp [begins])

/-- A list in another layout than the compact one, and prose. -/
theorem bare_text_verbatim_iff_of_layout :
    decode .string (Utf8.encode "[1, 2]") = .ok (some (.string "[1,2]")) ∧
      decode .string (Utf8.encode " due: 3 May") = .ok (some (.string " due: 3 May")) := by
  constructor
  · have read : Json.ofText? "[1, 2]" =
        some (.array [.number (.natural 1 (by decide)), .number (.natural 2 (by decide))]) := rfl
    obtain ⟨u, decoded, -, laidOut, -⟩ := bare_text_verbatim_iff (Utf8.decode_encode "[1, 2]") (by
      rintro j found
      cases read.symm.trans found
      simp)
    rw [decoded, (laidOut _ read).1]
    rfl
  · have unread : Json.ofText? " due: 3 May" = none := rfl
    obtain ⟨u, decoded, -, -, prose⟩ := bare_text_verbatim_iff (Utf8.decode_encode " due: 3 May") (by simp [unread])
    rw [decoded, prose (by rintro c ⟨⟩; rfl)]

/-- The text `1.10` is a JSON number, so neither a JSON string nor null, and is read as `1.1`. -/
theorem bare_version_shortened : (∃ n, Json.ofText? "1.10" = some (.number n)) ∧
    decode .string (Utf8.encode "1.10") = .ok (some (.string "1.1")) := by
  have written : (Json.Number.ofWord? "1.10".toList).map (fun n => (Json.number n).compact) = some "1.1" := by
    decide +kernel
  obtain ⟨n, number, compact⟩ := Option.map_eq_some_iff.mp written
  have value : Json.ofWord? "1.10".toList = some (.number n) := by
    rw [Json.ofWord?, if_neg (by decide), if_neg (by decide), if_neg (by decide), number, Option.map_some]
  have read : Json.ofText? "1.10" = some (.number n) :=
    Json.ofChars?_word (by simp) (List.all_eq_true.mp rfl) value
  refine ⟨⟨n, read⟩, ?_⟩
  rw [decode, decodeString_of_json read (by simp) (by simp), compact]

end Envelope

end VariableStore
