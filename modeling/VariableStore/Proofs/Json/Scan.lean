import VariableStore.Proofs.Json.Numbers
import VariableStore.Proofs.List
import VariableStore.Proofs.Json.Structure
/-!
The compact text of a value is read as the tokens of the value, with its numbers as they are read back. A word needs to
know what follows it, so the statement for a value is about its text in front of a rest that does not go on with a
word.
-/
namespace VariableStore.Json

mutual

def tokens : Json → List Token
  | string s => [.text s]
  | array items => .openArray :: (List.intercalate [.comma] (itemTokens items) ++ [.closeArray])
  | object fields => .openObject :: (List.intercalate [.comma] (fieldTokens fields) ++ [.closeObject])
  | j => [.leaf j]

def itemTokens : List Json → List (List Token)
  | [] => []
  | item :: rest => item.tokens :: itemTokens rest

def fieldTokens : List (String × Json) → List (List Token)
  | [] => []
  | (name, value) :: rest => (.text name :: .colon :: value.tokens) :: fieldTokens rest

end

theorem itemTokens_eq_map (items : List Json) : itemTokens items = items.map tokens := by
  induction items with
  | nil => rfl
  | cons j rest ih => simp [itemTokens, ih]

theorem fieldTokens_eq_map (fields : List (String × Json)) :
    fieldTokens fields = fields.map fun field => .text field.1 :: .colon :: field.2.tokens := by
  induction fields with
  | nil => rfl
  | cons field rest ih => simp [fieldTokens, ih]

theorem commaSeparated_eq_intercalate (parts : List (List Char)) :
    commaSeparated parts = List.intercalate [','] parts := by
  fun_induction commaSeparated parts with
  | case1 => rfl
  | case2 part => simp
  | case3 part parts nonempty ih =>
    cases parts with
    | nil => exact absurd rfl nonempty
    | cons next rest => rw [ih, List.intercalate_cons_cons]; simp

/-- A rest in front of which a word ends. -/
def Stops (rest : List Char) : Prop := ∀ c more, rest = c :: more → isWordChar c = false

theorem stops_nil : Stops [] := by
  rintro c more ⟨⟩

theorem stops_cons {c : Char} {rest : List Char} (h : isWordChar c = false) : Stops (c :: rest) := by
  rintro d more ⟨⟩
  exact h

theorem isSpace_of_isWordChar {c : Char} (h : isWordChar c = true) : isSpace c = false := by
  cases space : isSpace c with
  | false => rfl
  | true =>
    simp only [isSpace, Bool.or_eq_true, beq_iff_eq] at space
    rcases space with ((rfl | rfl) | rfl) | rfl <;> exact absurd h (by decide)

theorem scanFrom_inWord (acc : List Token) (read word rest : List Char)
    (letters : ∀ c ∈ word, isWordChar c = true) :
    scanFrom acc (.word read) (word ++ rest) = scanFrom acc (.word (word.reverse ++ read)) rest := by
  induction word generalizing read with
  | nil => rfl
  | cons c word ih =>
    obtain ⟨hc, hword⟩ := List.forall_mem_cons.mp letters
    simp only [List.cons_append, scanFrom, scanStep, if_pos hc]
    rw [ih _ hword]
    simp

/-- A word ends where the rest begins, and the rest is read from between tokens. -/
theorem scanFrom_word {acc : List Token} {word rest : List Char} {j : Json} (nonempty : word ≠ [])
    (letters : ∀ c ∈ word, isWordChar c = true) (value : ofWord? word = some j) (stops : Stops rest) :
    scanFrom acc .between (word ++ rest) = scanFrom (.leaf j :: acc) .between rest := by
  cases word with
  | nil => exact absurd rfl nonempty
  | cons c word =>
    obtain ⟨hc, hword⟩ := List.forall_mem_cons.mp letters
    have first : scanFrom acc .between ((c :: word) ++ rest) = scanFrom acc (.word [c]) (word ++ rest) := by
      simp [scanFrom, scanStep, start, isSpace_of_isWordChar hc, hc, found]
    rw [first, scanFrom_inWord acc [c] word rest hword]
    have whole : (word.reverse ++ [c]).reverse = c :: word := by simp
    cases rest with
    | nil => simp only [scanFrom, whole, value, Option.map_some]
    | cons d rest =>
      have hd := stops d rest rfl
      simp only [scanFrom, scanStep, hd, whole, value]
      cases start d <;> rfl

theorem hexValue?_digitChar : ∀ n, n < 16 → hexValue? (Nat.digitChar n) = some n := by decide

theorem closeCode_plain (read : List Char) (value : Nat) (h : value < 0xD800) :
    closeCode read none value = some (.text (Char.ofNat value :: read)) := by
  simp only [closeCode]
  rw [if_neg (by omega), if_neg (by omega)]

/-- One character of a string is read back from its escape. -/
theorem scanFrom_escape (acc : List Token) (read : List Char) (c : Char) (rest : List Char) :
    scanFrom acc (.text read) (escape c ++ rest) = scanFrom acc (.text (c :: read)) rest := by
  unfold escape
  split
  · rfl
  · rfl
  · rfl
  · rfl
  · rfl
  · rfl
  · rfl
  · next quote backslash _ _ _ _ _ =>
    split
    · next control =>
      have high : hexValue? (hexDigit (c.toNat / 16)) = some (c.toNat / 16) := by
        rw [hexDigit, Nat.mod_eq_of_lt (by omega), hexValue?_digitChar _ (by omega)]
      have low : hexValue? (hexDigit c.toNat) = some (c.toNat % 16) := hexValue?_digitChar _ (by omega)
      have zero : hexValue? '0' = some 0 := by decide
      have code : c.toNat / 16 * 16 + c.toNat % 16 = c.toNat := by omega
      have close := closeCode_plain read c.toNat (by omega)
      rw [Char.ofNat_toNat] at close
      simp [scanFrom, scanStep, zero, high, low, code, close]
    · next printable =>
      simp [scanFrom, scanStep, show c ≠ '"' from quote, show c ≠ '\\' from backslash, printable]

theorem scanFrom_quoted (acc : List Token) (s : String) (rest : List Char) :
    scanFrom acc .between (quoted s ++ rest) = scanFrom (.text s :: acc) .between rest := by
  have inside : ∀ (cs read : List Char), scanFrom acc (.text read) (cs.flatMap escape ++ '"' :: rest) =
      scanFrom (.text (String.ofList (read.reverse ++ cs)) :: acc) .between rest := by
    intro cs
    induction cs with
    | nil =>
      intro read
      simp [scanFrom, scanStep]
    | cons c cs ih =>
      intro read
      rw [List.flatMap_cons, List.append_assoc, scanFrom_escape, ih]
      simp
  have first : scanFrom acc .between (quoted s ++ rest) =
      scanFrom acc (.text []) (s.toList.flatMap escape ++ '"' :: rest) := by
    simp [quoted, scanFrom, scanStep, start, isSpace, isWordChar, found]
  rw [first, inside]
  simp

/-- Reading the text of something gives its tokens, whatever stands behind it. -/
def Scans (text : List Char) (tokens : List Token) : Prop :=
  ∀ acc rest, Stops rest → scanFrom acc .between (text ++ rest) = scanFrom (tokens.reverse ++ acc) .between rest

theorem scans_comma {text : List Char} {tokens : List Token} (h : Scans text tokens) :
    Scans (',' :: text) (.comma :: tokens) := by
  intro acc rest stops
  have first : scanFrom acc .between (',' :: text ++ rest) = scanFrom (.comma :: acc) .between (text ++ rest) :=
    rfl
  rw [first, h _ _ stops]
  simp

/-- Parts with commas between them are read part by part. -/
theorem scans_parts {α : Type} {text : α → List Char} {tokens : α → List Token} {parts : List α}
    (h : ∀ part ∈ parts, Scans (text part) (tokens part)) :
    Scans (commaSeparated (parts.map text)) (List.intercalate [.comma] (parts.map tokens)) := by
  have more : ∀ parts : List α, (∀ part ∈ parts, Scans (text part) (tokens part)) →
      Scans ((parts.map text).flatMap (',' :: ·)) ((parts.map tokens).flatMap (.comma :: ·)) := by
    intro parts
    induction parts with
    | nil => intro _ acc rest _; rfl
    | cons part parts ih =>
      intro h acc rest stops
      obtain ⟨head, tail⟩ := List.forall_mem_cons.mp h
      simp only [List.map_cons, List.flatMap_cons, List.append_assoc]
      rw [scans_comma head, ih tail _ _ stops]
      · simp
      · cases parts with
        | nil => exact stops
        | cons => exact stops_cons (by decide)
  cases parts with
  | nil => intro acc rest _; rfl
  | cons part parts =>
    intro acc rest stops
    obtain ⟨head, tail⟩ := List.forall_mem_cons.mp h
    rw [commaSeparated_eq_intercalate, List.map_cons, List.map_cons, intercalate_cons, intercalate_cons,
      List.append_assoc, head, more parts tail _ _ stops]
    · simp
    · cases parts with
      | nil => exact stops
      | cons => exact stops_cons (by decide)

theorem ofWord?_number {n m : Number} (h : Number.ofWord? n.text = some m) : ofWord? n.text = some (.number m) := by
  unfold ofWord?
  split
  · next word => rw [word, show Number.ofWord? ['n', 'u', 'l', 'l'] = none from rfl] at h; cases h
  split
  · next word => rw [word, show Number.ofWord? ['t', 'r', 'u', 'e'] = none from rfl] at h; cases h
  split
  · next word => rw [word, show Number.ofWord? ['f', 'a', 'l', 's', 'e'] = none from rfl] at h; cases h
  · rw [h]; rfl

/-- The compact text of a value is read as its tokens, with its numbers as they are read back. -/
theorem scans_chars {j : Json} (readable : j.Readable) : Scans j.chars j.reread.tokens := by
  induction j using inside_induction with
  | null => exact fun acc rest stops => scanFrom_word (by simp [chars]) (List.all_eq_true.mp rfl) rfl stops
  | bool b =>
    cases b <;> exact fun acc rest stops => scanFrom_word (by simp [chars]) (List.all_eq_true.mp rfl) rfl stops
  | number n =>
    intro acc rest stops
    obtain ⟨m, read⟩ := readable n (by simp)
    have nonempty : n.text ≠ [] := by
      intro empty
      rw [empty, show Number.ofWord? [] = none from rfl] at read
      cases read
    rw [reread_number, Number.reread_of_ofWord? read]
    exact scanFrom_word nonempty (Number.wordChars_text n) (ofWord?_number read) stops
  | string s => exact fun acc rest _ => scanFrom_quoted acc s rest
  | array items ih =>
    intro acc rest _
    have inside := scans_parts fun j hj => ih j hj ((readable_array_iff items).mp readable j hj)
    have first : scanFrom acc .between ((array items).chars ++ rest) = scanFrom (.openArray :: acc) .between
        (commaSeparated (items.map chars) ++ ']' :: rest) := by
      rw [chars, itemChars_eq_map, List.cons_append, List.append_assoc]
      rfl
    have last : ∀ acc, scanFrom acc .between (']' :: rest) = scanFrom (.closeArray :: acc) .between rest :=
      fun _ => rfl
    rw [first, inside _ _ (stops_cons (by decide)), last, reread_array, tokens, itemTokens_eq_map, List.map_map]
    simp [Function.comp_def]
  | object fields ih =>
    intro acc rest _
    have field : ∀ field ∈ fields, Scans (fieldText field) (.text field.1 :: .colon :: field.2.reread.tokens) := by
      intro field hf acc rest stops
      have value := ih field hf ((readable_object_iff fields).mp readable field hf)
      have colon : ∀ acc rest, scanFrom acc .between (':' :: rest) = scanFrom (.colon :: acc) .between rest :=
        fun _ _ => rfl
      rw [fieldText, List.append_assoc, scanFrom_quoted, List.cons_append, colon, value _ _ stops]
      simp
    have inside := scans_parts field
    have first : scanFrom acc .between ((object fields).chars ++ rest) = scanFrom (.openObject :: acc) .between
        (commaSeparated (fields.map fieldText) ++ '\x7d' :: rest) := by
      rw [chars, fieldChars_eq_map, List.cons_append, List.append_assoc]
      rfl
    have last : ∀ acc, scanFrom acc .between ('\x7d' :: rest) = scanFrom (.closeObject :: acc) .between rest :=
      fun _ => rfl
    rw [first, inside _ _ (stops_cons (by decide)), last, reread_object, tokens, fieldTokens_eq_map, List.map_map]
    simp [Function.comp_def, fieldReread]

theorem scan?_chars {j : Json} (readable : j.Readable) : scan? j.chars = some j.reread.tokens := by
  have all := scans_chars readable [] [] stops_nil
  rw [List.append_nil] at all
  rw [scan?, all]
  simp [scanFrom]

end VariableStore.Json
