import VariableStore.Proofs.Text
import VariableStore.Variable
/-!
The text of a variable that was read is the text that it was read from, without the white space around it. So it
is read as that variable again, and variables that were read are equal if their texts are.
-/
namespace VariableStore.Variable

/-- A run ends at its mark. -/
theorem run?_ok {member : Char → Bool} {mark : Char} {cs run rest : List Char}
    (h : run? member mark cs = some (run, rest)) : cs = run ++ mark :: rest := by
  have whole := List.takeWhile_append_dropWhile (p := member) (l := cs)
  unfold run? at h
  split at h
  · next first more c behind taken dropped =>
    split at h
    · next same =>
      cases h
      rw [taken, dropped, same] at whole
      exact whole.symm
    · cases h
  · cases h

def Opening.chars (o : Opening) : List Char :=
  '#' :: (o.application ++ ':' :: (o.job ++ ':' :: (o.key ++ '!' :: o.rest)))

theorem Opening.read?_ok {cs : List Char} {o : Opening} (h : Opening.read? cs = some o) : cs = o.chars := by
  unfold Opening.read? at h
  split at h
  · next cs =>
    simp only [Option.bind_eq_bind, Option.bind_eq_some_iff, Option.some.injEq, Prod.exists] at h
    obtain ⟨application, afterApplication, first, job, afterJob, second, key, rest, third, rfl⟩ := h
    rw [run?_ok first, run?_ok second, run?_ok third]
    rfl
  · cases h

theorem Opening.toList_text_variable (o : Opening) : (o.variable o.rest).text.toList = o.chars := by
  simp [text, Opening.variable, VariableType.name_ofName, Opening.chars]

theorem ofChars?_ok {cs : List Char} {v : Variable} (h : ofChars? cs = some v) : v.text.toList = cs := by
  obtain ⟨o, read, h⟩ := Option.bind_eq_some_iff.mp h
  split at h
  · cases h
    rw [Opening.toList_text_variable, ← Opening.read?_ok read]
  · cases h

/-- The text of a variable that was read is what it was read from. -/
theorem text_of_parse? {s : String} {v : Variable} (h : parse? s = some v) : v.text = Text.trim s := by
  rw [← String.toList_inj, Text.toList_trim]
  exact ofChars?_ok h

/-- White space around a text does not matter. -/
theorem parse?_trim (s : String) : parse? (Text.trim s) = parse? s := by
  rw [parse?, parse?, Text.toList_trim, Text.trimChars_trimChars]

/-- A variable that was read is read from its text. -/
theorem parse?_text {s : String} {v : Variable} (h : parse? s = some v) : parse? v.text = some v := by
  rw [text_of_parse? h, parse?_trim, h]

theorem eq_of_text_eq {s t : String} {v w : Variable} (hv : parse? s = some v) (hw : parse? t = some w)
    (h : v.text = w.text) : v = w := by
  have back := parse?_text hv
  rw [h, parse?_text hw] at back
  exact (Option.some.inj back).symm

end VariableStore.Variable

/-! ## Grammar

The grammar of variables. A text, trimmed, is read as a variable exactly if it is made of four well formed parts with
the marks `#`, `:`, `:` and `!` in front of them. No mark can stand inside the part in front of it, so the parts are
unique, and a variable made of well formed parts is read back from its text.
-/

namespace VariableStore

namespace VariableType

theorem isCustom_ofName (name : String) : (ofName name).isCustom = false ↔ ∃ t ∈ standard, t.name = name := by
  unfold ofName
  cases found : standard.find? (fun t => t.name = name) with
  | none =>
    have absent : ∀ t ∈ standard, t.name ≠ name := by simpa using found
    simp only [Option.getD_none, isCustom, Bool.true_eq_false, false_iff, not_exists, not_and]
    exact absent
  | some t =>
    have same : t.name = name := by simpa using List.find?_some found
    have inside : t ∈ standard := List.mem_of_find?_eq_some found
    have plain : t.isCustom = false := (show ∀ t ∈ standard, t.isCustom = false by decide) t inside
    simp only [Option.getD_some, plain, true_iff]
    exact ⟨t, inside, same⟩

end VariableType

namespace Variable

/-- The members of a run belong to its class, and there is one. -/
theorem run?_members {member : Char → Bool} {mark : Char} {cs run rest : List Char}
    (h : run? member mark cs = some (run, rest)) : run ≠ [] ∧ ∀ c ∈ run, member c = true := by
  unfold run? at h
  split at h
  · next first more c behind taken dropped =>
    split at h
    · cases h
      refine ⟨List.cons_ne_nil first more, ?_⟩
      rw [← taken]
      exact List.all_eq_true.mp List.all_takeWhile
    · cases h
  · cases h

/-- A run is read up to a mark that is not of its class. -/
theorem run?_append {member : Char → Bool} {mark : Char} {run : List Char} (filled : run ≠ [])
    (inside : ∀ c ∈ run, member c = true) (outside : member mark = false) (rest : List Char) :
    run? member mark (run ++ mark :: rest) = some (run, rest) := by
  have taken : (run ++ mark :: rest).takeWhile member = run := by
    rw [List.takeWhile_append_of_pos inside, List.takeWhile_cons_of_neg (by simp [outside]), List.append_nil]
  have dropped : (run ++ mark :: rest).dropWhile member = mark :: rest := by
    rw [List.dropWhile_append_of_pos inside, List.dropWhile_cons_of_neg (by simp [outside])]
  unfold run?
  rw [taken, dropped]
  cases run with
  | nil => exact absurd rfl filled
  | cons first more => simp

/-- The three parts in front of a type name are runs of their classes. -/
structure Opening.Legal (o : Opening) : Prop where
  application : o.application ≠ [] ∧ ∀ c ∈ o.application, isApplicationChar c = true
  job : o.job ≠ [] ∧ ∀ c ∈ o.job, Text.isDecimalDigit c = true
  key : o.key ≠ [] ∧ ∀ c ∈ o.key, isKeyChar c = true

instance (o : Opening) : Decidable o.Legal :=
  decidable_of_iff
    ((o.application ≠ [] ∧ o.application.all isApplicationChar = true) ∧
      (o.job ≠ [] ∧ o.job.all Text.isDecimalDigit = true) ∧ o.key ≠ [] ∧ o.key.all isKeyChar = true)
    (by
      simp only [List.all_eq_true]
      exact ⟨fun ⟨application, job, key⟩ => ⟨application, job, key⟩, fun h => ⟨h.application, h.job, h.key⟩⟩)

theorem Opening.legal_of_read? {cs : List Char} {o : Opening} (h : Opening.read? cs = some o) : o.Legal := by
  unfold Opening.read? at h
  split at h
  · simp only [Option.bind_eq_bind, Option.bind_eq_some_iff, Option.some.injEq, Prod.exists] at h
    obtain ⟨application, afterApplication, first, job, afterJob, second, key, rest, third, rfl⟩ := h
    exact ⟨run?_members first, run?_members second, run?_members third⟩
  · cases h

/-- What a legal opening is written as is read as that opening. -/
theorem Opening.Legal.read?_chars {o : Opening} (h : o.Legal) : Opening.read? o.chars = some o := by
  have first := run?_append h.application.1 h.application.2 (show isApplicationChar ':' = false by decide)
  have second := run?_append h.job.1 h.job.2 (show Text.isDecimalDigit ':' = false by decide)
  have third := run?_append h.key.1 h.key.2 (show isKeyChar '!' = false by decide)
  simp only [Opening.chars, Opening.read?, first, second, third, Option.bind_eq_bind, Option.bind_some]

theorem Opening.Legal.eq_of_chars_eq {o p : Opening} (ho : o.Legal) (hp : p.Legal) (h : o.chars = p.chars) :
    o = p := by
  have read := ho.read?_chars
  rw [h, hp.read?_chars] at read
  exact (Option.some.inj read).symm

/-- The texts in front of, between and behind the marks of a variable. -/
structure Parts where
  application : String
  job : String
  key : String
  type : String
  deriving DecidableEq, Repr

namespace Parts

def text (p : Parts) : String := "#" ++ p.application ++ ":" ++ p.job ++ ":" ++ p.key ++ "!" ++ p.type

def toVariable (p : Parts) : Variable := ⟨p.application, p.job, p.key, .ofName p.type⟩

/-- The grammar: letters, decimal digits of any script, key characters and type characters, one or more of each;
and a type name is a standard one or begins like none of the reserved ones. -/
structure WellFormed (p : Parts) : Prop where
  application : p.application ≠ "" ∧ ∀ c ∈ p.application.toList, c.isAlpha = true
  job : p.job ≠ "" ∧ ∀ c ∈ p.job.toList, Text.isDecimalDigit c = true
  key : p.key ≠ "" ∧ ∀ c ∈ p.key.toList, c.isAlphanum = true ∨ c ∈ ['_', '.', '-', '[', ']']
  type : p.type ≠ "" ∧ ∀ c ∈ p.type.toList, c.isAlphanum = true ∨ c ∈ ['_', '-']
  known : (∃ t ∈ VariableType.standard, t.name = p.type) ∨
    ∀ name ∈ ["String", "Binary", "KeyValue", "TCEntity", "TCEnhancedEntity"],
      ¬ name.toList <+: p.type.toList

/-- The parts as a reader finds them, the type name behind the others. -/
def opening (p : Parts) : Opening := ⟨p.application.toList, p.job.toList, p.key.toList, p.type.toList⟩

/-- The parts that an opening with a whole type name behind it stands for. -/
def ofOpening (o : Opening) : Parts :=
  ⟨String.ofList o.application, String.ofList o.job, String.ofList o.key, String.ofList o.rest⟩

@[simp] theorem opening_ofOpening (o : Opening) : (ofOpening o).opening = o := by
  simp [opening, ofOpening]

theorem toList_text (p : Parts) : p.text.toList = p.opening.chars := by
  simp [text, opening, Opening.chars]

theorem toVariable_eq (p : Parts) : p.toVariable = p.opening.variable p.opening.rest := by
  simp [toVariable, opening, Opening.variable]

theorem text_toVariable (p : Parts) : p.toVariable.text = p.text := by
  simp [toVariable, Variable.text, text, VariableType.name_ofName]

theorem eq_of_opening_eq {p q : Parts} (h : p.opening = q.opening) : p = q := by
  obtain ⟨application, job, key, type⟩ := p
  obtain ⟨application', job', key', type'⟩ := q
  simpa [opening, String.toList_inj] using h

end Parts

theorem isKeyChar_iff (c : Char) :
    isKeyChar c = true ↔ c.isAlphanum = true ∨ c ∈ ['_', '.', '-', '[', ']'] := by
  simp [isKeyChar, or_assoc]

theorem isTypeChar_iff (c : Char) : isTypeChar c = true ↔ c.isAlphanum = true ∨ c ∈ ['_', '-'] := by
  simp [isTypeChar, or_assoc]

theorem isTypeName_iff (name : List Char) :
    isTypeName name = true ↔ (∃ t ∈ VariableType.standard, t.name = String.ofList name) ∨
      ∀ r ∈ reserved, ¬ r.toList <+: name := by
  rw [← VariableType.isCustom_ofName]
  simp only [isTypeName, Bool.or_eq_true, Bool.not_eq_true', List.any_eq_false, List.isPrefixOf_iff_prefix]

/-- Parts are well formed exactly if a reader takes them for an opening with a type name behind it. -/
theorem Parts.wellFormed_iff (p : Parts) : p.WellFormed ↔ p.opening.Legal ∧ p.opening.rest ≠ [] ∧
    (∀ c ∈ p.opening.rest, isTypeChar c = true) ∧ isTypeName p.opening.rest = true := by
  simp only [isTypeName_iff, isTypeChar_iff]
  constructor
  · intro h
    refine ⟨⟨?_, ?_, ?_⟩, ?_, h.type.2, ?_⟩
    · exact ⟨by simpa [opening] using h.application.1, h.application.2⟩
    · exact ⟨by simpa [opening] using h.job.1, h.job.2⟩
    · exact ⟨by simpa [opening] using h.key.1, fun c hc => (isKeyChar_iff c).mpr (h.key.2 c hc)⟩
    · simpa [opening] using h.type.1
    · simpa [opening, reserved] using h.known
  · rintro ⟨legal, filled, chars, known⟩
    refine ⟨?_, ?_, ?_, ⟨?_, chars⟩, ?_⟩
    · exact ⟨by simpa [opening] using legal.application.1, legal.application.2⟩
    · exact ⟨by simpa [opening] using legal.job.1, legal.job.2⟩
    · exact ⟨by simpa [opening] using legal.key.1, fun c hc => (isKeyChar_iff c).mp (legal.key.2 c hc)⟩
    · simpa [opening] using filled
    · simpa [opening, reserved] using known

instance (p : Parts) : Decidable p.WellFormed :=
  decidable_of_iff (p.opening.Legal ∧ p.opening.rest ≠ [] ∧ p.opening.rest.all isTypeChar = true ∧
      isTypeName p.opening.rest = true)
    (by rw [p.wellFormed_iff, List.all_eq_true])

/-- Characters are read as a variable exactly if well formed parts are written so. -/
theorem ofChars?_eq_some_iff (cs : List Char) (v : Variable) :
    ofChars? cs = some v ↔ ∃ p : Parts, p.WellFormed ∧ cs = p.text.toList ∧ v = p.toVariable := by
  constructor
  · intro h
    obtain ⟨o, read, h⟩ := Option.bind_eq_some_iff.mp h
    split at h
    · next named =>
      cases h
      have type : o.rest ≠ [] ∧ (∀ c ∈ o.rest, isTypeChar c = true) ∧ isTypeName o.rest = true := by
        simpa [and_assoc] using named
      refine ⟨.ofOpening o, ?_, ?_, ?_⟩
      · rw [Parts.wellFormed_iff, Parts.opening_ofOpening]
        exact ⟨Opening.legal_of_read? read, type⟩
      · rw [Parts.toList_text, Parts.opening_ofOpening, Opening.read?_ok read]
      · rw [Parts.toVariable_eq, Parts.opening_ofOpening]
    · cases h
  · rintro ⟨p, wellFormed, rfl, rfl⟩
    obtain ⟨legal, filled, chars, known⟩ := p.wellFormed_iff.mp wellFormed
    have named : (!p.opening.rest.isEmpty && p.opening.rest.all isTypeChar && isTypeName p.opening.rest) = true := by
      simp [filled, known, List.all_eq_true.mpr chars]
    rw [Parts.toList_text, ofChars?, legal.read?_chars, Option.bind_eq_bind, Option.bind_some, if_pos named,
      Parts.toVariable_eq]

theorem Parts.WellFormed.eq_of_text_eq {p q : Parts} (hp : p.WellFormed) (hq : q.WellFormed)
    (h : p.text = q.text) : p = q := by
  apply Parts.eq_of_opening_eq
  apply (p.wellFormed_iff.mp hp).1.eq_of_chars_eq (q.wellFormed_iff.mp hq).1
  rw [← Parts.toList_text, ← Parts.toList_text, h]

theorem range_of_isAlphanum {c : Char} (h : c.isAlphanum = true) : 48 ≤ c.toNat ∧ c.toNat ≤ 122 := by
  have classes : c.isAlphanum = (decide (c.val ≥ 'A'.val ∧ c.val ≤ 'Z'.val) ||
      (decide (c.val ≥ 'a'.val) && decide (c.val ≤ 'z'.val)) ||
      (decide (c.val ≥ '0'.val) && decide (c.val ≤ '9'.val))) := rfl
  simp only [classes, Bool.or_eq_true, Bool.and_eq_true, decide_eq_true_eq, UInt32.le_iff_toNat_le,
    ge_iff_le] at h
  have value : c.toNat = c.val.toNat := rfl
  have upper : 'A'.val.toNat = 65 ∧ 'Z'.val.toNat = 90 := by decide
  have lower : 'a'.val.toNat = 97 ∧ 'z'.val.toNat = 122 := by decide
  have digit : '0'.val.toNat = 48 ∧ '9'.val.toNat = 57 := by decide
  omega

theorem isBlank_of_isTypeChar {c : Char} (h : isTypeChar c = true) : Text.isBlank c = false := by
  have range : 33 ≤ c.toNat ∧ c.toNat ≤ 126 := by
    rcases (isTypeChar_iff c).mp h with letter | other
    · have inside := range_of_isAlphanum letter
      omega
    · simp only [List.mem_cons, List.not_mem_nil, or_false] at other
      rcases other with rfl | rfl <;> decide
  simp [Text.isBlank]
  omega

/-- There is no white space at the ends of well formed parts. -/
theorem Parts.WellFormed.trim_text {p : Parts} (h : p.WellFormed) : Text.trim p.text = p.text := by
  obtain ⟨-, filled, chars, -⟩ := p.wellFormed_iff.mp h
  rw [← String.toList_inj, Text.toList_trim, Parts.toList_text]
  apply Text.trimChars_eq_self
  · intro c first
    cases first
    decide
  · intro c last
    -- The last character is that of the type name, which is not empty.
    obtain ⟨before, whole⟩ : ∃ before, p.opening.chars = before ++ p.opening.rest :=
      ⟨'#' :: (p.opening.application ++ ':' :: (p.opening.job ++ ':' :: (p.opening.key ++ ['!']))), by
        simp [Opening.chars]⟩
    rw [whole, List.getLast?_append, List.getLast?_eq_some_getLast filled, Option.some_or] at last
    cases last
    exact isBlank_of_isTypeChar (chars _ (List.getLast_mem filled))

theorem parse?_eq_some_iff (raw : String) (v : Variable) :
    parse? raw = some v ↔ ∃ p : Parts, p.WellFormed ∧ Text.trim raw = p.text ∧ v = p.toVariable := by
  simp only [parse?, ofChars?_eq_some_iff, ← Text.toList_trim, String.toList_inj]

theorem Parts.WellFormed.parse?_text {p : Parts} (h : p.WellFormed) : parse? p.text = some p.toVariable :=
  (parse?_eq_some_iff p.text p.toVariable).mpr ⟨p, h, h.trim_text, rfl⟩

/-- The key of a variable that was read names no variable itself. -/
theorem parse?_key {spelling : String} {v : Variable} (read : parse? spelling = some v) :
    parse? v.key = none := by
  obtain ⟨p, wellFormed, -, rfl⟩ := (parse?_eq_some_iff spelling v).mp read
  cases other : parse? p.toVariable.key with
  | none => rfl
  | some w =>
    -- The text of a variable begins with a mark that no key holds.
    have mark : '#' ∈ (Text.trimChars p.key.toList) := by
      rw [← Text.toList_trim, show p.key = p.toVariable.key from rfl, ← text_of_parse? other]
      simp [text]
    have inside : '#' ∈ p.key.toList := by
      have front := (List.dropWhile_suffix Text.isBlank).subset (List.mem_reverse.mp mark)
      exact (List.dropWhile_suffix Text.isBlank).subset (List.mem_reverse.mp front)
    exact absurd (wellFormed.key.2 '#' inside) (by decide)

/-- A text is read as a variable exactly if it is, trimmed, the text of well formed parts, and then as the
variable that these parts make. No two well formed parts have one text. The text of a variable that was read is the
trimmed text, a variable made of well formed parts is read from its text, and variables that were read are equal if
their texts are. -/
theorem parse?_by_grammar :
    (∀ raw v, parse? raw = some v ↔ ∃ p : Parts, p.WellFormed ∧ Text.trim raw = p.text ∧ v = p.toVariable) ∧
    (∀ p q : Parts, p.WellFormed → q.WellFormed → p.text = q.text → p = q) ∧
    (∀ raw v, parse? raw = some v → v.text = Text.trim raw) ∧
    (∀ p : Parts, p.WellFormed → parse? p.toVariable.text = some p.toVariable) ∧
    ∀ raw other v w, parse? raw = some v → parse? other = some w → v.text = w.text → v = w := by
  refine ⟨parse?_eq_some_iff, fun p q hp hq => hp.eq_of_text_eq hq, fun raw v => text_of_parse?, fun p hp => ?_,
    fun raw other v w => eq_of_text_eq⟩
  rw [p.text_toVariable]
  exact hp.parse?_text

/-- A digit of another script, a key with brackets, and the front of a standard name as type name. -/
theorem parse?_by_grammar_of_items :
    let p : Parts := ⟨"App", "٣", "items[0]", "TCEnhanced"⟩
    let v : Variable := ⟨"App", "٣", "items[0]", .custom "TCEnhanced"⟩
    let padded := "\t#App:٣:items[0]!TCEnhanced\n"
    p.WellFormed ∧ parse? padded = some v ∧ v.text = Text.trim padded ∧ parse? v.text = some v ∧
      (∀ q : Parts, q.WellFormed → q.text = p.text → q = p) ∧
      ∀ raw w, parse? raw = some w → w.text = v.text → w = v := by
  intro p v padded
  obtain ⟨grammar, unique, text, back, injective⟩ := parse?_by_grammar
  have wellFormed : p.WellFormed := by decide +kernel
  have made : p.toVariable = v := by decide +kernel
  have read : parse? padded = some v := (grammar padded v).mpr ⟨p, wellFormed, by decide +kernel, made.symm⟩
  have again : parse? v.text = some v := made ▸ back p wellFormed
  exact ⟨wellFormed, read, text padded v read, again, fun q hq => unique q p hq wellFormed,
    fun raw w other => injective raw padded w v other read⟩

/-- A type name that goes on behind a standard one is refused. -/
example : parse? "#App:1:x!StringArrayX" = none ∧ parse? "#App:1:x!Binary-1" = none := by decide +kernel

end Variable

end VariableStore

/-! ## On the wire

The form of variables on the wire: marks, letters, the digits 0 to 9, key characters and type characters, all of them
ASCII. A reader takes the digits of any script for a job. So the text of a variable that was read has the form but for
the script of its digits, and it is on the wire if these are 0 to 9, that is, if the text is ASCII.
-/

namespace VariableStore.Variable

structure Parts.Formed (digit : Char → Bool) (p : Parts) : Prop where
  application : p.application ≠ "" ∧ ∀ c ∈ p.application.toList, c.isAlpha = true
  job : p.job ≠ "" ∧ ∀ c ∈ p.job.toList, digit c = true
  key : p.key ≠ "" ∧ ∀ c ∈ p.key.toList, c.isAlphanum = true ∨ c ∈ ['_', '.', '-', '[', ']']
  type : p.type ≠ "" ∧ ∀ c ∈ p.type.toList, c.isAlphanum = true ∨ c ∈ ['_', '-']

/-- A text of the form of variables, with a class for the characters of a job. -/
def HasForm (digit : Char → Bool) (s : String) : Prop := ∃ p : Parts, p.Formed digit ∧ s = p.text

def OnWire (s : String) : Prop := HasForm Char.isDigit s

def Ascii (s : String) : Prop := ∀ c ∈ s.toList, c.toNat < 128

instance (s : String) : Decidable (Ascii s) :=
  decidable_of_iff (s.toList.all (fun c => c.toNat < 128) = true) (by simp [Ascii])

/-- The job has only the digits 0 to 9. -/
def Plain (v : Variable) : Prop := ∀ c ∈ v.job.toList, c.isDigit = true

instance (v : Variable) : Decidable v.Plain :=
  decidable_of_iff (v.job.toList.all Char.isDigit = true) (by rw [List.all_eq_true, Plain])

theorem isDigit_iff (c : Char) : c.isDigit = true ↔ 48 ≤ c.toNat ∧ c.toNat ≤ 57 := by
  simp only [Char.isDigit, Bool.and_eq_true, decide_eq_true_eq, ge_iff_le, UInt32.le_iff_toNat_le]
  rfl

/-- The digits among the ASCII characters are 0 to 9. -/
theorem isDigit_iff_ascii {c : Char} (digit : Text.isDecimalDigit c = true) : c.isDigit = true ↔ c.toNat < 128 := by
  have table : ∀ n, n < 128 → (Text.digitZeros.any fun start => start ≤ n && n < start + 10) = true →
      48 ≤ n ∧ n ≤ 57 := by decide +kernel
  rw [isDigit_iff]
  exact ⟨fun range => by omega, fun ascii => table c.toNat ascii digit⟩

namespace Parts.Formed

variable {p : Parts} {digit : Char → Bool}

/-- A job is the only part with characters that need not be ASCII. -/
theorem ascii_iff (h : p.Formed digit) : Ascii p.text ↔ ∀ c ∈ p.job.toList, c.toNat < 128 := by
  have letter : ∀ {c : Char}, c.isAlphanum = true → c.toNat < 128 := fun inside =>
    Nat.lt_of_le_of_lt (range_of_isAlphanum inside).2 (by decide)
  have application : ∀ c ∈ p.application.toList, c.toNat < 128 := fun c inside =>
    letter (by simp [Char.isAlphanum, h.application.2 c inside])
  have key : ∀ c ∈ p.key.toList, c.toNat < 128 := by
    intro c inside
    rcases h.key.2 c inside with own | other
    · exact letter own
    · simp only [List.mem_cons, List.not_mem_nil, or_false] at other
      rcases other with rfl | rfl | rfl | rfl | rfl <;> decide
  have type : ∀ c ∈ p.type.toList, c.toNat < 128 := by
    intro c inside
    rcases h.type.2 c inside with own | other
    · exact letter own
    · simp only [List.mem_cons, List.not_mem_nil, or_false] at other
      rcases other with rfl | rfl <;> decide
  have marks : '#'.toNat < 128 ∧ ':'.toNat < 128 ∧ '!'.toNat < 128 := by decide
  simp only [Ascii, toList_text, opening, Opening.chars, List.forall_mem_cons, List.forall_mem_append]
  exact ⟨fun all => all.2.2.2.1, fun job => ⟨marks.1, application, marks.2.1, job, marks.2.1, key, marks.2.2, type⟩⟩

end Parts.Formed

theorem OnWire.ascii {s : String} (h : OnWire s) : Ascii s := by
  obtain ⟨p, formed, rfl⟩ := h
  refine formed.ascii_iff.mpr fun c inside => ?_
  exact Nat.lt_of_le_of_lt ((isDigit_iff c).mp (formed.job.2 c inside)).2 (by decide)

/-- Where the digits of a job may be those of any script, it is ASCII that makes them 0 to 9. -/
theorem Parts.Formed.onWire_iff_ascii {p : Parts} (h : p.Formed Text.isDecimalDigit) :
    OnWire p.text ↔ Ascii p.text := by
  refine ⟨OnWire.ascii, fun ascii => ?_⟩
  have job : ∀ c ∈ p.job.toList, c.isDigit = true := fun c inside =>
    (isDigit_iff_ascii (h.job.2 c inside)).mpr (h.ascii_iff.mp ascii c inside)
  exact ⟨p, ⟨h.application, ⟨h.job.1, job⟩, h.key, h.type⟩, rfl⟩

/-- A text that stands for a variable on the wire, but for the script of the digits of its job. -/
structure WireText (v : Variable) (s : String) : Prop where
  form : HasForm Text.isDecimalDigit s
  onWire_iff_ascii : OnWire s ↔ Ascii s
  onWire_iff_plain : OnWire s ↔ v.Plain

theorem wireText_of_formed {v : Variable} {p : Parts} (formed : p.Formed Text.isDecimalDigit) (job : v.job = p.job) :
    v.WireText p.text := by
  refine ⟨⟨p, formed, rfl⟩, formed.onWire_iff_ascii, ?_⟩
  rw [formed.onWire_iff_ascii, formed.ascii_iff, Plain, job]
  exact forall₂_congr fun c inside => (isDigit_iff_ascii (formed.job.2 c inside)).symm

/-- The text of a variable that was read. -/
theorem wireText_of_parse? {spelling : String} {v : Variable} (read : parse? spelling = some v) :
    v.WireText v.text := by
  obtain ⟨p, wellFormed, -, rfl⟩ := (parse?_eq_some_iff spelling v).mp read
  rw [p.text_toVariable]
  exact wireText_of_formed ⟨wellFormed.application, wellFormed.job, wellFormed.key, wellFormed.type⟩ rfl

end VariableStore.Variable
