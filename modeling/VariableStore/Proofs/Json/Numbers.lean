import VariableStore.Json.Reader
import VariableStore.Proofs.Json.Structure
/-!
The texts of JSON numbers. An integer is read back from its text, and the text of every number is one word.
-/
namespace VariableStore.Json

theorem isWordChar_of_isDigit {c : Char} (h : c.isDigit = true) : isWordChar c = true := by
  simp [isWordChar, Char.isAlphanum, h]

namespace Number

/-- Digits with no zero in front of others. -/
structure Digits (ds : List Char) : Prop where
  nonempty : ds ≠ []
  digits : ∀ c ∈ ds, c.isDigit = true
  front : ∀ rest, ds = '0' :: rest → rest = []

theorem toDigits_front (n : Nat) : ∃ first rest, Nat.toDigits 10 n = first :: rest ∧ (first = '0' → n = 0) := by
  induction n using Nat.strongRecOn with
  | ind n ih =>
    by_cases small : n < 10
    · refine ⟨n.digitChar, [], Nat.toDigits_of_lt_base small, fun zero => ?_⟩
      have value := Nat.toNat_digitChar_sub_48_of_lt_ten small
      rw [zero] at value
      exact value.symm
    · obtain ⟨first, rest, eq, nonzero⟩ := ih (n / 10) (by omega)
      rw [Nat.toDigits_of_base_le (by decide) (by omega), eq]
      refine ⟨first, rest ++ _, rfl, fun zero => ?_⟩
      have := nonzero zero
      omega

theorem digits_toDigits (n : Nat) : Digits (Nat.toDigits 10 n) where
  nonempty := Nat.toDigits_ne_nil
  digits _ hc := Nat.isDigit_of_mem_toDigits (by decide) (by decide) hc
  front := by
    intro rest eq
    obtain ⟨first, more, eq', nonzero⟩ := toDigits_front n
    rw [eq] at eq'
    cases eq'
    have zero := nonzero rfl
    subst zero
    rw [Nat.toDigits_zero] at eq
    cases eq
    rfl

/-- What may follow the digits of a literal: nothing, or an exponent after its mark. -/
inductive Tail : List Char → Option Int → Prop where
  | none : Tail [] none
  | exponent {cs : List Char} {e : Int} : exponentOf? cs = some e → Tail ('e' :: cs) (some e)

/-- What may follow the whole digits of a literal, with the digits behind the point. -/
inductive Rest : List Char → List Char → Option Int → Prop where
  | whole {tail : List Char} {e : Option Int} : Tail tail e → Rest tail [] e
  | fraction {digits tail : List Char} {e : Option Int} : digits ≠ [] → (∀ c ∈ digits, c.isDigit = true) →
      Tail tail e → Rest ('.' :: (digits ++ tail)) digits e

/-- Digits end where something else begins. -/
theorem span_append {digits rest : List Char} (h : ∀ c ∈ digits, c.isDigit = true)
    (after : rest.takeWhile Char.isDigit = [] ∧ rest.dropWhile Char.isDigit = rest) :
    (digits ++ rest).takeWhile Char.isDigit = digits ∧ (digits ++ rest).dropWhile Char.isDigit = rest := by
  rw [List.takeWhile_append_of_pos h, List.dropWhile_append_of_pos h, after.1, after.2, List.append_nil]
  exact ⟨rfl, rfl⟩

theorem Tail.not_digit {tail : List Char} {e : Option Int} (h : Tail tail e) :
    tail.takeWhile Char.isDigit = [] ∧ tail.dropWhile Char.isDigit = tail := by
  cases h with
  | none => exact ⟨rfl, rfl⟩
  | exponent _ => exact ⟨rfl, rfl⟩

theorem Rest.not_digit {rest fraction : List Char} {e : Option Int} (h : Rest rest fraction e) :
    rest.takeWhile Char.isDigit = [] ∧ rest.dropWhile Char.isDigit = rest := by
  cases h with
  | whole tail => exact tail.not_digit
  | fraction _ _ _ => exact ⟨rfl, rfl⟩

theorem Digits.not_minus {ds rest cs : List Char} (h : Digits ds) : ds ++ rest ≠ '-' :: cs := by
  obtain ⟨first, more, rfl⟩ := List.exists_cons_of_ne_nil h.nonempty
  rintro ⟨⟩
  exact absurd (h.digits '-' List.mem_cons_self) (by decide)

def signed (minus : Bool) (cs : List Char) : List Char := if minus then '-' :: cs else cs

/-- A word with a sign, whole digits, and what may follow them is a literal. -/
theorem ofWord?_signed (minus : Bool) {whole rest fraction : List Char} {e : Option Int} (h : Digits whole)
    (following : Rest rest fraction e) :
    Literal.ofWord? (signed minus (whole ++ rest)) = some ⟨minus, whole, fraction, e⟩ := by
  obtain ⟨take, drop⟩ := span_append h.digits following.not_digit
  unfold Literal.ofWord?
  split
  next sign unsigned eq =>
    have parts : sign = minus ∧ unsigned = whole ++ rest := by
      cases minus with
      | true => simp only [signed, if_true, Prod.mk.injEq] at eq; exact ⟨eq.1.symm, eq.2.symm⟩
      | false =>
        simp only [signed, Bool.false_eq_true, if_false] at eq
        split at eq
        · next same => exact absurd same h.not_minus
        · cases eq; exact ⟨rfl, rfl⟩
    obtain ⟨rfl, rfl⟩ := parts
    simp only [take, drop]
    split
    case h_1 => exact absurd rfl h.nonempty
    case' h_3 first more other =>
      have nonzero : first ≠ '0' := fun zero => other zero (h.front more (zero ▸ rfl))
      rw [decide_eq_true nonzero]
    all_goals
      cases following with
      | whole tail =>
        cases tail with
        | none => rfl
        | exponent value => simp [value]
      | fraction some digits tail =>
        obtain ⟨take', drop'⟩ := span_append digits tail.not_digit
        cases tail with
        | none =>
          rw [List.append_nil] at take' drop'
          simp [some, take', drop']
        | exponent value => simp [some, take', drop', value]

/-- Digits alone, or after a minus, are a literal without fraction and exponent. -/
theorem literal_digits {ds : List Char} (h : Digits ds) (minus : Bool) :
    Literal.ofWord? (if minus then '-' :: ds else ds) = some ⟨minus, ds, [], none⟩ := by
  have literal := ofWord?_signed minus h (.whole .none)
  rwa [List.append_nil] at literal

/-- Natural numbers are read back. -/
theorem ofWord?_natural (n : Nat) (fits : n < UInt64.size) :
    ofWord? (natural n fits).text = some (natural n fits) := by
  have literal := literal_digits (digits_toDigits n) false
  simp only [Bool.false_eq_true, if_false] at literal
  simp [ofWord?, text, literal, Literal.number?, Nat.ofDigitChars_ten_toDigits, fits]

/-- Negative integers are read back. -/
theorem ofWord?_negative (n : Nat) (positive : 0 < n) (fits : n ≤ UInt64.size / 2) :
    ofWord? (negative n positive fits).text = some (negative n positive fits) := by
  have literal := literal_digits (digits_toDigits n) true
  simp only [if_true] at literal
  simp [ofWord?, text, literal, Literal.number?, Nat.ofDigitChars_ten_toDigits, positive, fits]

end Number

/-- Integers are read back anyway, so only binary64 numbers matter. -/
theorem FloatsReadBack.legible {j : Json} (h : j.FloatsReadBack) : j.Legible := by
  intro n inside
  cases n with
  | natural n fits => exact Number.ofWord?_natural n fits
  | negative n positive fits => exact Number.ofWord?_negative n positive fits
  | real x => exact h x inside

namespace Number

def WordChars (cs : List Char) : Prop := ∀ c ∈ cs, isWordChar c = true

theorem wordChars_append {cs ds : List Char} (hc : WordChars cs) (hd : WordChars ds) : WordChars (cs ++ ds) :=
  List.forall_mem_append.mpr ⟨hc, hd⟩

theorem wordChars_cons {c : Char} {cs : List Char} (hc : isWordChar c = true) (hcs : WordChars cs) :
    WordChars (c :: cs) :=
  List.forall_mem_cons.mpr ⟨hc, hcs⟩

theorem wordChars_zeros (n : Nat) : WordChars (List.replicate n '0') := by
  intro c hc
  rw [List.eq_of_mem_replicate hc]
  decide

theorem wordChars_toDigits (n : Nat) : WordChars (Nat.toDigits 10 n) :=
  fun c hc => isWordChar_of_isDigit ((digits_toDigits n).digits c hc)

theorem wordChars_digits (d : Decimal) : WordChars d.digits := by
  unfold Decimal.digits
  split
  · exact wordChars_cons (by decide) (by simp [WordChars])
  · intro c hc
    apply wordChars_toDigits d.significand
    have inside := (List.dropWhile_sublist _).subset (List.mem_reverse.mp hc)
    exact List.mem_reverse.mp inside

theorem wordChars_pointed {ds : List Char} (h : WordChars ds) (place : Int) :
    WordChars (Decimal.pointed ds place) := by
  cases place with
  | ofNat n =>
    simp only [Decimal.pointed]
    apply wordChars_append
    · exact wordChars_append (fun c hc => h c (List.mem_of_mem_take hc)) (wordChars_zeros _)
    · apply wordChars_cons (by decide)
      split
      · exact wordChars_cons (by decide) (by simp [WordChars])
      · exact fun c hc => h c (List.mem_of_mem_drop hc)
  | negSucc n =>
    exact wordChars_cons (by decide) (wordChars_cons (by decide) (wordChars_append (wordChars_zeros n) h))

theorem wordChars_scientific {ds : List Char} (h : WordChars ds) (exponent : Int) :
    WordChars (Decimal.scientific ds exponent) := by
  unfold Decimal.scientific
  apply wordChars_append
  · split
    · next first second more =>
      obtain ⟨hf, hm⟩ := List.forall_mem_cons.mp h
      exact wordChars_cons hf (wordChars_cons (by decide) hm)
    · exact h
  · apply wordChars_cons (by decide)
    apply wordChars_cons
    · split <;> decide
    · exact wordChars_toDigits _

/-- The text of a number is made of the characters of words. -/
theorem wordChars_text (n : Number) : WordChars n.text := by
  cases n with
  | natural n fits => exact wordChars_toDigits n
  | negative n positive fits => exact wordChars_cons (by decide) (wordChars_toDigits n)
  | real x =>
    simp only [text, Binary64.text]
    apply wordChars_append
    · split
      · exact wordChars_cons (by decide) (by simp [WordChars])
      · simp [WordChars]
    · unfold Decimal.text
      split
      · exact wordChars_pointed (wordChars_digits _) _
      · exact wordChars_scientific (wordChars_digits _) _

end Number

end VariableStore.Json
