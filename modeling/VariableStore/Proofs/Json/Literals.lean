import VariableStore.Proofs.Json.Numbers
import VariableStore.Proofs.Json.Scaling
/-!
The texts of binary64 numbers as number literals. A text has a point or an exponent, and its digits are those of the
shortest decimal number, perhaps with zeros behind them. So every text is read as a number, though a long one may be
read as a neighbour of the number that was written.
-/
namespace VariableStore

namespace Decimal

theorem toDigits_mul_ten_pow {n : Nat} (h : n ≠ 0) (zeros : Nat) :
    Nat.toDigits 10 (n * 10 ^ zeros) = Nat.toDigits 10 n ++ List.replicate zeros '0' := by
  induction zeros with
  | zero => simp
  | succ zeros ih =>
    have positive : 0 < n * 10 ^ zeros := Nat.mul_pos (Nat.pos_of_ne_zero h) (Nat.pow_pos (by decide))
    have next : n * 10 ^ (zeros + 1) = n * 10 ^ zeros * 10 := by rw [Nat.pow_succ, Nat.mul_assoc]
    rw [next, Nat.toDigits_of_base_le (by decide) (by omega), Nat.mul_div_cancel _ (by decide), ih, Nat.mul_mod_left,
      List.append_assoc, List.replicate_succ']
    rfl

/-- A number other than zero without the zeros at its end. -/
theorem exists_mul_ten_pow {n : Nat} (h : n ≠ 0) : ∃ m zeros, m % 10 ≠ 0 ∧ n = m * 10 ^ zeros := by
  induction n using Nat.strongRecOn with
  | ind n ih =>
    by_cases last : n % 10 = 0
    · obtain ⟨m, zeros, digit, eq⟩ := ih (n / 10) (by omega) (by omega)
      refine ⟨m, zeros + 1, digit, ?_⟩
      rw [Nat.pow_succ, ← Nat.mul_assoc, ← eq]
      omega
    · exact ⟨n, 0, last, by simp⟩

theorem toDigits_last {n : Nat} (h : n % 10 ≠ 0) :
    ∃ front last, Nat.toDigits 10 n = front ++ [last] ∧ last ≠ '0' := by
  have digit : (n % 10).digitChar ≠ '0' := by
    intro zero
    have value := Nat.toNat_digitChar_sub_48_of_lt_ten (Nat.mod_lt n (by decide : 10 > 0))
    rw [zero] at value
    exact h value.symm
  by_cases small : n < 10
  · rw [Nat.mod_eq_of_lt small] at digit
    exact ⟨[], n.digitChar, Nat.toDigits_of_lt_base small, digit⟩
  · exact ⟨_, _, Nat.toDigits_of_base_le (by decide) (by omega), digit⟩

/-- The digits of a decimal number are those of its significand without the zeros at the end, and the exponent of the
first digit follows from theirs. -/
theorem digits_eq {d : Decimal} (h : d.significand ≠ 0) :
    ∃ m zeros : Nat, m ≠ 0 ∧ d.significand = m * 10 ^ zeros ∧ d.digits = Nat.toDigits 10 m ∧
      d.leading = d.exponent + zeros + (Nat.toDigits 10 m).length - 1 := by
  obtain ⟨m, zeros, digit, eq⟩ := exists_mul_ten_pow h
  have nonzero : m ≠ 0 := by
    rintro rfl
    exact digit rfl
  have all := toDigits_mul_ten_pow nonzero zeros
  obtain ⟨front, last, split, apart⟩ := toDigits_last digit
  refine ⟨m, zeros, nonzero, eq, ?_, ?_⟩
  · have dropped : (Nat.toDigits 10 d.significand).reverse.dropWhile (· = '0') = last :: front.reverse := by
      rw [eq, all, split, List.reverse_append, List.reverse_replicate,
        List.dropWhile_append_of_pos (by simp), List.reverse_append, List.reverse_singleton, List.singleton_append,
        List.dropWhile_cons_of_neg (by simpa using apart)]
    rw [Decimal.digits, dropped, split, List.reverse_cons, List.reverse_reverse]
    split
    · next none => simp at none
    · rfl
  · rw [Decimal.leading, if_neg h, eq, all, List.length_append, List.length_replicate]
    push_cast
    omega

end Decimal

namespace Json.Number

/-- Digits are gathered as long as their value is small. -/
theorem gather_eq {digits : List Char} {start : Nat} (h : Nat.ofDigitChars 10 digits start < capacity) :
    gather start digits = (Nat.ofDigitChars 10 digits start, []) := by
  induction digits generalizing start with
  | nil => rfl
  | cons c rest ih =>
    have value : Nat.ofDigitChars 10 (c :: rest) start = Nat.ofDigitChars 10 rest (start * 10 + (c.toNat - 48)) := by
      rw [Nat.ofDigitChars_cons, Nat.mul_comm]
      rfl
    rw [value] at h ⊢
    have grows : start * 10 + (c.toNat - 48) ≤ Nat.ofDigitChars 10 rest (start * 10 + (c.toNat - 48)) := by
      rw [Nat.ofDigitChars_eq_ofDigitChars_zero]
      exact Nat.le_add_right_of_le (Nat.le_mul_of_pos_left _ (Nat.pow_pos (by decide)))
    rw [gather, if_pos (Nat.lt_of_le_of_lt grows h), ih h]

def Literal.value (l : Literal) : Nat := Nat.ofDigitChars 10 (l.whole ++ l.fraction) 0

/-- The exponent of the last digit of a literal. -/
def Literal.place (l : Literal) : Int := l.exponent.getD 0 - l.fraction.length

theorem Literal.real?_eq {l : Literal} (h : l.value < capacity) :
    l.real? = (scaled? l.value l.place).map (Binary64.negateIf l.minus) := by
  rw [value, Nat.ofDigitChars_append] at h
  have whole : Nat.ofDigitChars 10 l.whole 0 < capacity := by
    refine Nat.lt_of_le_of_lt ?_ h
    rw [@Nat.ofDigitChars_eq_ofDigitChars_zero l.fraction]
    exact Nat.le_add_right_of_le (Nat.le_mul_of_pos_left _ (Nat.pow_pos (by decide)))
  rw [real?, gather_eq whole]
  dsimp only
  rw [gather_eq h]
  dsimp only
  rw [value, Nat.ofDigitChars_append, place]
  simp

/-- A literal with a point or an exponent and few digits is a number, as long as it is in range. -/
theorem Literal.number?_eq_some {l : Literal} (marked : l.fraction ≠ [] ∨ l.exponent ≠ none)
    (digits : l.value ≤ 10 ^ 17) (inside : ∀ e : Nat, l.place = e → e ≤ reach ∧ rounded₂ l.value e < Binary64.limit) :
    ∃ n, l.number? = some n := by
  obtain ⟨x, scaled⟩ := scaled?_eq_some digits inside
  have room : 10 ^ 17 < capacity := by decide
  have real := Literal.real?_eq (Nat.lt_of_le_of_lt digits room)
  have unmarked : (l.fraction.isEmpty && l.exponent.isNone) = false := by
    rcases marked with fraction | exponent
    · simp [fraction]
    · simp [Option.isSome_iff_ne_none, exponent]
  refine ⟨.real (Binary64.negateIf l.minus x), ?_⟩
  rw [number?, unmarked, if_neg (by decide), real, scaled]
  rfl

theorem exponentOf?_signed (e : Int) :
    exponentOf? ((if e < 0 then '-' else '+') :: Nat.toDigits 10 e.natAbs) = some e := by
  have digits : (Nat.toDigits 10 e.natAbs).all Char.isDigit = true :=
    List.all_eq_true.mpr (digits_toDigits e.natAbs).digits
  have some : (Nat.toDigits 10 e.natAbs).isEmpty = false := List.isEmpty_eq_false_iff.mpr Nat.toDigits_ne_nil
  unfold exponentOf?
  split_ifs <;> simp [digits, some, Nat.ofDigitChars_ten_toDigits, -Nat.cast_natAbs] <;> omega

/-- The digits of a number other than zero begin with one that is no zero. -/
theorem toDigits_cons {m : Nat} (h : m ≠ 0) : ∃ first more, Nat.toDigits 10 m = first :: more ∧
    ∀ rest, (∀ c ∈ rest, c.isDigit = true) → Digits (first :: rest) := by
  obtain ⟨first, more, eq, nonzero⟩ := toDigits_front m
  have digit := (digits_toDigits m).digits first (eq ▸ List.mem_cons_self)
  refine ⟨first, more, eq, fun rest digits => ⟨List.cons_ne_nil _ _, List.forall_mem_cons.mpr ⟨digit, digits⟩, ?_⟩⟩
  rintro _ ⟨⟩
  exact absurd (nonzero rfl) h

theorem isDigit_zeros (count : Nat) : ∀ c ∈ List.replicate count '0', c.isDigit = true := by
  intro c hc
  rw [List.eq_of_mem_replicate hc]
  rfl

theorem lt_ten_pow_length (m : Nat) : m < 10 ^ (Nat.toDigits 10 m).length :=
  (Nat.length_toDigits_le_iff (by decide) Nat.length_toDigits_pos).mp (Nat.le_refl _)

/-- Digits with a point are a literal. -/
theorem ofWord?_point (minus : Bool) {whole fraction : List Char} (hw : Digits whole)
    (nonempty : fraction ≠ []) (hf : ∀ c ∈ fraction, c.isDigit = true) :
    Literal.ofWord? (signed minus (whole ++ '.' :: fraction)) = some ⟨minus, whole, fraction, none⟩ := by
  have parts := ofWord?_signed minus hw (.fraction nonempty hf .none)
  rwa [List.append_nil] at parts

/-- A text is a literal of a sign with digits behind the point and no exponent, and its digits are a small number. -/
def Pointed (minus : Bool) (cs : List Char) : Prop :=
  ∃ whole fraction, fraction ≠ [] ∧ Nat.ofDigitChars 10 (whole ++ fraction) 0 ≤ 10 ^ 17 ∧
    Literal.ofWord? (signed minus cs) = some ⟨minus, whole, fraction, none⟩

/-- Zeros stand between the point and the digits. -/
theorem pointed_front (minus : Bool) {m : Nat} (small : m ≤ 10 ^ 17) (zeros : Nat) :
    Pointed minus (Decimal.pointed (Nat.toDigits 10 m) (.negSucc zeros)) := by
  refine ⟨['0'], List.replicate zeros '0' ++ Nat.toDigits 10 m, ?_, ?_, ?_⟩
  · simp [Nat.toDigits_ne_nil]
  · have zero : Nat.ofDigitChars 10 (['0'] ++ List.replicate zeros '0') 0 = 0 := by
      rw [← List.replicate_one, List.replicate_append_replicate, Nat.ofDigitChars_replicate_zero, Nat.mul_zero]
    rw [← List.append_assoc, Nat.ofDigitChars_append, zero, Nat.ofDigitChars_ten_toDigits]
    exact small
  · have zero : Digits ['0'] := digits_toDigits 0
    have fraction := List.forall_mem_append.mpr ⟨isDigit_zeros zeros, (digits_toDigits m).digits⟩
    exact ofWord?_point minus zero (by simp [Nat.toDigits_ne_nil]) fraction

/-- The point stands among the digits, or zeros fill the places up to the point and the one behind it. -/
theorem pointed_back (minus : Bool) {m : Nat} (h : m ≠ 0) (small : m ≤ 10 ^ 17) {place : Nat} (near : place < 16) :
    Pointed minus (Decimal.pointed (Nat.toDigits 10 m) place) := by
  obtain ⟨first, more, eq, digits⟩ := toDigits_cons h
  have all := (digits_toDigits m).digits
  have value : Nat.ofDigitChars 10 (Nat.toDigits 10 m) 0 = m := Nat.ofDigitChars_ten_toDigits
  have length := lt_ten_pow_length m
  rw [eq] at all value length ⊢
  have whole : Digits ((first :: more).take (place + 1) ++
      List.replicate (place + 1 - (first :: more).length) '0') := by
    rw [List.take_succ_cons, List.cons_append]
    refine digits _ (List.forall_mem_append.mpr ⟨fun c hc => ?_, isDigit_zeros _⟩)
    exact all c (List.mem_cons_of_mem first (List.mem_of_mem_take hc))
  simp only [Decimal.pointed]
  by_cases inside : place + 1 < (first :: more).length
  · have nonempty : (first :: more).drop (place + 1) ≠ [] := by
      rw [Ne, List.drop_eq_nil_iff]
      omega
    rw [if_neg (by simpa using nonempty)]
    refine ⟨_, _, nonempty, ?_, ofWord?_point minus whole nonempty fun c hc => all c (List.mem_of_mem_drop hc)⟩
    have none : place + 1 - (first :: more).length = 0 := by omega
    rw [none, List.replicate_zero, List.append_nil, List.take_append_drop, value]
    exact small
  · have behind : (first :: more).drop (place + 1) = [] := List.drop_eq_nil_iff.mpr (by omega)
    rw [behind, if_pos (by rfl)]
    refine ⟨_, ['0'], List.cons_ne_nil _ _, ?_, ofWord?_point minus whole (List.cons_ne_nil _ _) (isDigit_zeros 1)⟩
    rw [List.take_of_length_le (by omega), List.append_assoc, ← List.replicate_one, List.replicate_append_replicate,
      Nat.ofDigitChars_append, value, Nat.ofDigitChars_replicate_zero]
    calc 10 ^ (place + 1 - (first :: more).length + 1) * m
        ≤ 10 ^ (place + 1 - (first :: more).length + 1) * 10 ^ (first :: more).length :=
          Nat.mul_le_mul_left _ (Nat.le_of_lt length)
      _ = 10 ^ (place + 1 - (first :: more).length + 1 + (first :: more).length) := (Nat.pow_add ..).symm
      _ ≤ 10 ^ 17 := Nat.pow_le_pow_right (by decide) (by omega)

/-- A decimal number that is written positionally is a literal with a small value and digits behind the point. -/
theorem pointed_literal (minus : Bool) {m : Nat} (h : m ≠ 0) (small : m ≤ 10 ^ 17) {place : Int} (near : place < 16) :
    Pointed minus (Decimal.pointed (Nat.toDigits 10 m) place) := by
  cases place with
  | negSucc zeros => exact pointed_front minus small zeros
  | ofNat place =>
    rw [Int.ofNat_eq_natCast] at near
    exact pointed_back minus h small (by omega)

/-- A decimal number in scientific form is a literal of the same digits. -/
theorem scientific_literal (minus : Bool) {m : Nat} (h : m ≠ 0) (e : Int) :
    ∃ whole fraction, whole ++ fraction = Nat.toDigits 10 m ∧ fraction.length + 1 = (Nat.toDigits 10 m).length ∧
      Literal.ofWord? (signed minus (Decimal.scientific (Nat.toDigits 10 m) e)) =
        some ⟨minus, whole, fraction, some e⟩ := by
  obtain ⟨first, more, eq, digits⟩ := toDigits_cons h
  have tail := Tail.exponent (exponentOf?_signed e)
  have whole := digits [] (by simp)
  refine ⟨[first], more, eq.symm, by rw [eq]; rfl, ?_⟩
  rw [eq]
  unfold Decimal.scientific
  cases more with
  | nil => exact ofWord?_signed minus whole (.whole tail)
  | cons second others =>
    have hf : ∀ c ∈ second :: others, c.isDigit = true := fun c hc =>
      (digits_toDigits m).digits c (eq ▸ List.mem_cons_of_mem first hc)
    have literal := ofWord?_signed minus whole (.fraction (List.cons_ne_nil second others) hf tail)
    exact literal

-- The powers that these stand for are never computed, but where a closed comparison is decided.
attribute [local irreducible] Binary64.one Binary64.limit

/-- A decimal number that is read as a number is rounded to its magnitude, also without the zeros at its end. -/
theorem rounded_of_reads {x : Binary64} {d : Decimal} {m zeros e : Nat} (reads : x.reads d = true)
    (eq : d.significand = m * 10 ^ zeros) (place : (e : Int) = d.exponent + zeros) :
    Binary64.rounded (m * 10 ^ e * Binary64.one) 1 = x.units := by
  rw [Binary64.reads, decide_eq_true_eq, eq] at reads
  cases exponent : d.exponent with
  | ofNat k =>
    rw [exponent] at reads place
    have sum : e = zeros + k := by
      rw [Int.ofNat_eq_natCast] at place
      omega
    rw [Binary64.units_of_ofUnits? reads, sum, Nat.pow_add, ← Nat.mul_assoc]
    rfl
  | negSucc k =>
    rw [exponent] at reads place
    have sum : zeros = e + (k + 1) := by omega
    rw [Binary64.units_of_ofUnits? reads]
    refine Binary64.rounded_congr Nat.one_pos (Nat.pow_pos (by decide)) ?_
    rw [sum, Nat.pow_add, Nat.pow_eq]
    ring

def largest (negative : Bool) : Binary64 :=
  ⟨negative, Nat.pow 2 53 - 1, Binary64.topExponent, by decide, by decide, .inr (by decide)⟩

theorem decimal_largest (negative : Bool) : (largest negative).decimal = ⟨outlier - 1, 292⟩ := by
  cases negative <;> decide +kernel

/-- The outlier is rounded to the largest number, but it is not its shortest decimal number. -/
theorem ne_outlier {x : Binary64} {m zeros e : Nat} (reads : x.reads x.decimal = true)
    (eq : x.decimal.significand = m * 10 ^ zeros) (place : (e : Int) = x.decimal.exponent + zeros) :
    ¬(m = outlier ∧ e = 292) := by
  rintro ⟨rfl, rfl⟩
  have units := rounded_of_reads reads eq place
  have same : Binary64.rounded (outlier * 10 ^ 292 * Binary64.one) 1 = (largest x.negative).units := by
    cases x.negative <;> decide +kernel
  have top : x = largest x.negative := Binary64.eq_of_units rfl (units.symm.trans same)
  rw [top, decimal_largest] at eq
  have some : 0 < 10 ^ zeros := Nat.pow_pos (by decide)
  have least : outlier ≤ outlier * 10 ^ zeros := Nat.le_mul_of_pos_right outlier some
  have less : outlier - 1 < outlier := by decide
  exact absurd eq (Nat.ne_of_lt (Nat.lt_of_lt_of_le less least))

/-- A literal with digits behind the point and no exponent is a number, as its power of ten is not positive. -/
theorem ofWord?_of_literal {word whole fraction : List Char} {minus : Bool}
    (literal : Literal.ofWord? word = some ⟨minus, whole, fraction, none⟩) (behind : fraction ≠ [])
    (digits : Nat.ofDigitChars 10 (whole ++ fraction) 0 ≤ 10 ^ 17) : ∃ n, ofWord? word = some n := by
  have inside : ∀ e : Nat, Literal.place ⟨minus, whole, fraction, none⟩ ≠ e := by
    intro e place
    have length := List.length_pos_iff.mpr behind
    simp only [Literal.place, Option.getD_none] at place
    omega
  obtain ⟨n, number⟩ := Literal.number?_eq_some (l := ⟨minus, whole, fraction, none⟩) (.inl behind) digits
    fun e place => absurd place (inside e)
  exact ⟨n, by rw [ofWord?, literal, Option.bind_some, number]⟩

theorem significand_decimal_ne_zero {x : Binary64} (h : x.significand ≠ 0) (reads : x.reads x.decimal = true) :
    x.decimal.significand ≠ 0 := by
  intro zero
  have eq : x.decimal.significand = 0 * 10 ^ x.decimal.exponent.natAbs := by rw [zero, Nat.zero_mul]
  have place : ((x.decimal.exponent + x.decimal.exponent.natAbs).toNat : Int) =
      x.decimal.exponent + x.decimal.exponent.natAbs := by omega
  have units := rounded_of_reads reads eq place
  rw [Nat.zero_mul, Nat.zero_mul] at units
  exact Nat.ne_of_lt (Binary64.units_pos h) units

/-- The shortest text of a number other than zero is read as a number. -/
theorem ofWord?_shortest {x : Binary64} (h : x.significand ≠ 0) :
    ∃ n, ofWord? (signed x.negative (x.decimal.text layout)) = some n := by
  obtain ⟨reads, digits⟩ := Binary64.decimal_reads h
  obtain ⟨m, zeros, some, eq, text, leading⟩ := Decimal.digits_eq (significand_decimal_ne_zero h reads)
  have small : m ≤ 10 ^ 17 := by
    refine Nat.le_trans (Nat.le_mul_of_pos_right m ?_) (eq ▸ digits)
    exact Nat.pow_pos (by decide)
  rw [Decimal.text, text]
  split
  · next positional =>
    obtain ⟨whole, fraction, behind, value, literal⟩ := pointed_literal x.negative some small positional.2
    exact ofWord?_of_literal literal behind value
  · obtain ⟨whole, fraction, all, length, literal⟩ := scientific_literal x.negative some x.decimal.leading
    have value : Nat.ofDigitChars 10 (whole ++ fraction) 0 = m := all ▸ Nat.ofDigitChars_ten_toDigits
    obtain ⟨n, number⟩ := Literal.number?_eq_some
      (l := ⟨x.negative, whole, fraction, Option.some x.decimal.leading⟩) (.inr (Option.some_ne_none _))
      (by rw [Literal.value, value]; exact small) fun e place => by
        have sum : (e : Int) = x.decimal.exponent + zeros := by
          simp only [Literal.place, Option.getD_some] at place
          omega
        have units := rounded_of_reads reads eq sum
        rw [Literal.value, value]
        refine rounded₂_lt (Nat.pos_of_ne_zero some) small (ne_outlier reads eq sum) ?_
        rw [units]
        exact Binary64.units_lt_limit x
    exact ⟨n, by rw [ofWord?, literal, Option.bind_some, number]⟩

/-- The text of every number is read as a number. -/
theorem ofWord?_text (n : Number) : ∃ m, ofWord? n.text = some m := by
  cases n with
  | natural n fits => exact ⟨_, ofWord?_natural n fits⟩
  | negative n positive fits => exact ⟨_, ofWord?_negative n positive fits⟩
  | real x =>
    have text : Number.text (.real x) = signed x.negative (x.decimal.text layout) := by
      cases sign : x.negative <;> simp [Number.text, Binary64.text, signed, sign]
    rw [text]
    by_cases zero : x.significand = 0
    · have shortest : x.decimal.text layout = ['0', '.', '0'] := by
        rw [Binary64.decimal, if_pos zero]
        decide
      rw [shortest]
      have zero : Digits ['0'] := digits_toDigits 0
      have fraction : ['0'] ≠ [] := List.cons_ne_nil _ _
      exact ofWord?_of_literal (ofWord?_point x.negative zero fraction (isDigit_zeros 1)) fraction (by decide)
    · exact ofWord?_shortest zero

end Json.Number

end VariableStore
