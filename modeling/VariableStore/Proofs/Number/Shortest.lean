import VariableStore.Number
import VariableStore.Proofs.Number.Rounding
/-!
The shortest text of a binary64 number. Decimal numbers of seventeen digits are dense enough for one of the two
neighbours of a number to lie within half a step of it, so the search for digits always ends, and the decimal number
that is found rounds to the number.
-/
namespace VariableStore.Binary64

theorem one_units_pos : 0 < one := by decide +kernel

-- The powers that these stand for are never computed below.
attribute [local irreducible] one deepest

theorem units_pos {x : Binary64} (h : x.significand ≠ 0) : 0 < x.units :=
  Nat.mul_pos (Nat.pos_of_ne_zero h) (Nat.two_pow_pos _)

/-- The number of digits in front of which `leading` is counted. -/
def places (x : Binary64) : Nat := (Nat.toDigits 10 (x.units * 10 ^ deepest / one)).length

theorem places_pos (x : Binary64) : 0 < x.places := Nat.length_toDigits_pos

theorem leading_eq (x : Binary64) : x.leading = (x.places : Int) - 1 - deepest := rfl

theorem lt_places (x : Binary64) : x.units * 10 ^ deepest < 10 ^ x.places * one := by
  rw [← Nat.div_lt_iff_lt_mul one_units_pos, ← Nat.length_toDigits_le_iff (by decide) x.places_pos]
  exact Nat.le_refl _

theorem places_le {x : Binary64} (h : x.significand ≠ 0) :
    10 ^ (x.places - 1) * one ≤ x.units * 10 ^ deepest := by
  rw [← Nat.le_div_iff_mul_le one_units_pos]
  rcases Nat.eq_zero_or_pos (x.places - 1) with zero | more
  · -- Even the smallest number is not lost at the deepest place.
    rw [zero, Nat.pow_zero, Nat.le_div_iff_mul_le one_units_pos]
    calc 1 * one ≤ 1 * 10 ^ deepest := by decide +kernel
      _ ≤ x.units * 10 ^ deepest := Nat.mul_le_mul_right _ (units_pos h)
  · by_contra less
    have shorter := (Nat.length_toDigits_le_iff (by decide) more).mpr (Nat.lt_of_not_le less)
    have same : x.places = (Nat.toDigits 10 (x.units * 10 ^ deepest / one)).length := rfl
    omega

/-- The factor by which `steps` scales the magnitude of a number. -/
def scale : Int → Nat
  | .ofNat _ => 1
  | .negSucc e => 10 ^ (e + 1)

theorem scale_pos (exponent : Int) : 0 < scale exponent := by
  cases exponent with
  | ofNat e => exact Nat.one_pos
  | negSucc e => exact Nat.pow_pos (by decide)

theorem steps_fst (x : Binary64) (exponent : Int) : (x.steps exponent).1 = x.units * scale exponent := by
  cases exponent with
  | ofNat e => exact (Nat.mul_one _).symm
  | negSucc e => rfl

theorem steps_snd_pos (x : Binary64) (exponent : Int) : 0 < (x.steps exponent).2 := by
  cases exponent with
  | ofNat e => exact Nat.mul_pos one_units_pos (Nat.pow_pos (by decide))
  | negSucc e => exact one_units_pos

theorem ofDecimal?_eq (x : Binary64) (negative : Bool) (significand : Nat) (exponent : Int) :
    ofDecimal? negative significand exponent =
      ofUnits? negative (significand * (x.steps exponent).2) (scale exponent) := by
  cases exponent with
  | ofNat e =>
    have order : significand * Nat.pow 10 e * one = significand * (one * Nat.pow 10 e) := by
      rw [Nat.mul_assoc, Nat.mul_comm (Nat.pow 10 e)]
    simp only [ofDecimal?, ofRatio?, steps, scale, order]
  | negSucc e => simp only [ofDecimal?, ofRatio?, steps, scale, Nat.pow_eq]

/-- How many steps there are in a number, compared with powers of ten at the deepest place. -/
theorem steps_le_iff (x : Binary64) {count : Nat} {exponent : Int} (depth : Nat)
    (h : (depth : Int) = count + exponent + deepest) :
    10 ^ count * (x.steps exponent).2 ≤ (x.steps exponent).1 ↔ 10 ^ depth * one ≤ x.units * 10 ^ deepest := by
  have positive : ∀ e, 0 < 10 ^ e := fun e => Nat.pow_pos (by decide)
  cases exponent with
  | ofNat e =>
    have sum : depth = count + e + deepest := by
      simp only [Int.ofNat_eq_natCast] at h
      omega
    have split : 10 ^ depth * one = 10 ^ count * (one * Nat.pow 10 e) * 10 ^ deepest := by
      rw [sum, Nat.pow_add, Nat.pow_add, Nat.pow_eq]
      ring
    simp only [steps, split, Nat.mul_le_mul_right_iff (positive deepest)]
  | negSucc e =>
    have sum : depth + (e + 1) = count + deepest := by omega
    have powers : 10 ^ depth * 10 ^ (e + 1) = 10 ^ count * 10 ^ deepest := by
      rw [← Nat.pow_add, sum, Nat.pow_add]
    have left : 10 ^ count * one * 10 ^ deepest = 10 ^ depth * one * 10 ^ (e + 1) := by
      calc 10 ^ count * one * 10 ^ deepest = 10 ^ count * 10 ^ deepest * one := by ring
        _ = 10 ^ depth * 10 ^ (e + 1) * one := by rw [powers]
        _ = 10 ^ depth * one * 10 ^ (e + 1) := by ring
    have right : x.units * Nat.pow 10 (e + 1) * 10 ^ deepest = x.units * 10 ^ deepest * 10 ^ (e + 1) := by
      rw [Nat.pow_eq]
      ring
    simp only [steps]
    rw [← Nat.mul_le_mul_right_iff (positive deepest), left, right, Nat.mul_le_mul_right_iff (positive (e + 1))]

/-- At the exponent for `count` digits a number has at most that many, and, other than zero, no fewer. -/
theorem steps_lt (x : Binary64) (count : Nat) :
    (x.steps (x.leading - count + 1)).1 < 10 ^ count * (x.steps (x.leading - count + 1)).2 := by
  have digits := x.places_pos
  have upper := x.lt_places
  rw [← Nat.not_le] at upper ⊢
  rwa [steps_le_iff x x.places (by rw [leading_eq]; omega)]

theorem le_steps {x : Binary64} (h : x.significand ≠ 0) {count : Nat} (some : 0 < count) :
    10 ^ (count - 1) * (x.steps (x.leading - count + 1)).2 ≤ (x.steps (x.leading - count + 1)).1 := by
  have digits := x.places_pos
  rw [steps_le_iff x (x.places - 1) (by rw [leading_eq]; omega)]
  exact places_le h

/-- The distance from a number to the next one, scaled as steps of an exponent are. -/
def gap (x : Binary64) (exponent : Int) : Nat := 2 ^ x.exponent * scale exponent

theorem steps_fst_eq_gap (x : Binary64) (exponent : Int) :
    (x.steps exponent).1 = x.significand * x.gap exponent := by
  rw [steps_fst, gap, units, Nat.pow_eq, Nat.mul_assoc]

/-- Where a number has sixteen digits in front of the last one, the steps are shorter than the distance to the next
number. -/
theorem step_lt_gap {x : Binary64} {e : Int} (h : 10 ^ 16 * (x.steps e).2 ≤ (x.steps e).1) :
    (x.steps e).2 < x.gap e := by
  have wide : 0 < x.gap e := Nat.mul_pos (Nat.two_pow_pos _) (scale_pos e)
  have bits : x.significand < 2 ^ 53 := x.significand_lt
  rw [steps_fst_eq_gap] at h
  generalize (x.steps e).2 = d at *
  generalize x.gap e = gap at *
  have most : x.significand * gap < 2 ^ 53 * gap := Nat.mul_lt_mul_of_pos_right bits wide
  omega

/-- They are less than half as long where the significand is the least one of its exponent. -/
theorem two_mul_step_lt_gap {x : Binary64} {e : Int} (h : 10 ^ 16 * (x.steps e).2 ≤ (x.steps e).1)
    (least : x.significand ≤ 2 ^ 52) : 2 * (x.steps e).2 < x.gap e := by
  have wide : 0 < x.gap e := Nat.mul_pos (Nat.two_pow_pos _) (scale_pos e)
  rw [steps_fst_eq_gap] at h
  generalize (x.steps e).2 = d at *
  generalize x.gap e = gap at *
  have most : x.significand * gap ≤ 2 ^ 52 * gap := Nat.mul_le_mul_right gap least
  omega

/-- The grid number below a number rounds to it where it is close. -/
theorem below_reads {x : Binary64} {e : Int} (close : 2 * ((x.steps e).1 % (x.steps e).2) < x.gap e)
    (inner : 2 ^ 52 < x.significand) : x.reads ⟨(x.steps e).1 / (x.steps e).2, e⟩ = true := by
  have division := Nat.div_add_mod (x.steps e).1 (x.steps e).2
  generalize (x.steps e).1 / (x.steps e).2 = low at *
  generalize (x.steps e).1 % (x.steps e).2 = rest at *
  rw [steps_fst, Nat.mul_comm _ low] at division
  rw [gap] at close
  simp only [reads, decide_eq_true_eq, ofDecimal?_eq x]
  generalize low * (x.steps e).2 = below at *
  exact ofUnits?_eq_some (scale_pos e) (by omega) (by omega) (.inr (.inl inner))

/-- The grid number above a number rounds to it where it is close. -/
theorem above_reads {x : Binary64} {e : Int}
    (close : 2 * (x.steps e).2 < x.gap e + 2 * ((x.steps e).1 % (x.steps e).2)) :
    x.reads ⟨(x.steps e).1 / (x.steps e).2 + 1, e⟩ = true := by
  have division := Nat.div_add_mod (x.steps e).1 (x.steps e).2
  have remainder := Nat.mod_lt (x.steps e).1 (x.steps_snd_pos e)
  generalize (x.steps e).1 / (x.steps e).2 = low at *
  generalize (x.steps e).1 % (x.steps e).2 = rest at *
  rw [steps_fst, Nat.mul_comm _ low] at division
  rw [gap] at close
  simp only [reads, decide_eq_true_eq, ofDecimal?_eq x, Nat.add_mul, Nat.one_mul]
  generalize low * (x.steps e).2 = below at *
  generalize (x.steps e).2 = d at *
  exact ofUnits?_eq_some (scale_pos e) (by omega) (by omega) (.inr (.inr (by omega)))

/-- One of the two neighbours on a fine grid rounds to the number. -/
theorem neighbour_reads {x : Binary64} {e : Int} (h : 10 ^ 16 * (x.steps e).2 ≤ (x.steps e).1) :
    x.reads ⟨(x.steps e).1 / (x.steps e).2, e⟩ = true ∨
      x.reads ⟨(x.steps e).1 / (x.steps e).2 + 1, e⟩ = true := by
  have short := step_lt_gap h
  rcases Nat.lt_or_ge (2 ^ 52) x.significand with inner | least
  · by_cases near : 2 * ((x.steps e).1 % (x.steps e).2) < (x.steps e).2
    · exact .inl (below_reads (by omega) inner)
    · exact .inr (above_reads (by omega))
  · have shorter := two_mul_step_lt_gap h least
    exact .inr (above_reads (by omega))

/-- On a fine grid one of the two neighbours is found. -/
theorem neighbour?_ne_none {x : Binary64} {e : Int} (h : 10 ^ 16 * (x.steps e).2 ≤ (x.steps e).1) :
    x.neighbour? e ≠ none := by
  have either := neighbour_reads h
  unfold neighbour?
  dsimp only
  generalize x.reads ⟨(x.steps e).1 / (x.steps e).2, e⟩ = below at *
  generalize x.reads ⟨(x.steps e).1 / (x.steps e).2 + 1, e⟩ = above at *
  cases below <;> cases above <;> simp at either ⊢

/-- The nearest integer to a quotient is one of its neighbours. -/
theorem nearest_eq_or (n d : Nat) : nearest n d = n / d ∨ nearest n d = n / d + 1 := by
  unfold nearest
  dsimp only
  split
  · exact .inr rfl
  · exact .inl rfl

/-- What is found rounds to the number, and is at most one step away from it. -/
theorem neighbour?_eq_some {x : Binary64} {e : Int} {d : Decimal} (h : x.neighbour? e = some d) :
    x.reads d = true ∧ d.significand ≤ (x.steps e).1 / (x.steps e).2 + 1 := by
  have either := nearest_eq_or (x.steps e).1 (x.steps e).2
  unfold neighbour? at h
  dsimp only at h
  generalize (x.steps e).1 / (x.steps e).2 = low at *
  generalize nearest (x.steps e).1 (x.steps e).2 = best at *
  cases below : x.reads ⟨low, e⟩ <;> cases above : x.reads ⟨low + 1, e⟩ <;> simp only [below, above] at h
  · cases h
  · cases h
    exact ⟨above, Nat.le_refl _⟩
  · cases h
    exact ⟨below, Nat.le_succ _⟩
  · cases h
    rcases either with rfl | rfl
    · exact ⟨below, Nat.le_succ _⟩
    · exact ⟨above, Nat.le_refl _⟩

/-- What the search finds for a number of digits rounds to the number and has at most that many. -/
theorem withDigits?_eq_some {x : Binary64} {count : Nat} {d : Decimal} (h : x.withDigits? count = some d) :
    x.reads d = true ∧ d.significand ≤ 10 ^ count := by
  have low : (x.steps (x.leading - count + 1)).1 / (x.steps (x.leading - count + 1)).2 < 10 ^ count :=
    (Nat.div_lt_iff_lt_mul (x.steps_snd_pos _)).mpr (x.steps_lt count)
  obtain ⟨reads, close⟩ := neighbour?_eq_some (h : x.neighbour? (x.leading - count + 1) = some d)
  exact ⟨reads, Nat.le_trans close low⟩

/-- The search ends where one of the numbers of digits that it tries has an answer. -/
theorem fewestFrom_ne_none {x : Binary64} {target : Nat} (h : x.withDigits? target ≠ none) {count fuel : Nat}
    (reached : count ≤ target) (enough : target < count + fuel) : x.fewestFrom count fuel ≠ none := by
  induction fuel generalizing count with
  | zero => omega
  | succ fuel ih =>
    rw [fewestFrom]
    intro none
    obtain ⟨now, later⟩ := Option.or_eq_none_iff.mp none
    rcases Nat.lt_or_eq_of_le reached with less | rfl
    · exact ih less (by omega) later
    · exact h now

theorem fewestFrom_eq_some {x : Binary64} {count fuel : Nat} {d : Decimal}
    (h : x.fewestFrom count fuel = some d) : x.reads d = true ∧ 10 * d.significand ≤ 10 ^ (count + fuel) := by
  induction fuel generalizing count with
  | zero => cases h
  | succ fuel ih =>
    rw [fewestFrom] at h
    rcases Option.or_eq_some_iff.mp h with now | ⟨-, later⟩
    · obtain ⟨reads, digits⟩ := withDigits?_eq_some now
      have more : 10 ^ (count + 1) ≤ 10 ^ (count + (fuel + 1)) := Nat.pow_le_pow_right (by decide) (by omega)
      exact ⟨reads, by rw [Nat.pow_succ] at more; omega⟩
    · obtain ⟨reads, digits⟩ := ih later
      rw [Nat.add_right_comm] at digits
      exact ⟨reads, digits⟩

/-- The decimal number of a number other than zero rounds to it, and has at most seventeen digits. -/
theorem decimal_reads {x : Binary64} (h : x.significand ≠ 0) :
    x.reads x.decimal = true ∧ x.decimal.significand ≤ 10 ^ 17 := by
  have dense : x.withDigits? 17 ≠ none := neighbour?_ne_none (le_steps h (by decide : 0 < 17))
  have ends : x.fewestFrom 1 17 ≠ none := fewestFrom_ne_none dense (by decide) (by decide)
  obtain ⟨d, found⟩ := Option.ne_none_iff_exists'.mp ends
  obtain ⟨reads, digits⟩ := fewestFrom_eq_some found
  rw [decimal, if_neg h, found]
  exact ⟨reads, by rw [Option.getD_some]; omega⟩

end VariableStore.Binary64
