import Mathlib.Tactic.Linarith
import Mathlib.Tactic.Ring
import VariableStore.Number
/-!
Rounding to binary64 numbers. `rounded` is the magnitude to which a quotient is rounded, in the unit of the format
and with no bound above, so rounding fails exactly where it reaches `limit`. It is monotone, which carries bounds
from quotients over to numbers, and a quotient within half a step of a number is rounded to it.
-/
namespace VariableStore.Binary64

theorem nearest_le_iff {n d : Nat} (positive : 0 < d) (k : Nat) :
    nearest n d ≤ k ↔ 2 * n < (2 * k + 1) * d ∨ (2 * n = (2 * k + 1) * d ∧ k % 2 = 0) := by
  have parts := Nat.div_add_mod n d
  have remainder := Nat.mod_lt n positive
  unfold nearest
  dsimp only
  generalize n / d = q at *
  generalize n % d = r at *
  subst parts
  have odd : (2 * k + 1) * d = 2 * (d * k) + d := by ring
  rw [odd]
  rcases Nat.lt_trichotomy q k with less | rfl | more
  · have room : d * q + d ≤ d * k := Nat.mul_succ d q ▸ Nat.mul_le_mul_left d less
    split <;> omega
  · split <;> omega
  · have room : d * k + d ≤ d * q := Nat.mul_succ d k ▸ Nat.mul_le_mul_left d more
    split <;> omega

/-- Rounding keeps the order of quotients. -/
theorem nearest_mono {n d n' d' : Nat} (positive : 0 < d) (positive' : 0 < d') (h : n * d' ≤ n' * d) :
    nearest n d ≤ nearest n' d' := by
  rw [nearest_le_iff positive]
  have above := (nearest_le_iff positive' (nearest n' d')).mp (Nat.le_refl _)
  generalize nearest n' d' = k at *
  have scaled : 2 * n * d' ≤ 2 * n' * d := by linarith
  rcases above with less | ⟨same, even⟩
  · left
    by_contra more
    have first : (2 * k + 1) * d * d' ≤ 2 * n * d' := Nat.mul_le_mul_right d' (Nat.le_of_not_lt more)
    have second : 2 * n' * d < (2 * k + 1) * d' * d := Nat.mul_lt_mul_of_pos_right less positive
    nlinarith
  · have whole : 2 * n ≤ (2 * k + 1) * d := by
      by_contra more
      have first : (2 * k + 1) * d * d' < 2 * n * d' := Nat.mul_lt_mul_of_pos_right (Nat.lt_of_not_le more) positive'
      have second : 2 * n' * d = (2 * k + 1) * d' * d := congrArg (· * d) same
      nlinarith
    rcases Nat.lt_or_eq_of_le whole with less | equal
    · exact .inl less
    · exact .inr ⟨equal, even⟩

/-- A quotient less than half away from an integer is rounded to it. -/
theorem nearest_eq {n d k : Nat} (below : 2 * k * d < 2 * n + d) (above : 2 * n < (2 * k + 1) * d) :
    nearest n d = k := by
  have positive : 0 < d := Nat.pos_of_ne_zero (by rintro rfl; simp at above)
  refine Nat.le_antisymm ((nearest_le_iff positive k).mpr (.inl above)) ?_
  by_contra less
  have under : nearest n d ≤ k - 1 := by omega
  obtain ⟨j, rfl⟩ : ∃ j, k = j + 1 := ⟨k - 1, by omega⟩
  have bound := (nearest_le_iff positive j).mp under
  have step : 2 * (j + 1) * d = (2 * j + 1) * d + d := by ring
  omega

theorem nearest_mul {k d : Nat} (positive : 0 < d) : nearest (k * d) d = k :=
  nearest_eq (by nlinarith) (by nlinarith)

/-- The exponent at which a quotient is rounded. -/
def shift (n d : Nat) : Nat := (n / d).log2 - 52

/-- The magnitude that a quotient is rounded to, in units, whether or not it is in range. -/
def rounded (n d : Nat) : Nat := nearest n (d * 2 ^ shift n d) * 2 ^ shift n d

def topExponent : Nat := 2045

/-- One step past the largest magnitude. -/
def limit : Nat := 2 ^ 53 * 2 ^ topExponent

theorem lt_of_shift {n d : Nat} (positive : 0 < d) : n < 2 ^ (53 + shift n d) * d := by
  rw [← Nat.div_lt_iff_lt_mul positive]
  exact Nat.lt_of_lt_of_le Nat.lt_log2_self (Nat.pow_le_pow_right (by decide) (by unfold shift; omega))

theorem le_of_shift {n d : Nat} (positive : 0 < d) (shifted : 0 < shift n d) : 2 ^ (52 + shift n d) * d ≤ n := by
  have deep : 52 + shift n d = (n / d).log2 := by unfold shift at *; omega
  rw [← Nat.le_div_iff_mul_le positive, deep]
  refine Nat.log2_self_le ?_
  intro zero
  simp [shift, zero] at shifted

theorem step_pos (d : Nat) {k : Nat} (positive : 0 < d) : 0 < d * 2 ^ k :=
  Nat.mul_pos positive (Nat.two_pow_pos k)

/-- A rounded significand has at most 53 bits, or is the power of two that follows. -/
theorem nearest_shift_le {n d : Nat} (positive : 0 < d) : nearest n (d * 2 ^ shift n d) ≤ 2 ^ 53 := by
  have bound := lt_of_shift (n := n) positive
  have exact : nearest (2 ^ 53 * (d * 2 ^ shift n d)) (d * 2 ^ shift n d) = 2 ^ 53 :=
    nearest_mul (step_pos d positive)
  refine exact ▸ nearest_mono (step_pos d positive) (step_pos d positive) (Nat.mul_le_mul_right _ ?_)
  rw [Nat.pow_add] at bound
  nlinarith

/-- A significand that is shifted has all its bits. -/
theorem le_nearest_shift {n d : Nat} (positive : 0 < d) (shifted : 0 < shift n d) :
    2 ^ 52 ≤ nearest n (d * 2 ^ shift n d) := by
  have bound := le_of_shift positive shifted
  have exact : nearest (2 ^ 52 * (d * 2 ^ shift n d)) (d * 2 ^ shift n d) = 2 ^ 52 :=
    nearest_mul (step_pos d positive)
  refine exact ▸ nearest_mono (step_pos d positive) (step_pos d positive) (Nat.mul_le_mul_right _ ?_)
  rw [Nat.pow_add] at bound
  nlinarith

theorem shift_mono {n d n' d' : Nat} (positive : 0 < d) (positive' : 0 < d') (h : n * d' ≤ n' * d) :
    shift n d ≤ shift n' d' := by
  by_contra less
  have upper := lt_of_shift (n := n') positive'
  have lower := le_of_shift (n := n) positive (by omega)
  have powers : 2 ^ (53 + shift n' d') ≤ 2 ^ (52 + shift n d) := Nat.pow_le_pow_right (by decide) (by omega)
  refine absurd h (Nat.not_le.mpr ?_)
  calc n' * d < 2 ^ (53 + shift n' d') * d' * d := Nat.mul_lt_mul_of_pos_right upper positive
    _ ≤ 2 ^ (52 + shift n d) * d' * d := Nat.mul_le_mul_right d (Nat.mul_le_mul_right d' powers)
    _ = 2 ^ (52 + shift n d) * d * d' := by ring
    _ ≤ n * d' := Nat.mul_le_mul_right d' lower

/-- The exponent at which a quotient is rounded is the one that leaves it 53 bits, or zero. -/
theorem shift_eq {n d k : Nat} (positive : 0 < d) (lower : k = 0 ∨ 2 ^ (52 + k) * d ≤ n)
    (upper : n < 2 ^ (53 + k) * d) : shift n d = k := by
  have below : (n / d).log2 < 53 + k ∨ n / d = 0 := by
    rcases Nat.eq_zero_or_pos (n / d) with zero | some
    · exact .inr zero
    · exact .inl ((Nat.log2_lt (by omega)).mpr ((Nat.div_lt_iff_lt_mul positive).mpr upper))
  have above : k = 0 ∨ 52 + k ≤ (n / d).log2 := by
    refine lower.imp_right fun enough => ?_
    have quotient : 2 ^ (52 + k) ≤ n / d := (Nat.le_div_iff_mul_le positive).mpr enough
    have nonzero : n / d ≠ 0 := by
      have := Nat.two_pow_pos (52 + k)
      omega
    exact (Nat.le_log2 nonzero).mpr quotient
  unfold shift
  rcases below with below | zero
  · omega
  · rw [zero] at above ⊢
    simp at above ⊢
    omega

/-- Rounding keeps the order of quotients, also where they are rounded at different exponents. -/
theorem rounded_mono {n d n' d' : Nat} (positive : 0 < d) (positive' : 0 < d') (h : n * d' ≤ n' * d) :
    rounded n d ≤ rounded n' d' := by
  rcases Nat.lt_or_eq_of_le (shift_mono positive positive' h) with less | same
  · -- A power of two lies between the two.
    calc rounded n d ≤ 2 ^ 53 * 2 ^ shift n d := Nat.mul_le_mul_right _ (nearest_shift_le positive)
      _ = 2 ^ (53 + shift n d) := (Nat.pow_add ..).symm
      _ ≤ 2 ^ (52 + shift n' d') := Nat.pow_le_pow_right (by decide) (by omega)
      _ = 2 ^ 52 * 2 ^ shift n' d' := Nat.pow_add ..
      _ ≤ rounded n' d' := Nat.mul_le_mul_right _ (le_nearest_shift positive' (by omega))
  · unfold rounded
    rw [same]
    refine Nat.mul_le_mul_right _ (nearest_mono (step_pos d positive) (step_pos d' positive') ?_)
    calc n * (d' * 2 ^ shift n' d') = n * d' * 2 ^ shift n' d' := by ring
      _ ≤ n' * d * 2 ^ shift n' d' := Nat.mul_le_mul_right _ h
      _ = n' * (d * 2 ^ shift n' d') := by ring

theorem rounded_congr {n d n' d' : Nat} (positive : 0 < d) (positive' : 0 < d') (h : n * d' = n' * d) :
    rounded n d = rounded n' d' :=
  Nat.le_antisymm (rounded_mono positive positive' (Nat.le_of_eq h))
    (rounded_mono positive' positive (Nat.le_of_eq h.symm))

theorem ofParts?_of_fits {negative : Bool} {significand exponent : Nat}
    (fits : significand < Nat.pow 2 53 ∧ exponent ≤ 2045 ∧ (exponent = 0 ∨ Nat.pow 2 52 ≤ significand)) :
    ofParts? negative significand exponent =
      some ⟨negative, significand, exponent, fits.1, fits.2.1, fits.2.2⟩ := by
  rw [ofParts?, dif_pos fits]

theorem ofUnits?_of_rounded (negative : Bool) {n d : Nat} (positive : 0 < d) (h : rounded n d < limit) :
    ∃ x, ofUnits? negative n d = some x ∧ x.units = rounded n d := by
  have upper := nearest_shift_le (n := n) positive
  have lower := le_nearest_shift (n := n) positive
  have parts : ofUnits? negative n d = ofParts? negative (nearest n (d * 2 ^ shift n d)) (shift n d) := rfl
  have value : rounded n d = nearest n (d * 2 ^ shift n d) * 2 ^ shift n d := rfl
  rw [parts, value]
  rw [value] at h
  generalize nearest n (d * 2 ^ shift n d) = significand at *
  generalize shift n d = exponent at *
  have small : exponent ≤ 2045 := by
    by_contra large
    refine absurd h (Nat.not_lt.mpr ?_)
    have past : topExponent + 1 ≤ exponent := Nat.lt_of_not_le large
    calc limit = 2 ^ 52 * 2 ^ (topExponent + 1) := by rw [limit]; ring
      _ ≤ significand * 2 ^ exponent :=
        Nat.mul_le_mul (lower (Nat.lt_of_lt_of_le (Nat.succ_pos _) past)) (Nat.pow_le_pow_right (by decide) past)
  rcases Nat.lt_or_eq_of_le upper with less | carry
  · refine ⟨_, ofParts?_of_fits ⟨less, small, ?_⟩, rfl⟩
    rcases Nat.eq_zero_or_pos exponent with zero | shifted
    · exact .inl zero
    · exact .inr (lower shifted)
  · have inside : exponent + 1 ≤ 2045 := by
      by_contra edge
      have last : exponent = topExponent := Nat.le_antisymm small (by unfold topExponent; omega)
      rw [carry, last] at h
      exact absurd h (Nat.lt_irrefl _)
    have apart : ¬(significand < Nat.pow 2 53 ∧ exponent ≤ 2045 ∧ (exponent = 0 ∨ Nat.pow 2 52 ≤ significand)) :=
      fun fits => absurd fits.1 (Nat.not_lt.mpr (Nat.le_of_eq carry.symm))
    have raised : significand = Nat.pow 2 53 ∧ exponent + 1 ≤ 2045 := ⟨carry, inside⟩
    refine ⟨_, by rw [ofParts?, dif_neg apart, dif_pos raised], ?_⟩
    show 2 ^ 52 * 2 ^ (exponent + 1) = significand * 2 ^ exponent
    rw [carry]
    ring

/-- What a quotient is rounded to has its rounded magnitude, which is in range. -/
theorem units_of_ofUnits? {negative : Bool} {n d : Nat} {x : Binary64} (h : ofUnits? negative n d = some x) :
    x.units = rounded n d := by
  have parts : ofUnits? negative n d = ofParts? negative (nearest n (d * 2 ^ shift n d)) (shift n d) := rfl
  have value : rounded n d = nearest n (d * 2 ^ shift n d) * 2 ^ shift n d := rfl
  rw [parts] at h
  rw [value]
  unfold ofParts? at h
  split at h
  · cases h
    rfl
  · split at h
    · next carry =>
      cases h
      show 2 ^ 52 * 2 ^ (shift n d + 1) = _
      rw [carry.1, Nat.pow_eq]
      ring
    · cases h

theorem units_lt_limit (x : Binary64) : x.units < limit := by
  have power : 2 ^ x.exponent ≤ 2 ^ topExponent := Nat.pow_le_pow_right (by decide) x.exponent_le
  calc x.units < 2 ^ 53 * 2 ^ x.exponent := Nat.mul_lt_mul_of_pos_right x.significand_lt (Nat.two_pow_pos _)
    _ ≤ limit := Nat.mul_le_mul_left _ power

/-- A quotient less than half a step away from a number is rounded to it. Below a number with the least significand
of its exponent the steps are only half as long, so there it must not lie. -/
theorem ofUnits?_eq_some {x : Binary64} {n d : Nat} (positive : 0 < d)
    (below : 2 * (x.units * d) < 2 * n + 2 ^ x.exponent * d)
    (above : 2 * n < 2 * (x.units * d) + 2 ^ x.exponent * d)
    (side : x.exponent = 0 ∨ 2 ^ 52 < x.significand ∨ x.units * d ≤ n) :
    ofUnits? x.negative n d = some x := by
  have fits := And.intro x.significand_lt (And.intro x.exponent_le x.normal)
  have units : x.units = x.significand * 2 ^ x.exponent := rfl
  have step : x.units * d = x.significand * (d * 2 ^ x.exponent) := by rw [units]; ring
  have wide : 2 ^ x.exponent * d = d * 2 ^ x.exponent := Nat.mul_comm ..
  rw [step, wide] at below above
  rw [step] at side
  have bits : x.significand < 2 ^ 53 := x.significand_lt
  have shifted : shift n d = x.exponent := by
    refine shift_eq positive ?_ ?_
    · rcases Nat.eq_zero_or_pos x.exponent with zero | some
      · exact .inl zero
      · right
        have least : 2 ^ 52 ≤ x.significand := x.normal.resolve_left (by omega)
        rw [Nat.pow_add, Nat.mul_assoc, Nat.mul_comm _ d]
        rcases side with zero | more | upper
        · omega
        · have : (2 ^ 52 + 1) * (d * 2 ^ x.exponent) ≤ x.significand * (d * 2 ^ x.exponent) :=
            Nat.mul_le_mul_right _ more
          generalize d * 2 ^ x.exponent = p at *
          omega
        · exact Nat.le_trans (Nat.mul_le_mul_right _ least) upper
    · have : x.significand * (d * 2 ^ x.exponent) + d * 2 ^ x.exponent ≤ 2 ^ 53 * (d * 2 ^ x.exponent) :=
        Nat.succ_mul .. ▸ Nat.mul_le_mul_right _ bits
      rw [Nat.pow_add, Nat.mul_assoc, Nat.mul_comm _ d]
      generalize d * 2 ^ x.exponent = p at *
      omega
  have rounds : nearest n (d * 2 ^ x.exponent) = x.significand := by
    refine nearest_eq ?_ ?_
    · rw [Nat.mul_assoc]
      exact below
    · rw [Nat.add_mul, Nat.mul_assoc, Nat.one_mul]
      exact above
  have parts : ofUnits? x.negative n d =
      ofParts? x.negative (nearest n (d * 2 ^ shift n d)) (shift n d) := rfl
  rw [parts, shifted, rounds, ofParts?_of_fits fits]

/-- A number is rounded to itself. -/
theorem ofUnits?_units (x : Binary64) : ofUnits? x.negative x.units 1 = some x := by
  have step := Nat.two_pow_pos x.exponent
  exact ofUnits?_eq_some Nat.one_pos (by omega) (by omega) (.inr (.inr (Nat.le_of_eq (Nat.mul_one _))))

theorem rounded_units (x : Binary64) : rounded x.units 1 = x.units :=
  (units_of_ofUnits? (ofUnits?_units x)).symm

/-- Sign and magnitude make a number. -/
theorem eq_of_units {x y : Binary64} (sign : x.negative = y.negative) (units : x.units = y.units) : x = y := by
  have same := ofUnits?_units x
  rw [sign, units, ofUnits?_units y] at same
  exact (Option.some.inj same).symm

end VariableStore.Binary64
