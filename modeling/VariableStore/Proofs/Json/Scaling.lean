import VariableStore.Json.Basic
import VariableStore.Proofs.Number.Shortest
/-!
Scaling by a power of ten, which rounds twice. A quotient never leaves the range of binary64 numbers. A product can be
past the largest number although the decimal number itself is rounded to it: among significands of up to seventeen
digits this happens for one only, and that is not the one in the shortest text of the largest number.
-/
namespace VariableStore.Json.Number

open Binary64

-- The powers that these stand for are never computed, but where a closed comparison is decided.
attribute [local irreducible] one limit

theorem rounded_ten_pow {e : Nat} (h : e ≤ reach) :
    rounded (10 ^ e * one) 1 < limit ∧ one ≤ rounded (10 ^ e * one) 1 := by
  have largest : rounded (10 ^ reach * one) 1 < limit := by decide +kernel
  have smallest : one ≤ rounded (10 ^ 0 * one) 1 := by decide +kernel
  have order : ∀ {i j}, i ≤ j → rounded (10 ^ i * one) 1 ≤ rounded (10 ^ j * one) 1 := fun hij =>
    rounded_mono Nat.one_pos Nat.one_pos
      (Nat.mul_le_mul_right 1 (Nat.mul_le_mul_right one (Nat.pow_le_pow_right (by decide) hij)))
  exact ⟨Nat.lt_of_le_of_lt (order h) largest, Nat.le_trans smallest (order (Nat.zero_le e))⟩

/-- The powers of ten that scale at once are numbers. -/
theorem power_eq_some {e : Nat} (h : e ≤ reach) :
    ∃ p, power e = some p ∧ p.units = rounded (10 ^ e * one) 1 ∧ one ≤ p.units := by
  obtain ⟨inside, large⟩ := rounded_ten_pow h
  obtain ⟨p, found, units⟩ := ofUnits?_of_rounded false Nat.one_pos inside
  exact ⟨p, found, units, units ▸ large⟩

/-- A quotient by a number that is not less than one is a number. -/
theorem div?_eq_some (x : Binary64) {p : Binary64} (large : one ≤ p.units) : ∃ y, x.div? p = some y := by
  have positive : 0 < p.units := Nat.lt_of_lt_of_le one_units_pos large
  have inside : rounded (x.units * one) p.units < limit :=
    calc rounded (x.units * one) p.units ≤ rounded x.units 1 :=
          rounded_mono positive Nat.one_pos (by rw [Nat.mul_one]; exact Nat.mul_le_mul_left _ large)
      _ = x.units := rounded_units x
      _ < limit := units_lt_limit x
  obtain ⟨y, found, -⟩ := ofUnits?_of_rounded (x.negative != p.negative) positive inside
  exact ⟨y, found⟩

theorem scaleDown_eq_some (x : Binary64) (e : Nat) : ∃ y, scaleDown x e = some y := by
  induction e using Nat.strongRecOn generalizing x with
  | ind e ih =>
    rw [scaleDown]
    split
    · next near =>
      obtain ⟨p, found, -, large⟩ := power_eq_some near
      rw [found, Option.bind_eq_bind, Option.bind_some]
      exact div?_eq_some x large
    · next far =>
      split
      · exact ⟨x, rfl⟩
      · obtain ⟨p, found, -, large⟩ := power_eq_some (Nat.le_refl reach)
        obtain ⟨y, quotient⟩ := div?_eq_some x large
        rw [found, Option.bind_eq_bind, Option.bind_some, quotient, Option.bind_some]
        refine ih (e - reach) ?_ y
        unfold reach at *
        omega

/-- The magnitude of a decimal number that is rounded for the significand, for the power and for the product. -/
def rounded₂ (significand e : Nat) : Nat :=
  rounded (rounded (significand * one) 1 * rounded (10 ^ e * one) 1) one

theorem rounded₂_mono {s s' e e' : Nat} (hs : s ≤ s') (he : e ≤ e') : rounded₂ s e ≤ rounded₂ s' e' := by
  have first : rounded (s * one) 1 ≤ rounded (s' * one) 1 :=
    rounded_mono Nat.one_pos Nat.one_pos (Nat.mul_le_mul_right 1 (Nat.mul_le_mul_right one hs))
  have second : rounded (10 ^ e * one) 1 ≤ rounded (10 ^ e' * one) 1 :=
    rounded_mono Nat.one_pos Nat.one_pos
      (Nat.mul_le_mul_right 1 (Nat.mul_le_mul_right one (Nat.pow_le_pow_right (by decide) he)))
  exact rounded_mono one_units_pos one_units_pos (Nat.mul_le_mul_right one (Nat.mul_le_mul first second))

/-- The largest significand whose product with a power of ten is in range, rounded once. -/
def greatest (e : Nat) : Nat := (limit - 2 ^ (topExponent - 1) - 1) / (10 ^ e * one)

theorem le_greatest {s e : Nat} (h : rounded (s * 10 ^ e * one) 1 < limit) : s ≤ greatest e := by
  have positive : 0 < 10 ^ e * one := Nat.mul_pos (Nat.pow_pos (by decide)) one_units_pos
  rw [greatest, Nat.le_div_iff_mul_le positive]
  have edge : limit ≤ rounded (limit - 2 ^ (topExponent - 1)) 1 := by decide +kernel
  have room : 0 < limit - 2 ^ (topExponent - 1) := by decide +kernel
  by_contra beyond
  have past : limit - 2 ^ (topExponent - 1) ≤ s * (10 ^ e * one) := by omega
  rw [← Nat.mul_assoc] at past
  have order := rounded_mono Nat.one_pos Nat.one_pos (Nat.mul_le_mul_right 1 past)
  exact absurd h (Nat.not_lt.mpr (Nat.le_trans edge order))

/-- The one significand of seventeen digits whose product is in range only if it is rounded once; the power of ten
has the exponent 292. -/
def outlier : Nat := 17976931348623158

/-- Otherwise a product in range is also in range when it is rounded twice. -/
theorem rounded₂_lt {s e : Nat} (positive : 0 < s) (digits : s ≤ 10 ^ 17) (apart : ¬(s = outlier ∧ e = 292))
    (h : rounded (s * 10 ^ e * one) 1 < limit) : e ≤ reach ∧ rounded₂ s e < limit := by
  have most := le_greatest h
  have near : rounded₂ (10 ^ 17) 291 < limit := by decide +kernel
  have last : greatest 292 = outlier ∧ rounded₂ (outlier - 1) 292 < limit := by decide +kernel
  have far : ∀ e ∈ List.range' 293 16, rounded₂ (greatest e) e < limit := by decide +kernel
  have none : greatest (reach + 1) = 0 := by decide +kernel
  rcases Nat.lt_or_ge 291 e with above | below
  · rcases Nat.lt_or_eq_of_le above with beyond | rfl
    · by_cases inside : e ≤ reach
      · refine ⟨inside, Nat.lt_of_le_of_lt (rounded₂_mono most (Nat.le_refl e)) (far e ?_)⟩
        rw [List.mem_range'_1]
        unfold reach at inside
        omega
      · -- No significand is left here.
        have least : s * 10 ^ (reach + 1) ≤ s * 10 ^ e :=
          Nat.mul_le_mul_left s (Nat.pow_le_pow_right (by decide) (Nat.lt_of_not_le inside))
        have smaller : rounded (s * 10 ^ (reach + 1) * one) 1 < limit :=
          Nat.lt_of_le_of_lt (rounded_mono Nat.one_pos Nat.one_pos
            (Nat.mul_le_mul_right 1 (Nat.mul_le_mul_right one least))) h
        have zero := le_greatest smaller
        omega
    · have less : s ≤ outlier - 1 := by
        rw [last.1] at most
        have other : s ≠ outlier := fun same => apart ⟨same, rfl⟩
        omega
      exact ⟨by decide, Nat.lt_of_le_of_lt (rounded₂_mono less (Nat.le_refl 292)) last.2⟩
  · exact ⟨by unfold reach; omega, Nat.lt_of_le_of_lt (rounded₂_mono digits below) near⟩

/-- Few digits are a number, which is rounded once. -/
theorem ofRatio?_eq_some {s : Nat} (digits : s ≤ 10 ^ 17) :
    ∃ x, ofRatio? false s 1 = some x ∧ x.units = rounded (s * one) 1 := by
  have most : rounded (10 ^ 17 * one) 1 < limit := by decide +kernel
  have order : rounded (s * one) 1 ≤ rounded (10 ^ 17 * one) 1 :=
    rounded_mono Nat.one_pos Nat.one_pos (Nat.mul_le_mul_right 1 (Nat.mul_le_mul_right one digits))
  exact ofUnits?_of_rounded false Nat.one_pos (Nat.lt_of_le_of_lt order most)

/-- A decimal number of up to seventeen digits is read, as long as its product is not past the largest number. -/
theorem scaled?_eq_some {s : Nat} {exponent : Int} (digits : s ≤ 10 ^ 17)
    (inside : ∀ e : Nat, exponent = e → e ≤ reach ∧ rounded₂ s e < limit) : ∃ x, scaled? s exponent = some x := by
  obtain ⟨x, start, units⟩ := ofRatio?_eq_some digits
  unfold scaled?
  rw [start, Option.bind_eq_bind, Option.bind_some]
  cases exponent with
  | ofNat e =>
    obtain ⟨near, product⟩ := inside e rfl
    obtain ⟨p, found, power, -⟩ := power_eq_some near
    have value : rounded (x.units * p.units) one = rounded₂ s e := by rw [units, power, rounded₂]
    obtain ⟨y, result, -⟩ := ofUnits?_of_rounded (x.negative != p.negative) one_units_pos (value ▸ product)
    refine ⟨y, ?_⟩
    dsimp only
    rw [scaleUp, if_pos near, found, Option.bind_eq_bind, Option.bind_some]
    exact result
  | negSucc e => exact scaleDown_eq_some x (e + 1)

end VariableStore.Json.Number
