import ConfigCheck.Decimal.Shortest
import Mathlib.Algebra.Order.Field.Power
import Mathlib.Tactic.Linarith
import Mathlib.Tactic.Positivity

/-!
# Rounding intervals

What rounds to a binary number is an interval around it (`RoundingInterval.Has`).  The intervals of
two binary numbers meet at most where one of them ends and the other one begins, and there a half
goes to the even significand, so nothing rounds to two magnitudes (`Binary64.units_eq_of_has`).
-/

namespace ConfigCheck

/-- A power with an integer exponent is a fraction of natural numbers. -/
lemma natCast_zpow (b : ℕ) (p : ℤ) :
    (b : ℚ) ^ p = ((b ^ p.toNat : ℕ) : ℚ) / ((b ^ (-p).toNat : ℕ) : ℚ) := by
  cases p with
  | ofNat n => simp
  | negSucc n =>
    change _ = ((b ^ 0 : ℕ) : ℚ) / ((b ^ (n + 1) : ℕ) : ℚ)
    rw [zpow_negSucc, pow_zero, Nat.cast_one, one_div, Nat.cast_pow]

/-- A power of ten is a fraction of natural numbers. -/
lemma ten_zpow (p : ℤ) :
    (10 : ℚ) ^ p = ((10 ^ p.toNat : ℕ) : ℚ) / ((10 ^ (-p).toNat : ℕ) : ℚ) := by
  exact_mod_cast natCast_zpow 10 p

/-- A power of ten on a grid. -/
lemma pow_mul_zpow {k : ℕ} {p q : ℤ} (h : p + k = q) :
    ((10 ^ k : ℕ) : ℚ) * (10 : ℚ) ^ p = (10 : ℚ) ^ q := by
  rw [Nat.cast_pow, Nat.cast_ofNat, ← zpow_natCast, ← zpow_add₀ (by norm_num), add_comm, h]

namespace RoundingInterval

variable {i : RoundingInterval} {q : ℚ}

/-- A positive number rounds to the number of the interval. -/
def Has (i : RoundingInterval) (q : ℚ) : Prop :=
  if i.closed then (i.lower : ℚ) ≤ q * i.den ∧ q * i.den ≤ i.upper
  else (i.lower : ℚ) < q * i.den ∧ q * i.den < i.upper

/-- What rounds to the number is not beyond the ends. -/
lemma Has.bounds (h : i.Has q) : (i.lower : ℚ) ≤ q * i.den ∧ q * i.den ≤ i.upper := by
  unfold Has at h
  split at h
  · exact h
  · exact ⟨h.1.le, h.2.le⟩

/-- At an end only the ends of a closed interval round to the number. -/
lemma Has.closed_of_eq (h : i.Has q) (hend : q * i.den = i.lower ∨ q * i.den = i.upper) :
    i.closed = true := by
  by_contra hopen
  rw [Has, if_neg hopen] at h
  rcases hend with hlower | hupper
  · exact absurd hlower h.1.ne'
  · exact absurd hupper h.2.ne

/-- The test on fractions is the one on numbers. -/
lemma contains_iff_has {num den : ℕ} (hden : 0 < den) :
    i.contains num den = true ↔ i.Has (num / den) := by
  have hpos : (0 : ℚ) < den := Nat.cast_pos.mpr hden
  have hle (a : ℕ) : (a : ℚ) ≤ num / den * i.den ↔ a * den ≤ num * i.den := by
    rw [div_mul_eq_mul_div, le_div_iff₀ hpos]
    exact_mod_cast Iff.rfl
  have hge (a : ℕ) : num / den * i.den ≤ (a : ℚ) ↔ num * i.den ≤ a * den := by
    rw [div_mul_eq_mul_div, div_le_iff₀ hpos]
    exact_mod_cast Iff.rfl
  unfold contains Has
  split
  · rw [hle, hge, Bool.and_eq_true, decide_eq_true_iff, decide_eq_true_iff]
  · rw [Bool.and_eq_true, decide_eq_true_iff, decide_eq_true_iff, ← not_le, ← not_le, ← hge, ← hle,
      not_le, not_le]

end RoundingInterval

namespace Binary64

variable {x y : Binary64} {q : ℚ}

/-! ## Significands -/

/-- A fraction has fifty-two bits. -/
lemma fraction_lt (x : Binary64) : x.fraction < 2 ^ 52 := Nat.mod_lt _ (by decide)

/-- A significand has fifty-three bits. -/
lemma significand_lt (x : Binary64) : x.significand < 2 ^ 53 := by
  have hfraction := x.fraction_lt
  unfold significand
  split <;> omega

/-- Where the scale is not the lowest the leading bit is set. -/
lemma le_significand (h : 0 < x.scale) : 2 ^ 52 ≤ x.significand := by
  unfold scale at h
  unfold significand
  split <;> omega

/-- The number below is half as far away exactly if the significand is the least one of a scale that
is not the lowest. -/
lemma below_eq (x : Binary64) :
    (if x.fraction = 0 && 1 < x.biasedExponent then 1 else 2) =
      if x.significand = 2 ^ 52 ∧ 0 < x.scale then 1 else 2 := by
  have hfraction := x.fraction_lt
  refine if_congr ?_ rfl rfl
  rw [Bool.and_eq_true, decide_eq_true_iff, decide_eq_true_iff]
  unfold significand scale
  constructor
  · rintro ⟨hzero, hexponent⟩
    rw [if_neg (by omega)]
    omega
  · rintro ⟨hsignificand, hscale⟩
    rw [if_neg (by omega)] at hsignificand
    omega

/-- The numerator of the lower end. -/
lemma lower_eq (x : Binary64) : x.roundingInterval.lower =
    (4 * x.significand - if x.significand = 2 ^ 52 ∧ 0 < x.scale then 1 else 2) * 2 ^ x.scale := by
  rw [← below_eq]
  rfl

/-- The numerator of the upper end. -/
lemma upper_eq (x : Binary64) : x.roundingInterval.upper =
    (4 * x.significand + 2) * 2 ^ x.scale := rfl

/-- The interval is closed if the significand is even. -/
lemma closed_iff (x : Binary64) : x.roundingInterval.closed = true ↔ x.significand % 2 = 0 :=
  beq_iff_eq

/-! ## Neighbours -/

/-- The unit of a larger scale is at least twice as large. -/
lemma two_mul_unit_le {s t : ℕ} (h : s < t) : 2 * 2 ^ s ≤ 2 ^ t := by
  rw [← Nat.pow_succ']
  exact Nat.pow_le_pow_right (by decide) h

/-- A number of a larger scale is larger. -/
lemma units_lt_of_scale_lt (h : x.scale < y.scale) : x.units < y.units := by
  have hx := x.significand_lt
  have hy := le_significand (Nat.zero_lt_of_lt h)
  calc x.significand * 2 ^ x.scale
      < 2 ^ 53 * 2 ^ x.scale := Nat.mul_lt_mul_of_pos_right hx (Nat.two_pow_pos _)
    _ = 2 ^ 52 * (2 * 2 ^ x.scale) := by omega
    _ ≤ y.significand * 2 ^ y.scale := Nat.mul_le_mul hy (two_mul_unit_le h)

/-- The interval of a number ends where that of a larger number begins or before, and only one of
two intervals that meet has its ends. -/
lemma upper_le_lower (h : x.units < y.units) :
    x.roundingInterval.upper ≤ y.roundingInterval.lower ∧
      (x.roundingInterval.upper = y.roundingInterval.lower →
        x.roundingInterval.closed = true → y.roundingInterval.closed = false) := by
  rw [← Bool.not_eq_true, closed_iff, closed_iff, upper_eq, lower_eq]
  rcases lt_trichotomy x.scale y.scale with hlt | heq | hgt
  · -- From the largest significand to the least one of the next scale it is a small step.
    have hx := x.significand_lt
    have hy := le_significand (Nat.zero_lt_of_lt hlt)
    have hunit := two_mul_unit_le hlt
    have hpos := Nat.two_pow_pos x.scale
    have hlower : 2 ^ 54 - 1 ≤ 4 * y.significand -
        if y.significand = 2 ^ 52 ∧ 0 < y.scale then 1 else 2 := by
      split <;> omega
    have hbetween : (2 ^ 54 - 1) * (2 * 2 ^ x.scale) ≤ (4 * y.significand -
        if y.significand = 2 ^ 52 ∧ 0 < y.scale then 1 else 2) * 2 ^ y.scale :=
      Nat.mul_le_mul hlower hunit
    refine ⟨?_, fun hmeet heven => ?_⟩
    · have hupper : (4 * x.significand + 2) * 2 ^ x.scale ≤ (2 ^ 55 - 2) * 2 ^ x.scale :=
        Nat.mul_le_mul_right _ (by omega)
      omega
    · have hupper : (4 * x.significand + 2) * 2 ^ x.scale ≤ (2 ^ 55 - 6) * 2 ^ x.scale :=
        Nat.mul_le_mul_right _ (by omega)
      omega
  · unfold units at h
    rw [heq] at h ⊢
    have hpos := Nat.two_pow_pos y.scale
    have hlt := Nat.lt_of_mul_lt_mul_right h
    refine ⟨Nat.mul_le_mul_right _ (by split <;> omega), fun hmeet heven => ?_⟩
    have hnext := Nat.eq_of_mul_eq_mul_right hpos hmeet
    split at hnext <;> omega
  · exact absurd (units_lt_of_scale_lt hgt) (Nat.lt_asymm h)

/-- Nothing rounds to two magnitudes. -/
theorem units_eq_of_has (hx : x.roundingInterval.Has q) (hy : y.roundingInterval.Has q) :
    x.units = y.units := by
  wlog hlt : x.units < y.units generalizing x y with hswap
  · rcases Nat.lt_or_ge y.units x.units with hgt | hge
    · exact (hswap hy hx hgt).symm
    · omega
  · obtain ⟨hle, hmeet⟩ := upper_le_lower hlt
    have hden : x.roundingInterval.den = y.roundingInterval.den := rfl
    have hupper := hx.bounds.2
    have hlower := hy.bounds.1
    rw [hden] at hupper
    have hle' : (x.roundingInterval.upper : ℚ) ≤ y.roundingInterval.lower := Nat.cast_le.mpr hle
    have heq : x.roundingInterval.upper = y.roundingInterval.lower := by
      exact_mod_cast le_antisymm hle' (hlower.trans hupper)
    have hx' := hx.closed_of_eq (.inr (by rw [hden]; linarith))
    have hy' := hy.closed_of_eq (.inl (by linarith))
    rw [hmeet heq hx'] at hy'
    cases hy'

end Binary64

end ConfigCheck
