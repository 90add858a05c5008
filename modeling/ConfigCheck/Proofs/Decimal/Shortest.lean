import ConfigCheck.Proofs.Decimal.Interval
import Mathlib.Data.List.TakeWhile
import Mathlib.Tactic.FieldSimp
import Mathlib.Tactic.Ring

/-!
# Shortest decimals

The shortest decimal of a binary number that is not zero rounds to the number
(`Binary64.has_shortest`): the estimate of its first digit is not too high, so the grid of decimals
with seventeen digits is finer than the interval of the number is wide, and the search stops on the
first grid with a point in the interval (`Binary64.exists_grid_of_shortest`).
-/

namespace ConfigCheck

/-- The number that a decimal stands for. -/
def Decimal.value (d : Decimal) : ℚ :=
  Nat.ofDigitChars 10 d.digits 0 * (10 : ℚ) ^ (d.point - d.digits.length)

/-- Digits are digits that do not end in zero and zeros. -/
lemma exists_zeros (digits : List Char) : ∃ k,
    digits = (digits.reverse.dropWhile (· == '0')).reverse ++ List.replicate k '0' := by
  refine ⟨(digits.reverse.takeWhile (· == '0')).length, ?_⟩
  have hzeros : digits.reverse.takeWhile (· == '0') =
      List.replicate (digits.reverse.takeWhile (· == '0')).length '0' := by
    refine List.eq_replicate_of_mem fun c hc => ?_
    exact beq_iff_eq.mp (List.mem_takeWhile_imp (p := (· == '0')) hc)
  rw [← List.reverse_replicate, ← hzeros, ← List.reverse_append, List.takeWhile_append_dropWhile,
    List.reverse_reverse]

/-- Steps on a grid are as far as they are many. -/
lemma Decimal.value_ofSteps (steps : ℕ) (exponent : ℤ) :
    (ofSteps steps exponent).value = steps * (10 : ℚ) ^ exponent := by
  obtain ⟨k, hk⟩ := exists_zeros (Nat.toDigits 10 steps)
  unfold value ofSteps
  dsimp only
  generalize ((Nat.toDigits 10 steps).reverse.dropWhile (· == '0')).reverse = digits at *
  have hsteps : 10 ^ k * Nat.ofDigitChars 10 digits 0 = steps := by
    have h := Nat.ofDigitChars_ten_toDigits (n := steps)
    rw [hk, Nat.ofDigitChars_append, Nat.ofDigitChars_replicate_zero] at h
    exact h
  have hlength : ((Nat.toDigits 10 steps).length : ℤ) + exponent - digits.length =
      k + exponent := by
    rw [hk, List.length_append, List.length_replicate]
    push_cast
    ring
  rw [hlength, zpow_add₀ (by norm_num), zpow_natCast, ← hsteps]
  push_cast
  ring

namespace RoundingInterval

variable {i : RoundingInterval} {q r : ℚ} {p : ℤ} {count c d : ℕ} {unit : ℚ}

/-- The number lies inside its interval. -/
structure IsProper (i : RoundingInterval) : Prop where
  /-- The lower end is below the number. -/
  lower_lt : i.lower < i.value
  /-- The upper end is above the number. -/
  lt_upper : i.value < i.upper
  /-- The denominator is positive. -/
  den_pos : 0 < i.den

/-- What lies between the ends rounds to the number. -/
lemma has_of_lt (hlower : (i.lower : ℚ) < q * i.den) (hupper : q * i.den < i.upper) : i.Has q := by
  unfold Has
  split
  · exact ⟨hlower.le, hupper.le⟩
  · exact ⟨hlower, hupper⟩

/-! ## Grids -/

/-- The test on a grid point is the one on its number. -/
lemma contains_grid (p : ℤ) (c : ℕ) :
    i.contains (c * 10 ^ p.toNat) (10 ^ (-p).toNat) = true ↔ i.Has (c * (10 : ℚ) ^ p) := by
  rw [contains_iff_has (by positivity), ten_zpow]
  push_cast
  rw [mul_div_assoc]

/-- How far a number is from that of the interval. -/
def gap (i : RoundingInterval) (q : ℚ) : ℚ := |q * i.den - i.value|

/-- The distance of a fraction is that of its number. -/
lemma cast_distance (num : ℕ) {den : ℕ} (hden : 0 < den) :
    (i.distance num den : ℚ) = i.gap (num / den) * den := by
  have hpos : (0 : ℚ) < den := Nat.cast_pos.mpr hden
  have hgap : i.gap (num / den) * den = |(num * i.den : ℚ) - i.value * den| := by
    nth_rewrite 2 [← abs_of_pos hpos]
    rw [gap, ← abs_mul, sub_mul, mul_right_comm, div_mul_cancel₀ _ hpos.ne']
  rw [hgap, distance]
  rcases le_total (num * i.den) (i.value * den) with hle | hle
  · have hle' : (num * i.den : ℚ) ≤ i.value * den := by exact_mod_cast hle
    rw [Nat.sub_eq_zero_of_le hle, Nat.zero_add, Nat.cast_sub hle, abs_sub_comm,
      abs_of_nonneg (sub_nonneg.mpr hle'), Nat.cast_mul, Nat.cast_mul]
  · have hle' : (i.value * den : ℚ) ≤ num * i.den := by exact_mod_cast hle
    rw [Nat.sub_eq_zero_of_le hle, Nat.add_zero, Nat.cast_sub hle,
      abs_of_nonneg (sub_nonneg.mpr hle'), Nat.cast_mul, Nat.cast_mul]

/-- A grid point is found and another one is not: it rounds to the number, and if the other one does
too it is nearer, or as near and even. -/
structure Prefers (i : RoundingInterval) (unit : ℚ) (c d : ℕ) : Prop where
  /-- The grid point rounds to the number. -/
  has : i.Has (c * unit)
  /-- The other one is farther, or as far and odd. -/
  gap_lt : i.Has (d * unit) → i.gap (c * unit) < i.gap (d * unit) ∨
    i.gap (c * unit) = i.gap (d * unit) ∧ c % 2 = 0

/-- The last grid point that is not beyond the number. -/
def gridBelow (i : RoundingInterval) (p : ℤ) : ℕ :=
  i.value * 10 ^ (-p).toNat / (10 ^ p.toNat * i.den)

/-- The number lies between two grid points. -/
lemma gridBelow_bounds (hden : 0 < i.den) (p : ℤ) :
    i.gridBelow p * (10 : ℚ) ^ p * i.den ≤ i.value ∧
      i.value < (i.gridBelow p + 1 : ℕ) * (10 : ℚ) ^ p * i.den := by
  obtain ⟨low, hlow⟩ : ∃ low, low = i.gridBelow p := ⟨_, rfl⟩
  rw [← hlow, ten_zpow, mul_div_assoc', div_mul_eq_mul_div, mul_div_assoc', div_mul_eq_mul_div,
    div_le_iff₀ (by positivity), lt_div_iff₀ (by positivity)]
  unfold gridBelow at hlow
  constructor
  · have hle := Nat.div_mul_le_self (i.value * 10 ^ (-p).toNat) (10 ^ p.toNat * i.den)
    rw [← hlow, ← Nat.mul_assoc] at hle
    exact_mod_cast hle
  · have hlt : i.value * 10 ^ (-p).toNat < (low + 1) * (10 ^ p.toNat * i.den) :=
      Nat.lt_mul_of_div_lt (hlow ▸ Nat.lt_succ_self low) (by positivity)
    rw [← Nat.mul_assoc] at hlt
    exact_mod_cast hlt

/-- On a grid the two points around the number are tried. -/
lemma onGrid?_cases (i : RoundingInterval) (p : ℤ) (count : ℕ) {low : ℕ}
    (hlow : low = i.gridBelow (p - count)) (hunit : unit = 10 ^ (p - count)) :
    (i.onGrid? p count = none ∧ ¬ i.Has (low * unit) ∧ ¬ i.Has ((low + 1 : ℕ) * unit)) ∨
      ∃ c d, (c = low ∧ d = low + 1 ∨ c = low + 1 ∧ d = low) ∧
        i.onGrid? p count = some c ∧ i.Prefers unit c d := by
  have hden : 0 < 10 ^ (-(p - count)).toNat := Nat.pow_pos (by decide)
  have hpos : (0 : ℚ) < (10 ^ (-(p - count)).toNat : ℕ) := Nat.cast_pos.mpr hden
  have hcontains (c : ℕ) := contains_grid (i := i) (p - count) c
  rw [← hunit] at hcontains
  have hdistance (c : ℕ) : (i.distance (c * 10 ^ (p - count).toNat)
      (10 ^ (-(p - count)).toNat) : ℚ) = i.gap (c * unit) * (10 ^ (-(p - count)).toNat : ℕ) := by
    rw [cast_distance _ hden, hunit, ten_zpow, Nat.cast_mul, mul_div_assoc]
  have hlt (c d : ℕ) : i.distance (c * 10 ^ (p - count).toNat) (10 ^ (-(p - count)).toNat) <
      i.distance (d * 10 ^ (p - count).toNat) (10 ^ (-(p - count)).toNat) ↔
        i.gap (c * unit) < i.gap (d * unit) := by
    rw [← Nat.cast_lt (α := ℚ), hdistance, hdistance, mul_lt_mul_iff_left₀ hpos]
  have heq (c d : ℕ) : i.distance (c * 10 ^ (p - count).toNat) (10 ^ (-(p - count)).toNat) =
      i.distance (d * 10 ^ (p - count).toNat) (10 ^ (-(p - count)).toNat) ↔
        i.gap (c * unit) = i.gap (d * unit) := by
    rw [← Nat.cast_inj (R := ℚ), hdistance, hdistance, mul_left_inj' hpos.ne']
  unfold gridBelow at hlow
  unfold onGrid?
  dsimp only
  rw [← hlow, List.filter_cons, List.filter_cons, List.filter_nil]
  by_cases hhas : i.Has (low * unit)
  · by_cases hhas' : i.Has ((low + 1 : ℕ) * unit)
    · -- Both round to the number.
      rw [if_pos ((hcontains _).mpr hhas), if_pos ((hcontains _).mpr hhas')]
      dsimp only
      simp only [Bool.or_eq_true, Bool.and_eq_true, decide_eq_true_iff, hlt, heq]
      right
      split
      · rename_i htie
        refine ⟨low + 1, low, .inr ⟨rfl, rfl⟩, rfl, hhas', fun _ => ?_⟩
        rcases htie with hnearer | ⟨heq, hodd⟩
        · exact .inl hnearer
        · exact .inr ⟨heq, by omega⟩
      · rename_i htie
        refine ⟨low, low + 1, .inl ⟨rfl, rfl⟩, rfl, hhas, fun _ => ?_⟩
        rw [not_or, not_and, not_lt] at htie
        rcases htie.1.lt_or_eq with hnearer | heq
        · exact .inl hnearer
        · exact .inr ⟨heq, by have := htie.2 heq.symm; omega⟩
    · rw [if_pos ((hcontains _).mpr hhas), if_neg (mt (hcontains _).mp hhas')]
      exact .inr ⟨low, low + 1, .inl ⟨rfl, rfl⟩, rfl, hhas, fun h => absurd h hhas'⟩
  · by_cases hhas' : i.Has ((low + 1 : ℕ) * unit)
    · rw [if_neg (mt (hcontains _).mp hhas), if_pos ((hcontains _).mpr hhas')]
      exact .inr ⟨low + 1, low, .inr ⟨rfl, rfl⟩, rfl, hhas', fun h => absurd h hhas⟩
    · rw [if_neg (mt (hcontains _).mp hhas), if_neg (mt (hcontains _).mp hhas')]
      exact .inl ⟨rfl, hhas, hhas'⟩

/-- A grid point that is found rounds to the number. -/
lemma has_of_onGrid? (h : i.onGrid? p count = some c) : i.Has (c * (10 : ℚ) ^ (p - count)) := by
  rcases i.onGrid?_cases p count rfl rfl with ⟨hnone, -⟩ | ⟨c', d, -, hsome, hprefers⟩
  · rw [h] at hnone
    cases hnone
  · rw [h] at hsome
    cases hsome
    exact hprefers.has

/-- On a grid that is finer than the interval is wide a point is found. -/
lemma exists_onGrid? (hi : i.IsProper)
    (hfine : (10 : ℚ) ^ (p - count) * i.den < i.upper - i.lower) :
    ∃ c, i.onGrid? p count = some c := by
  have hpos : (0 : ℚ) < (10 : ℚ) ^ (p - count) := by positivity
  have hlower : (i.lower : ℚ) < i.value := Nat.cast_lt.mpr hi.lower_lt
  have hupper : (i.value : ℚ) < i.upper := Nat.cast_lt.mpr hi.lt_upper
  obtain ⟨hbefore, hbehind⟩ := gridBelow_bounds hi.den_pos (p - count)
  rcases i.onGrid?_cases p count rfl rfl with ⟨-, hlow, hhigh⟩ | ⟨c, d, -, hsome, -⟩
  · -- The number lies between two grid points, and one of them lies in the interval.
    rcases lt_or_ge (i.lower : ℚ) (i.gridBelow (p - count) * (10 : ℚ) ^ (p - count) * i.den) with
      hin | hout
    · exact absurd (has_of_lt hin (by linarith)) hlow
    · refine absurd (has_of_lt (by linarith) ?_) hhigh
      push_cast
      linarith
  · exact ⟨c, hsome⟩

/-- The search stops on the first grid with a point. -/
lemma exists_of_search {fuel : ℕ} (h : ∃ k < fuel, ∃ c, i.onGrid? p (count + k) = some c) :
    ∃ c, ∃ n : ℕ, i.search p count fuel = (c, p - n) ∧ i.onGrid? p n = some c ∧ count ≤ n ∧
      ∀ m, count ≤ m → m < n → i.onGrid? p m = none := by
  induction fuel generalizing count with
  | zero =>
    obtain ⟨k, hk, -⟩ := h
    exact absurd hk (Nat.not_lt_zero _)
  | succ fuel ih =>
    rw [search]
    cases hgrid : i.onGrid? p count with
    | some c =>
      exact ⟨c, count, rfl, hgrid, le_rfl, fun m hle hlt => absurd hlt (Nat.not_lt.mpr hle)⟩
    | none =>
      obtain ⟨k, hk, c, hc⟩ := h
      cases k with
      | zero =>
        rw [Nat.add_zero, hgrid] at hc
        cases hc
      | succ k =>
        have hrest : ∃ k < fuel, ∃ c, i.onGrid? p (count + 1 + k) = some c := by
          refine ⟨k, Nat.lt_of_succ_lt_succ hk, c, ?_⟩
          rw [← hc]
          congr 1
          omega
        obtain ⟨c', n, hsearch, hsome, hle, hnone⟩ := ih hrest
        refine ⟨c', n, hsearch, hsome, by omega, fun m hm hlt => ?_⟩
        rcases hm.eq_or_lt with rfl | hlater
        · exact hgrid
        · exact hnone m hlater hlt

/-! ## The position of the point -/

/-- Whether a power of ten lies above the number. -/
lemma above_iff (p : ℤ) :
    (if 0 ≤ p then i.value < 10 ^ p.toNat * i.den else i.value * 10 ^ (-p).toNat < i.den) ↔
      (i.value : ℚ) < (10 : ℚ) ^ p * i.den := by
  rw [ten_zpow, div_mul_eq_mul_div, lt_div_iff₀ (by positivity)]
  split
  · have hneg : (-p).toNat = 0 := by omega
    rw [hneg, pow_zero, Nat.cast_one, mul_one]
    exact_mod_cast Iff.rfl
  · have hzero : p.toNat = 0 := by omega
    rw [hzero, pow_zero, Nat.cast_one, one_mul]
    exact_mod_cast Iff.rfl

/-- Climbing does not go beyond the number. -/
lemma zpow_climb_le {n : ℕ} (h : (10 : ℚ) ^ (p - 1) * i.den ≤ i.value) :
    (10 : ℚ) ^ (point.climb i n p - 1) * i.den ≤ i.value := by
  induction n generalizing p with
  | zero => exact h
  | succ n ih =>
    rw [point.climb]
    by_cases habove : (i.value : ℚ) < (10 : ℚ) ^ p * i.den
    · rw [if_pos ((above_iff p).mpr habove)]
      exact h
    · rw [if_neg (mt (above_iff p).mp habove)]
      refine ih ?_
      rw [add_sub_cancel_right]
      exact not_lt.mp habove

/-- Climbing goes beyond the number, if the number is not too far up. -/
lemma lt_zpow_climb {n : ℕ} (h : (i.value : ℚ) < (10 : ℚ) ^ (p + n) * i.den) :
    (i.value : ℚ) < (10 : ℚ) ^ point.climb i n p * i.den := by
  induction n generalizing p with
  | zero => simpa [point.climb] using h
  | succ n ih =>
    rw [point.climb]
    by_cases habove : (i.value : ℚ) < (10 : ℚ) ^ p * i.den
    · rw [if_pos ((above_iff p).mpr habove)]
      exact habove
    · rw [if_neg (mt (above_iff p).mp habove)]
      refine ih ?_
      rwa [add_assoc, add_comm (1 : ℤ), ← Nat.cast_succ]

end RoundingInterval

namespace Binary64

open RoundingInterval

variable {x : Binary64}

/-- The significand of a number that is not zero is positive. -/
lemma significand_pos (h : x.isZero = false) : 0 < x.significand := by
  unfold isZero at h
  unfold significand
  split
  · rename_i hexponent
    rw [hexponent, BEq.rfl, Bool.true_and] at h
    exact Nat.pos_of_ne_zero (beq_eq_false_iff_ne.mp h)
  · omega

/-- The magnitude of zero. -/
lemma units_eq_zero (h : x.isZero = true) : x.units = 0 := by
  unfold isZero at h
  rw [Bool.and_eq_true, beq_iff_eq, beq_iff_eq] at h
  rw [units, significand, if_pos h.1, h.2, Nat.zero_mul]

/-- The lower end of a number that is not zero is positive. -/
lemma lower_pos (h : x.isZero = false) : 0 < x.roundingInterval.lower := by
  have hpos := significand_pos h
  rw [lower_eq]
  exact Nat.mul_pos (by split <;> omega) (Nat.two_pow_pos _)

/-- Zero rounds to zero only. -/
lemma not_has_zero (h : x.isZero = false) : ¬ x.roundingInterval.Has 0 := by
  intro hhas
  have hlower := hhas.bounds.1
  rw [zero_mul] at hlower
  exact absurd (lower_pos h) (Nat.not_lt.mpr (by exact_mod_cast hlower))

/-- The numerator of a number has at most 2101 bits. -/
lemma log2_value_lt (h : 0 < x.significand) : x.roundingInterval.value.log2 < 2101 := by
  have hscale : x.scale ≤ 2046 := by
    have hexponent : x.biasedExponent < 2 ^ 11 := Nat.mod_lt _ (by decide)
    unfold scale
    omega
  have hvalue : x.roundingInterval.value = 4 * x.significand * 2 ^ x.scale := rfl
  have hpos : 0 < 4 * x.significand * 2 ^ x.scale := by positivity
  rw [hvalue, Nat.log2_lt hpos.ne']
  calc 4 * x.significand * 2 ^ x.scale
      < 4 * 2 ^ 53 * 2 ^ x.scale :=
        Nat.mul_lt_mul_of_pos_right (Nat.mul_lt_mul_of_pos_left x.significand_lt (by decide))
          (Nat.two_pow_pos _)
    _ = 2 ^ (55 + x.scale) := by rw [Nat.pow_add]
    _ ≤ 2 ^ 2101 := Nat.pow_le_pow_right (by decide) (by omega)

/-- The common denominator. -/
lemma den_eq (x : Binary64) : x.roundingInterval.den = 2 ^ 1076 := by
  unfold roundingInterval
  with_reducible rfl

/-- The estimate of the position of the point, counted from far in front. -/
lemma estimate_eq (k : ℕ) : ((k : ℤ) - 1076 - 2) * 30103 / 100000 =
    ((k * 30103 + 48966) / 100000 : ℕ) - 325 := by
  omega

/-- The estimate of the position of the point is not too high, and at most four too low, whatever
the number of bits. -/
lemma estimate_bounds : ∀ k < 2101,
    10 ^ ((k * 30103 + 48966) / 100000) * 2 ^ 1076 ≤ 2 ^ k * 10 ^ 326 ∧
      2 ^ (k + 1) * 10 ^ 321 ≤ 10 ^ ((k * 30103 + 48966) / 100000) * 2 ^ 1076 := by
  -- A test on a list is evaluated in one pass, which a bounded quantifier is not.
  have htest : (List.range 2101).all (fun k =>
      decide (10 ^ ((k * 30103 + 48966) / 100000) * 2 ^ 1076 ≤ 2 ^ k * 10 ^ 326) &&
        decide (2 ^ (k + 1) * 10 ^ 321 ≤
          10 ^ ((k * 30103 + 48966) / 100000) * 2 ^ 1076)) = true := by
    decide +kernel
  intro k hk
  have hboth := List.all_eq_true.mp htest k (List.mem_range.mpr hk)
  rw [Bool.and_eq_true, decide_eq_true_iff, decide_eq_true_iff] at hboth
  exact hboth

/-- The first digit stands where the number has one, or further behind. -/
lemma zpow_point_le (h : 0 < x.significand) :
    (10 : ℚ) ^ (x.roundingInterval.point - 1) * x.roundingInterval.den ≤
      x.roundingInterval.value := by
  refine zpow_climb_le ?_
  have hvalue : 2 ^ x.roundingInterval.value.log2 ≤ x.roundingInterval.value := by
    refine Nat.log2_self_le ?_
    have hpos : 0 < 4 * x.significand * 2 ^ x.scale := by positivity
    exact hpos.ne'
  have hestimate := (estimate_bounds _ (log2_value_lt h)).1
  have hle := hestimate.trans (Nat.mul_le_mul_right _ hvalue)
  rw [den_eq, Nat.log2_two_pow (n := 1076), Nat.cast_ofNat, estimate_eq]
  generalize (x.roundingInterval.value.log2 * 30103 + 48966) / 100000 = estimate at *
  have hpower : ((10 ^ 326 : ℕ) : ℚ) * (10 : ℚ) ^ ((estimate : ℤ) - 325 - 1) =
      (10 ^ estimate : ℕ) := by
    rw [pow_mul_zpow (k := 326) (q := estimate) (by omega), Nat.cast_pow, Nat.cast_ofNat,
      zpow_natCast]
  have hpos (m : ℕ) : 0 < 10 ^ m := Nat.pow_pos (by decide)
  replace hpos := hpos 326
  generalize (2 : ℕ) ^ 1076 = den at *
  generalize 10 ^ 326 = ten at *
  refine le_of_mul_le_mul_left ?_ (Nat.cast_pos.mpr hpos : (0 : ℚ) < ten)
  rw [← mul_assoc, hpower, mul_comm (ten : ℚ)]
  exact_mod_cast hle

/-- The first digit stands where the number has one, or further in front. -/
lemma lt_zpow_point (h : 0 < x.significand) :
    (x.roundingInterval.value : ℚ) <
      (10 : ℚ) ^ x.roundingInterval.point * x.roundingInterval.den := by
  refine lt_zpow_climb ?_
  have hvalue : x.roundingInterval.value < 2 ^ (x.roundingInterval.value.log2 + 1) :=
    Nat.lt_log2_self
  have hlt := (Nat.mul_lt_mul_of_pos_right hvalue (Nat.pow_pos (by decide))).trans_le
    (estimate_bounds _ (log2_value_lt h)).2
  rw [den_eq, Nat.log2_two_pow (n := 1076), Nat.cast_ofNat, estimate_eq]
  generalize (x.roundingInterval.value.log2 * 30103 + 48966) / 100000 = estimate at *
  have hpower : ((10 ^ 321 : ℕ) : ℚ) * (10 : ℚ) ^ ((estimate : ℤ) - 325 + (4 : ℕ)) =
      (10 ^ estimate : ℕ) := by
    rw [pow_mul_zpow (k := 321) (q := estimate) (by omega), Nat.cast_pow, Nat.cast_ofNat,
      zpow_natCast]
  generalize (2 : ℕ) ^ 1076 = den at *
  generalize 10 ^ 321 = ten at *
  refine lt_of_mul_lt_mul_left ?_ (Nat.cast_nonneg ten : (0 : ℚ) ≤ ten)
  rw [← mul_assoc, hpower, mul_comm (ten : ℚ)]
  exact_mod_cast hlt

/-- Seventeen digits are enough. -/
lemma grid_lt_width (h : 0 < x.significand) :
    (10 : ℚ) ^ (x.roundingInterval.point - (17 : ℕ)) * x.roundingInterval.den <
      x.roundingInterval.upper - x.roundingInterval.lower := by
  have hpoint := zpow_point_le h
  have hgrid (p : ℤ) : (10 : ℚ) ^ (p - 1) = 10 ^ 16 * (10 : ℚ) ^ (p - (17 : ℕ)) := by
    rw [← zpow_natCast, ← zpow_add₀ (by norm_num)]
    congr 1
    push_cast
    ring
  have hvalue : x.roundingInterval.value = 4 * x.significand * 2 ^ x.scale := rfl
  have hunit : (0 : ℚ) < 2 ^ x.scale := by positivity
  rw [hgrid, hvalue, mul_assoc] at hpoint
  rw [upper_eq, lower_eq, lt_sub_iff_add_lt]
  generalize (10 : ℚ) ^ (x.roundingInterval.point - (17 : ℕ)) * x.roundingInterval.den = grid at *
  have hlt := x.significand_lt
  split
  · -- The number below is near, but the significand is small.
    rename_i hleast
    rw [hleast.1] at hpoint ⊢
    push_cast at hpoint ⊢
    linarith
  · have hle : (x.significand : ℚ) * 2 ^ x.scale ≤ 2 ^ 53 * 2 ^ x.scale := by
      refine mul_le_mul_of_nonneg_right ?_ hunit.le
      exact_mod_cast hlt.le
    have hsub : ((4 * x.significand - 2 : ℕ) : ℚ) = 4 * x.significand - 2 := by
      rw [Nat.cast_sub (by omega)]
      push_cast
      rfl
    push_cast at hpoint ⊢
    rw [hsub]
    linarith

/-- A number that is not zero lies inside its interval. -/
lemma isProper (h : 0 < x.significand) : x.roundingInterval.IsProper := by
  have hunit := Nat.two_pow_pos x.scale
  refine ⟨?_, ?_, ?_⟩
  · rw [lower_eq]
    exact Nat.mul_lt_mul_of_pos_right (by split <;> omega) hunit
  · exact Nat.mul_lt_mul_of_pos_right (by omega) hunit
  · rw [den_eq]
    exact Nat.two_pow_pos 1076

/-- The shortest decimal lies on the first grid with a point in the interval. -/
lemma exists_grid_of_shortest (h : x.isZero = false) : ∃ c, ∃ n : ℕ,
    x.shortest = .ofSteps c (x.roundingInterval.point - n) ∧ 1 ≤ n ∧
      x.roundingInterval.onGrid? x.roundingInterval.point n = some c ∧
      ∀ m, 1 ≤ m → m < n → x.roundingInterval.onGrid? x.roundingInterval.point m = none := by
  have hpos := significand_pos h
  have hlast : ∃ k < 17, ∃ c,
      x.roundingInterval.onGrid? x.roundingInterval.point (1 + k) = some c :=
    ⟨16, by decide, exists_onGrid? (isProper hpos) (grid_lt_width hpos)⟩
  obtain ⟨c, n, hsearch, hsome, hle, hnone⟩ := exists_of_search hlast
  refine ⟨c, n, ?_, hle, hsome, hnone⟩
  unfold shortest
  dsimp only
  rw [hsearch]

/-- The shortest decimal of a number rounds to it. -/
theorem has_shortest (h : x.isZero = false) :
    x.roundingInterval.Has x.shortest.value := by
  obtain ⟨c, n, hshortest, -, hsome, -⟩ := exists_grid_of_shortest h
  rw [hshortest, Decimal.value_ofSteps]
  exact has_of_onGrid? hsome

end Binary64

end ConfigCheck
