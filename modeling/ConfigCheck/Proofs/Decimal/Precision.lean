import ConfigCheck.Proofs.Decimal.Minimal
import ConfigCheck.Proofs.Decimal.Rounding

/-!
# Decimals of fifteen digits

Decimals with at most fifteen digits are farther apart than the interval of a number is wide, unless
the number is so small that its significand has fewer bits.  So at most one of them rounds to a
number, and this one is the shortest (`Binary64.isShortest_of_length_le`).
-/

namespace ConfigCheck

namespace Decimal

variable {d e : Decimal}

/-- A normal decimal with a lower value does not have a higher point. -/
lemma IsNormal.point_le (hd : d.IsNormal) (he : e.IsNormal) (h : d.value ≤ e.value) :
    d.point ≤ e.point := by
  have hlt : (10 : ℚ) ^ (d.point - 1) < 10 ^ e.point :=
    hd.value_bounds.1.trans_lt (h.trans_lt he.value_bounds.2)
  have hpoint := (zpow_lt_zpow_iff_right₀ (by norm_num)).mp hlt
  omega

/-- Different decimals with few digits are some steps apart. -/
lemma IsNormal.add_le_of_lt {n : ℕ} (hd : d.IsNormal) (he : e.IsNormal)
    (hlength : d.digits.length ≤ n) (hlength' : e.digits.length ≤ n) (h : d.value < e.value) :
    d.value + (10 : ℚ) ^ (d.point - n) ≤ e.value := by
  have hpoint := hd.point_le he h.le
  have hunit : (0 : ℚ) < 10 ^ (d.point - n) := by positivity
  obtain ⟨k, hk⟩ := d.exists_value_eq (p := d.point - n) (by omega)
  obtain ⟨l, hl⟩ := e.exists_value_eq (p := d.point - n) (by omega)
  rw [hk, hl] at h ⊢
  have hlt : k + 1 ≤ l := by exact_mod_cast (mul_lt_mul_iff_left₀ hunit).mp h
  have hle := mul_le_mul_of_nonneg_right (Nat.cast_le (α := ℚ).mpr hlt) hunit.le
  push_cast at hle
  linarith

/-- A normal decimal that does not end in zero has the fewest digits for its value. -/
lemma IsNormal.eq_of_length_le (hd : d.IsNormal) (he : e.IsNormal)
    (hlast : d.digits.getLast? ≠ some '0') (hlength : e.digits.length ≤ d.digits.length)
    (hvalue : d.value = e.value) : e = d := by
  rcases hlength.eq_or_lt with heq | hlt
  · exact he.eq_of_value_eq hd heq hvalue.symm
  -- With more digits for the same value it ends in zero.
  · have hpoint : d.point = e.point :=
      le_antisymm (hd.point_le he hvalue.le) (he.point_le hd hvalue.ge)
    obtain ⟨k, hk⟩ := Nat.exists_eq_add_of_lt hlt
    have hunit : (10 : ℚ) ^ (d.point - d.digits.length) ≠ 0 := by positivity
    have hexponent : d.point - d.digits.length + (k + 1 : ℕ) = e.point - e.digits.length := by
      omega
    have hsteps : d.steps = 10 ^ (k + 1) * e.steps := by
      have hcast : (d.steps : ℚ) * 10 ^ (d.point - d.digits.length) =
          (10 ^ (k + 1) * e.steps : ℕ) * 10 ^ (d.point - d.digits.length) := by
        rw [Nat.cast_mul, mul_right_comm, pow_mul_zpow hexponent, mul_comm _ (e.steps : ℚ)]
        exact hvalue
      exact_mod_cast (mul_left_inj' hunit).mp hcast
    obtain ⟨ds, c, hdigits⟩ := d.digits.eq_nil_or_concat'.resolve_left hd.digits_ne_nil
    have hc : c.isDigit = true := hd.isDigit_digits c (by rw [hdigits]; simp)
    have hdvd : 10 ∣ d.steps := ⟨10 ^ k * e.steps, by rw [hsteps]; ring⟩
    have hzero : c = '0' := by
      have hcount := Json.digitValue_lt hc
      unfold steps at hdvd
      rw [hdigits, ofDigitChars_concat] at hdvd
      refine Json.eq_of_digitValue_eq hc rfl ?_
      change _ = 0
      omega
    rw [hdigits, hzero] at hlast
    simp at hlast

end Decimal

namespace Binary64

open RoundingInterval

variable {x : Binary64} {d e : Decimal} {q r : ℚ}

/-- The interval of a number with a full significand is narrow, compared to what lies in it. -/
lemma sub_lt_of_has (h : 2 ^ 52 ≤ x.significand) (hq : x.roundingInterval.Has q)
    (hr : x.roundingInterval.Has r) :
    10 ^ 15 * (r * x.roundingInterval.den - q * x.roundingInterval.den) <
      q * x.roundingInterval.den := by
  have hunit : (0 : ℚ) < 2 ^ x.scale := by positivity
  have hwidth := upper_sub_lower_le (x := x) (by omega)
  have hlower : (2 ^ 54 - 2) * 2 ^ x.scale ≤ (x.roundingInterval.lower : ℚ) := by
    have hle : (2 ^ 54 - 2) * 2 ^ x.scale ≤ x.roundingInterval.lower := by
      rw [lower_eq]
      refine Nat.mul_le_mul_right _ ?_
      split <;> omega
    have hcast : (((2 ^ 54 - 2) * 2 ^ x.scale : ℕ) : ℚ) = (2 ^ 54 - 2) * 2 ^ x.scale := by
      push_cast
      norm_num
    exact hcast ▸ Nat.cast_le.mpr hle
  have hbelow := hq.bounds.1
  have habove := hr.bounds.2
  linarith

/-- Normal decimals with at most fifteen digits that round to a number with a full significand have
the same value. -/
lemma value_le_of_has (h : 2 ^ 52 ≤ x.significand) (hd : d.IsNormal) (he : e.IsNormal)
    (hlength : d.digits.length ≤ 15) (hlength' : e.digits.length ≤ 15)
    (hhas : x.roundingInterval.Has d.value) (hhas' : x.roundingInterval.Has e.value) :
    e.value ≤ d.value := by
  by_contra hlt
  have hden : (0 : ℚ) < x.roundingInterval.den := Nat.cast_pos.mpr (isProper (by omega)).den_pos
  have hnarrow := sub_lt_of_has h hhas hhas'
  have hapart := hd.add_le_of_lt he hlength hlength' (not_le.mp hlt)
  have habove := hd.value_bounds.2
  have hpower : ((10 ^ 15 : ℕ) : ℚ) * (10 : ℚ) ^ (d.point - (15 : ℕ)) = 10 ^ d.point :=
    pow_mul_zpow (by omega)
  rw [← sub_mul, ← mul_assoc] at hnarrow
  have hsmall := lt_of_mul_lt_mul_right hnarrow hden.le
  rw [← hpower] at habove
  push_cast at habove hapart
  linarith

/-- A decimal with at most fifteen digits that does not end in zero is the shortest one of the
number that it rounds to, if the significand of the number is full. -/
theorem isShortest_of_length_le (h : 2 ^ 52 ≤ x.significand) (hd : d.IsNormal)
    (hlast : d.digits.getLast? ≠ some '0') (hlength : d.digits.length ≤ 15)
    (hhas : x.roundingInterval.Has d.value) : x.IsShortest d := by
  refine ⟨hd, hhas, fun e he hhas' hne => ?_⟩
  rcases Nat.lt_or_ge d.digits.length e.digits.length with hlt | hge
  · exact .shorter hlt
  · have hlength' := hge.trans hlength
    have hvalue := le_antisymm (value_le_of_has h he hd hlength' hlength hhas' hhas)
      (value_le_of_has h hd he hlength hlength' hhas hhas')
    exact absurd (hd.eq_of_length_le he hlast hge hvalue) hne

/-! ## Numbers for decimals -/

/-- The steps of a quotient that is neither too large nor too small are rounded to a significand
that is full, and not to an infinity. -/
lemma full_of_bounds {steps s : ℕ} (hq : q * x.roundingInterval.den = 4 * r * 2 ^ s)
    (hnearest : IsNearest r steps) (hlow : 0 < s → 2 ^ 52 ≤ r) (hhigh : r < 2 ^ 53)
    (hmin : (10 : ℚ) ^ (-307 : ℤ) ≤ q) (hmax : q < 10 ^ (308 : ℤ)) :
    2 ^ 52 ≤ r ∧ s * 2 ^ 52 + steps < 2047 * 2 ^ 52 := by
  obtain ⟨top, htop⟩ : ∃ top, top = 2045 := ⟨_, rfl⟩
  have hsmall : 2 ^ 54 * 10 ^ 307 ≤ 2 ^ 1076 := by decide +kernel
  have hlarge : 10 ^ 308 * 2 ^ 1076 + 2 * 2 ^ top ≤ 2 ^ 55 * 2 ^ top := by
    rw [htop]
    decide +kernel
  have hleast : ((10 ^ 307 : ℕ) : ℚ) * (10 : ℚ) ^ (-307 : ℤ) = 10 ^ (0 : ℤ) :=
    pow_mul_zpow (k := 307) (by decide)
  have hmost : ((10 ^ 308 : ℕ) : ℚ) * (10 : ℚ) ^ (0 : ℤ) = 10 ^ (308 : ℤ) :=
    pow_mul_zpow (k := 308) (by decide)
  rw [← x.den_eq] at hsmall hlarge
  rw [← hmost, zpow_zero, mul_one] at hmax
  have hden : (0 : ℚ) < x.roundingInterval.den := by
    rw [x.den_eq]
    exact Nat.cast_pos.mpr (Nat.two_pow_pos 1076)
  generalize x.roundingInterval.den = den at *
  generalize 10 ^ 308 = most at *
  generalize 10 ^ 307 = ten at *
  constructor
  · rcases Nat.eq_zero_or_pos s with hs | hs
    · have hcast : (2 ^ 54 * ten : ℚ) ≤ den := by exact_mod_cast hsmall
      have hunit : (0 : ℚ) < 10 ^ (-307 : ℤ) := by positivity
      have hmul := mul_le_mul_of_nonneg_left hcast hunit.le
      have hmul' := mul_le_mul_of_nonneg_right hmin hden.le
      rw [zpow_zero] at hleast
      rw [hs, pow_zero, mul_one] at hq
      linarith
    · exact hlow hs
  · by_contra hover
    have hle := le_of_overflow htop hnearest hlow hhigh (not_lt.mp hover)
    have hcast : (most * den + 2 * 2 ^ top : ℚ) ≤ 2 ^ 55 * 2 ^ top := by exact_mod_cast hlarge
    have hmul := mul_lt_mul_of_pos_right hmax hden
    linarith

/-- A decimal that is neither too large nor too small rounds to a number of either sign, and the
significand of the number is full. -/
lemma exists_of_bounds (negative : Bool) (d : Decimal) (hmin : (10 : ℚ) ^ (-307 : ℤ) ≤ d.value)
    (hmax : d.value < 10 ^ (308 : ℤ)) : ∃ x : Binary64, x.isFinite = true ∧
      x.negative = negative ∧ 2 ^ 52 ≤ x.significand ∧ x.roundingInterval.Has d.value := by
  obtain ⟨num, den, hden, hvalue⟩ : ∃ num den : ℕ, 0 < den ∧ (num / den : ℚ) = d.value := by
    refine ⟨d.steps * 10 ^ (d.point - d.digits.length).toNat,
      10 ^ (-(d.point - d.digits.length)).toNat, by positivity, ?_⟩
    rw [Nat.cast_mul, mul_div_assoc, ← ten_zpow]
    rfl
  have hnum : 0 < num := by
    refine Nat.pos_of_ne_zero fun hzero => ?_
    have hpos : (0 : ℚ) < 10 ^ (-307 : ℤ) := by positivity
    rw [hzero, Nat.cast_zero, zero_div] at hvalue
    linarith
  obtain ⟨r, steps, s, hq, hnearest, hlow, hhigh, hnonneg, -⟩ :=
    exists_steps (zero negative) negative hnum hden
  rw [hvalue] at hq
  obtain ⟨hfull, hbits⟩ := full_of_bounds hq hnearest hlow hhigh hmin hmax
  have hfields := fields_ofMagnitude negative (m := s * 2 ^ 52 + steps) (by omega)
  refine ⟨ofMagnitude negative (s * 2 ^ 52 + steps), ?_, hfields.1, ?_,
    has_ofMagnitude negative hnearest hlow hhigh hnonneg hbits hq⟩
  · rw [isFinite, hfields.2.1, bne_iff_ne]
    omega
  · have hge := hnearest.ge hfull
    rcases significand_ofMagnitude negative (hnearest.le hhigh) (fun _ => hge) hbits with
      ⟨-, hsignificand, -⟩ | ⟨-, hsignificand, -⟩
    · rw [hsignificand]
      exact hge
    · rw [hsignificand]

/-- Each decimal with at most fifteen digits that does not end in zero, and that is neither too
large nor too small, is the shortest one of a number of either sign. -/
theorem exists_isShortest (negative : Bool) (hd : d.IsNormal)
    (hlast : d.digits.getLast? ≠ some '0') (hlength : d.digits.length ≤ 15)
    (hmin : (10 : ℚ) ^ (-307 : ℤ) ≤ d.value) (hmax : d.value < 10 ^ (308 : ℤ)) :
    ∃ x : Binary64, x.isFinite = true ∧ x.isZero = false ∧ x.negative = negative ∧
      x.IsShortest d := by
  obtain ⟨x, hfinite, hsign, hfull, hhas⟩ := exists_of_bounds negative d hmin hmax
  refine ⟨x, hfinite, ?_, hsign, isShortest_of_length_le hfull hd hlast hlength hhas⟩
  cases hzero : x.isZero with
  | false => rfl
  | true =>
    have hunits := units_eq_zero hzero
    unfold units at hunits
    have hpos := Nat.two_pow_pos x.scale
    rcases Nat.mul_eq_zero.mp hunits with h | h <;> omega

end Binary64

end ConfigCheck
