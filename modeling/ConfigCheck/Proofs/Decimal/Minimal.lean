import ConfigCheck.Proofs.Decimal.Normal

/-!
# Shortest decimals are shortest

Of the decimals that round to a number one comes before all others: it has the fewest digits, with
that many digits it is the nearest one, and of two that are equally near it is the one that ends in
an even digit (`Binary64.IsShortest`).  There is at most one such decimal, and the search finds it
(`Binary64.eq_shortest_iff`): a decimal with a given number of digits is a point of the grid for
that many digits, or a power of ten on the grid is nearer to the number.
-/

namespace ConfigCheck

/-! ## The order of decimals -/

/-- A decimal comes before another one as the text of a number: it has fewer digits, or as many and
is nearer to the number, or is as near and even where the other one is odd. -/
inductive RoundingInterval.Precedes (i : RoundingInterval) (d e : Decimal) : Prop
  /-- It has fewer digits. -/
  | shorter (h : d.digits.length < e.digits.length)
  /-- It has as many digits and is nearer. -/
  | nearer (hlength : d.digits.length = e.digits.length) (h : i.gap d.value < i.gap e.value)
  /-- It has as many digits, is as near, and ends in an even digit. -/
  | even (hlength : d.digits.length = e.digits.length) (hgap : i.gap d.value = i.gap e.value)
      (hd : d.steps % 2 = 0) (he : e.steps % 2 = 1)

/-- A normal decimal rounds to a number and comes before all others that do. -/
structure Binary64.IsShortest (x : Binary64) (d : Decimal) : Prop where
  /-- The decimal is normal. -/
  isNormal : d.IsNormal
  /-- The decimal rounds to the number. -/
  has : x.roundingInterval.Has d.value
  /-- The decimal comes before all others. -/
  precedes : ∀ e : Decimal, e.IsNormal → x.roundingInterval.Has e.value → e ≠ d →
    x.roundingInterval.Precedes d e

namespace RoundingInterval

variable {i : RoundingInterval} {d e : Decimal} {q r : ℚ} {p : ℤ} {n c c' : ℕ}

/-- Of two decimals at most one comes before the other one. -/
lemma Precedes.asymm (h : i.Precedes d e) : ¬ i.Precedes e d := by
  intro h'
  cases h with
  | shorter h =>
    cases h' with
    | shorter h' => exact Nat.lt_asymm h h'
    | nearer hlength => exact h.ne hlength.symm
    | even hlength => exact h.ne hlength.symm
  | nearer hlength h =>
    cases h' with
    | shorter h' => exact h'.ne hlength.symm
    | nearer _ h' => exact lt_asymm h h'
    | even _ hgap => exact h.ne hgap.symm
  | even hlength hgap hd he =>
    cases h' with
    | shorter h' => exact h'.ne hlength.symm
    | nearer _ h' => exact h'.ne hgap.symm
    | even _ _ he' => omega

/-! ## Points of the grid -/

/-- What is nearer to the number from below rounds to it too. -/
lemma Has.of_le (hi : i.IsProper) (h : i.Has q) (hle : q ≤ r) (hr : r * i.den ≤ i.value) :
    i.Has r ∧ (q = r ∨ i.gap r < i.gap q) := by
  have hden : (0 : ℚ) < i.den := Nat.cast_pos.mpr hi.den_pos
  have hupper : (i.value : ℚ) < i.upper := Nat.cast_lt.mpr hi.lt_upper
  have hmul := mul_le_mul_of_nonneg_right hle hden.le
  constructor
  · unfold Has at h ⊢
    split_ifs at h ⊢
    · exact ⟨h.1.trans hmul, by linarith⟩
    · exact ⟨h.1.trans_le hmul, by linarith⟩
  · rcases hle.eq_or_lt with heq | hlt
    · exact .inl heq
    · have hmul' := mul_lt_mul_of_pos_right hlt hden
      right
      rw [gap, gap, abs_of_nonpos (by linarith), abs_of_nonpos (by linarith)]
      linarith

/-- What is nearer to the number from above rounds to it too. -/
lemma Has.of_ge (hi : i.IsProper) (h : i.Has q) (hle : r ≤ q) (hr : i.value ≤ r * i.den) :
    i.Has r ∧ (q = r ∨ i.gap r < i.gap q) := by
  have hden : (0 : ℚ) < i.den := Nat.cast_pos.mpr hi.den_pos
  have hlower : (i.lower : ℚ) < i.value := Nat.cast_lt.mpr hi.lower_lt
  have hmul := mul_le_mul_of_nonneg_right hle hden.le
  constructor
  · unfold Has at h ⊢
    split_ifs at h ⊢
    · exact ⟨by linarith, hmul.trans h.2⟩
    · exact ⟨by linarith, hmul.trans_lt h.2⟩
  · rcases hle.eq_or_lt with heq | hlt
    · exact .inl heq.symm
    · have hmul' := mul_lt_mul_of_pos_right hlt hden
      right
      rw [gap, gap, abs_of_nonneg (by linarith), abs_of_nonneg (by linarith)]
      linarith

/-- If a grid point rounds to the number, so does one of the two around the number that is not
farther. -/
lemma exists_neighbour (hi : i.IsProper) (h : i.Has (c * (10 : ℚ) ^ p)) :
    ∃ near, (near = i.gridBelow p ∨ near = i.gridBelow p + 1) ∧ i.Has (near * (10 : ℚ) ^ p) ∧
      (near = c ∨ i.gap (near * (10 : ℚ) ^ p) < i.gap (c * (10 : ℚ) ^ p)) := by
  obtain ⟨hbefore, hbehind⟩ := gridBelow_bounds hi.den_pos p
  have hunit : (0 : ℚ) < 10 ^ p := by positivity
  have heq {a b : ℕ} (h : (a : ℚ) * 10 ^ p = b * 10 ^ p) : b = a := by
    exact_mod_cast ((mul_left_inj' hunit.ne').mp h).symm
  rcases Nat.lt_or_ge (i.gridBelow p) c with hlt | hge
  · obtain ⟨hhas, hgap⟩ := h.of_ge (r := (i.gridBelow p + 1 : ℕ) * 10 ^ p) hi
      (mul_le_mul_of_nonneg_right (Nat.cast_le.mpr hlt) hunit.le) hbehind.le
    exact ⟨_, .inr rfl, hhas, hgap.imp_left heq⟩
  · obtain ⟨hhas, hgap⟩ := h.of_le (r := i.gridBelow p * 10 ^ p) hi
      (mul_le_mul_of_nonneg_right (Nat.cast_le.mpr hge) hunit.le) hbefore
    exact ⟨_, .inl rfl, hhas, hgap.imp_left heq⟩

/-- Where no grid point is found none rounds to the number. -/
lemma not_has_of_onGrid? (hi : i.IsProper) (h : i.onGrid? p n = none) :
    ¬ i.Has (c * (10 : ℚ) ^ (p - n)) := by
  intro hhas
  obtain ⟨near, hnear, hhas', -⟩ := exists_neighbour hi hhas
  rcases i.onGrid?_cases p n rfl rfl with ⟨-, hlow, hhigh⟩ | ⟨c, d, -, hsome, -⟩
  · rcases hnear with rfl | rfl
    · exact hlow hhas'
    · exact hhigh hhas'
  · rw [h] at hsome
    cases hsome

/-- A grid point that is found is the nearest one that rounds to the number, or of two that are
equally near the even one. -/
lemma gap_of_onGrid? (hi : i.IsProper) (h : i.onGrid? p n = some c)
    (hhas : i.Has (c' * (10 : ℚ) ^ (p - n))) : c' = c ∨
      i.gap (c * (10 : ℚ) ^ (p - n)) < i.gap (c' * (10 : ℚ) ^ (p - n)) ∨
      i.gap (c * (10 : ℚ) ^ (p - n)) = i.gap (c' * (10 : ℚ) ^ (p - n)) ∧ c % 2 = 0 ∧
        (c = i.gridBelow (p - n) ∧ c' = i.gridBelow (p - n) + 1 ∨
          c = i.gridBelow (p - n) + 1 ∧ c' = i.gridBelow (p - n)) := by
  obtain ⟨near, hnear, hhas', hgap⟩ := exists_neighbour hi hhas
  rcases i.onGrid?_cases p n rfl rfl with ⟨hnone, -⟩ | ⟨a, b, hab, hsome, hprefers⟩
  · rw [h] at hnone
    cases hnone
  · rw [h] at hsome
    cases hsome
    have hcases : near = c ∨ near = b := by omega
    rcases hcases with rfl | rfl
    · rcases hgap with rfl | hlt
      · exact .inl rfl
      · exact .inr (.inl hlt)
    · rcases hprefers.gap_lt hhas' with hlt | ⟨heq, heven⟩
      · rcases hgap with rfl | hlt'
        · exact .inr (.inl hlt)
        · exact .inr (.inl (hlt.trans hlt'))
      · rcases hgap with rfl | hlt'
        · exact .inr (.inr ⟨heq, heven, hab⟩)
        · exact .inr (.inl (heq.trans_lt hlt'))

/-- A grid point that is found is one of the two around the number. -/
lemma eq_of_onGrid? (h : i.onGrid? p n = some c) :
    c = i.gridBelow (p - n) ∨ c = i.gridBelow (p - n) + 1 := by
  rcases i.onGrid?_cases p n rfl rfl with ⟨hnone, -⟩ | ⟨a, b, hab, hsome, -⟩
  · rw [h] at hnone
    cases hnone
  · rw [h] at hsome
    cases hsome
    exact hab.imp And.left And.left

/-- Half way between nine steps and ten. -/
lemma two_mul_value_of_tie (hi : i.IsProper)
    (h : i.gap ((10 : ℕ) * (10 : ℚ) ^ p) = i.gap ((9 : ℕ) * (10 : ℚ) ^ p)) :
    2 * (i.value : ℚ) = 19 * (10 ^ p * i.den) := by
  have hden : (0 : ℚ) < i.den := Nat.cast_pos.mpr hi.den_pos
  have hstep : (0 : ℚ) < 10 ^ p * i.den := by positivity
  unfold gap at h
  push_cast at h
  rcases abs_eq_abs.mp h with hsame | hsum
  · linarith
  · linarith

end RoundingInterval

namespace Binary64

open RoundingInterval

variable {x : Binary64} {d e : Decimal} {p : ℤ} {n k : ℕ}

/-! ## Ties -/

/-- The interval of a number is no wider than four steps of its scale. -/
lemma upper_sub_lower_le (h : 0 < x.significand) :
    (x.roundingInterval.upper : ℚ) - x.roundingInterval.lower ≤ 4 * 2 ^ x.scale := by
  have hle : x.roundingInterval.upper ≤ x.roundingInterval.lower + 4 * 2 ^ x.scale := by
    rw [upper_eq, lower_eq, ← Nat.add_mul]
    refine Nat.mul_le_mul_right _ ?_
    split <;> omega
  rw [sub_le_iff_le_add']
  exact_mod_cast hle

/-- Nineteen times a power of ten is not eight times a digit, counted in a small power of two. -/
lemma eight_mul_ne {m a b k : ℕ} (hm : m ≤ 9) (hk : 10 ≤ k) (hab : a = 0 ∨ b = 0) :
    8 * m * 10 ^ b ≠ 19 * (10 ^ a * 2 ^ k) := by
  intro h
  cases b with
  | zero =>
    have hpow : 2 ^ 10 ≤ 2 ^ k := Nat.pow_le_pow_right (by decide) hk
    have hten : 2 ^ k ≤ 10 ^ a * 2 ^ k := Nat.le_mul_of_pos_left _ (Nat.pow_pos (by decide))
    rw [pow_zero, mul_one] at h
    omega
  | succ b =>
    obtain rfl : a = 0 := hab.resolve_right (Nat.succ_ne_zero b)
    have hdvd : 5 ∣ 19 * (10 ^ 0 * 2 ^ k) := h ▸ ⟨8 * m * 10 ^ b * 2, by ring⟩
    rw [pow_zero, one_mul] at hdvd
    have hpow : 5 ∣ 2 ^ k := Nat.Coprime.dvd_of_dvd_mul_left (by decide) hdvd
    have hcoprime : Nat.Coprime 5 (2 ^ k) := Nat.Coprime.pow_right k (by decide)
    exact absurd (hcoprime.eq_one_of_dvd hpow) (by decide)

/-- No number lies half way between the largest digit on a grid and the next power of ten, with
both in its interval. -/
lemma not_tie (h : 0 < x.significand)
    (hnine : x.roundingInterval.Has ((9 : ℕ) * (10 : ℚ) ^ p))
    (hten : x.roundingInterval.Has ((10 : ℕ) * (10 : ℚ) ^ p)) :
    x.roundingInterval.gap ((10 : ℕ) * (10 : ℚ) ^ p) ≠
      x.roundingInterval.gap ((9 : ℕ) * (10 : ℚ) ^ p) := by
  intro htie
  have hvalue := two_mul_value_of_tie (isProper h) htie
  -- The significand is small, so the scale is the lowest one.
  have hunit : (0 : ℚ) < 2 ^ x.scale := by positivity
  have hnumerator : (x.roundingInterval.value : ℚ) = 4 * x.significand * 2 ^ x.scale := by
    have heq : x.roundingInterval.value = 4 * x.significand * 2 ^ x.scale := rfl
    rw [heq]
    push_cast
    rfl
  have hwidth := upper_sub_lower_le h
  have hlower := hnine.bounds.1
  have hupper := hten.bounds.2
  push_cast at hlower hupper
  have hsmall : x.significand ≤ 9 := by
    by_contra hlarge
    have hge : (10 : ℚ) ≤ x.significand := by exact_mod_cast not_le.mp hlarge
    have hmul := mul_le_mul_of_nonneg_right hge hunit.le
    linarith
  have hscale : x.scale = 0 := by
    by_contra hscale
    have hle := le_significand (Nat.pos_of_ne_zero hscale)
    omega
  -- So the number is too small for a grid of whole numbers, and other grids have multiples of five.
  obtain ⟨k, hk⟩ : ∃ k, k = 1076 := ⟨_, rfl⟩
  rw [hnumerator, hscale, den_eq, ← hk, ten_zpow, pow_zero, mul_one, div_mul_eq_mul_div,
    mul_div_assoc', eq_div_iff (by positivity)] at hvalue
  refine eight_mul_ne (a := p.toNat) (b := (-p).toNat) hsmall (by omega : 10 ≤ k) (by omega) ?_
  have hnat : 2 * (4 * x.significand) * 10 ^ (-p).toNat = 19 * (10 ^ p.toNat * 2 ^ k) := by
    exact_mod_cast hvalue
  linarith

/-! ## The first grid with a point -/

/-- A normal decimal that rounds to a number is a point of the grid with as many digits, or a power
of ten on this grid is nearer to the number. -/
lemma exists_gridPoint (h : 0 < x.significand) (he : e.IsNormal)
    (hhas : x.roundingInterval.Has e.value) : ∃ c : ℕ,
      x.roundingInterval.Has
        (c * (10 : ℚ) ^ (x.roundingInterval.point - e.digits.length)) ∧
      (c * (10 : ℚ) ^ (x.roundingInterval.point - e.digits.length) = e.value ∨
        x.roundingInterval.gap (c * (10 : ℚ) ^ (x.roundingInterval.point - e.digits.length)) <
          x.roundingInterval.gap e.value) := by
  have hi := isProper h
  generalize hp : x.roundingInterval.point = p
  have hlow := hp ▸ zpow_point_le h
  obtain ⟨-, hlt⟩ := he.value_bounds
  rcases le_or_gt p e.point with hle | hgt
  · obtain ⟨c, hvalue⟩ := e.exists_value_eq (p := p - e.digits.length) (by omega)
    refine ⟨c, ?_⟩
    rw [← hvalue]
    exact ⟨hhas, .inl rfl⟩
  · refine ⟨10 ^ (e.digits.length - 1), ?_⟩
    have hpoint : (p - e.digits.length) + (e.digits.length - 1 : ℕ) = p - 1 := by
      have := he.length_pos
      omega
    have hbelow : e.value < (10 : ℚ) ^ (p - 1) := by
      refine hlt.trans_le ?_
      exact zpow_le_zpow_right₀ (by norm_num) (by omega)
    rw [pow_mul_zpow hpoint]
    obtain ⟨hhas', hgap⟩ := hhas.of_le hi hbelow.le hlow
    exact ⟨hhas', .inr (hgap.resolve_left hbelow.ne)⟩

/-- Where no grid point is found no normal decimal has that many digits. -/
lemma le_length (h : 0 < x.significand) (he : e.IsNormal) (hhas : x.roundingInterval.Has e.value)
    (hnone : ∀ m, 1 ≤ m → m < n →
      x.roundingInterval.onGrid? x.roundingInterval.point m = none) : n ≤ e.digits.length := by
  by_contra hlt
  obtain ⟨c, hhas', -⟩ := exists_gridPoint h he hhas
  exact not_has_of_onGrid? (isProper h) (hnone _ he.length_pos (not_le.mp hlt)) hhas'

/-- The grid point before the number has as many digits as the grid is for. -/
lemma gridBelow_point (h : 0 < x.significand) (hn : 0 < n) :
    10 ^ (n - 1) ≤ x.roundingInterval.gridBelow (x.roundingInterval.point - n) ∧
      x.roundingInterval.gridBelow (x.roundingInterval.point - n) < 10 ^ n := by
  have hden : (0 : ℚ) < x.roundingInterval.den := Nat.cast_pos.mpr (isProper h).den_pos
  have hlow := zpow_point_le h
  have hhigh := lt_zpow_point h
  obtain ⟨hbefore, hbehind⟩ :=
    gridBelow_bounds (isProper h).den_pos (x.roundingInterval.point - n)
  generalize x.roundingInterval.point = p at *
  have hunit : (0 : ℚ) < 10 ^ (p - n) := by positivity
  have hbelow : p - n + (n - 1 : ℕ) = p - 1 := by omega
  have habove : p - n + (n : ℕ) = p := by omega
  rw [← pow_mul_zpow hbelow] at hlow
  rw [← pow_mul_zpow habove] at hhigh
  constructor
  · have hlt := lt_of_mul_lt_mul_right (hlow.trans_lt hbehind) hden.le
    have hlt' := lt_of_mul_lt_mul_right hlt hunit.le
    exact Nat.lt_succ_iff.mp (by exact_mod_cast hlt')
  · have hlt := lt_of_mul_lt_mul_right (hbefore.trans_lt hhigh) hden.le
    have hlt' := lt_of_mul_lt_mul_right hlt hunit.le
    exact_mod_cast hlt'

/-- A power of ten beyond the number is found on the grid for one digit. -/
lemma eq_one_of_onGrid? (h : 0 < x.significand) (hn : 1 ≤ n)
    (hnone : ∀ m, 1 ≤ m → m < n → x.roundingInterval.onGrid? x.roundingInterval.point m = none)
    (hsome : x.roundingInterval.onGrid? x.roundingInterval.point n = some (10 ^ n)) : n = 1 := by
  rcases hn.eq_or_lt with heq | hlt
  · exact heq.symm
  · have hhas := has_of_onGrid? hsome
    rw [pow_mul_zpow (sub_add_cancel _ _), ← pow_mul_zpow (k := 1) (sub_add_cancel _ _)] at hhas
    exact absurd hhas (not_has_of_onGrid? (isProper h) (hnone 1 le_rfl hlt))

/-- The shortest decimal has as many digits as the first grid with a point in the interval is
for. -/
lemma length_shortest (hzero : x.isZero = false) (hn : 1 ≤ n)
    (hshortest : x.shortest = .ofSteps k (x.roundingInterval.point - n))
    (hsome : x.roundingInterval.onGrid? x.roundingInterval.point n = some k)
    (hnone : ∀ m, 1 ≤ m → m < n →
      x.roundingInterval.onGrid? x.roundingInterval.point m = none) :
    x.shortest.digits.length = n := by
  have hpos := significand_pos hzero
  obtain ⟨-, hlow⟩ := gridBelow_point hpos hn
  refine le_antisymm ?_ (le_length hpos (isNormal_shortest hzero) (has_shortest hzero) hnone)
  obtain ⟨zeros, hzeros⟩ := exists_zeros (Nat.toDigits 10 k)
  have hlength : x.shortest.digits.length ≤ (Nat.toDigits 10 k).length := by
    rw [hshortest, hzeros, List.length_append]
    exact Nat.le_add_right _ _
  rcases Nat.lt_or_ge k (10 ^ n) with hlt | hge
  · exact hlength.trans ((Nat.length_toDigits_le_iff (by decide) hn).mpr hlt)
  · have hk : k = 10 ^ n := by
      rcases eq_of_onGrid? hsome with rfl | rfl <;> omega
    obtain rfl := eq_one_of_onGrid? hpos hn hnone (hk ▸ hsome)
    rw [hshortest, hk]
    exact le_rfl

/-- The shortest decimal of a number comes before all others that round to it. -/
theorem isShortest_shortest (hzero : x.isZero = false) : x.IsShortest x.shortest := by
  have hpos := significand_pos hzero
  have hi := isProper hpos
  have hnormal := isNormal_shortest hzero
  have hhas := has_shortest hzero
  refine ⟨hnormal, hhas, fun e he hhas' hne => ?_⟩
  obtain ⟨k, n, hshortest, hn, hsome, hnone⟩ := exists_grid_of_shortest hzero
  have hlength := length_shortest hzero hn hshortest hsome hnone
  have hvalue : x.shortest.value = k * (10 : ℚ) ^ (x.roundingInterval.point - n) := by
    rw [hshortest, Decimal.value_ofSteps]
  rcases (le_length hpos he hhas' hnone).lt_or_eq with hlt | heq
  · exact .shorter (hlength.trans_lt hlt)
  have hlength' : x.shortest.digits.length = e.digits.length := hlength.trans heq
  obtain ⟨c, hc, hgap⟩ := exists_gridPoint hpos he hhas'
  rw [← heq] at hc hgap
  rcases gap_of_onGrid? hi hsome hc with rfl | hlt | ⟨htie, heven, hneighbours⟩
  · rcases hgap with hsame | hlt
    · exact absurd (he.eq_of_value_eq hnormal hlength'.symm (hsame.symm.trans hvalue.symm)) hne
    · exact .nearer hlength' (hvalue ▸ hlt)
  · refine .nearer hlength' (hvalue ▸ hlt.trans_le ?_)
    rcases hgap with hsame | hlt
    · rw [hsame]
    · exact hlt.le
  · rcases hgap with hsame | hlt
    swap
    · exact .nearer hlength' (hvalue ▸ htie.trans_lt hlt)
    -- Both are points of the grid, with the number half way between them.
    obtain ⟨hlow, hhigh⟩ := gridBelow_point hpos hn
    have hten : 10 ^ n % 2 = 0 := by
      obtain ⟨m, rfl⟩ := Nat.exists_eq_add_of_le' hn
      rw [Nat.pow_succ]
      omega
    have hk : k < 10 ^ n := by
      by_contra hge
      have hpower : k = 10 ^ n := by omega
      obtain rfl := eq_one_of_onGrid? hpos hn hnone (hpower ▸ hsome)
      have hnine : c = 9 := by omega
      have hten : k = 10 := hpower
      rw [hnine, hten] at htie
      exact not_tie hpos (hnine ▸ hc) (hten ▸ has_of_onGrid? hsome) htie
    have hc' : c < 10 ^ n := by omega
    have hsteps := (hnormal.eq_of_value_eq_grid hlength hvalue (by omega) hk).2
    have hsteps' := (he.eq_of_value_eq_grid heq.symm hsame.symm (by omega) hc').2
    refine .even hlength' ?_ (by omega) (by omega)
    rw [hvalue, htie, hsame]

/-- The shortest decimal is the only one that comes before all others. -/
theorem eq_shortest_iff (hzero : x.isZero = false) : d = x.shortest ↔ x.IsShortest d := by
  have hshortest := isShortest_shortest hzero
  constructor
  · rintro rfl
    exact hshortest
  · intro h
    by_contra hne
    exact (h.precedes _ hshortest.isNormal hshortest.has (Ne.symm hne)).asymm
      (hshortest.precedes _ h.isNormal h.has hne)

end Binary64

end ConfigCheck
