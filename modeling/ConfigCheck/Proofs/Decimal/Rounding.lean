import ConfigCheck.Proofs.Decimal.Shortest

/-!
# Rounding to the nearest number

A quotient is rounded to the binary number whose interval holds it (`Binary64.ofRatio_of_has`), and
so is a decimal (`Binary64.ofDecimal_of_has`).  A quotient is first counted in steps of a scale
(`Binary64.exists_steps`); what is nearest to a whole number of steps rounds to the number with
these bits (`Binary64.has_ofMagnitude`), and nothing rounds to two numbers.
-/

namespace ConfigCheck

namespace Binary64

variable {x y : Binary64} {q r : ℚ} {num den steps s : ℕ} {negative : Bool}

/-! ## Whole numbers of steps -/

/-- A whole number that is nearest to a number; of two such numbers it is the even one. -/
structure IsNearest (r : ℚ) (steps : ℕ) : Prop where
  /-- It is at most one half above. -/
  lower : (steps : ℚ) - 1 / 2 ≤ r
  /-- It is at most one half below. -/
  upper : r ≤ steps + 1 / 2
  /-- At a distance of one half it is even. -/
  even : r = steps - 1 / 2 ∨ r = steps + 1 / 2 → steps % 2 = 0

/-- Rounding does not pass a power of two. -/
lemma IsNearest.le (h : IsNearest r steps) (hr : r < 2 ^ 53) : steps ≤ 2 ^ 53 := by
  have hlt : (steps : ℚ) < 2 ^ 53 + 1 := by linarith [h.lower]
  exact Nat.lt_succ_iff.mp (by exact_mod_cast hlt)

/-- Rounding does not fall behind a power of two. -/
lemma IsNearest.ge (h : IsNearest r steps) (hr : 2 ^ 52 ≤ r) : 2 ^ 52 ≤ steps := by
  have hlt : (2 : ℚ) ^ 52 < steps + 1 := by linarith [h.upper]
  exact Nat.lt_succ_iff.mp (by exact_mod_cast hlt)

/-- A quotient is rounded to a nearest whole number. -/
lemma isNearest_roundDiv (num : ℕ) (hden : 0 < den) : IsNearest (num / den) (roundDiv num den) := by
  have hpos : (0 : ℚ) < den := Nat.cast_pos.mpr hden
  have hvalue : (num / den : ℚ) = (num / den : ℕ) + (num % den : ℕ) / den := by
    have hdiv : (num : ℚ) = den * (num / den : ℕ) + (num % den : ℕ) := by
      exact_mod_cast (Nat.div_add_mod num den).symm
    rw [div_eq_iff hpos.ne', add_mul, div_mul_cancel₀ _ hpos.ne', mul_comm]
    exact hdiv
  have hnonneg : (0 : ℚ) ≤ (num % den : ℕ) / den := by positivity
  have hone : ((num % den : ℕ) : ℚ) / den < 1 :=
    (div_lt_one hpos).mpr (Nat.cast_lt.mpr (Nat.mod_lt _ hden))
  have hnext : ((num / den + 1 : ℕ) : ℚ) = (num / den : ℕ) + 1 := Nat.cast_add_one _
  unfold roundDiv
  dsimp only
  rw [hvalue]
  split
  · rename_i hlow
    have hhalf : ((num % den : ℕ) : ℚ) / den < 1 / 2 := by
      have hcast : 2 * ((num % den : ℕ) : ℚ) < den := by exact_mod_cast hlow
      rw [div_lt_iff₀ hpos]
      linarith
    refine ⟨by linarith, by linarith, ?_⟩
    rintro (h | h) <;> linarith
  · split
    · rename_i hhigh
      have hhalf : 1 / 2 < ((num % den : ℕ) : ℚ) / den := by
        have hcast : (den : ℚ) < 2 * (num % den : ℕ) := by exact_mod_cast hhigh
        rw [lt_div_iff₀ hpos]
        linarith
      refine ⟨by linarith, by linarith, ?_⟩
      rintro (h | h) <;> linarith
    · have hhalf : ((num % den : ℕ) : ℚ) / den = 1 / 2 := by
        have heq : 2 * (num % den) = den := by omega
        have hcast : 2 * ((num % den : ℕ) : ℚ) = den := by exact_mod_cast heq
        rw [div_eq_iff hpos.ne']
        linarith
      rw [hhalf]
      rcases Nat.mod_two_eq_zero_or_one (num / den) with heven | hodd
      · rw [heven, Nat.add_zero]
        exact ⟨by linarith, le_rfl, fun _ => heven⟩
      · rw [hodd]
        exact ⟨by linarith, by linarith, fun _ => by omega⟩

/-! ## Bits -/

/-- The bits of a number are its magnitude and its sign. -/
lemma toNat_ofMagnitude (negative : Bool) {m : ℕ} (h : m < 2 ^ 63) :
    (ofMagnitude negative m).bits.toNat = m + if negative then 2 ^ 63 else 0 := by
  unfold ofMagnitude
  rw [UInt64.toNat_ofNat']
  refine Nat.mod_eq_of_lt ?_
  split <;> omega

/-- The sign, the exponent and the fraction of a number are those of its magnitude. -/
lemma fields_ofMagnitude (negative : Bool) {m : ℕ} (h : m < 2 ^ 63) :
    (ofMagnitude negative m).negative = negative ∧
      (ofMagnitude negative m).biasedExponent = m / 2 ^ 52 ∧
      (ofMagnitude negative m).fraction = m % 2 ^ 52 := by
  unfold Binary64.negative biasedExponent fraction
  rw [toNat_ofMagnitude negative h]
  cases negative
  · simp only [Bool.false_eq_true, if_false, Nat.add_zero, decide_eq_false_iff_not]
    exact ⟨by omega, by omega, trivial⟩
  · simp only [if_true, decide_eq_true_eq]
    exact ⟨by omega, by omega, by omega⟩

/-- A number is its sign and its magnitude. -/
lemma eq_of_units_eq (hsign : x.negative = y.negative) (h : x.units = y.units) : x = y := by
  have hscale : x.scale = y.scale := by
    rcases Nat.lt_trichotomy x.scale y.scale with hlt | heq | hgt
    · exact absurd h (units_lt_of_scale_lt hlt).ne
    · exact heq
    · exact absurd h (units_lt_of_scale_lt hgt).ne'
  have hsignificand : x.significand = y.significand := by
    unfold units at h
    rw [hscale] at h
    exact Nat.eq_of_mul_eq_mul_right (Nat.two_pow_pos _) h
  have hxf := x.fraction_lt
  have hyf := y.fraction_lt
  have hexponent : x.biasedExponent = y.biasedExponent := by
    unfold significand at hsignificand
    unfold scale at hscale
    split at hsignificand <;> split at hsignificand <;> omega
  have hfraction : x.fraction = y.fraction := by
    unfold significand at hsignificand
    rw [hexponent] at hsignificand
    split at hsignificand <;> omega
  have hbits : x.bits = y.bits := by
    have hxb := x.bits.toNat_lt
    have hyb := y.bits.toNat_lt
    have hsign' : 2 ^ 63 ≤ x.bits.toNat ↔ 2 ^ 63 ≤ y.bits.toNat := by
      simpa [Binary64.negative] using hsign
    unfold biasedExponent at hexponent
    unfold fraction at hfraction
    exact UInt64.toNat_inj.mp (by omega)
  cases x
  cases y
  exact congrArg _ hbits

/-! ## Carries -/

/-- The significand and the scale of a whole number of steps, which may be one too many for its
scale. -/
lemma significand_ofMagnitude (negative : Bool) (hsteps : steps ≤ 2 ^ 53)
    (hlow : 0 < s → 2 ^ 52 ≤ steps) (hfinite : s * 2 ^ 52 + steps < 2047 * 2 ^ 52) :
    let y := ofMagnitude negative (s * 2 ^ 52 + steps)
    (steps < 2 ^ 53 ∧ y.significand = steps ∧ y.scale = s) ∨
      (steps = 2 ^ 53 ∧ y.significand = 2 ^ 52 ∧ y.scale = s + 1) := by
  obtain ⟨-, hexponent, hfraction⟩ := fields_ofMagnitude negative
    (m := s * 2 ^ 52 + steps) (by omega)
  unfold significand scale
  dsimp only
  rw [hexponent, hfraction]
  rcases Nat.lt_or_ge steps (2 ^ 52) with hsmall | hlarge
  · have hzero : s = 0 := by omega
    subst hzero
    left
    rw [if_pos (by omega)]
    omega
  · rw [if_neg (by omega)]
    omega

/-- How far below a number what rounds to it can be, in quarters of a unit of its scale. -/
def below (x : Binary64) : ℕ := if x.significand = 2 ^ 52 ∧ 0 < x.scale then 1 else 2

/-- What is not too far from the significand, in units of the scale, rounds to the number; at the
ends this takes an even significand. -/
lemma has_of_bounds (hq : q * x.roundingInterval.den = 4 * r * 2 ^ x.scale) (hnonneg : 0 ≤ r)
    (hlower : (4 * x.significand - x.below : ℚ) ≤ 4 * r)
    (hupper : 4 * r ≤ 4 * x.significand + 2)
    (heven : (4 * r = 4 * x.significand - x.below ∨ 4 * r = 4 * x.significand + 2) →
      x.significand % 2 = 0) : x.roundingInterval.Has q := by
  have hunit : (0 : ℚ) < 2 ^ x.scale := by positivity
  have hlow : x.roundingInterval.lower = (4 * x.significand - x.below) * 2 ^ x.scale := lower_eq x
  unfold RoundingInterval.Has
  rw [hq, hlow, upper_eq]
  push_cast
  rw [mul_le_mul_iff_left₀ hunit, mul_le_mul_iff_left₀ hunit, mul_lt_mul_iff_left₀ hunit,
    mul_lt_mul_iff_left₀ hunit]
  split
  · refine ⟨?_, hupper⟩
    rcases Nat.le_total x.below (4 * x.significand) with hle | hge
    · rw [Nat.cast_sub hle]
      push_cast
      exact hlower
    · rw [Nat.sub_eq_zero_of_le hge, Nat.cast_zero]
      linarith
  · rename_i hclosed
    rw [closed_iff] at hclosed
    have hle : x.below ≤ 4 * x.significand := by
      unfold below
      split <;> omega
    rw [Nat.cast_sub hle]
    push_cast
    exact ⟨lt_of_le_of_ne hlower fun h => hclosed (heven (.inl h.symm)),
      lt_of_le_of_ne hupper fun h => hclosed (heven (.inr h))⟩

/-- What is nearest to a whole number of steps of a scale rounds to the number with these bits. -/
lemma has_ofMagnitude (negative : Bool) (hnearest : IsNearest r steps) (hlow : 0 < s → 2 ^ 52 ≤ r)
    (hhigh : r < 2 ^ 53) (hnonneg : 0 ≤ r) (hfinite : s * 2 ^ 52 + steps < 2047 * 2 ^ 52)
    (hq : q * x.roundingInterval.den = 4 * r * 2 ^ s) :
    (ofMagnitude negative (s * 2 ^ 52 + steps)).roundingInterval.Has q := by
  have hsteps := hnearest.le hhigh
  have hlow' : 0 < s → 2 ^ 52 ≤ steps := fun hs => hnearest.ge (hlow hs)
  obtain ⟨hbelow, habove, heven⟩ := hnearest
  have hden (y : Binary64) : y.roundingInterval.den = x.roundingInterval.den := rfl
  rcases significand_ofMagnitude negative hsteps hlow' hfinite with
    ⟨hlt, hsignificand, hscale⟩ | ⟨heq, hsignificand, hscale⟩
  · refine has_of_bounds (r := r) (by rw [hden, hscale, hq]) hnonneg ?_ ?_ ?_
    · unfold below
      rw [hsignificand, hscale]
      split
      · rename_i hleast
        rw [hleast.1]
        push_cast
        linarith [hlow hleast.2]
      · push_cast
        linarith
    · rw [hsignificand]
      linarith
    · unfold below
      rw [hsignificand, hscale]
      split
      · rename_i hleast
        intro _
        rw [hleast.1]
      · rintro (h | h)
        · exact heven (.inl (by push_cast at h; linarith))
        · exact heven (.inr (by linarith))
  · -- The carry makes a power of two, with half as many steps of twice the size.
    have hsteps : (steps : ℚ) = 2 ^ 53 := by exact_mod_cast heq
    refine has_of_bounds (r := r / 2) ?_ (by linarith) ?_ ?_ fun _ => by rw [hsignificand]
    · rw [hden, hscale, hq, pow_succ]
      ring
    · unfold below
      rw [hsignificand, hscale, if_pos ⟨rfl, Nat.succ_pos s⟩]
      push_cast
      linarith
    · rw [hsignificand]
      push_cast
      linarith

/-! ## Quotients -/

/-- Whether a quotient is below a power of two. -/
lemma lt_two_zpow_iff (hden : 0 < den) (p : ℤ) :
    (if 0 ≤ p then num < den * 2 ^ p.toNat else num * 2 ^ (-p).toNat < den) ↔
      (num / den : ℚ) < 2 ^ p := by
  have hpos : (0 : ℚ) < den := Nat.cast_pos.mpr hden
  have hzpow := natCast_zpow 2 p
  rw [Nat.cast_ofNat] at hzpow
  rw [hzpow, div_lt_div_iff₀ hpos (by positivity)]
  split
  · have hneg : (-p).toNat = 0 := by omega
    rw [hneg, pow_zero, Nat.cast_one, mul_one, mul_comm den]
    exact_mod_cast Iff.rfl
  · have hzero : p.toNat = 0 := by omega
    rw [hzero, pow_zero, Nat.cast_one, one_mul]
    exact_mod_cast Iff.rfl

/-- The logarithms of a quotient's parts tell the position of its leading bit but for one. -/
lemma quotient_bounds (hnum : 0 < num) (hden : 0 < den) :
    (2 : ℚ) ^ ((num.log2 : ℤ) - den.log2 - 1) ≤ num / den ∧
      (num / den : ℚ) < 2 ^ ((num.log2 : ℤ) - den.log2 + 1) := by
  have hpos : (0 : ℚ) < den := Nat.cast_pos.mpr hden
  have hnum_ge : (2 : ℚ) ^ num.log2 ≤ num := by exact_mod_cast Nat.log2_self_le hnum.ne'
  have hnum_lt : (num : ℚ) < 2 ^ (num.log2 + 1) := by exact_mod_cast Nat.lt_log2_self
  have hden_ge : (2 : ℚ) ^ den.log2 ≤ den := by exact_mod_cast Nat.log2_self_le hden.ne'
  have hden_lt : (den : ℚ) < 2 ^ (den.log2 + 1) := by exact_mod_cast Nat.lt_log2_self
  have hsplit (a b : ℕ) : (2 : ℚ) ^ ((a : ℤ) - b) * 2 ^ b = 2 ^ a := by
    rw [← zpow_natCast, ← zpow_add₀ (by norm_num), ← zpow_natCast]
    congr 1
    omega
  constructor
  · rw [le_div_iff₀ hpos]
    calc (2 : ℚ) ^ ((num.log2 : ℤ) - den.log2 - 1) * den
        ≤ 2 ^ ((num.log2 : ℤ) - den.log2 - 1) * 2 ^ (den.log2 + 1) :=
          mul_le_mul_of_nonneg_left hden_lt.le (by positivity)
      _ = 2 ^ num.log2 := by
          rw [← hsplit num.log2 (den.log2 + 1)]
          congr 2
          omega
      _ ≤ num := hnum_ge
  · rw [div_lt_iff₀ hpos]
    calc (num : ℚ) < 2 ^ (num.log2 + 1) := hnum_lt
      _ = 2 ^ ((num.log2 : ℤ) - den.log2 + 1) * 2 ^ den.log2 := by
          rw [← hsplit (num.log2 + 1) den.log2]
          congr 2
          omega
      _ ≤ 2 ^ ((num.log2 : ℤ) - den.log2 + 1) * den :=
          mul_le_mul_of_nonneg_left hden_ge (by positivity)

/-- One comparison settles the position of the leading bit. -/
lemma lead_bounds {p : ℤ} (hden : 0 < den) (hlow : (2 : ℚ) ^ (p - 1) ≤ num / den)
    (hhigh : (num / den : ℚ) < 2 ^ (p + 1)) :
    let lead := if (if 0 ≤ p then num < den * 2 ^ p.toNat else num * 2 ^ (-p).toNat < den)
      then p - 1 else p
    (2 : ℚ) ^ lead ≤ num / den ∧ (num / den : ℚ) < 2 ^ (lead + 1) := by
  dsimp only
  by_cases hlt : (num / den : ℚ) < 2 ^ p
  · rw [if_pos ((lt_two_zpow_iff hden p).mpr hlt), sub_add_cancel]
    exact ⟨hlow, hlt⟩
  · rw [if_neg (mt (lt_two_zpow_iff hden p).mp hlt)]
    exact ⟨not_lt.mp hlt, hhigh⟩

/-- A quotient in units of a power of two is rounded to a whole number. -/
lemma isNearest_shift (hden : 0 < den) (shift : ℤ) : IsNearest (num / den / 2 ^ shift)
    (if 0 ≤ shift then roundDiv num (den * 2 ^ shift.toNat)
      else roundDiv (num * 2 ^ (-shift).toNat) den) := by
  have hzpow := natCast_zpow 2 shift
  rw [Nat.cast_ofNat] at hzpow
  rw [hzpow]
  split
  · have hneg : (-shift).toNat = 0 := by omega
    have hpos : 0 < den * 2 ^ shift.toNat := by positivity
    have h := isNearest_roundDiv num hpos
    rw [hneg, pow_zero, Nat.cast_one, div_one, div_div]
    exact_mod_cast h
  · have hzero : shift.toNat = 0 := by omega
    have h := isNearest_roundDiv (num * 2 ^ (-shift).toNat) hden
    rw [hzero, pow_zero, Nat.cast_one, div_div_eq_mul_div, div_one, div_mul_eq_mul_div]
    exact_mod_cast h

/-- The units of a scale are multiples of the common denominator. -/
lemma unit_eq (x : Binary64) {shift : ℤ} (h : -1074 ≤ shift) :
    (x.roundingInterval.den : ℚ) * 2 ^ shift = 4 * 2 ^ (shift + 1074).toNat := by
  have hcast (n : ℕ) : ((2 ^ n : ℕ) : ℚ) = 2 ^ (n : ℤ) := by
    rw [Nat.cast_pow, Nat.cast_ofNat, zpow_natCast]
  have hden : (x.roundingInterval.den : ℚ) = 2 ^ ((1076 : ℕ) : ℤ) :=
    (congrArg Nat.cast x.den_eq).trans (hcast 1076)
  have hfour : (4 : ℚ) = 2 ^ (2 : ℤ) := by norm_num
  rw [hden, hfour, ← zpow_natCast, ← zpow_add₀ (by norm_num), ← zpow_add₀ (by norm_num)]
  congr 1
  omega

/-- A quotient is a number of steps of a scale, and the steps are rounded to a whole number. -/
lemma exists_steps (x : Binary64) (negative : Bool) (hnum : 0 < num) (hden : 0 < den) :
    ∃ (r : ℚ) (steps s : ℕ), num / den * x.roundingInterval.den = 4 * r * 2 ^ s ∧
      IsNearest r steps ∧ (0 < s → 2 ^ 52 ≤ r) ∧ r < 2 ^ 53 ∧ 0 ≤ r ∧
      ofRatio negative num den = if 2047 * 2 ^ 52 ≤ s * 2 ^ 52 + steps then infinity negative
        else ofMagnitude negative (s * 2 ^ 52 + steps) := by
  obtain ⟨hlow, hhigh⟩ := quotient_bounds hnum hden
  have hlead := lead_bounds hden hlow hhigh
  unfold ofRatio
  rw [if_neg hnum.ne']
  dsimp only at hlead ⊢
  generalize (if (if 0 ≤ (num.log2 : ℤ) - den.log2 then
      num < den * 2 ^ ((num.log2 : ℤ) - den.log2).toNat
    else num * 2 ^ (-((num.log2 : ℤ) - den.log2)).toNat < den) then
      (num.log2 : ℤ) - den.log2 - 1 else (num.log2 : ℤ) - den.log2) = lead at hlead ⊢
  obtain ⟨hlow, hhigh⟩ := hlead
  have hshift : lead - 52 ≤ max (lead - 52) (-1074) ∧ -1074 ≤ max (lead - 52) (-1074) ∧
      (-1074 < max (lead - 52) (-1074) → max (lead - 52) (-1074) = lead - 52) := by omega
  generalize max (lead - 52) (-1074) = shift at hshift ⊢
  obtain ⟨hge, hmin, heq⟩ := hshift
  have hunit : (0 : ℚ) < 2 ^ shift := by positivity
  refine ⟨num / den / 2 ^ shift, _, (shift + 1074).toNat, ?_, isNearest_shift hden shift, ?_, ?_,
    ?_, rfl⟩
  · rw [mul_assoc, mul_comm _ ((2 : ℚ) ^ _), ← mul_assoc, ← unit_eq x hmin]
    generalize (x.roundingInterval.den : ℚ) = unit
    field_simp
  · intro hpos
    rw [le_div_iff₀ hunit, heq (by omega), ← zpow_natCast, ← zpow_add₀ (by norm_num)]
    refine le_trans (le_of_eq ?_) hlow
    congr 1
    push_cast
    omega
  · rw [div_lt_iff₀ hunit, ← zpow_natCast, ← zpow_add₀ (by norm_num)]
    refine lt_of_lt_of_le hhigh (zpow_le_zpow_right₀ (by norm_num) ?_)
    push_cast
    omega
  · positivity

/-! ## The largest number -/

/-- What rounds to a number is less than half a unit of its scale below the next scale. -/
lemma lt_of_has {top : ℕ} (hscale : x.scale ≤ top) (h : x.roundingInterval.Has q) :
    q * x.roundingInterval.den < (2 ^ 55 - 2) * 2 ^ top := by
  have hunit : (0 : ℚ) < 2 ^ x.scale := by positivity
  have hle : (2 : ℚ) ^ x.scale ≤ 2 ^ top := pow_le_pow_right₀ (by norm_num) hscale
  have hsignificand := x.significand_lt
  have hupper : (x.roundingInterval.upper : ℚ) = (4 * x.significand + 2) * 2 ^ x.scale := by
    rw [upper_eq]
    push_cast
    rfl
  by_cases heven : x.significand % 2 = 0
  · have hmax : (x.significand : ℚ) + 2 ≤ 2 ^ 53 := by
      have : x.significand + 2 ≤ 2 ^ 53 := by omega
      exact_mod_cast this
    calc q * x.roundingInterval.den ≤ (4 * x.significand + 2) * 2 ^ x.scale := hupper ▸ h.bounds.2
      _ < (2 ^ 55 - 2) * 2 ^ x.scale := by
        refine mul_lt_mul_of_pos_right ?_ hunit
        linarith
      _ ≤ (2 ^ 55 - 2) * 2 ^ top := mul_le_mul_of_nonneg_left hle (by norm_num)
  · have hmax : (x.significand : ℚ) + 1 ≤ 2 ^ 53 := by exact_mod_cast hsignificand
    have hopen : ¬ x.roundingInterval.closed = true := mt x.closed_iff.mp heven
    rw [RoundingInterval.Has, if_neg hopen, hupper] at h
    calc q * x.roundingInterval.den < (4 * x.significand + 2) * 2 ^ x.scale := h.2
      _ ≤ (2 ^ 55 - 2) * 2 ^ x.scale := by
        refine mul_le_mul_of_nonneg_right ?_ hunit.le
        linarith
      _ ≤ (2 ^ 55 - 2) * 2 ^ top := mul_le_mul_of_nonneg_left hle (by norm_num)

/-- The scale of a finite number. -/
lemma scale_le (h : x.isFinite = true) : x.scale ≤ 2045 := by
  have hexponent : x.biasedExponent < 2 ^ 11 := Nat.mod_lt _ (by decide)
  have hne : x.biasedExponent ≠ 2047 := bne_iff_ne.mp h
  unfold scale
  omega

/-- What is rounded to an infinity is beyond the largest number by half a unit of its scale. -/
lemma le_of_overflow {top : ℕ} (htop : top = 2045) (hnearest : IsNearest r steps)
    (hlow : 0 < s → 2 ^ 52 ≤ r) (hhigh : r < 2 ^ 53)
    (hlarge : 2047 * 2 ^ 52 ≤ s * 2 ^ 52 + steps) : (2 ^ 55 - 2) * 2 ^ top ≤ 4 * r * 2 ^ s := by
  have hsteps := hnearest.le hhigh
  have hunit : (0 : ℚ) < 2 ^ top := by positivity
  rcases Nat.lt_or_ge top s with hgt | hle
  · have hdouble : (2 : ℚ) ^ (top + 1) ≤ 2 ^ s := pow_le_pow_right₀ (by norm_num) hgt
    calc ((2 : ℚ) ^ 55 - 2) * 2 ^ top ≤ 4 * 2 ^ 52 * 2 ^ (top + 1) := by
          rw [pow_succ _ top]
          linarith
      _ ≤ 4 * r * 2 ^ s := by
          have := hlow (by omega)
          exact mul_le_mul (by linarith) hdouble (by positivity) (by linarith)
  · have hs : s = top := by omega
    have hcarry : (steps : ℚ) = 2 ^ 53 := by
      have : steps = 2 ^ 53 := by omega
      exact_mod_cast this
    have hbelow := hnearest.lower
    rw [hs]
    refine mul_le_mul_of_nonneg_right ?_ hunit.le
    linarith

/-- What rounds to a finite number is not rounded to an infinity. -/
lemma bits_lt_of_has (hfinite : x.isFinite = true) (h : x.roundingInterval.Has q)
    (hq : q * x.roundingInterval.den = 4 * r * 2 ^ s) (hnearest : IsNearest r steps)
    (hlow : 0 < s → 2 ^ 52 ≤ r) (hhigh : r < 2 ^ 53) : s * 2 ^ 52 + steps < 2047 * 2 ^ 52 := by
  by_contra hlarge
  obtain ⟨top, htop⟩ : ∃ top, top = 2045 := ⟨_, rfl⟩
  have hlt := hq ▸ lt_of_has (htop ▸ scale_le hfinite) h
  exact absurd hlt (not_lt.mpr (le_of_overflow htop hnearest hlow hhigh (not_lt.mp hlarge)))

/-- A quotient in the interval of a number is rounded to the number, which keeps its sign. -/
theorem ofRatio_of_has (hfinite : x.isFinite = true) (hzero : x.isZero = false) (hden : 0 < den)
    (h : x.roundingInterval.Has (num / den)) : ofRatio x.negative num den = x := by
  have hnum : 0 < num := by
    refine Nat.pos_of_ne_zero fun hnum => not_has_zero hzero ?_
    rwa [hnum, Nat.cast_zero, zero_div] at h
  obtain ⟨r, steps, s, hq, hnearest, hlow, hhigh, hnonneg, hratio⟩ :=
    exists_steps x x.negative hnum hden
  have hbits := bits_lt_of_has hfinite h hq hnearest hlow hhigh
  have hhas := has_ofMagnitude x.negative hnearest hlow hhigh hnonneg hbits hq
  have hfields := fields_ofMagnitude x.negative (m := s * 2 ^ 52 + steps) (by omega)
  rw [hratio, if_neg (Nat.not_le.mpr hbits)]
  exact eq_of_units_eq hfields.1 (units_eq_of_has hhas h)

/-! ## Decimals -/

/-- Digits and an exponent tell the powers of ten around a decimal. -/
lemma decimal_bounds {digits : ℕ} (exponent : ℤ) (h : digits ≠ 0) :
    (10 : ℚ) ^ ((Nat.toDigits 10 digits).length + exponent - 1) ≤ digits * 10 ^ exponent ∧
      digits * (10 : ℚ) ^ exponent < 10 ^ ((Nat.toDigits 10 digits).length + exponent) := by
  have hunit : (0 : ℚ) < 10 ^ exponent := by positivity
  obtain ⟨k, hk⟩ : ∃ k, (Nat.toDigits 10 digits).length = k + 1 :=
    Nat.exists_eq_succ_of_ne_zero Nat.length_toDigits_pos.ne'
  rw [hk]
  constructor
  · have hge : 10 ^ k ≤ digits := by
      cases k with
      | zero => exact Nat.pos_of_ne_zero h
      | succ k =>
        refine not_lt.mp fun hlt => ?_
        have hle := (Nat.length_toDigits_le_iff (by decide) (Nat.succ_pos k)).mpr hlt
        omega
    have hexponent : ((k + 1 : ℕ) : ℤ) + exponent - 1 = k + exponent := by
      push_cast
      ring
    rw [hexponent, zpow_add₀ (by norm_num), zpow_natCast]
    exact mul_le_mul_of_nonneg_right (by exact_mod_cast hge) hunit.le
  · have hlt : digits < 10 ^ (k + 1) :=
      (Nat.length_toDigits_le_iff (by decide) (Nat.succ_pos k)).mp hk.le
    rw [zpow_add₀ (by norm_num), zpow_natCast]
    exact mul_lt_mul_of_pos_right (by exact_mod_cast hlt) hunit

/-- What rounds to a finite number that is not zero is neither too large nor too small to be looked
at. -/
lemma bounds_of_has (hfinite : x.isFinite = true) (hzero : x.isZero = false)
    (h : x.roundingInterval.Has q) : (10 : ℚ) ^ (-401 : ℤ) < q ∧ q < 10 ^ (310 : ℤ) := by
  obtain ⟨top, htop⟩ : ∃ top, top = 2045 := ⟨_, rfl⟩
  have hsmall : 2 ^ 1076 * 10 ^ (-401 : ℤ).toNat < 2 * 10 ^ (401 : ℤ).toNat := by decide +kernel
  have hlarge : 2 ^ 55 * 2 ^ top * 10 ^ (-310 : ℤ).toNat ≤ 10 ^ (310 : ℤ).toNat * 2 ^ 1076 := by
    rw [htop]
    decide +kernel
  have hlower : (2 : ℚ) ≤ q * x.roundingInterval.den := by
    have hle : 2 ≤ x.roundingInterval.lower := by
      have hpos := significand_pos hzero
      rw [lower_eq]
      refine Nat.le_trans ?_ (Nat.le_mul_of_pos_right _ (Nat.two_pow_pos x.scale))
      split <;> omega
    exact le_trans (by exact_mod_cast hle) h.bounds.1
  have hupper := lt_of_has (htop ▸ scale_le hfinite) h
  have hden : 0 < x.roundingInterval.den := by
    rw [den_eq]
    exact Nat.two_pow_pos 1076
  rw [← x.den_eq] at hsmall hlarge
  rw [ten_zpow, ten_zpow, neg_neg, div_lt_iff₀ (by positivity), lt_div_iff₀ (by positivity)]
  generalize x.roundingInterval.den = den at *
  generalize 10 ^ (-401 : ℤ).toNat = least at *
  generalize 10 ^ (401 : ℤ).toNat = leastDen at *
  generalize 10 ^ (310 : ℤ).toNat = most at *
  have hpos : 0 < 10 ^ (-310 : ℤ).toNat := Nat.pow_pos (by decide)
  generalize 10 ^ (-310 : ℤ).toNat = mostDen at *
  have hden' : (0 : ℚ) < den := Nat.cast_pos.mpr hden
  constructor
  · have hcast : (den * least : ℚ) < 2 * leastDen := by exact_mod_cast hsmall
    refine lt_of_mul_lt_mul_left ?_ hden'.le
    calc (den * least : ℚ) < 2 * leastDen := hcast
      _ ≤ q * den * leastDen := mul_le_mul_of_nonneg_right hlower (Nat.cast_nonneg _)
      _ = den * (q * leastDen) := by ring
  · have hpos' : (0 : ℚ) < mostDen := Nat.cast_pos.mpr hpos
    have hcast : (2 ^ 55 * 2 ^ top * mostDen : ℚ) ≤ most * den := by exact_mod_cast hlarge
    have hunit : (0 : ℚ) < 2 ^ top := by positivity
    refine lt_of_mul_lt_mul_right ?_ hden'.le
    calc q * mostDen * den = q * den * mostDen := by ring
      _ < 2 ^ 55 * 2 ^ top * mostDen := mul_lt_mul_of_pos_right (by linarith) hpos'
      _ ≤ most * den := hcast

/-- A decimal in the interval of a number is rounded to the number, which keeps its sign. -/
theorem ofDecimal_of_has {digits : ℕ} {exponent : ℤ} (hfinite : x.isFinite = true)
    (hzero : x.isZero = false) (h : x.roundingInterval.Has (digits * (10 : ℚ) ^ exponent)) :
    ofDecimal x.negative digits exponent = x := by
  have hdigits : digits ≠ 0 := fun hdigits => not_has_zero hzero (by
    rwa [hdigits, Nat.cast_zero, zero_mul] at h)
  obtain ⟨hlow, hhigh⟩ := bounds_of_has hfinite hzero h
  obtain ⟨hbelow, habove⟩ := decimal_bounds exponent hdigits
  have hmax : ((Nat.toDigits 10 digits).length : ℤ) + exponent - 1 < 310 :=
    (zpow_lt_zpow_iff_right₀ (by norm_num)).mp (hbelow.trans_lt hhigh)
  have hmin : (-401 : ℤ) < (Nat.toDigits 10 digits).length + exponent :=
    (zpow_lt_zpow_iff_right₀ (by norm_num)).mp (hlow.trans habove)
  have hpower := ten_zpow exponent
  unfold ofDecimal
  dsimp only
  rw [if_neg hdigits, if_neg (by omega), if_neg (by omega)]
  split
  · have hneg : (-exponent).toNat = 0 := by omega
    rw [hneg, pow_zero, Nat.cast_one, div_one] at hpower
    refine ofRatio_of_has hfinite hzero Nat.one_pos ?_
    rwa [Nat.cast_one, div_one, Nat.cast_mul, ← hpower]
  · have hzero' : exponent.toNat = 0 := by omega
    rw [hzero', pow_zero, Nat.cast_one] at hpower
    refine ofRatio_of_has hfinite hzero (by positivity) ?_
    rwa [hpower, mul_one_div] at h

/-! ## Zero -/

/-- Zero is finite. -/
lemma isFinite_of_isZero (h : x.isZero = true) : x.isFinite = true := by
  unfold isZero at h
  rw [Bool.and_eq_true, beq_iff_eq] at h
  rw [isFinite, h.1]
  rfl

/-- Digits that are zero stand for the zero of their sign. -/
lemma ofDecimal_zero (h : x.isZero = true) (exponent : ℤ) :
    ofDecimal x.negative 0 exponent = x := by
  obtain ⟨hsign, hexponent, hfraction⟩ := fields_ofMagnitude x.negative
    (Nat.two_pow_pos 63)
  have hzero : (zero x.negative).isZero = true := by
    unfold isZero zero
    rw [hexponent, hfraction]
    rfl
  exact eq_of_units_eq hsign ((units_eq_zero hzero).trans (units_eq_zero h).symm)

end Binary64

end ConfigCheck
