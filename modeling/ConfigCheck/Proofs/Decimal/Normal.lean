import ConfigCheck.Proofs.Decimal.Layout
import ConfigCheck.Proofs.Json.Leaf

/-!
# Normal decimals

The digits of a normal decimal do not begin with zero, so its point tells between which powers of
ten it lies (`Decimal.IsNormal.value_bounds`), and normal decimals with as many digits are told by
their values (`Decimal.IsNormal.eq_of_value_eq`).  The shortest decimal of a number is normal.
-/

namespace ConfigCheck

/-! ## Digits -/

/-- A digit behind others. -/
lemma ofDigitChars_concat (cs : List Char) (c : Char) : Nat.ofDigitChars 10 (cs ++ [c]) 0 =
    10 * Nat.ofDigitChars 10 cs 0 + Json.digitValue c := by
  rw [Nat.ofDigitChars_append, Nat.ofDigitChars_cons, Nat.ofDigitChars_nil, Json.digitValue]

/-- Digits stand for less than the power of ten that they are many. -/
lemma ofDigitChars_lt {cs : List Char} (h : ∀ c ∈ cs, c.isDigit = true) :
    Nat.ofDigitChars 10 cs 0 < 10 ^ cs.length := by
  induction cs using List.reverseRecOn with
  | nil => exact Nat.one_pos
  | append_singleton cs c ih =>
    obtain ⟨hcs, hc⟩ := List.forall_mem_append.mp h
    have hlt := ih hcs
    have hdigit := Json.digitValue_lt (hc c List.mem_cons_self)
    rw [ofDigitChars_concat, List.length_append, List.length_singleton, Nat.pow_succ]
    omega

/-- Digits are told by the number that they stand for and by how many they are. -/
lemma eq_of_ofDigitChars_eq {cs ds : List Char} (hcs : ∀ c ∈ cs, c.isDigit = true)
    (hds : ∀ c ∈ ds, c.isDigit = true) (hlength : cs.length = ds.length)
    (h : Nat.ofDigitChars 10 cs 0 = Nat.ofDigitChars 10 ds 0) : cs = ds := by
  induction cs using List.reverseRecOn generalizing ds with
  | nil => exact (List.length_eq_zero_iff.mp hlength.symm).symm
  | append_singleton cs c ih =>
    rcases ds.eq_nil_or_concat' with rfl | ⟨ds, d, rfl⟩
    · simp at hlength
    · obtain ⟨hcs, hc⟩ := List.forall_mem_append.mp hcs
      obtain ⟨hds, hd⟩ := List.forall_mem_append.mp hds
      have hc := hc c List.mem_cons_self
      have hd := hd d List.mem_cons_self
      have hc' := Json.digitValue_lt hc
      have hd' := Json.digitValue_lt hd
      rw [ofDigitChars_concat, ofDigitChars_concat] at h
      rw [ih hcs hds (by simpa using hlength) (by omega), Json.eq_of_digitValue_eq hc hd (by omega)]

/-! ## Normal decimals -/

/-- The grid points with a given number of digits lie between two powers of ten. -/
lemma grid_bounds {n k : ℕ} (hn : 0 < n) (hlow : 10 ^ (n - 1) ≤ k) (hhigh : k < 10 ^ n) (p : ℤ) :
    (10 : ℚ) ^ (p - 1) ≤ k * (10 : ℚ) ^ (p - n) ∧ k * (10 : ℚ) ^ (p - n) < (10 : ℚ) ^ p := by
  have hunit : (0 : ℚ) < 10 ^ (p - n) := by positivity
  have hbelow : p - n + (n - 1 : ℕ) = p - 1 := by omega
  have habove : p - n + (n : ℕ) = p := by omega
  rw [← pow_mul_zpow hbelow, ← pow_mul_zpow habove]
  exact ⟨mul_le_mul_of_nonneg_right (Nat.cast_le.mpr hlow) hunit.le,
    mul_lt_mul_of_pos_right (Nat.cast_lt.mpr hhigh) hunit⟩

/-- The digits of a decimal are digits, and the first one is not zero. -/
structure Decimal.IsNormal (d : Decimal) : Prop where
  /-- There is a digit. -/
  digits_ne_nil : d.digits ≠ []
  /-- The first digit is not zero. -/
  head?_ne : d.digits.head? ≠ some '0'
  /-- All of them are digits. -/
  isDigit_digits : ∀ c ∈ d.digits, c.isDigit = true

namespace Decimal

variable {d e : Decimal} {p : ℤ} {k n : ℕ}

/-- The number that the digits of a decimal are without the point. -/
def steps (d : Decimal) : ℕ := Nat.ofDigitChars 10 d.digits 0

/-- There is a digit. -/
lemma IsNormal.length_pos (h : d.IsNormal) : 0 < d.digits.length :=
  List.length_pos_iff.mpr h.digits_ne_nil

/-- The digits of a normal decimal are a number with that many digits. -/
lemma IsNormal.steps_bounds (h : d.IsNormal) :
    10 ^ (d.digits.length - 1) ≤ d.steps ∧ d.steps < 10 ^ d.digits.length := by
  refine ⟨?_, ofDigitChars_lt h.isDigit_digits⟩
  obtain ⟨first, rest, heq⟩ := List.exists_cons_of_ne_nil h.digits_ne_nil
  have hhead := h.head?_ne
  have hdigits := h.isDigit_digits
  unfold steps
  rw [heq] at hhead hdigits ⊢
  have hfirst : first.toNat - '0'.toNat ≠ 0 := fun hzero =>
    hhead (congrArg some (Json.eq_of_digitValue_eq (hdigits first List.mem_cons_self) rfl hzero))
  rw [Nat.ofDigitChars_cons, Nat.ofDigitChars_eq_ofDigitChars_zero, List.length_cons,
    Nat.add_sub_cancel]
  refine Nat.le_trans (Nat.le_mul_of_pos_right _ ?_) (Nat.le_add_right _ _)
  omega

/-- The point of a normal decimal tells between which powers of ten it lies. -/
lemma IsNormal.value_bounds (h : d.IsNormal) :
    (10 : ℚ) ^ (d.point - 1) ≤ d.value ∧ d.value < (10 : ℚ) ^ d.point :=
  grid_bounds h.length_pos h.steps_bounds.1 h.steps_bounds.2 d.point

/-- A normal decimal with the value of a grid point that has as many digits consists of these
digits. -/
lemma IsNormal.eq_of_value_eq_grid (h : d.IsNormal) (hlength : d.digits.length = n)
    (hvalue : d.value = k * (10 : ℚ) ^ (p - n)) (hlow : 10 ^ (n - 1) ≤ k) (hhigh : k < 10 ^ n) :
    d.point = p ∧ d.steps = k := by
  obtain ⟨hle, hlt⟩ := h.value_bounds
  obtain ⟨hbelow, habove⟩ := grid_bounds (hlength ▸ h.length_pos) hlow hhigh p
  rw [← hvalue] at hbelow habove
  have hmax : d.point - 1 < p :=
    (zpow_lt_zpow_iff_right₀ (by norm_num)).mp (hle.trans_lt habove)
  have hmin : p - 1 < d.point :=
    (zpow_lt_zpow_iff_right₀ (by norm_num)).mp (hbelow.trans_lt hlt)
  have hpoint : d.point = p := by omega
  refine ⟨hpoint, ?_⟩
  have hunit : (10 : ℚ) ^ (p - n) ≠ 0 := by positivity
  have hsteps : (d.steps : ℚ) * 10 ^ (p - n) = k * 10 ^ (p - n) := by
    rw [← hvalue, ← hpoint, ← hlength]
    rfl
  exact_mod_cast (mul_left_inj' hunit).mp hsteps

/-- A decimal is a whole number of steps of a finer grid. -/
lemma exists_value_eq (d : Decimal) (h : p ≤ d.point - d.digits.length) :
    ∃ k : ℕ, d.value = k * (10 : ℚ) ^ p := by
  refine ⟨10 ^ (d.point - d.digits.length - p).toNat * d.steps, ?_⟩
  have hpoint : p + (d.point - d.digits.length - p).toNat = d.point - d.digits.length := by omega
  rw [Nat.cast_mul, mul_right_comm, pow_mul_zpow hpoint, mul_comm]
  rfl

/-- Normal decimals with as many digits are told by their values. -/
lemma IsNormal.eq_of_value_eq (hd : d.IsNormal) (he : e.IsNormal)
    (hlength : d.digits.length = e.digits.length) (hvalue : d.value = e.value) : d = e := by
  obtain ⟨hlow, hhigh⟩ := he.steps_bounds
  obtain ⟨hpoint, hsteps⟩ := hd.eq_of_value_eq_grid hlength hvalue hlow hhigh
  have hdigits := eq_of_ofDigitChars_eq hd.isDigit_digits he.isDigit_digits hlength hsteps
  cases d
  cases e
  cases hpoint
  cases hdigits
  rfl

end Decimal

/-- The shortest decimal of a number that is not zero is normal. -/
lemma Binary64.isNormal_shortest {x : Binary64} (hzero : x.isZero = false) :
    x.shortest.IsNormal := by
  obtain ⟨steps, exponent, hshortest⟩ :
      ∃ steps exponent, x.shortest = Decimal.ofSteps steps exponent := ⟨_, _, rfl⟩
  have hsteps : steps ≠ 0 := by
    rintro rfl
    have hhas := has_shortest hzero
    rw [hshortest, Decimal.value_ofSteps, Nat.cast_zero, zero_mul] at hhas
    exact not_has_zero hzero hhas
  have hhead : (Nat.toDigits 10 steps).head? ≠ some '0' := fun h =>
    hsteps (Json.eq_zero_of_head?_toDigits h)
  obtain ⟨k, hk⟩ := exists_zeros (Nat.toDigits 10 steps)
  have hdigits : x.shortest.digits =
      ((Nat.toDigits 10 steps).reverse.dropWhile (· == '0')).reverse := by
    rw [hshortest]
    rfl
  rw [← hdigits] at hk
  have hne : x.shortest.digits ≠ [] := by
    intro hnil
    rw [hnil, List.nil_append] at hk
    cases k with
    | zero => exact Nat.toDigits_ne_nil hk
    | succ k => exact hhead (by rw [hk]; rfl)
  refine ⟨hne, ?_, Notation.isDigit_of_mem_shortest⟩
  rwa [hk, List.head?_append_of_ne_nil _ hne] at hhead

end ConfigCheck
