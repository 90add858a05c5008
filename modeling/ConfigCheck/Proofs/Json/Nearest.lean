import ConfigCheck.Proofs.Decimal.Normal
import ConfigCheck.Proofs.Decimal.Rounding

/-!
# Texts of numbers are read back

A numeral in the interval of a binary number is read as the number (`Json.Numeral.nearest?_of_has`).
The text of a finite number is such a numeral, so it is read as the number that it was written for
(`Notation.exists_numeral_write`).
-/

namespace ConfigCheck

open Json (Numeral Power natFrom isDigit isDigit_of_mem_toDigits ne_of_isDigit)

/-! ## What numerals stand for -/

namespace Json

namespace Numeral

variable {m : Numeral} {x : Binary64}

/-- The number that a numeral stands for, without its sign. -/
def value (m : Numeral) : ℚ :=
  natFrom 0 (m.whole ++ m.fraction.getD []) *
    (10 : ℚ) ^ (m.power.elim 0 Power.exponent - (m.fraction.getD []).length)

/-- A numeral in the interval of a number is read as the number. -/
lemma nearest?_of_has (hsign : m.negative = x.negative) (hfinite : x.isFinite = true)
    (hzero : x.isZero = false) (h : x.roundingInterval.Has m.value) : m.nearest? = some x := by
  have hread := Binary64.ofDecimal_of_has hfinite hzero h
  unfold nearest?
  dsimp only
  rw [hsign, hread, Option.filter_some, if_pos hfinite]

/-- A numeral that stands for zero is read as the zero with its sign. -/
lemma nearest?_of_zero (hsign : m.negative = x.negative) (hzero : x.isZero = true)
    (h : m.value = 0) : m.nearest? = some x := by
  have hdigits : natFrom 0 (m.whole ++ m.fraction.getD []) = 0 := by
    have hpower : (10 : ℚ) ^ (m.power.elim 0 Power.exponent - (m.fraction.getD []).length) ≠ 0 := by
      positivity
    exact Nat.cast_eq_zero.mp ((mul_eq_zero.mp h).resolve_right hpower)
  unfold nearest?
  dsimp only
  rw [hsign, hdigits, Binary64.ofDecimal_zero hzero, Option.filter_some,
    if_pos (Binary64.isFinite_of_isZero hzero)]

/-- A power as it is written in texts of numbers: with a small letter, and without a plus sign. -/
def HasPlainPower (m : Numeral) : Prop := ∀ p ∈ m.power, p.letter = 'e' ∧ p.sign ≠ some '+'

/-- The exponent of a power is the integer that is written behind its letter. -/
lemma integerValue_behind {p : Power} (hsign : p.sign ≠ some '+') :
    integerValue p.behind = p.exponent := by
  unfold Power.behind Power.exponent
  rw [natFrom_eq_ofDigitChars]
  rcases p.sign_eq with hnone | hplus | hminus
  · obtain ⟨d, more, hdigits⟩ := List.exists_cons_of_ne_nil p.digits_ne_nil
    have hd : d ≠ '-' := ne_of_isDigit (p.isDigit_digits d (hdigits ▸ List.mem_cons_self)) rfl
    rw [hnone, if_neg nofun, hdigits]
    unfold integerValue
    simp [hd]
  · exact absurd hplus hsign
  · rw [hminus, if_pos rfl]
    rfl

/-- What stands in front of the power of a numeral. -/
def mantissa (m : Numeral) : List Char := m.whole ++ m.fraction.elim [] ('.' :: ·)

/-- The digits on both sides of the point stand for the number without its power of ten. -/
lemma mantissaValue_mantissa : 'e' ∉ m.mantissa ∧ mantissaValue m.mantissa =
    natFrom 0 (m.whole ++ m.fraction.getD []) *
      (10 : ℚ) ^ (-((m.fraction.getD []).length : ℤ)) := by
  have hpoint : '.' ∉ m.whole := Notation.not_mem_of_isDigit m.isDigit_whole rfl
  unfold mantissa
  rw [natFrom_eq_ofDigitChars]
  cases hfraction : m.fraction with
  | none =>
    have hletter : 'e' ∉ m.whole := Notation.not_mem_of_isDigit m.isDigit_whole rfl
    simp [hletter, mantissaValue_whole hpoint]
  | some digits =>
    have hdigits := m.isDigit_fraction digits hfraction
    exact ⟨Notation.not_mem_point m.isDigit_whole hdigits, mantissaValue_point hpoint⟩

/-- The text of a numeral stands for what the numeral stands for. -/
lemma textValue_unsigned (h : m.HasPlainPower) : textValue m.unsigned = m.value := by
  obtain ⟨hletter, hmantissa⟩ := mantissaValue_mantissa (m := m)
  have hunsigned : m.unsigned = m.mantissa ++ m.power.elim [] fun p => p.letter :: p.behind :=
    (List.append_assoc ..).symm
  unfold value
  rw [hunsigned]
  cases hpower : m.power with
  | none => simp [textValue_mantissa hletter, hmantissa]
  | some p =>
    obtain ⟨he, hsign⟩ := h p hpower
    simp only [Option.elim_some]
    rw [he, textValue_power hletter, integerValue_behind hsign, hmantissa, mul_assoc,
      ← zpow_add₀ (by norm_num)]
    congr 2
    ring

end Numeral

end Json

/-! ## Numerals of texts -/

namespace Notation

variable {d : Decimal} {x : Binary64}

/-- A text is that of a numeral that is no integer and has a plain power. -/
def IsNumeral (negative : Bool) (cs : List Char) : Prop :=
  ∃ m : Numeral, m.negative = negative ∧ m.unsigned = cs ∧ m.HasPlainPower ∧ m.isWhole = false

/-- Digits with a point are a numeral, if no zero comes in front of other digits. -/
lemma isNumeral_point (negative : Bool) (whole fraction : List Char)
    (hwhole : ∀ c ∈ whole, isDigit c = true) (hfraction : ∀ c ∈ fraction, isDigit c = true)
    (hne : whole ≠ []) (hzero : whole.head? = some '0' → whole = ['0']) (hne' : fraction ≠ []) :
    IsNumeral negative (whole ++ '.' :: fraction) := by
  let m : Numeral :=
    { negative, whole, fraction := some fraction, power := none
      whole_ne_nil := hne, isDigit_whole := hwhole, whole_eq_zero := hzero
      fraction_ne_nil := by simpa using hne', isDigit_fraction := by simpa using hfraction }
  refine ⟨m, rfl, ?_, nofun, rfl⟩
  unfold Numeral.unsigned Numeral.tail
  exact congrArg (whole ++ ·) (List.append_nil _)

/-- A normal decimal in positional form is a numeral. -/
lemma isNumeral_writePositional (negative : Bool) (hd : d.IsNormal) :
    IsNumeral negative (key.writePositional d) := by
  obtain ⟨hne, hhead, hdigits⟩ := hd
  have hfalse {cs : List Char} (hcs : cs.head? = d.digits.head?) :
      cs.head? = some '0' → cs = ['0'] := fun h => absurd (hcs ▸ h) hhead
  unfold writePositional
  dsimp only
  split
  · have hwhole : ∀ c ∈ ['0'], isDigit c = true := List.forall_mem_singleton.mpr rfl
    refine isNumeral_point negative ['0'] _ hwhole ?_ (List.cons_ne_nil _ _) (fun _ => rfl)
      (by simp [hne])
    intro c hc
    rcases List.mem_append.mp hc with hc | hc
    · exact isDigit_of_mem_zeros hc
    · exact hdigits c hc
  · split
    · have hkeeps : key.keepsPoint = true := rfl
      rw [hkeeps, if_pos rfl]
      have hfraction : ∀ c ∈ ['0'], isDigit c = true := List.forall_mem_singleton.mpr rfl
      refine isNumeral_point negative _ ['0'] ?_ hfraction (by simp [hne])
        (hfalse (List.head?_append_of_ne_nil _ hne)) (List.cons_ne_nil _ _)
      intro c hc
      rcases List.mem_append.mp hc with hc | hc
      · exact hdigits c hc
      · exact isDigit_of_mem_zeros hc
    · rename_i hpoint hlength
      refine isNumeral_point negative _ _ (fun c hc => hdigits c (List.mem_of_mem_take hc))
        (fun c hc => hdigits c (List.mem_of_mem_drop hc)) ?_ (hfalse ?_) ?_
      · simp [hne]
        omega
      · rw [List.head?_take, if_neg (by omega)]
      · simpa using hlength

/-- The power of ten with an exponent. -/
def power (exponent : ℤ) : Power where
  letter := 'e'
  sign := if exponent < 0 then some '-' else none
  digits := Nat.toDigits 10 exponent.natAbs
  letter_eq := .inl rfl
  sign_eq := by
    split
    · exact .inr (.inr rfl)
    · exact .inl rfl
  digits_ne_nil := Nat.toDigits_ne_nil
  isDigit_digits := fun _ => isDigit_of_mem_toDigits

/-- A power is written with a minus sign or without a sign. -/
lemma behind_power (exponent : ℤ) : (power exponent).behind =
    (if exponent < 0 then ['-'] else []) ++ Nat.toDigits 10 exponent.natAbs := by
  unfold power Power.behind
  dsimp only
  split <;> rfl

/-- A digit, perhaps with others behind the point, and a power of ten are a numeral. -/
lemma isNumeral_power (negative : Bool) (exponent : ℤ) {first : Char}
    (fraction : Option (List Char)) (hfirst : isDigit first = true) (hne : fraction ≠ some [])
    (hfraction : ∀ digits ∈ fraction, ∀ c ∈ digits, isDigit c = true) :
    IsNumeral negative
      (first :: fraction.elim [] ('.' :: ·) ++ 'e' :: (power exponent).behind) := by
  let m : Numeral :=
    { negative, whole := [first], fraction, power := some (power exponent)
      whole_ne_nil := List.cons_ne_nil _ _
      isDigit_whole := List.forall_mem_singleton.mpr hfirst
      whole_eq_zero := fun h => by rw [Option.some.inj h]
      fraction_ne_nil := hne, isDigit_fraction := hfraction }
  refine ⟨m, rfl, rfl, ?_, Bool.and_false _⟩
  rintro p ⟨⟩
  refine ⟨rfl, ?_⟩
  unfold power
  dsimp only
  split <;> decide

/-- A normal decimal with an exponent is a numeral. -/
lemma isNumeral_writeScientific (negative : Bool) (hd : d.IsNormal) :
    IsNumeral negative (key.writeScientific d) := by
  obtain ⟨hne, -, hdigits⟩ := hd
  have hplus : key.plusSign = false := rfl
  unfold writeScientific
  rw [hplus]
  dsimp only
  rw [if_neg Bool.false_ne_true, List.append_assoc, List.cons_append, ← behind_power]
  split
  · rename_i first second rest heq
    rw [heq] at hdigits
    obtain ⟨hfirst, hrest⟩ := List.forall_mem_cons.mp hdigits
    have hfraction : ∀ digits ∈ some (second :: rest), ∀ c ∈ digits, isDigit c = true := by
      rintro digits ⟨⟩
      exact hrest
    exact isNumeral_power negative _ (some (second :: rest)) hfirst (by simp) hfraction
  · rename_i hshort
    obtain ⟨first, rest, heq⟩ := List.exists_cons_of_ne_nil hne
    rw [heq] at hdigits ⊢
    cases rest with
    | nil =>
      exact isNumeral_power negative _ none (hdigits first List.mem_cons_self) nofun nofun
    | cons second rest => exact absurd heq (hshort first second rest)

/-- A normal decimal is written as a numeral. -/
lemma isNumeral_writeDecimal (negative : Bool) (hd : d.IsNormal) :
    IsNumeral negative (key.writeDecimal d) := by
  unfold writeDecimal
  split
  · exact isNumeral_writePositional negative hd
  · split
    · exact isNumeral_writePositional negative hd
    · exact isNumeral_writeScientific negative hd

/-- The text of a finite number is a numeral that is read as the number. -/
theorem exists_numeral_write (hfinite : x.isFinite = true) :
    ∃ m : Numeral, m.text = (key.write x).toList ∧ m.isWhole = false ∧ m.nearest? = some x := by
  have hnumeral : IsNumeral x.negative (unsignedText x) := by
    unfold unsignedText
    split
    · have hdigits : ∀ c ∈ ['0'], isDigit c = true := List.forall_mem_singleton.mpr rfl
      exact isNumeral_point x.negative ['0'] ['0'] hdigits hdigits (List.cons_ne_nil _ _)
        (fun _ => rfl) (List.cons_ne_nil _ _)
    · rename_i hzero
      exact isNumeral_writeDecimal x.negative
        (Binary64.isNormal_shortest (Bool.eq_false_iff.mpr hzero))
  obtain ⟨m, hsign, hunsigned, hplain, hwhole⟩ := hnumeral
  have hvalue := Numeral.textValue_unsigned hplain
  rw [hunsigned] at hvalue
  refine ⟨m, ?_, hwhole, ?_⟩
  · rw [toList_write, ← hsign, ← hunsigned]
    rfl
  · rcases textValue_unsignedText x with ⟨hzero, hvalue'⟩ | ⟨hzero, hhas⟩
    · exact Numeral.nearest?_of_zero hsign hzero (hvalue.symm.trans hvalue')
    · exact Numeral.nearest?_of_has hsign hfinite hzero (hvalue ▸ hhas)

end Notation

end ConfigCheck
