import ConfigCheck.Decimal.Notation
import ConfigCheck.Proofs.Decimal.Shortest

/-!
# Layouts of numbers that are keys

The text of a finite number that becomes a key consists of a sign, digits, a point and perhaps a
power of ten, and it stands for the shortest decimal of the number
(`Notation.textValue_writeDecimal`), which rounds to it.  So two numbers are written alike only if
they have the same sign and the same magnitude (`Notation.eq_of_write`).
-/

namespace ConfigCheck

/-! ## What a text stands for -/

/-- The number that digits stand for, perhaps with a point among them. -/
def mantissaValue (cs : List Char) : ℚ :=
  let fraction := (cs.dropWhile (· != '.')).drop 1
  Nat.ofDigitChars 10 (cs.takeWhile (· != '.') ++ fraction) 0 * (10 : ℚ) ^ (-(fraction.length : ℤ))

/-- The integer that digits stand for, perhaps with a minus sign in front. -/
def integerValue : List Char → ℤ
  | '-' :: digits => -(Nat.ofDigitChars 10 digits 0 : ℤ)
  | digits => Nat.ofDigitChars 10 digits 0

/-- The number that the text of a number without a sign stands for. -/
def textValue (cs : List Char) : ℚ :=
  mantissaValue (cs.takeWhile (· != 'e')) *
    (10 : ℚ) ^ integerValue ((cs.dropWhile (· != 'e')).drop 1)

/-- Whether a character is a digit or a sign or mark inside a number. -/
def isDecimalChar (c : Char) : Bool := c.isDigit || ['-', '.', 'e'].contains c

section

variable {whole fraction mantissa power : List Char}

/-- What stands in front of a character is split off. -/
lemma takeWhile_bne {c : Char} {before : List Char} (h : c ∉ before) (behind : List Char) :
    (before ++ c :: behind).takeWhile (· != c) = before ∧
      (before ++ c :: behind).dropWhile (· != c) = c :: behind := by
  have hne : ∀ d ∈ before, (d != c) = true := fun d hd => bne_iff_ne.mpr fun heq => h (heq ▸ hd)
  constructor
  · rw [List.takeWhile_append_of_pos hne, List.takeWhile_cons_of_neg (by simp), List.append_nil]
  · rw [List.dropWhile_append_of_pos hne, List.dropWhile_cons_of_neg (by simp)]

/-- Where a character does not occur nothing is split off. -/
lemma takeWhile_bne_self {c : Char} {cs : List Char} (h : c ∉ cs) :
    cs.takeWhile (· != c) = cs ∧ cs.dropWhile (· != c) = [] := by
  have hne : ∀ d ∈ cs, (d != c) = true := fun d hd => bne_iff_ne.mpr fun heq => h (heq ▸ hd)
  exact ⟨List.takeWhile_eq_self_iff.mpr hne, List.dropWhile_eq_nil_iff.mpr hne⟩

/-- Digits with a point. -/
lemma mantissaValue_point (h : '.' ∉ whole) : mantissaValue (whole ++ '.' :: fraction) =
    Nat.ofDigitChars 10 (whole ++ fraction) 0 * (10 : ℚ) ^ (-(fraction.length : ℤ)) := by
  obtain ⟨htake, hdrop⟩ := takeWhile_bne h fraction
  rw [mantissaValue, htake, hdrop]
  rfl

/-- Digits without a point. -/
lemma mantissaValue_whole (h : '.' ∉ whole) :
    mantissaValue whole = Nat.ofDigitChars 10 whole 0 := by
  obtain ⟨htake, hdrop⟩ := takeWhile_bne_self h
  rw [mantissaValue, htake, hdrop]
  simp

/-- Digits with a power of ten. -/
lemma textValue_power (h : 'e' ∉ mantissa) : textValue (mantissa ++ 'e' :: power) =
    mantissaValue mantissa * (10 : ℚ) ^ integerValue power := by
  obtain ⟨htake, hdrop⟩ := takeWhile_bne h power
  rw [textValue, htake, hdrop]
  rfl

/-- Digits without a power of ten. -/
lemma textValue_mantissa (h : 'e' ∉ mantissa) : textValue mantissa = mantissaValue mantissa := by
  obtain ⟨htake, hdrop⟩ := takeWhile_bne_self h
  rw [textValue, htake, hdrop]
  simp [integerValue]

/-- An integer as it is written stands for itself. -/
lemma integerValue_write (i : ℤ) :
    integerValue ((if i < 0 then ['-'] else []) ++ Nat.toDigits 10 i.natAbs) = i := by
  split
  · rw [List.singleton_append, integerValue, Nat.ofDigitChars_ten_toDigits]
    omega
  · rw [List.nil_append]
    have hdigits : integerValue (Nat.toDigits 10 i.natAbs) =
        Nat.ofDigitChars 10 (Nat.toDigits 10 i.natAbs) 0 := by
      unfold integerValue
      split
      · rename_i heq
        have hminus : '-' ∈ Nat.toDigits 10 i.natAbs := heq ▸ List.mem_cons_self
        exact absurd (Nat.isDigit_of_mem_toDigits (by decide) (by decide) hminus) (by decide)
      · rfl
    rw [hdigits, Nat.ofDigitChars_ten_toDigits]
    omega

end

namespace Notation

variable {d : Decimal}

/-- Digits are neither points nor marks of a power. -/
lemma not_mem_of_isDigit {cs : List Char} {c : Char} (h : ∀ c ∈ cs, c.isDigit = true)
    (hc : c.isDigit = false) : c ∉ cs := fun hmem => by
  rw [h c hmem] at hc
  cases hc

/-- Zeros are digits. -/
lemma isDigit_of_mem_zeros {n : Nat} {c : Char} (h : c ∈ zeros n) : c.isDigit = true := by
  rw [List.eq_of_mem_replicate h]
  rfl

/-- Digits with a point have no power of ten. -/
lemma not_mem_point {whole fraction : List Char} (hwhole : ∀ c ∈ whole, c.isDigit = true)
    (hfraction : ∀ c ∈ fraction, c.isDigit = true) : 'e' ∉ whole ++ '.' :: fraction := by
  rw [List.mem_append, List.mem_cons]
  rintro (hmem | heq | hmem)
  · exact not_mem_of_isDigit hwhole rfl hmem
  · exact absurd heq (by decide)
  · exact not_mem_of_isDigit hfraction rfl hmem

/-- Digits with a point stand for the digits as a whole, less the places behind the point. -/
lemma textValue_point {whole fraction : List Char} (hwhole : ∀ c ∈ whole, c.isDigit = true)
    (hfraction : ∀ c ∈ fraction, c.isDigit = true) : textValue (whole ++ '.' :: fraction) =
      Nat.ofDigitChars 10 (whole ++ fraction) 0 * (10 : ℚ) ^ (-(fraction.length : ℤ)) := by
  rw [textValue_mantissa (not_mem_point hwhole hfraction),
    mantissaValue_point (not_mem_of_isDigit hwhole rfl)]

/-- A number in positional form stands for its decimal. -/
lemma textValue_writePositional (hdigits : ∀ c ∈ d.digits, c.isDigit = true) :
    textValue (key.writePositional d) = d.value := by
  unfold writePositional Decimal.value
  dsimp only
  split
  · -- The digits are behind the point, perhaps with zeros in between.
    rename_i hpoint
    have hfraction : ∀ c ∈ zeros (-d.point).toNat ++ d.digits, c.isDigit = true := by
      intro c hc
      rcases List.mem_append.mp hc with hc | hc
      · exact isDigit_of_mem_zeros hc
      · exact hdigits c hc
    have hwhole : ∀ c ∈ ['0'], c.isDigit = true := List.forall_mem_singleton.mpr rfl
    change textValue (['0'] ++ '.' :: (zeros (-d.point).toNat ++ d.digits)) = _
    rw [textValue_point hwhole hfraction, Nat.ofDigitChars_append, Nat.ofDigitChars_append, zeros,
      Nat.ofDigitChars_replicate_zero, List.length_append, List.length_replicate]
    congr 2
    push_cast
    omega
  · rename_i hpoint
    have hwidth : (d.point.toNat : ℤ) = d.point := by omega
    split
    · -- The digits are before the point, perhaps with zeros behind them.
      rename_i hlength
      have hkeeps : key.keepsPoint = true := rfl
      have hwhole : ∀ c ∈ d.digits ++ zeros (d.point.toNat - d.digits.length),
          c.isDigit = true := by
        intro c hc
        rcases List.mem_append.mp hc with hc | hc
        · exact hdigits c hc
        · exact isDigit_of_mem_zeros hc
      have hfraction : ∀ c ∈ ['0'], c.isDigit = true := List.forall_mem_singleton.mpr rfl
      have hexponent : d.point - d.digits.length = (d.point.toNat - d.digits.length : ℕ) := by
        omega
      rw [hkeeps, if_pos rfl, textValue_point hwhole hfraction, Nat.ofDigitChars_append,
        Nat.ofDigitChars_append, zeros, Nat.ofDigitChars_replicate_zero, hexponent, zpow_natCast,
        Nat.ofDigitChars_cons, Nat.ofDigitChars_nil]
      push_cast
      simp only [List.length_singleton, Nat.cast_one, zpow_neg, zpow_one, add_zero]
      ring
    · -- The point is among the digits.
      rename_i hlength
      have hwhole : ∀ c ∈ d.digits.take d.point.toNat, c.isDigit = true := fun c hc =>
        hdigits c (List.mem_of_mem_take hc)
      have hfraction : ∀ c ∈ d.digits.drop d.point.toNat, c.isDigit = true := fun c hc =>
        hdigits c (List.mem_of_mem_drop hc)
      rw [textValue_point hwhole hfraction, List.take_append_drop, List.length_drop]
      congr 2
      omega

/-- A number with an exponent stands for its decimal. -/
lemma textValue_writeScientific (hdigits : ∀ c ∈ d.digits, c.isDigit = true) :
    textValue (key.writeScientific d) = d.value := by
  have hplus : key.plusSign = false := rfl
  unfold writeScientific Decimal.value
  rw [hplus]
  dsimp only
  rw [if_neg Bool.false_ne_true, List.append_assoc, List.cons_append]
  split
  · rename_i first second rest heq
    rw [heq] at hdigits
    obtain ⟨hfirst, hrest⟩ := List.forall_mem_cons.mp hdigits
    have hwhole : ∀ c ∈ [first], c.isDigit = true := List.forall_mem_singleton.mpr hfirst
    have hpower : 'e' ∉ [first] ++ '.' :: second :: rest := not_mem_point hwhole hrest
    have hexponent : d.point - (first :: second :: rest).length =
        -((second :: rest).length : ℤ) + (d.point - 1) := by
      rw [List.length_cons]
      push_cast
      ring
    change textValue (([first] ++ '.' :: second :: rest) ++ 'e' :: _) = _
    rw [textValue_power hpower, integerValue_write,
      mantissaValue_point (not_mem_of_isDigit hwhole rfl), heq, hexponent, zpow_add₀ (by norm_num),
      ← mul_assoc, List.singleton_append]
  · rename_i hshort
    rw [textValue_power (not_mem_of_isDigit hdigits rfl), integerValue_write,
      mantissaValue_whole (not_mem_of_isDigit hdigits rfl)]
    cases heq : d.digits with
    | nil => simp
    | cons first rest =>
      cases rest with
      | nil => rfl
      | cons second rest => exact absurd heq (hshort first second rest)

/-- The text of a positive number without its sign stands for its decimal. -/
theorem textValue_writeDecimal (hdigits : ∀ c ∈ d.digits, c.isDigit = true) :
    textValue (key.writeDecimal d) = d.value := by
  unfold writeDecimal
  split
  · exact textValue_writePositional hdigits
  · split
    · exact textValue_writePositional hdigits
    · exact textValue_writeScientific hdigits

/-! ## Characters -/

lemma isDecimalChar_of_isDigit {c : Char} (h : c.isDigit = true) : isDecimalChar c = true := by
  rw [isDecimalChar, h, Bool.true_or]

/-- A number in positional form has digits and a point. -/
lemma isDecimalChar_of_mem_writePositional (n : Notation)
    (hdigits : ∀ c ∈ d.digits, c.isDigit = true) :
    ∀ c ∈ n.writePositional d, isDecimalChar c = true := by
  intro c hc
  unfold writePositional at hc
  dsimp only at hc
  split at hc
  · rw [List.cons_append, List.cons_append, List.mem_cons, List.mem_cons, List.mem_append] at hc
    rcases hc with rfl | rfl | hc | hc
    · rfl
    · rfl
    · exact isDecimalChar_of_isDigit (isDigit_of_mem_zeros hc)
    · exact isDecimalChar_of_isDigit (hdigits c hc)
  · split at hc
    · rw [List.mem_append, List.mem_append] at hc
      rcases hc with (hc | hc) | hc
      · exact isDecimalChar_of_isDigit (hdigits c hc)
      · exact isDecimalChar_of_isDigit (isDigit_of_mem_zeros hc)
      · split at hc
        · have hpoint : ['.', '0'].all isDecimalChar = true := by decide
          exact List.all_eq_true.mp hpoint c hc
        · cases hc
    · rcases List.mem_append.mp hc with hc | hc
      · exact isDecimalChar_of_isDigit (hdigits c (List.mem_of_mem_take hc))
      · rcases List.mem_cons.mp hc with rfl | hc
        · rfl
        · exact isDecimalChar_of_isDigit (hdigits c (List.mem_of_mem_drop hc))

/-- A number with an exponent has digits, a point, a sign and the mark of the exponent. -/
lemma isDecimalChar_of_mem_writeScientific (n : Notation)
    (hdigits : ∀ c ∈ d.digits, c.isDigit = true) :
    ∀ c ∈ n.writeScientific d, isDecimalChar c = true ∨ c = '+' ∧ n.plusSign = true := by
  intro c hc
  unfold writeScientific at hc
  dsimp only at hc
  rw [List.mem_append, List.mem_append, List.mem_cons] at hc
  rcases hc with (hc | rfl | hc) | hc
  · left
    split at hc
    · rename_i first second rest heq
      rw [heq] at hdigits
      rcases List.mem_cons.mp hc with rfl | hc
      · exact isDecimalChar_of_isDigit (hdigits _ List.mem_cons_self)
      · rcases List.mem_cons.mp hc with rfl | hc
        · rfl
        · exact isDecimalChar_of_isDigit (hdigits c (List.mem_cons_of_mem _ hc))
    · exact isDecimalChar_of_isDigit (hdigits c hc)
  · exact .inl rfl
  · split at hc
    · rw [List.mem_singleton.mp hc]
      exact .inl rfl
    · split at hc
      · rename_i hplus
        exact .inr ⟨List.mem_singleton.mp hc, hplus⟩
      · cases hc
  · exact .inl (isDecimalChar_of_isDigit (Nat.isDigit_of_mem_toDigits (by decide) (by decide) hc))

/-- A positive number is written with a few characters. -/
lemma isDecimalChar_of_mem_writeDecimal (n : Notation)
    (hdigits : ∀ c ∈ d.digits, c.isDigit = true) :
    ∀ c ∈ n.writeDecimal d, isDecimalChar c = true ∨ c = '+' ∧ n.plusSign = true := by
  have hpositional : ∀ c ∈ n.writePositional d,
      isDecimalChar c = true ∨ c = '+' ∧ n.plusSign = true := fun c hc =>
    .inl (isDecimalChar_of_mem_writePositional n hdigits c hc)
  unfold writeDecimal
  split
  · exact hpositional
  · split
    · exact hpositional
    · exact isDecimalChar_of_mem_writeScientific n hdigits

/-- A positive number has a point or a power of ten. -/
lemma mark_mem_writeDecimal (d : Decimal) :
    '.' ∈ key.writeDecimal d ∨ 'e' ∈ key.writeDecimal d := by
  have hpositional : '.' ∈ key.writePositional d := by
    have hpoint : key.keepsPoint = true := rfl
    unfold writePositional
    dsimp only
    rw [hpoint, if_pos rfl]
    split
    · simp
    · split
      · simp
      · simp
  have hscientific : 'e' ∈ key.writeScientific d := by
    unfold writeScientific
    simp
  unfold writeDecimal
  split
  · exact .inl hpositional
  · split
    · exact .inl hpositional
    · exact .inr hscientific

/-- A positive number does not begin with a minus sign. -/
lemma head?_writeDecimal (hdigits : ∀ c ∈ d.digits, c.isDigit = true) :
    (key.writeDecimal d).head? ≠ some '-' := by
  have hminus : '-' ∉ d.digits := not_mem_of_isDigit hdigits rfl
  have hpositional : '-' ∉ key.writePositional d := by
    unfold writePositional
    dsimp only
    split
    · simp [hminus, zeros]
    · split
      · simp [hminus, zeros, key]
      · rw [List.mem_append, List.mem_cons]
        rintro (hmem | heq | hmem)
        · exact hminus (List.mem_of_mem_take hmem)
        · exact absurd heq (by decide)
        · exact hminus (List.mem_of_mem_drop hmem)
  have hscientific : (key.writeScientific d).head? ≠ some '-' := by
    unfold writeScientific
    dsimp only
    split
    · rename_i first second rest heq
      rw [heq, List.mem_cons] at hminus
      simpa using fun h : first = '-' => hminus (.inl h.symm)
    · cases heq : d.digits with
      | nil => simp
      | cons first rest =>
        rw [heq, List.mem_cons] at hminus
        simpa using fun h : first = '-' => hminus (.inl h.symm)
  have hhead (h : (key.writePositional d).head? = some '-') : False :=
    hpositional (List.mem_of_mem_head? h)
  unfold writeDecimal
  split
  · exact hhead
  · split
    · exact hhead
    · exact hscientific

/-! ## Texts -/

/-- The digits of a shortest decimal are digits. -/
lemma isDigit_of_mem_shortest {x : Binary64} : ∀ c ∈ x.shortest.digits, c.isDigit = true := by
  intro c hc
  unfold Binary64.shortest Decimal.ofSteps at hc
  dsimp only at hc
  rw [List.mem_reverse] at hc
  have hmem := (List.dropWhile_sublist _).subset hc
  exact Nat.isDigit_of_mem_toDigits (by decide) (by decide) (List.mem_reverse.mp hmem)

variable {x y : Binary64}

/-- A finite number is written with a few characters. -/
lemma isDecimalChar_of_mem_write (n : Notation) :
    ∀ c ∈ (n.write x).toList, isDecimalChar c = true ∨ c = '+' ∧ n.plusSign = true := by
  intro c hc
  unfold write at hc
  dsimp only at hc
  rw [String.toList_ofList, List.mem_append] at hc
  rcases hc with hsign | hbody
  · split at hsign
    · rw [List.mem_singleton.mp hsign]
      exact .inl rfl
    · cases hsign
  · split at hbody
    · left
      rcases List.mem_cons.mp hbody with rfl | hpoint
      · rfl
      · split at hpoint
        · have hall : ['.', '0'].all isDecimalChar = true := by decide
          exact List.all_eq_true.mp hall c hpoint
        · cases hpoint
    · exact isDecimalChar_of_mem_writeDecimal n isDigit_of_mem_shortest c hbody

/-- A number that is a key has no plus sign. -/
lemma isDecimalChar_of_mem_key : ∀ c ∈ (key.write x).toList, isDecimalChar c = true := by
  intro c hc
  rcases isDecimalChar_of_mem_write key c hc with hdecimal | ⟨-, hplus⟩
  · exact hdecimal
  · cases hplus

/-- The text of a number without its sign. -/
def unsignedText (x : Binary64) : List Char :=
  if x.isZero then ['0', '.', '0'] else key.writeDecimal x.shortest

/-- A number is written as its sign and the rest. -/
lemma toList_write (x : Binary64) :
    (key.write x).toList = (if x.negative then ['-'] else []) ++ unsignedText x := by
  unfold write unsignedText
  rw [String.toList_ofList]
  rfl

/-- A finite number has a point or a power of ten. -/
lemma mark_mem_write (x : Binary64) : '.' ∈ (key.write x).toList ∨ 'e' ∈ (key.write x).toList := by
  have hmark : '.' ∈ unsignedText x ∨ 'e' ∈ unsignedText x := by
    unfold unsignedText
    split
    · exact .inl (by decide)
    · exact mark_mem_writeDecimal _
  rw [toList_write, List.mem_append, List.mem_append]
  exact hmark.imp .inr .inr

/-- The text without the sign does not begin with one. -/
lemma head?_unsignedText (x : Binary64) : (unsignedText x).head? ≠ some '-' := by
  unfold unsignedText
  split
  · decide
  · exact head?_writeDecimal isDigit_of_mem_shortest

/-- What the text without the sign stands for is zero for zero, and rounds to the number
otherwise. -/
lemma textValue_unsignedText (x : Binary64) :
    (x.isZero = true ∧ textValue (unsignedText x) = 0) ∨
      (x.isZero = false ∧ x.roundingInterval.Has (textValue (unsignedText x))) := by
  unfold unsignedText
  cases hzero : x.isZero with
  | true =>
    have hdigits : ∀ c ∈ ['0'], c.isDigit = true := List.forall_mem_singleton.mpr rfl
    rw [if_pos rfl]
    refine .inl ⟨rfl, ?_⟩
    exact (textValue_point hdigits hdigits).trans (zero_mul _)
  | false =>
    rw [if_neg Bool.false_ne_true, textValue_writeDecimal isDigit_of_mem_shortest]
    exact .inr ⟨rfl, Binary64.has_shortest hzero⟩

/-- Numbers that are written alike have the same sign and the same magnitude. -/
theorem eq_of_write (h : key.write x = key.write y) :
    x.negative = y.negative ∧ x.units = y.units := by
  have htext := congrArg String.toList h
  rw [toList_write, toList_write] at htext
  have hsign : x.negative = y.negative ∧ unsignedText x = unsignedText y := by
    have hx := head?_unsignedText x
    have hy := head?_unsignedText y
    cases hnx : x.negative <;> cases hny : y.negative <;>
      simp only [hnx, hny, Bool.false_eq_true, if_false, if_true, List.nil_append,
        List.singleton_append] at htext
    · exact ⟨rfl, htext⟩
    · rw [htext] at hx
      exact absurd rfl hx
    · rw [← htext] at hy
      exact absurd rfl hy
    · exact ⟨rfl, List.tail_eq_of_cons_eq htext⟩
  refine ⟨hsign.1, ?_⟩
  have hx := textValue_unsignedText x
  rw [hsign.2] at hx
  rcases hx with ⟨hx, hzero⟩ | ⟨hx, hhas⟩ <;>
    rcases textValue_unsignedText y with ⟨hy, hzero'⟩ | ⟨hy, hhas'⟩
  · rw [Binary64.units_eq_zero hx, Binary64.units_eq_zero hy]
  · rw [hzero] at hhas'
    exact absurd hhas' (Binary64.not_has_zero hy)
  · rw [hzero'] at hhas
    exact absurd hhas (Binary64.not_has_zero hx)
  · exact Binary64.units_eq_of_has hhas hhas'

end Notation

end ConfigCheck
