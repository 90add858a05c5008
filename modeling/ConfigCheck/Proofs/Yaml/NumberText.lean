import ConfigCheck.Proofs.Decimal.Layout
import ConfigCheck.Yaml.Node
import Mathlib.Tactic.Lemma
import Mathlib.Tactic.SplitIfs

/-!
# The texts of numbers

A number that is a key is written with digits and a few other characters
(`Yaml.isNumberChar_of_mem_writeNumber`), so its text is none of the words that stand for something
else.  Two numbers that are written alike are the same key (`Yaml.sameNumber_of_writeNumber`).
-/

namespace ConfigCheck

/-- A character that the text of a number can have: one of a finite number, or a letter of the names
of the numbers that are not finite. -/
def isNumberChar (c : Char) : Bool := isDecimalChar c || ['i', 'n', 'f', 'a'].contains c

namespace Binary64

variable {x y : Binary64}

/-- A number is finite, an infinity or not a number. -/
lemma kind_cases (x : Binary64) : (x.isFinite = true ∧ x.isNaN = false ∧ x.isInfinite = false) ∨
    (x.isFinite = false ∧ x.isNaN = false ∧ x.isInfinite = true) ∨
    (x.isFinite = false ∧ x.isNaN = true ∧ x.isInfinite = false) := by
  unfold isFinite isNaN isInfinite
  by_cases hexponent : x.biasedExponent = 2047 <;> by_cases hfraction : x.fraction = 0 <;>
    simp [hexponent, hfraction]

/-- There is one infinity of each sign. -/
lemma bits_eq_of_isInfinite (hx : x.isInfinite = true) (hy : y.isInfinite = true)
    (hsign : x.negative = y.negative) : x.bits = y.bits := by
  unfold isInfinite biasedExponent fraction at hx hy
  unfold negative at hsign
  simp only [Bool.and_eq_true, beq_iff_eq] at hx hy
  have hx' := x.bits.toNat_lt
  have hy' := y.bits.toNat_lt
  have hsign' : 2 ^ 63 ≤ x.bits.toNat ↔ 2 ^ 63 ≤ y.bits.toNat := by simpa using hsign
  exact UInt64.toNat_inj.mp (by omega)

end Binary64

namespace Yaml

variable {m n : Number} {x y : Binary64}

/-! ## Characters -/

/-- An integer is written as its sign and its digits. -/
lemma toList_writeNumber_int (i : ℤ) : (writeNumber (.int i)).toList =
    (if i < 0 then ['-'] else []) ++ Nat.toDigits 10 i.natAbs := by
  cases i with
  | ofNat n => exact Nat.toList_repr
  | negSucc n =>
    have htext : writeNumber (.int (Int.negSucc n)) = "-" ++ Nat.repr (n + 1) := rfl
    rw [htext, String.toList_append, Nat.toList_repr, if_pos (Int.negSucc_lt_zero n)]
    rfl

/-- An integer has digits and perhaps a sign. -/
lemma isDigit_of_mem_writeNumber_int {i : ℤ} {c : Char} (h : c ∈ (writeNumber (.int i)).toList) :
    c.isDigit = true ∨ c = '-' := by
  rw [toList_writeNumber_int, List.mem_append] at h
  rcases h with hsign | hdigit
  · split at hsign
    · exact .inr (List.mem_singleton.mp hsign)
    · cases hsign
  · exact .inl (Nat.isDigit_of_mem_toDigits (by decide) (by decide) hdigit)

/-- A number is written with a few characters. -/
theorem isNumberChar_of_mem_writeNumber : ∀ c ∈ (writeNumber n).toList, isNumberChar c = true := by
  intro c hc
  cases n with
  | int i =>
    rcases isDigit_of_mem_writeNumber_int hc with hdigit | rfl
    · rw [isNumberChar, Notation.isDecimalChar_of_isDigit hdigit, Bool.true_or]
    · rfl
  | float x =>
    unfold writeNumber at hc
    dsimp only at hc
    split_ifs at hc
    · have hname : ".nan".toList.all isNumberChar = true := by decide
      exact List.all_eq_true.mp hname c hc
    · have hname : "-.inf".toList.all isNumberChar = true := by decide
      exact List.all_eq_true.mp hname c hc
    · have hname : ".inf".toList.all isNumberChar = true := by decide
      exact List.all_eq_true.mp hname c hc
    · rw [isNumberChar, Notation.isDecimalChar_of_mem_key c hc, Bool.true_or]

/-- A word with another character is not the text of a number. -/
lemma writeNumber_ne {word : String} {c : Char} (hmem : c ∈ word.toList)
    (hc : isNumberChar c = false) : writeNumber n ≠ word := by
  rintro rfl
  rw [isNumberChar_of_mem_writeNumber c hmem] at hc
  cases hc

/-! ## Numbers that are written alike -/

/-- A floating-point number has a point or a power of ten. -/
lemma mark_mem_writeNumber_float (x : Binary64) :
    '.' ∈ (writeNumber (.float x)).toList ∨ 'e' ∈ (writeNumber (.float x)).toList := by
  unfold writeNumber
  dsimp only
  split_ifs
  · exact .inl (by decide)
  · exact .inl (by decide)
  · exact .inl (by decide)
  · exact Notation.mark_mem_write x

/-- Integers that are written alike are equal. -/
lemma eq_of_writeNumber_int {i j : ℤ} (h : writeNumber (.int i) = writeNumber (.int j)) :
    i = j := by
  have htext := congrArg (integerValue ·.toList) h
  rw [toList_writeNumber_int, toList_writeNumber_int, integerValue_write,
    integerValue_write] at htext
  exact htext

/-- An integer and a floating-point number are not written alike. -/
lemma writeNumber_int_ne_float (i : ℤ) (x : Binary64) :
    writeNumber (.int i) ≠ writeNumber (.float x) := by
  intro h
  rcases h ▸ mark_mem_writeNumber_float x with hmark | hmark
  · rcases isDigit_of_mem_writeNumber_int hmark with hdigit | hsign
    · exact absurd hdigit (by decide)
    · exact absurd hsign (by decide)
  · rcases isDigit_of_mem_writeNumber_int hmark with hdigit | hsign
    · exact absurd hdigit (by decide)
    · exact absurd hsign (by decide)

/-- The name of a number that is not finite is not the text of a finite one. -/
lemma write_ne {name : String} (hname : 'n' ∈ name.toList) : Notation.key.write x ≠ name := by
  rintro rfl
  exact absurd (Notation.isDecimalChar_of_mem_key _ hname) (by decide)

/-- The names of the numbers that are not finite have an n. -/
lemma n_mem_infinity (negative : Bool) :
    'n' ∈ (if negative then "-.inf" else ".inf").toList := by
  cases negative
  · decide
  · decide

/-- Floating-point numbers that are written alike are the same key. -/
lemma sameNumber_of_writeNumber_float (h : writeNumber (.float x) = writeNumber (.float y)) :
    sameNumber (.float x) (.float y) = true := by
  unfold writeNumber at h
  unfold sameNumber Binary64.same
  rcases x.kind_cases with ⟨hfx, hnx, hix⟩ | ⟨hfx, hnx, hix⟩ | ⟨hfx, hnx, hix⟩ <;>
    rcases y.kind_cases with ⟨hfy, hny, hiy⟩ | ⟨hfy, hny, hiy⟩ | ⟨hfy, hny, hiy⟩ <;>
    simp only [hfx, hnx, hix, hfy, hny, hiy, Bool.false_eq_true, if_false, if_true] at h ⊢
  · obtain ⟨hsign, hunits⟩ := Notation.eq_of_write h
    simp [Binary64.signedUnits, hsign, hunits]
  · exact absurd h (write_ne (n_mem_infinity _))
  · exact absurd h (write_ne (by decide))
  · exact absurd h.symm (write_ne (n_mem_infinity _))
  · have hsign : x.negative = y.negative := by
      cases hx : x.negative <;> cases hy : y.negative <;> simp [hx, hy] at h ⊢
    simp [Binary64.bits_eq_of_isInfinite hix hiy hsign]
  · cases hx : x.negative <;> simp [hx] at h
  · exact absurd h.symm (write_ne (by decide))
  · cases hy : y.negative <;> simp [hy] at h
  · rfl

/-- Numbers that are written alike are the same key. -/
theorem sameNumber_of_writeNumber (h : writeNumber m = writeNumber n) : sameNumber m n = true := by
  cases m with
  | int i =>
    cases n with
    | int j => exact decide_eq_true (eq_of_writeNumber_int h)
    | float y => exact absurd h (writeNumber_int_ne_float i y)
  | float x =>
    cases n with
    | int j => exact absurd h.symm (writeNumber_int_ne_float j x)
    | float y => exact sameNumber_of_writeNumber_float h

end Yaml

end ConfigCheck
