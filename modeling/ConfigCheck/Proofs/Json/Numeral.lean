import ConfigCheck.Json.Reader
import ConfigCheck.Proofs.Outcome
import Mathlib.Data.List.TakeWhile

/-!
# Numerals

A number as it is written in a JSON text, and what it writes: an integer of at most 64 bits
(`Numeral.integer?`), or else something near to a floating-point number (`Numeral.nearest?`).

Whatever the reader takes for a number is the text of a numeral, and it gives the integer if there
is one (`exists_numeral`).  Whether the floating-point number that it gives otherwise is the nearest
one is left open, because the reader does not always round to it (`Numeral.Keeps`).
-/

namespace ConfigCheck.Json

/-- The value of digits behind others. -/
def natFrom (n : Nat) (digits : List Char) : Nat :=
  digits.foldl (fun n c => n * 10 + digitValue c) n

/-- The power of ten behind a number. -/
structure Power where
  /-- The letter in front. -/
  letter : Char
  /-- The sign, if there is one. -/
  sign : Option Char
  /-- The digits. -/
  digits : List Char
  /-- The letter is an e. -/
  letter_eq : letter = 'e' ∨ letter = 'E'
  /-- The sign is one of two. -/
  sign_eq : sign = none ∨ sign = some '+' ∨ sign = some '-'
  /-- There is a digit. -/
  digits_ne_nil : digits ≠ []
  /-- The digits are digits. -/
  isDigit_digits : ∀ c ∈ digits, isDigit c = true

/-- A number as it is written. -/
structure Numeral where
  /-- Whether there is a minus sign. -/
  negative : Bool
  /-- The digits before the point. -/
  whole : List Char
  /-- The digits behind the point, if there is one. -/
  fraction : Option (List Char)
  /-- The power of ten, if there is one. -/
  power : Option Power
  /-- There is a digit before the point. -/
  whole_ne_nil : whole ≠ []
  /-- The digits before the point are digits. -/
  isDigit_whole : ∀ c ∈ whole, isDigit c = true
  /-- No digit comes behind a leading zero. -/
  whole_eq_zero : whole.head? = some '0' → whole = ['0']
  /-- There are digits behind the point. -/
  fraction_ne_nil : fraction ≠ some []
  /-- The digits behind the point are digits. -/
  isDigit_fraction : ∀ digits ∈ fraction, ∀ c ∈ digits, isDigit c = true

/-- What is written behind the letter of a power. -/
def Power.behind (p : Power) : List Char := p.sign.toList ++ p.digits

/-- The exponent. -/
def Power.exponent (p : Power) : Int :=
  if p.sign = some '-' then -(natFrom 0 p.digits : Int) else natFrom 0 p.digits

namespace Numeral

/-- The fraction and the power as they are written. -/
def tail (m : Numeral) : List Char :=
  m.fraction.elim [] ('.' :: ·) ++ m.power.elim [] fun p => p.letter :: p.behind

/-- The number as it is written, without its sign. -/
def unsigned (m : Numeral) : List Char := m.whole ++ m.tail

/-- The number as it is written. -/
def text (m : Numeral) : List Char := (if m.negative then ['-'] else []) ++ m.unsigned

/-- Whether there is neither a fraction nor a power. -/
def isWhole (m : Numeral) : Bool := m.fraction.isNone && m.power.isNone

/-- The integer of at most 64 bits that is written; it has a fraction or a power otherwise, or it is
the zero with a minus sign. -/
def integer? (m : Numeral) : Option Int :=
  if !m.isWhole then none
  else
    let n := natFrom 0 m.whole
    if !m.negative then if n < 2 ^ 64 then some n else none
    else if 1 ≤ n && n ≤ 2 ^ 63 then some (-n) else none

/-- The floating-point number nearest to what is written, unless that is too large. -/
def nearest? (m : Numeral) : Option Binary64 :=
  let fraction := m.fraction.getD []
  let exponent := m.power.elim 0 Power.exponent
  (some (Binary64.ofDecimal m.negative (natFrom 0 (m.whole ++ fraction))
    (exponent - fraction.length))).filter Binary64.isFinite

/-- The kind of number that is read: the integer if there is one, else a floating-point number. -/
def IsRead (m : Numeral) : Number → Prop
  | .int i => m.integer? = some i
  | .float _ => m.integer? = none

/-- A number keeps what is written: a floating-point number is the nearest one and does not stand
for the whole number zero with a minus sign. -/
def Keeps (m : Numeral) : Number → Prop
  | .int _ => True
  | .float x => m.nearest? = some x ∧ ¬ (m.isWhole = true ∧ natFrom 0 m.whole = 0)

end Numeral

/-! ## Characters -/

/-- A digit is none of the other characters. -/
lemma ne_of_isDigit {c d : Char} (hc : isDigit c = true) (hd : isDigit d = false) : c ≠ d := by
  rintro rfl
  exact absurd (hc.symm.trans hd) (by decide)

/-- A digit counts less than ten. -/
lemma digitValue_lt {c : Char} (h : isDigit c = true) : digitValue c < 10 := by
  unfold isDigit at h
  rw [Bool.and_eq_true, decide_eq_true_iff, decide_eq_true_iff] at h
  have hle : c.toNat ≤ '9'.toNat := h.2
  change c.toNat ≤ 57 at hle
  change c.toNat - 48 < 10
  omega

/-- A digit is told by what it counts. -/
lemma eq_of_digitValue_eq {c d : Char} (hc : isDigit c = true) (hd : isDigit d = true)
    (h : digitValue c = digitValue d) : c = d := by
  unfold isDigit at hc hd
  rw [Bool.and_eq_true, decide_eq_true_iff, decide_eq_true_iff] at hc hd
  have hc' : '0'.toNat ≤ c.toNat := hc.1
  have hd' : '0'.toNat ≤ d.toNat := hd.1
  unfold digitValue at h
  exact Char.toNat_inj.mp (by omega)

/-- A power consists of its letter, perhaps a sign, and digits. -/
lemma Power.mem_cases (p : Power) {c : Char} (h : c ∈ p.letter :: p.behind) :
    isDigit c = true ∨ c ∈ ['e', 'E', '+', '-'] := by
  rcases List.mem_cons.mp h with rfl | h
  · rcases p.letter_eq with heq | heq <;> (rw [heq]; decide)
  · rcases List.mem_append.mp h with h | h
    · rcases p.sign_eq with heq | heq | heq <;> (rw [heq] at h; simp at h) <;> simp [h]
    · exact .inl (p.isDigit_digits c h)

/-- A numeral consists of digits, signs, a point and the letter of a power. -/
lemma Numeral.mem_text_cases (m : Numeral) {c : Char} (h : c ∈ m.text) :
    isDigit c = true ∨ c ∈ ['.', 'e', 'E', '+', '-'] := by
  rcases List.mem_append.mp h with h | h
  · split at h
    · rw [List.mem_singleton.mp h]
      decide
    · cases h
  · rcases List.mem_append.mp h with h | h
    · exact .inl (m.isDigit_whole c h)
    · rcases List.mem_append.mp h with h | h
      · cases hfraction : m.fraction with
        | none => simp [hfraction] at h
        | some digits =>
          rw [hfraction] at h
          rcases List.mem_cons.mp h with rfl | h
          · decide
          · exact .inl (m.isDigit_fraction digits hfraction c h)
      · cases hpower : m.power with
        | none => simp [hpower] at h
        | some p =>
          rw [hpower] at h
          exact (p.mem_cases h).imp_right (List.mem_cons_of_mem '.')

/-! ## Digits -/

lemma le_natFrom (n : Nat) (digits : List Char) : n ≤ natFrom n digits := by
  induction digits generalizing n with
  | nil => exact Nat.le_refl n
  | cons c rest ih =>
    have hstep : n ≤ n * 10 + digitValue c := by omega
    exact Nat.le_trans hstep (ih _)

/-- Digits are absorbed as long as their value fits into 64 bits. -/
lemma absorb_spec {n : Nat} (hn : n < 2 ^ 64) (digits : List Char) :
    ((absorb n digits).2 = 0 →
      (absorb n digits).1 = natFrom n digits ∧ natFrom n digits < 2 ^ 64) ∧
    ((absorb n digits).2 ≠ 0 → 2 ^ 64 ≤ natFrom n digits) := by
  induction digits generalizing n with
  | nil => exact ⟨fun _ => ⟨rfl, hn⟩, fun h => absurd rfl h⟩
  | cons c rest ih =>
    rw [absorb]
    split
    · rename_i hnext
      exact ih hnext
    · rename_i hnext
      refine ⟨fun h => by simp at h, fun _ => ?_⟩
      exact Nat.le_trans (Nat.le_of_not_lt hnext) (le_natFrom _ rest)

/-- What is left out of the digits of an exponent is digits again. -/
lemma exponentDigits_spec (n : Nat) (cs : List Char) :
    ∃ digits, (∀ c ∈ digits, isDigit c = true) ∧ cs = digits ++ (exponentDigits n cs).2.2 := by
  induction cs generalizing n with
  | nil => exact ⟨[], by simp, rfl⟩
  | cons c rest ih =>
    rw [exponentDigits]
    split
    · rename_i hc
      dsimp only
      split
      · obtain ⟨digits, hdigits, hrest⟩ := ih (n * 10 + digitValue c)
        refine ⟨c :: digits, List.forall_mem_cons.mpr ⟨hc, hdigits⟩, ?_⟩
        rw [List.cons_append, ← hrest]
      · exact ⟨[c], by simpa using hc, rfl⟩
    · exact ⟨[], by simp, rfl⟩

/-! ## What is read -/

/-- A floating-point number is made without taking anything. -/
lemma floatOfParts_eq_ok {negative : Bool} {significand : Nat} {exponent : Int}
    {cs rest : List Char}
    {n : Number} (h : floatOfParts negative significand exponent cs = .ok (n, rest)) :
    (∃ x, n = .float x) ∧ cs = rest := by
  unfold floatOfParts at h
  split at h
  · cases h
  · cases h
    exact ⟨⟨_, rfl⟩, rfl⟩

/-- Behind the letter of a power come a sign and digits. -/
lemma readExponent_eq_ok {negative : Bool} {significand : Nat} {start : Int} {cs rest : List Char}
    {n : Number} (h : readExponent negative significand start cs = .ok (n, rest)) :
    (∃ x, n = .float x) ∧ ∃ sign digits, (sign = none ∨ sign = some '+' ∨ sign = some '-') ∧
      digits ≠ [] ∧ (∀ c ∈ digits, isDigit c = true) ∧ cs = sign.toList ++ digits ++ rest := by
  unfold readExponent at h
  split at h
  rename_i down behind heq
  have hsign : ∃ sign, (sign = none ∨ sign = some '+' ∨ sign = some '-') ∧
      cs = sign.toList ++ behind := by
    split at heq
    · cases heq
      exact ⟨some '+', .inr (.inl rfl), rfl⟩
    · cases heq
      exact ⟨some '-', .inr (.inr rfl), rfl⟩
    · cases heq
      exact ⟨none, .inl rfl, rfl⟩
  obtain ⟨sign, hsign, rfl⟩ := hsign
  clear heq
  split at h
  · cases h
  · rename_i c behind
    split at h
    · rename_i hc
      obtain ⟨digits, hdigits, hrest⟩ := exponentDigits_spec (digitValue c) behind
      have hall : ∀ d ∈ c :: digits, isDigit d = true := List.forall_mem_cons.mpr ⟨hc, hdigits⟩
      split at h
      · rename_i heq
        rw [heq] at hrest
        obtain ⟨hfloat, rfl⟩ := floatOfParts_eq_ok h
        refine ⟨hfloat, sign, c :: digits, hsign, List.cons_ne_nil _ _, hall, ?_⟩
        simp [hrest]
      · rename_i more heq
        rw [heq] at hrest
        split at h
        · cases h
        · cases h
          refine ⟨⟨_, rfl⟩, sign, c :: digits ++ more.takeWhile isDigit, hsign, by simp, ?_, ?_⟩
          · intro d hd
            rcases List.mem_append.mp hd with hd | hd
            · exact hall d hd
            · exact List.mem_takeWhile_imp hd
          · simp [hrest]
    · cases h

/-- A letter e and what is read behind it are a power. -/
lemma exists_power {negative : Bool} {significand : Nat} {start : Int} {e : Char}
    {cs rest : List Char} {n : Number} (he : e = 'e' ∨ e = 'E')
    (h : readExponent negative significand start cs = .ok (n, rest)) :
    (∃ x, n = .float x) ∧ ∃ p : Power, e :: cs = p.letter :: p.behind ++ rest := by
  obtain ⟨hfloat, sign, digits, hsign, hne, hall, rfl⟩ := readExponent_eq_ok h
  exact ⟨hfloat, ⟨e, sign, digits, he, hsign, hne, hall⟩, rfl⟩

/-- Behind the point come digits and perhaps a power. -/
lemma readFraction_eq_ok {negative : Bool} {significand : Nat} {start : Int} {cs rest : List Char}
    {n : Number} (h : readFraction negative significand start cs = .ok (n, rest)) :
    (∃ x, n = .float x) ∧ ∃ digits, digits ≠ [] ∧ (∀ c ∈ digits, isDigit c = true) ∧
      ∃ power : Option Power,
        cs = digits ++ (power.elim [] fun p => p.letter :: p.behind) ++ rest := by
  unfold readFraction at h
  dsimp only at h
  split at h
  · split at h <;> cases h
  · rename_i hne
    have hcs : cs = cs.takeWhile isDigit ++ cs.dropWhile isDigit :=
      List.takeWhile_append_dropWhile.symm
    have hall : ∀ c ∈ cs.takeWhile isDigit, isDigit c = true := fun _ => List.mem_takeWhile_imp
    have hpower : (∃ x, n = .float x) ∧ ∃ power : Option Power,
        cs.dropWhile isDigit = (power.elim [] fun p => p.letter :: p.behind) ++ rest := by
      split at h
      · rename_i behind heq
        obtain ⟨hfloat, p, hp⟩ := exists_power (.inl rfl) h
        exact ⟨hfloat, some p, heq.trans hp⟩
      · rename_i behind heq
        obtain ⟨hfloat, p, hp⟩ := exists_power (.inr rfl) h
        exact ⟨hfloat, some p, heq.trans hp⟩
      · obtain ⟨hfloat, hrest⟩ := floatOfParts_eq_ok h
        exact ⟨hfloat, none, hrest⟩
    obtain ⟨hfloat, power, hpower⟩ := hpower
    refine ⟨hfloat, _, hne, hall, power, ?_⟩
    rw [List.append_assoc, ← hpower]
    exact hcs

/-- Digits alone are read as the integer that they write, if it fits into 64 bits. -/
lemma wholeNumber_eq_ok {m : Numeral} (hwhole : m.isWhole = true) {cs rest : List Char} {n : Number}
    (h : wholeNumber m.negative (absorb 0 m.whole).1 (absorb 0 m.whole).2 cs = .ok (n, rest)) :
    m.IsRead n ∧ cs = rest := by
  obtain ⟨hfits, hlarge⟩ := absorb_spec (by decide : 0 < 2 ^ 64) m.whole
  have hinteger : m.integer? = if !m.negative then
      if natFrom 0 m.whole < 2 ^ 64 then some (natFrom 0 m.whole : Int) else none
      else if 1 ≤ natFrom 0 m.whole && natFrom 0 m.whole ≤ 2 ^ 63 then
        some (-(natFrom 0 m.whole : Int)) else none := by
    unfold Numeral.integer?
    rw [hwhole]
    rfl
  unfold wholeNumber at h
  by_cases hleft : (absorb 0 m.whole).2 = 0
  · obtain ⟨hvalue, hlt⟩ := hfits hleft
    rw [if_neg (by simpa using hleft), hvalue] at h
    split at h
    · rename_i hpositive
      cases h
      refine ⟨?_, rfl⟩
      unfold Numeral.IsRead
      rw [hinteger, if_pos hpositive, if_pos hlt]
    · rename_i hnegative
      rw [if_neg hnegative] at hinteger
      split at h
      · rename_i hbounds
        cases h
        refine ⟨?_, rfl⟩
        unfold Numeral.IsRead
        rw [hinteger, if_pos hbounds]
      · rename_i hbounds
        cases h
        refine ⟨?_, rfl⟩
        unfold Numeral.IsRead
        rw [hinteger, if_neg hbounds]
  · have hge := hlarge hleft
    rw [if_pos hleft] at h
    obtain ⟨⟨x, rfl⟩, rfl⟩ := floatOfParts_eq_ok h
    refine ⟨?_, rfl⟩
    have hbounds : ¬ (1 ≤ natFrom 0 m.whole && natFrom 0 m.whole ≤ 2 ^ 63) = true := by
      rw [Bool.and_eq_true, decide_eq_true_iff, decide_eq_true_iff]
      omega
    change m.integer? = none
    rw [hinteger, if_neg hbounds]
    split
    · exact if_neg (Nat.not_lt.mpr hge)
    · rfl

/-- A number that is read is the text of a numeral, and is the integer that it writes if there is
one. -/
theorem exists_numeral {negative : Bool} {cs rest : List Char} {n : Number}
    (h : readNumber negative cs = .ok (n, rest)) :
    ∃ m : Numeral, m.negative = negative ∧ cs = m.unsigned ++ rest ∧ m.IsRead n := by
  unfold readNumber at h
  split at h
  · cases h
  · rename_i c behind
    split at h
    · cases h
    · rename_i hc
      rw [Bool.not_eq_true, Bool.not_eq_false'] at hc
      dsimp only at h
      split at h
      · cases h
      · rename_i hzero
        have hcs : c :: behind =
            (c :: behind).takeWhile isDigit ++ (c :: behind).dropWhile isDigit :=
          List.takeWhile_append_dropWhile.symm
        have hall : ∀ d ∈ (c :: behind).takeWhile isDigit, isDigit d = true :=
          fun _ => List.mem_takeWhile_imp
        have hhead : ∃ more, (c :: behind).takeWhile isDigit = c :: more := by
          rw [List.takeWhile_cons_of_pos hc]
          exact ⟨_, rfl⟩
        obtain ⟨more, hmore⟩ := hhead
        have hlead : ((c :: behind).takeWhile isDigit).head? = some '0' →
            (c :: behind).takeWhile isDigit = ['0'] := by
          rw [hmore] at hzero ⊢
          simp only [List.head?_cons, Option.some.injEq]
          rintro rfl
          simp at hzero
          rw [hzero]
        generalize (c :: behind).takeWhile isDigit = whole at hcs hall hmore hlead h
        have hne : whole ≠ [] := by
          rw [hmore]
          exact List.cons_ne_nil _ _
        split at h
        · rename_i after heq
          obtain ⟨⟨x, rfl⟩, digits, hdigits, hfraction, power, rfl⟩ := readFraction_eq_ok h
          refine ⟨⟨negative, whole, some digits, power, hne, hall, hlead, by simpa using hdigits,
            by simpa using hfraction⟩, rfl, ?_, rfl⟩
          rw [hcs, heq]
          simp [Numeral.unsigned, Numeral.tail]
        · rename_i after heq
          obtain ⟨⟨x, rfl⟩, p, hp⟩ := exists_power (.inl rfl) h
          refine ⟨⟨negative, whole, none, some p, hne, hall, hlead, by simp, by simp⟩, rfl, ?_, rfl⟩
          rw [hcs, heq, hp]
          simp [Numeral.unsigned, Numeral.tail]
        · rename_i after heq
          obtain ⟨⟨x, rfl⟩, p, hp⟩ := exists_power (.inr rfl) h
          refine ⟨⟨negative, whole, none, some p, hne, hall, hlead, by simp, by simp⟩, rfl, ?_, rfl⟩
          rw [hcs, heq, hp]
          simp [Numeral.unsigned, Numeral.tail]
        · let m : Numeral := ⟨negative, whole, none, none, hne, hall, hlead, by simp, by simp⟩
          have hread : m.IsRead n ∧ _ = rest := wholeNumber_eq_ok rfl h
          refine ⟨m, rfl, ?_, hread.1⟩
          rw [hcs, hread.2]
          simp [m, Numeral.unsigned, Numeral.tail]

end ConfigCheck.Json
