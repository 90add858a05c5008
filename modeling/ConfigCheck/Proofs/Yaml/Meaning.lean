import ConfigCheck.Proofs.Json.Numeral
import ConfigCheck.Yaml.Scalar

/-!
# The meaning of numerals

A plain scalar that is a numeral of JSON means the integer that it writes, or else the
floating-point number nearest to what it writes (`resolvePlain_text`), so it means the number that
is read from it if it keeps the number (`resolvePlain_numeral`).
-/

namespace ConfigCheck.Yaml

open Json (Numeral Power natFrom ne_of_isDigit)

/-! ## Digits -/

/-- A decimal digit has its value. -/
lemma digitIn?_of_isDigit {c : Char} (h : isDigit c = true) :
    digitIn? 10 c = some (Json.digitValue c) := by
  have hlt : c.toNat - '0'.toNat < 10 := Json.digitValue_lt h
  unfold digitIn? hexValue?
  rw [if_pos h]
  exact Option.filter_some_pos (by simpa using hlt)

/-- The other characters have none in the decimal system. -/
lemma digitIn?_of_not_isDigit {c : Char} (h : isDigit c = false) : digitIn? 10 c = none := by
  unfold digitIn? hexValue?
  rw [if_neg (Bool.eq_false_iff.mp h)]
  split
  · exact Option.filter_some_neg (by simp)
  · split
    · exact Option.filter_some_neg (by simp)
    · rfl

/-- Digits have a value. -/
lemma foldlM_digits {cs : List Char} (h : ∀ c ∈ cs, isDigit c = true) (n : Nat) :
    cs.foldlM (fun n c => (digitIn? 10 c).map (n * 10 + ·)) n = some (natFrom n cs) := by
  induction cs generalizing n with
  | nil => rfl
  | cons c rest ih =>
    obtain ⟨hc, hrest⟩ := List.forall_mem_cons.mp h
    rw [List.foldlM_cons, digitIn?_of_isDigit hc]
    exact ih hrest _

/-- Digits write a number. -/
lemma digits?_of_isDigit {cs : List Char} (hne : cs ≠ []) (h : ∀ c ∈ cs, isDigit c = true) :
    digits? 10 cs = some (natFrom 0 cs) := by
  unfold digits?
  rw [if_neg hne]
  exact foldlM_digits h 0

/-- Nothing else writes a number. -/
lemma digits?_eq_none {before after : List Char} {c : Char} (hc : isDigit c = false)
    (h : ∀ c ∈ before, isDigit c = true) : digits? 10 (before ++ c :: after) = none := by
  unfold digits?
  rw [if_neg (by simp), List.foldlM_append, foldlM_digits h, Option.bind_eq_bind, Option.bind_some,
    List.foldlM_cons, digitIn?_of_not_isDigit hc]
  rfl

/-! ## Numerals -/

variable (m : Numeral)

/-- What stands behind the digits before the point is no digit. -/
lemma tail_cases : (m.isWhole = true ∧ m.tail = []) ∨
    m.isWhole = false ∧ ∃ c rest, m.tail = c :: rest ∧ isDigit c = false ∧ c ∉ ['x', 'o', 'b'] := by
  unfold Numeral.isWhole Numeral.tail
  cases hfraction : m.fraction with
  | some digits => exact .inr ⟨rfl, '.', _, rfl, by decide, by decide⟩
  | none =>
    cases hpower : m.power with
    | none => exact .inl ⟨rfl, rfl⟩
    | some p =>
      refine .inr ⟨rfl, p.letter, _, rfl, ?_, ?_⟩
      · rcases p.letter_eq with h | h <;> rw [h] <;> decide
      · rcases p.letter_eq with h | h <;> rw [h] <;> decide

/-- A numeral starts with a digit, behind its sign; nothing but a fraction or a power comes behind a
leading zero. -/
lemma exists_unsigned_eq_cons : ∃ d rest, m.unsigned = d :: rest ∧ isDigit d = true ∧
    (d = '0' → rest = m.tail) := by
  obtain ⟨d, more, hwhole⟩ := List.exists_cons_of_ne_nil m.whole_ne_nil
  have hzero := m.whole_eq_zero
  have hd := m.isDigit_whole d (by simp [hwhole])
  refine ⟨d, more ++ m.tail, ?_, hd, ?_⟩
  · unfold Numeral.unsigned
    rw [hwhole]
    rfl
  · rintro rfl
    rw [hwhole] at hzero
    cases hzero rfl
    rfl

/-- No sign is dropped where there is none. -/
lemma dropSign_unsigned : dropSign m.unsigned = m.unsigned ∧ dropPlus m.unsigned = m.unsigned ∧
    startsWithSign m.unsigned = false := by
  obtain ⟨d, rest, hm, hd, -⟩ := exists_unsigned_eq_cons m
  have hplus : d ≠ '+' := ne_of_isDigit hd rfl
  have hminus : d ≠ '-' := ne_of_isDigit hd rfl
  rw [hm]
  refine ⟨?_, ?_, ?_⟩
  · unfold dropSign
    split <;> simp_all
  · unfold dropPlus
    split <;> simp_all
  · simp [startsWithSign, hplus, hminus]

/-- A numeral has no digits behind a leading zero. -/
lemma isZeroPadded_unsigned : isZeroPadded m.unsigned = false := by
  unfold isZeroPadded
  rw [(dropSign_unsigned m).1]
  obtain ⟨d, rest, hm, -, hzero⟩ := exists_unsigned_eq_cons m
  rw [hm]
  split
  · rename_i next more heq
    cases heq
    rcases tail_cases m with ⟨-, htail⟩ | ⟨-, c, after, htail, hc, -⟩
    · simp [htail] at hzero
    · rw [htail] at hzero
      cases hzero rfl
      simp [hc]
  · rfl

/-- A numeral has no base of its own. -/
lemma based?_unsigned : based? m.unsigned = none := by
  obtain ⟨d, rest, hm, -, hzero⟩ := exists_unsigned_eq_cons m
  rw [hm]
  have hbase : ∀ c ∈ ['x', 'o', 'b'], ∀ more, d :: rest ≠ '0' :: c :: more := by
    rintro c hc more heq
    cases heq
    rcases tail_cases m with ⟨-, htail⟩ | ⟨-, c', after, htail, -, hc'⟩
    · simp [htail] at hzero
    · rw [htail] at hzero
      cases hzero rfl
      exact hc' hc
  unfold based?
  split
  · exact absurd ‹_› (hbase 'x' (by simp) _)
  · exact absurd ‹_› (hbase 'o' (by simp) _)
  · exact absurd ‹_› (hbase 'b' (by simp) _)
  · rfl

/-- The digits of a numeral write a number if there is nothing else. -/
lemma digits?_unsigned :
    digits? 10 m.unsigned = if m.isWhole then some (natFrom 0 m.whole) else none := by
  rcases tail_cases m with ⟨hwhole, htail⟩ | ⟨hwhole, c, rest, htail, hc, -⟩
  · unfold Numeral.unsigned
    rw [hwhole, htail, List.append_nil, if_pos rfl]
    exact digits?_of_isDigit m.whole_ne_nil m.isDigit_whole
  · unfold Numeral.unsigned
    rw [hwhole, htail]
    exact digits?_eq_none hc m.isDigit_whole

/-- A numeral with a minus sign starts with it, one without does not. -/
lemma text_eq : m.text = if m.negative then '-' :: m.unsigned else m.unsigned := by
  unfold Numeral.text
  split <;> rfl

/-! ## Integers -/

/-- A numeral without a minus sign is an integer if it consists of digits alone. -/
lemma natural?_text (bound : Nat) : natural? bound m.text =
    if !m.negative && m.isWhole then (some (natFrom 0 m.whole)).filter (· < bound) else none := by
  rw [text_eq]
  unfold natural?
  cases m.negative with
  | true => simp [dropPlus, based?, startsWithSign]
  | false =>
    obtain ⟨-, hplus, hsign⟩ := dropSign_unsigned m
    simp only [Bool.false_eq_true, if_false, hplus, based?_unsigned m, hsign,
      isZeroPadded_unsigned m, Bool.or_self, digits?_unsigned m, Bool.not_false, Bool.true_and]
    split <;> rfl

/-- A numeral with a minus sign is an integer if it consists of digits alone. -/
lemma negative?_text (bound : Nat) : negative? bound m.text =
    if m.negative && m.isWhole then (some (natFrom 0 m.whole)).filter (· ≤ bound) else none := by
  rw [text_eq]
  cases m.negative with
  | false =>
    obtain ⟨d, rest, hm, hd, -⟩ := exists_unsigned_eq_cons m
    have hminus : d ≠ '-' := ne_of_isDigit hd rfl
    unfold negative?
    rw [hm]
    simp [hminus]
  | true =>
    unfold negative?
    simp only [if_true, based?_unsigned m, isZeroPadded_unsigned m, Bool.false_eq_true, if_false,
      digits?_unsigned m, Bool.true_and]
    split <;> rfl

/-- A numeral means the integer of at most 64 bits that it writes. -/
lemma integer?_text_of_some {i : Int} (h : m.integer? = some i) :
    integer? m.text = some (.ok i) := by
  unfold Numeral.integer? at h
  unfold integer?
  simp only [natural?_text, negative?_text]
  cases hwhole : m.isWhole with
  | false => simp [hwhole] at h
  | true =>
    cases hnegative : m.negative with
    | false =>
      simp only [hwhole, hnegative, Bool.not_true, Bool.not_false, Bool.false_eq_true, if_false,
        if_true, Option.ite_none_right_eq_some, Option.some.injEq] at h
      obtain ⟨hlt, rfl⟩ := h
      simp [Option.filter_some, hlt]
    | true =>
      simp only [hwhole, hnegative, Bool.not_true, Bool.false_eq_true, if_false,
        Option.ite_none_right_eq_some, Bool.and_eq_true, decide_eq_true_eq, Option.some.injEq] at h
      obtain ⟨⟨-, hle⟩, rfl⟩ := h
      simp [Option.filter_some, hle]

/-- A numeral means no other integer, unless it is a zero. -/
lemma integer?_text_of_none {i : Int} (h : m.integer? = none)
    (hzero : ¬ (m.isWhole = true ∧ natFrom 0 m.whole = 0)) : integer? m.text ≠ some (.ok i) := by
  unfold Numeral.integer? at h
  unfold integer?
  simp only [natural?_text, negative?_text]
  cases hwhole : m.isWhole with
  | false => simp
  | true =>
    have hpos : 1 ≤ natFrom 0 m.whole := Nat.one_le_iff_ne_zero.mpr fun h => hzero ⟨hwhole, h⟩
    cases hnegative : m.negative with
    | false =>
      simp only [hwhole, hnegative, Bool.not_true, Bool.not_false, Bool.false_eq_true, if_false,
        if_true, ite_eq_right_iff, reduceCtorEq, imp_false] at h
      simp only [Option.filter_some, h]
      split <;> simp_all
    | true =>
      simp only [hwhole, hnegative, Bool.not_true, Bool.false_eq_true, if_false,
        ite_eq_right_iff, reduceCtorEq, imp_false, Bool.and_eq_true, decide_eq_true_eq, hpos,
        true_and] at h
      simp only [Option.filter_some, h]
      split <;> simp_all

/-! ## Floating-point numbers -/

/-- The digits of a numeral are what comes first. -/
lemma takeWhile_digits {digits rest : List Char} (h : ∀ c ∈ digits, isDigit c = true)
    (hrest : ∀ c ∈ rest.head?, isDigit c = false) :
    (digits ++ rest).takeWhile isDigit = digits ∧ (digits ++ rest).dropWhile isDigit = rest := by
  rw [List.takeWhile_append_of_pos h, List.dropWhile_append_of_pos h]
  cases rest with
  | nil => simp
  | cons c more =>
    have hc : isDigit c = false := hrest c rfl
    simp [hc]

/-- Behind the letter of a power come its sign and its digits. -/
lemma dropSign_behind (p : Power) : dropSign p.behind = p.digits ∧
    (p.behind.head? = some '-' ↔ p.sign = some '-') := by
  obtain ⟨d, more, hdigits⟩ := List.exists_cons_of_ne_nil p.digits_ne_nil
  have hdigit := p.isDigit_digits d (by simp [hdigits])
  have hplus : d ≠ '+' := ne_of_isDigit hdigit rfl
  have hminus : d ≠ '-' := ne_of_isDigit hdigit rfl
  unfold Power.behind
  rcases p.sign_eq with hsign | hsign | hsign
  · rw [hsign, hdigits]
    simp [dropSign, hplus, hminus]
  · rw [hsign]
    simp [dropSign]
  · rw [hsign]
    simp [dropSign]

/-- A power is read as its exponent. -/
lemma exponent?_power (p : Option Power) :
    exponent? (p.elim [] fun p => p.letter :: p.behind) = some (p.elim 0 Power.exponent) := by
  cases p with
  | none => rfl
  | some p =>
    have hletter : (p.letter = 'e' || p.letter = 'E') = true := by
      simpa using p.letter_eq
    obtain ⟨hdrop, hsign⟩ := dropSign_behind p
    unfold exponent?
    dsimp only [Option.elim_some]
    rw [if_pos hletter, hdrop, digits?_of_isDigit p.digits_ne_nil p.isDigit_digits]
    unfold Power.exponent
    simp only [hsign]
    split <;> rfl

/-- The letter of a power is no digit and no point. -/
lemma head?_power (p : Option Power) :
    ∀ c ∈ (p.elim [] fun p => p.letter :: p.behind).head?, isDigit c = false ∧ c ≠ '.' := by
  cases p with
  | none => simp
  | some p => rcases p.letter_eq with h | h <;> simp [h] <;> decide

/-- A decimal is its digits on both sides of the point and its exponent. -/
lemma decimal?_append {negative : Bool} {whole tail fraction behind : List Char} {n : Nat} {e : Int}
    (hwhole : ∀ c ∈ whole, isDigit c = true) (hfraction : ∀ c ∈ fraction, isDigit c = true)
    (htail : tail = '.' :: (fraction ++ behind) ∨ fraction = [] ∧ tail = behind)
    (hbehind : ∀ c ∈ behind.head?, isDigit c = false ∧ c ≠ '.')
    (hn : digits? 10 (whole ++ fraction) = some n) (he : exponent? behind = some e) :
    decimal? negative (whole ++ tail) = some (.ofDecimal negative n (e - fraction.length)) := by
  have hdigit : ∀ c ∈ tail.head?, isDigit c = false := by
    rcases htail with rfl | ⟨rfl, rfl⟩
    · simp only [List.head?_cons, Option.mem_some_iff, forall_eq']
      decide
    · exact fun c hc => (hbehind c hc).1
  obtain ⟨htake, hdrop⟩ := takeWhile_digits hwhole hdigit
  unfold decimal?
  rw [htake, hdrop]
  dsimp only
  rcases htail with rfl | ⟨rfl, rfl⟩
  · obtain ⟨htake, hdrop⟩ := takeWhile_digits hfraction fun c hc => (hbehind c hc).1
    simp [htake, hdrop, hn, he]
  · rw [List.append_nil] at hn
    cases tail with
    | nil => simp [hn, he]
    | cons c rest =>
      have hpoint : c ≠ '.' := (hbehind c rfl).2
      simp [hpoint, hn, he]

/-- A numeral is read as the number nearest to what it writes. -/
lemma decimal?_unsigned :
    (decimal? m.negative m.unsigned).filter Binary64.isFinite = m.nearest? := by
  have hfraction : ∀ c ∈ m.fraction.getD [], isDigit c = true := by
    cases hdigits : m.fraction with
    | none => simp
    | some digits => exact m.isDigit_fraction digits (by simp [hdigits])
  have hdigits : digits? 10 (m.whole ++ m.fraction.getD []) =
      some (natFrom 0 (m.whole ++ m.fraction.getD [])) :=
    digits?_of_isDigit (by simp [m.whole_ne_nil]) fun c hc =>
      (List.mem_append.mp hc).elim (m.isDigit_whole c) (hfraction c)
  have htail :
      m.tail = '.' :: (m.fraction.getD [] ++ m.power.elim [] fun p => p.letter :: p.behind) ∨
      m.fraction.getD [] = [] ∧ m.tail = m.power.elim [] fun p => p.letter :: p.behind := by
    unfold Numeral.tail
    cases m.fraction with
    | none => exact .inr ⟨rfl, rfl⟩
    | some digits => exact .inl rfl
  unfold Numeral.unsigned Numeral.nearest?
  rw [decimal?_append m.isDigit_whole hfraction htail (head?_power m.power) hdigits
    (exponent?_power m.power)]

/-- Behind its sign a numeral is unsigned. -/
lemma dropSign_text : dropSign m.text = m.unsigned := by
  rw [text_eq]
  split
  · rfl
  · exact (dropSign_unsigned m).1

/-- A numeral is none of the words that do not start with a digit behind their sign. -/
lemma ofList_text_notMem {words : List String}
    (h : ∀ word ∈ words, (dropSign word.toList).head?.any isDigit = false) :
    String.ofList m.text ∉ words := by
  intro hword
  obtain ⟨d, rest, hm, hd, -⟩ := exists_unsigned_eq_cons m
  have hfalse := h _ hword
  rw [String.toList_ofList, dropSign_text, hm, List.head?_cons, Option.any_some] at hfalse
  exact absurd (hd.symm.trans hfalse) (by decide)

/-- A numeral that means no integer means the floating-point number nearest to what it writes. -/
lemma float?_text : float? m.text = m.nearest? := by
  obtain ⟨d, rest, hm, hd, -⟩ := exists_unsigned_eq_cons m
  have hplus : m.text.head? ≠ some '+' ∧ dropPlus m.text = m.text := by
    rw [text_eq]
    split
    · exact ⟨by simp, rfl⟩
    · refine ⟨?_, (dropSign_unsigned m).2.1⟩
      rw [hm]
      rintro heq
      cases heq
      exact absurd hd (by decide)
  unfold float?
  dsimp only
  rw [hplus.2, if_neg (by simp [hplus.1]), if_neg (ofList_text_notMem m (by decide)),
    if_neg (ofList_text_notMem m (by decide)), if_neg (ofList_text_notMem m (by decide)),
    ← decimal?_unsigned, text_eq]
  congr 1
  cases m.negative with
  | true => rfl
  | false =>
    simp only [Bool.false_eq_true, if_false]
    split
    · rename_i heq
      rw [hm] at heq
      cases heq
      exact absurd hd (by decide)
    · rfl

variable {m} in
/-- The integer of a numeral depends on its text alone. -/
lemma integer?_eq_of_unsigned_eq {m' : Numeral} (hnegative : m'.negative = m.negative)
    (h : m'.unsigned = m.unsigned) : m'.integer? = m.integer? := by
  have hparts : ∀ m : Numeral, m.whole = m.unsigned.takeWhile isDigit ∧
      m.isWhole = (m.unsigned.dropWhile isDigit).isEmpty := by
    intro m
    have htail : ∀ c ∈ m.tail.head?, isDigit c = false := by
      rcases tail_cases m with ⟨-, htail⟩ | ⟨-, c, rest, htail, hc, -⟩
      · simp [htail]
      · simpa [htail] using hc
    obtain ⟨htake, hdrop⟩ := takeWhile_digits m.isDigit_whole htail
    refine ⟨htake.symm, ?_⟩
    unfold Numeral.unsigned
    rw [hdrop]
    rcases tail_cases m with ⟨hwhole, htail⟩ | ⟨hwhole, c, rest, htail, -⟩
    · rw [hwhole, htail]
      rfl
    · rw [hwhole, htail]
      rfl
  unfold Numeral.integer?
  rw [(hparts m).1, (hparts m).2, (hparts m').1, (hparts m').2, hnegative, h]

variable {m} in
/-- What is read from a numeral is the integer that it writes if there is one. -/
lemma isRead_of_readNumber {n : Number} {rest : List Char}
    (h : Json.readNumber m.negative (m.unsigned ++ rest) = .ok (n, rest)) : m.IsRead n := by
  obtain ⟨m', hnegative, htext, hread⟩ := Json.exists_numeral h
  have hinteger := integer?_eq_of_unsigned_eq hnegative (List.append_cancel_right htext).symm
  cases n with
  | int i => exact hinteger.symm.trans hread
  | float x => exact hinteger.symm.trans hread

/-- A numeral means the integer that it writes or else the floating-point number nearest to it. -/
lemma resolvePlain_text : resolvePlain (String.ofList m.text) =
    match integer? m.text with
    | some (.ok i) => .ok (.number (.int i))
    | some (.error problem) => .error problem
    | none =>
      match m.nearest? with
      | some x => .ok (.number (.float x))
      | none => .ok (.string (String.ofList m.text)) := by
  have hnull : ¬ (String.ofList m.text = "" || isNull (String.ofList m.text)) = true := by
    have hnotMem : String.ofList m.text ∉ ["", "null", "Null", "NULL", "~"] :=
      ofList_text_notMem m (by decide)
    unfold isNull
    simpa using hnotMem
  have hbool : bool? (String.ofList m.text) = none := by
    unfold bool?
    rw [if_neg (ofList_text_notMem m (by decide)), if_neg (ofList_text_notMem m (by decide))]
  have hpadded : isZeroPadded m.text = false := by
    rw [← isZeroPadded_unsigned m]
    unfold isZeroPadded
    rw [dropSign_text, (dropSign_unsigned m).1]
  unfold resolvePlain
  rw [if_neg hnull, hbool, String.toList_ofList, hpadded, if_neg Bool.false_ne_true, float?_text]
  cases integer? m.text with
  | none => rfl
  | some r => cases r <;> rfl

/-- A numeral that is read as a number and keeps it means this number. -/
theorem resolvePlain_numeral {n : Number} {v : ScalarValue} (hread : m.IsRead n)
    (hkeeps : m.Keeps n)
    (h : resolvePlain (String.ofList m.text) = .ok v) : v = .number n := by
  rw [resolvePlain_text] at h
  cases n with
  | int i =>
    rw [integer?_text_of_some m hread] at h
    cases h
    rfl
  | float x =>
    have hother := fun i => integer?_text_of_none m hread hkeeps.2 (i := i)
    cases hinteger : integer? m.text with
    | some r =>
      rw [hinteger] at h
      cases r with
      | ok i => exact absurd hinteger (hother i)
      | error e => cases h
    | none =>
      rw [hinteger, hkeeps.1] at h
      cases h
      rfl

end ConfigCheck.Yaml
