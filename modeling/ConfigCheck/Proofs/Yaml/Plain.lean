import ConfigCheck.Proofs.Json.Source
import ConfigCheck.Yaml.Token.Flow

/-!
# Numbers and words as plain scalars

A number or a word of a JSON text is one run of a plain scalar, and the scalar ends with it: what
comes next, behind white space, is the end of the text or, inside brackets, an indicator
(`scanPlain_eq_ok`).
-/

namespace ConfigCheck.Yaml

open Json (skipSpace isSpace)

/-- Whether white space is followed by the end of the text or, inside brackets, by what ends an
item. -/
def AtEnd (inFlow : Bool) (cs : List Char) : Prop :=
  ∀ c ∈ (skipSpace cs).head?, inFlow = true ∧ (c = ',' ∨ c = ']' ∨ c = '\x7d')

/-- Whether a plain scalar goes on with the character wherever it stands. -/
def isInner (c : Char) : Bool := !isBlankOrBreak c && c != ':' && !isFlowEnd c && c != '#'

/-! ## White space -/

/-- The four characters of white space. -/
lemma isSpace_cases {c : Char} (h : isSpace c = true) :
    c = ' ' ∨ c = '\n' ∨ c = '\t' ∨ c = '\r' := by
  simpa [isSpace, or_assoc] using h

/-- White space of JSON is white space of YAML. -/
lemma isBlankOrBreak_of_isSpace {c : Char} (h : isSpace c = true) : isBlankOrBreak c = true := by
  rcases isSpace_cases h with rfl | rfl | rfl | rfl <;> rfl

/-- White space is skipped one by one. -/
lemma skipSpace_cons {c : Char} {cs : List Char} (h : isSpace c = true) :
    skipSpace (c :: cs) = skipSpace cs := List.dropWhile_cons_of_pos h

/-- What is no white space stays. -/
lemma skipSpace_cons_of_not {c : Char} {cs : List Char} (h : isSpace c = false) :
    skipSpace (c :: cs) = c :: cs := List.dropWhile_cons_of_neg (Bool.eq_false_iff.mp h)

variable {inFlow : Bool} {cs : List Char}

/-- Where a scalar ends there is white space, an indicator or nothing. -/
lemma AtEnd.head (h : AtEnd inFlow cs) :
    ∀ c ∈ cs.head?, isSpace c = true ∨ inFlow = true ∧ (c = ',' ∨ c = ']' ∨ c = '\x7d') := by
  cases cs with
  | nil => simp
  | cons char rest =>
    cases hspace : isSpace char with
    | true =>
      rintro _ ⟨⟩
      exact .inl hspace
    | false =>
      unfold AtEnd at h
      rw [skipSpace_cons_of_not hspace] at h
      rintro _ ⟨⟩
      exact .inr (h char rfl)

/-- Skipping white space does not matter. -/
lemma AtEnd.of_skipSpace {cs' : List Char} (h : AtEnd inFlow cs)
    (hspace : skipSpace cs' = skipSpace cs) : AtEnd inFlow cs' := by
  unfold AtEnd
  rw [hspace]
  exact h

/-! ## Gaps -/

/-- The only blanks and line ends at the end of a scalar are white space of JSON. -/
lemma AtEnd.isSpace {c : Char} (h : AtEnd inFlow (c :: cs)) (hc : isBlankOrBreak c = true) :
    isSpace c = true := by
  rcases h.head c rfl with hspace | ⟨-, rfl | rfl | rfl⟩
  · exact hspace
  all_goals exact absurd hc (by decide)

/-- A gap takes white space alone, if that is all that comes before the end of a scalar. -/
lemma skipSpace_take {g gap : Gap} {m : Mark} {c : Cursor} (hend : AtEnd inFlow cs)
    (h : Gap.take 0 g cs m = .ok (gap, c)) : skipSpace c.rest = skipSpace cs ∧ c.rest <:+ cs := by
  fun_induction Gap.take 0 g cs m with
  | case1 =>
    cases h
    exact ⟨rfl, List.suffix_rfl⟩
  | case2 g rest m ih =>
    have hskip : skipSpace ('\r' :: '\n' :: rest) = skipSpace rest := rfl
    obtain ⟨hspace, hsuffix⟩ := ih (hend.of_skipSpace hskip.symm) h
    exact ⟨hspace.trans hskip.symm, hsuffix.trans (List.suffix_append ['\r', '\n'] rest)⟩
  | case3 => cases h
  | case4 g char rest m _ hblank _ ih =>
    have hskip : skipSpace (char :: rest) = skipSpace rest :=
      skipSpace_cons (hend.isSpace (by simp [isBlankOrBreak, hblank]))
    obtain ⟨hspace, hsuffix⟩ := ih (hend.of_skipSpace hskip.symm) h
    exact ⟨hspace.trans hskip.symm, hsuffix.trans (List.suffix_cons char rest)⟩
  | case5 g char rest m _ _ hbreak ih =>
    have hskip : skipSpace (char :: rest) = skipSpace rest :=
      skipSpace_cons (hend.isSpace (by simp [isBlankOrBreak, hbreak]))
    obtain ⟨hspace, hsuffix⟩ := ih (hend.of_skipSpace hskip.symm) h
    exact ⟨hspace.trans hskip.symm, hsuffix.trans (List.suffix_cons char rest)⟩
  | case6 =>
    cases h
    exact ⟨rfl, List.suffix_rfl⟩

/-! ## Runs -/

/-- There is no run at the end of a scalar. -/
lemma plainRun_of_atEnd (h : AtEnd inFlow cs) : plainRun inFlow cs = [] := by
  cases cs with
  | nil => rfl
  | cons c rest =>
    rw [plainRun]
    refine if_pos ?_
    rcases h.head c rfl with hspace | ⟨rfl, rfl | rfl | rfl⟩
    · simp [isBlankOrBreak_of_isSpace hspace]
    · rfl
    · rfl
    · rfl

/-- No colon stands at the end of a scalar. -/
lemma atUnexpectedColon_of_atEnd (h : AtEnd inFlow cs) : atUnexpectedColon inFlow cs = false := by
  unfold atUnexpectedColon
  split
  · rcases h.head ':' rfl with hspace | ⟨-, hends⟩
    · exact absurd hspace (by decide)
    · exact absurd hends (by decide)
  · rfl

/-- A run goes on up to the end of the scalar. -/
lemma plainRun_append {lexeme rest : List Char} (hinner : ∀ c ∈ lexeme, isInner c = true)
    (hend : AtEnd inFlow rest) : plainRun inFlow (lexeme ++ rest) = lexeme := by
  induction lexeme with
  | nil => exact plainRun_of_atEnd hend
  | cons c lexeme ih =>
    obtain ⟨hc, hlexeme⟩ := List.forall_mem_cons.mp hinner
    unfold isInner at hc
    simp only [Bool.and_eq_true, Bool.not_eq_true', bne_iff_ne, ne_eq] at hc
    obtain ⟨⟨⟨hspace, hcolon⟩, hflow⟩, -⟩ := hc
    have hunexpected : atUnexpectedColon inFlow (c :: (lexeme ++ rest)) = false := by
      unfold atUnexpectedColon
      split
      · rename_i heq
        exact absurd (List.cons.inj heq).1 hcolon
      · rfl
    rw [List.cons_append, plainRun, if_neg (by simp [hspace, hcolon, hflow, hunexpected]),
      ih hlexeme]

/-! ## Scalars -/

variable {start stop : Mark} {fuel : Nat} {text : List Char} {gap : Gap} {c : Cursor}
  {r : ScannedScalar}

/-- Nothing is added at the end of a scalar. -/
lemma scanPlainFrom_of_atEnd (hend : AtEnd inFlow c.rest)
    (h : scanPlainFrom inFlow 0 start fuel text gap stop c = .ok r) :
    r.text = text ∧ skipSpace r.cursor.rest = skipSpace c.rest ∧ r.cursor.rest <:+ c.rest := by
  induction fuel generalizing gap c with
  | zero =>
    cases h
    exact ⟨rfl, rfl, List.suffix_rfl⟩
  | succ fuel ih =>
    have hskip : c.skip 0 = c := rfl
    rw [scanPlainFrom] at h
    split at h
    · cases h
      exact ⟨rfl, rfl, List.suffix_rfl⟩
    · simp only [plainRun_of_atEnd hend, List.length_nil, hskip, atUnexpectedColon_of_atEnd hend,
        Bool.false_eq_true, if_false, if_true] at h
      split at h
      · split at h
        · cases h
        · rename_i next htake
          obtain ⟨hspace, hsuffix⟩ := skipSpace_take hend htake
          simp only [Nat.not_lt_zero, decide_false, Bool.and_false, Bool.false_eq_true,
            if_false] at h
          obtain ⟨htext, hnext, hbehind⟩ := ih (hend.of_skipSpace hspace) h
          exact ⟨htext, hnext.trans hspace, hbehind.trans hsuffix⟩
      · cases h
        exact ⟨rfl, rfl, List.suffix_rfl⟩

/-- A plain scalar is its run, if the scalar ends behind it. -/
theorem scanPlain_eq_ok {lexeme rest : List Char} (hrest : c.rest = lexeme ++ rest)
    (hinner : ∀ c ∈ lexeme, isInner c = true) (hne : lexeme ≠ [])
    (hindicator : c.atDocumentIndicator = false) (hend : AtEnd inFlow rest)
    (h : scanPlain inFlow 0 c = .ok r) :
    r.text = lexeme ∧ skipSpace r.cursor.rest = skipSpace rest ∧ r.cursor.rest <:+ rest := by
  have hcomment : c.at_ '#' = false := by
    obtain ⟨char, lexeme, rfl⟩ := List.exists_cons_of_ne_nil hne
    have hchar := hinner char (List.mem_cons_self ..)
    unfold isInner at hchar
    simp only [Bool.and_eq_true, bne_iff_ne, ne_eq] at hchar
    simpa [Cursor.at_, hrest] using hchar.2
  have hafter : (c.skip lexeme.length).rest = rest := by simp [Cursor.skip, hrest]
  have hrun : plainRun inFlow c.rest = lexeme := by
    rw [hrest]
    exact plainRun_append hinner hend
  unfold scanPlain at h
  rw [scanPlainFrom, hindicator, hcomment] at h
  simp only [hrun, hafter, atUnexpectedColon_of_atEnd hend, hne, Bool.or_self, Bool.false_eq_true,
    if_false] at h
  have htext : [] ++ Gap.none.text ++ lexeme = lexeme := rfl
  rw [htext] at h
  split at h
  · split at h
    · cases h
    · rename_i next htake
      obtain ⟨hspace, hsuffix⟩ := skipSpace_take hend htake
      simp only [Nat.not_lt_zero, decide_false, Bool.and_false, Bool.false_eq_true, if_false] at h
      obtain ⟨htext, hnext, hbehind⟩ := scanPlainFrom_of_atEnd (hend.of_skipSpace hspace) h
      exact ⟨htext, hnext.trans hspace, hbehind.trans hsuffix⟩
  · cases h
    rw [hafter]
    exact ⟨rfl, rfl, List.suffix_rfl⟩

/-! ## Numerals -/

/-- Digits are characters of plain scalars. -/
lemma isInner_of_isDigit {c : Char} (h : isDigit c = true) : isInner c = true := by
  have hne : ∀ d, isDigit d = false → c ≠ d := fun d => Json.ne_of_isDigit h
  have hvisible : isBlankOrBreak c = false := by
    simp only [isBlankOrBreak, isBlank, isBreak, Bool.or_eq_false_iff, decide_eq_false_iff_not]
    exact ⟨⟨hne ' ' rfl, hne '\t' rfl⟩, ⟨⟨⟨hne '\r' rfl, hne '\n' rfl⟩, hne '\u0085' rfl⟩,
      hne '\u2028' rfl⟩, hne '\u2029' rfl⟩
  have hflow : isFlowEnd c = false := by
    simp only [isFlowEnd, Bool.or_eq_false_iff, decide_eq_false_iff_not]
    exact ⟨⟨⟨⟨hne ',' rfl, hne '[' rfl⟩, hne ']' rfl⟩, hne '\x7b' rfl⟩, hne '\x7d' rfl⟩
  simp [isInner, hvisible, hflow, hne ':' rfl, hne '#' rfl]

/-- All characters of a number are characters of plain scalars. -/
lemma isInner_text (m : Json.Numeral) : ∀ c ∈ m.text, isInner c = true := by
  intro c hc
  rcases m.mem_text_cases hc with hdigit | hother
  · exact isInner_of_isDigit hdigit
  · exact List.all_eq_true.mp rfl c hother

end ConfigCheck.Yaml
