import ConfigCheck.Proofs.Json.Source
import ConfigCheck.Yaml.Token.Flow

/-!
# Strings as quoted scalars

Between its quotes a JSON string says the same as a double-quoted scalar, if it can be read as one
and has plain breaks: the two line separators of Unicode are kept where they stand apart from
spaces, and the third line end that JSON allows does not occur (`HasPlainBreaks`).

A scalar is read in runs and gaps.  Each of them takes some characters of the string
(`quotedRun_eq_ok`, `take_eq_ok`), and so does the whole (`scanQuoted_eq_ok`).
-/

namespace ConfigCheck.Yaml

open Json (ReadsString)

/-! ## Escapes -/

/-- Skipping characters leads to a part of the text. -/
lemma rest_skip_suffix (c : Cursor) (n : Nat) : (c.skip n).rest <:+ c.rest :=
  List.drop_suffix n c.rest

/-- A hexadecimal digit has one value. -/
lemma hexValue?_eq (c : Char) : hexValue? c = Json.hexValue? c := rfl

/-- Four hexadecimal digits have one value. -/
lemma hexDigits?_of_readHex {cs rest : List Char} {n : Nat} (h : Json.readHex cs = .ok (n, rest)) :
    hexDigits? 4 cs = some n ∧ rest = cs.drop 4 := by
  unfold Json.readHex at h
  split at h
  · cases h
  · split at h
    · rename_i a b c d rest' _
      split at h
      · rename_i ha hb hc hd
        cases h
        refine ⟨?_, rfl⟩
        simp [hexDigits?, hexValue?_eq, ha, hb, hc, hd]
      · cases h
    · cases h

/-- An escape of both languages has one meaning. -/
lemma scanEscape_eq_ok {start : Mark} {c c' : Cursor} {cs behind : List Char} {char char' : Char}
    (hrest : c.rest = '\\' :: cs) (hread : Json.readEscape cs = .ok (char, behind))
    (h : scanEscape start c = .ok (char', c')) :
    char' = char ∧ c'.rest = behind ∧ c'.rest <:+ c.rest := by
  unfold scanEscape at h
  rw [hrest] at h
  unfold Json.readEscape at hread
  split at hread
  · cases hread
  iterate 8
    · cases hread
      cases h
      exact ⟨rfl, by simp [Cursor.skip, hrest], rest_skip_suffix c _⟩
  · rename_i digits
    obtain ⟨⟨unit, rest⟩, hhex, hread⟩ := bind_eq_ok_iff.mp hread
    obtain ⟨hvalue, rfl⟩ := hexDigits?_of_readHex hhex
    have hnone : escapedChar? 'u' = none := rfl
    have hfour : escapeLength? 'u' = some 4 := rfl
    simp only [hnone, hfour, hvalue] at h
    dsimp only at hread
    split at h
    · cases h
    · rename_i hvalid
      cases h
      rw [Bool.or_eq_true, Bool.and_eq_true, decide_eq_true_iff, decide_eq_true_iff,
        decide_eq_true_iff] at hvalid
      split at hread
      · cases hread
      · split at hread
        · rename_i hhigh
          rw [Bool.and_eq_true, decide_eq_true_iff, decide_eq_true_iff] at hhigh
          exact absurd (.inl ⟨hhigh.1, by omega⟩) hvalid
        · cases hread
          exact ⟨rfl, by simp [Cursor.skip, hrest], rest_skip_suffix c _⟩
  · cases hread

/-- No escape of JSON starts with a line end. -/
lemma isBreak_of_readEscape {c : Char} {cs behind : List Char}
    (h : Json.readEscape cs = .ok (c, behind)) : cs.head?.any isBreak = false := by
  unfold Json.readEscape at h
  split at h
  · cases h
  iterate 9
    · rfl
  · cases h

/-! ## Breaks -/

/-- The two line separators of Unicode stand apart from spaces, and there is no next line
character. -/
def HasPlainBreaks (cs : List Char) : Prop :=
  '\u0085' ∉ cs ∧ ∀ c ∈ ['\u2028', '\u2029'], ¬ [' ', c] <:+: cs ∧ ¬ [c, ' '] <:+: cs

/-- The characters of a part of the text have plain breaks if those of the text do. -/
lemma HasPlainBreaks.of_suffix {cs cs' : List Char} (h : HasPlainBreaks cs) (hcs : cs' <:+ cs) :
    HasPlainBreaks cs' := by
  refine ⟨fun hmem => h.1 (hcs.subset hmem), fun c hc => ?_⟩
  obtain ⟨hbefore, hbehind⟩ := h.2 c hc
  exact ⟨fun hin => hbefore (hin.trans hcs.isInfix), fun hin => hbehind (hin.trans hcs.isInfix)⟩

/-- A text of ASCII characters has plain breaks. -/
lemma hasPlainBreaks_of_ascii {cs : List Char} (h : ∀ c ∈ cs, c.toNat < 0x80) :
    HasPlainBreaks cs := by
  refine ⟨fun hmem => absurd (h _ hmem) (by decide), fun c hc => ?_⟩
  have hnotMem : c ∉ cs := fun hmem => by
    have hascii := h c hmem
    rcases List.mem_pair.mp hc with rfl | rfl <;> exact absurd hascii (by decide)
  exact ⟨fun hin => hnotMem (hin.subset (by simp)), fun hin => hnotMem (hin.subset (by simp))⟩

/-- Behind the first character the breaks stay plain. -/
lemma HasPlainBreaks.of_cons {c : Char} {cs : List Char} (h : HasPlainBreaks (c :: cs)) :
    HasPlainBreaks cs := h.of_suffix (List.suffix_cons c cs)

/-- A character of a string that is a blank or a line end is a space or, with plain breaks, a line
separator. -/
lemma blankOrBreak_cases {c : Char} {cs : List Char} (hp : HasPlainBreaks (c :: cs))
    (hcontrol : 0x20 ≤ c.toNat) (h : isBlankOrBreak c = true) :
    c = ' ' ∨ c = '\u2028' ∨ c = '\u2029' := by
  have hnext : c ≠ '\u0085' := fun heq => hp.1 (by simp [heq])
  have htab : c ≠ '\t' := by
    rintro rfl
    exact absurd hcontrol (by decide)
  have hreturn : c ≠ '\r' := by
    rintro rfl
    exact absurd hcontrol (by decide)
  have hfeed : c ≠ '\n' := by
    rintro rfl
    exact absurd hcontrol (by decide)
  simpa [isBlankOrBreak, isBlank, isBreak, hnext, htab, hreturn, hfeed] using h

/-! ## Runs -/

/-- A run takes characters of the string. -/
lemma quotedRun_eq_ok {start : Mark} {fuel : Nat} {taken run text rest : List Char} {cut : Bool}
    {c after : Cursor} (hs : ReadsString c.rest text rest) (hp : HasPlainBreaks c.rest)
    (h : quotedRun false start fuel taken c = .ok (run, cut, after)) :
    cut = false ∧ ∃ front back, text = front ++ back ∧ run = taken.reverse ++ front ∧
      ReadsString after.rest back rest ∧ HasPlainBreaks after.rest := by
  induction fuel generalizing taken c text with
  | zero =>
    cases h
    exact ⟨rfl, [], text, rfl, by simp, hs, hp⟩
  | succ fuel ih =>
    have hstop : ∀ {run cut after}, .ok (taken.reverse, false, c) =
        (.ok (run, cut, after) : Except SyntaxError (List Char × Bool × Cursor)) →
        cut = false ∧ ∃ front back, text = front ++ back ∧ run = taken.reverse ++ front ∧
          ReadsString after.rest back rest ∧ HasPlainBreaks after.rest := by
      rintro _ _ _ ⟨⟩
      exact ⟨rfl, [], text, rfl, by simp, hs, hp⟩
    rw [quotedRun] at h
    split at h
    · exact hstop h
    · rename_i char behind hrest
      rw [hrest] at hs
      have hskip : ∀ n, HasPlainBreaks (c.skip n).rest := fun n =>
        hp.of_suffix (rest_skip_suffix c n)
      split at h
      · exact hstop h
      · simp only [Bool.false_eq_true, if_false] at h
        cases hs with
        | close => exact hstop h
        | char hquote hescape hcontrol hs =>
          rw [if_neg hquote, if_neg hescape] at h
          have hbehind : (c.skip 1).rest = behind := by simp [Cursor.skip, hrest]
          obtain ⟨hcut, front, back, rfl, rfl, hback, hplain⟩ :=
            ih (hbehind ▸ hs) (hskip 1) h
          exact ⟨hcut, char :: front, back, rfl, by simp, hback, hplain⟩
        | escape hc hs =>
          rw [if_neg (by decide), if_pos rfl, isBreak_of_readEscape hc] at h
          simp only [Bool.false_eq_true, if_false] at h
          split at h
          · cases h
          · rename_i escaped next hscan
            obtain ⟨rfl, rfl, hsuffix⟩ := scanEscape_eq_ok hrest hc hscan
            obtain ⟨hcut, front, back, rfl, rfl, hback, hplain⟩ := ih hs (hp.of_suffix hsuffix) h
            exact ⟨hcut, escaped :: front, back, rfl, by simp, hback, hplain⟩

/-! ## Gaps -/

variable {cs text rest : List Char} {m : Mark} {gap : Gap} {c : Cursor}

/-- A gap ends at a visible character. -/
lemma take_visible {g : Gap} {char : Char} (h : isBlankOrBreak char = false) :
    Gap.take 0 g (char :: cs) m = .ok (g, ⟨char :: cs, m⟩) := by
  unfold isBlankOrBreak at h
  rw [Bool.or_eq_false_iff] at h
  unfold Gap.take
  split
  · cases ‹_ = _›
  · rename_i heq
    cases heq
    exact absurd h.2 (by decide)
  · rename_i heq
    cases heq
    rw [if_neg (Bool.eq_false_iff.mp h.1), if_neg (Bool.eq_false_iff.mp h.2)]

/-- A blank or a line end in a string stands for itself; it is a space or, with plain breaks, a line
separator. -/
lemma head_cases {char : Char} (hs : ReadsString (char :: cs) text rest)
    (hp : HasPlainBreaks (char :: cs)) (h : isBlankOrBreak char = true) :
    (char = ' ' ∨ char = '\u2028' ∨ char = '\u2029') ∧
      ∃ back, text = char :: back ∧ ReadsString cs back rest := by
  cases hs with
  | close => exact absurd h (by decide)
  | escape => exact absurd h (by decide)
  | char _ _ hcontrol hs => exact ⟨blankOrBreak_cases hp hcontrol h, _, rfl, hs⟩

/-- What a gap takes of a string. -/
def Takes (gap : Gap) (c : Cursor) (before text rest : List Char) : Prop :=
  ∃ front back, text = front ++ back ∧ gap.text = before ++ front ∧
    ReadsString c.rest back rest ∧ HasPlainBreaks c.rest

/-- A gap may take one more character. -/
lemma Takes.cons {before : List Char} {char : Char} (h : Takes gap c (before ++ [char]) text rest) :
    Takes gap c before (char :: text) rest := by
  obtain ⟨front, back, rfl, htext, hback, hplain⟩ := h
  exact ⟨char :: front, back, rfl, by simp [htext], hback, hplain⟩

/-- Nothing is taken at a visible character. -/
lemma takes_of_visible {g : Gap} {char : Char} (hs : ReadsString (char :: cs) text rest)
    (hp : HasPlainBreaks (char :: cs)) (hchar : isBlankOrBreak char = false)
    (h : Gap.take 0 g (char :: cs) m = .ok (gap, c)) : Takes gap c g.text text rest := by
  rw [take_visible hchar] at h
  cases h
  exact ⟨[], text, rfl, by simp, hs, hp⟩

/-- A gap that starts with spaces holds nothing else. -/
lemma take_spaces {blanks : List Char} (hs : ReadsString cs text rest)
    (hp : HasPlainBreaks (' ' :: cs))
    (h : Gap.take 0 ⟨false, blanks, [], []⟩ cs m = .ok (gap, c)) :
    Takes gap c blanks text rest := by
  induction cs generalizing blanks text m with
  | nil => cases hs
  | cons char behind ih =>
    cases hchar : isBlankOrBreak char with
    | false => exact takes_of_visible hs hp.of_cons hchar h
    | true =>
      obtain ⟨hcases, back, rfl, hback⟩ := head_cases hs hp.of_cons hchar
      rcases hcases with rfl | hseparator
      · exact (ih hback hp.of_cons h).cons
      · have hmem : char ∈ ['\u2028', '\u2029'] := by simpa using hseparator
        exact absurd ⟨[], behind, rfl⟩ (hp.2 char hmem).1

/-- A gap that starts with line separators holds nothing else. -/
lemma take_separators {first previous : Char} {more : List Char}
    (hfirst : first ∈ ['\u2028', '\u2029']) (hprevious : previous ∈ ['\u2028', '\u2029'])
    (hs : ReadsString cs text rest) (hp : HasPlainBreaks (previous :: cs))
    (h : Gap.take 0 ⟨true, [], [first], more⟩ cs m = .ok (gap, c)) :
    Takes gap c (first :: more) text rest := by
  have htext : ∀ more, (⟨true, [], [first], more⟩ : Gap).text = first :: more := by
    have hfeed : first ≠ '\n' := by
      rintro rfl
      exact absurd hfirst (by decide)
    intro more
    simp [Gap.text, hfeed]
  induction cs generalizing more previous text m with
  | nil => cases hs
  | cons char behind ih =>
    cases hchar : isBlankOrBreak char with
    | false =>
      rw [← htext more]
      exact takes_of_visible hs hp.of_cons hchar h
    | true =>
      obtain ⟨hcases, back, rfl, hback⟩ := head_cases hs hp.of_cons hchar
      rcases hcases with rfl | rfl | rfl
      · exact absurd ⟨[], behind, rfl⟩ (hp.2 previous hprevious).2
      · exact (ih (by decide) hback hp.of_cons h).cons
      · exact (ih (by decide) hback hp.of_cons h).cons

/-- A gap takes characters of the string. -/
lemma take_eq_ok (hs : ReadsString cs text rest) (hp : HasPlainBreaks cs)
    (h : Gap.take 0 Gap.none cs m = .ok (gap, c)) : Takes gap c [] text rest := by
  cases cs with
  | nil => cases hs
  | cons char behind =>
    cases hchar : isBlankOrBreak char with
    | false => exact takes_of_visible hs hp hchar h
    | true =>
      obtain ⟨hcases, back, rfl, hback⟩ := head_cases hs hp hchar
      rcases hcases with rfl | rfl | rfl
      · exact (take_spaces hback hp h).cons
      · exact (take_separators (by decide) (by decide) hback hp h).cons
      · exact (take_separators (by decide) (by decide) hback hp h).cons

/-! ## Strings -/

/-- A string ends at its quote. -/
lemma readsString_quote (hs : ReadsString c.rest text rest) (h : c.at_ '"' = true) :
    text = [] ∧ (c.skip 1).rest = rest := by
  unfold Cursor.at_ at h
  unfold Cursor.skip
  generalize c.rest = cs at hs h
  cases hs with
  | close => exact ⟨rfl, rfl⟩
  | char hquote _ _ _ => exact absurd (by simpa using h) hquote
  | escape => exact absurd h (by simp)

/-- Runs and gaps take the characters of the string up to its closing quote. -/
lemma scanQuotedFrom_eq_ok {start : Mark} {fuel : Nat} {before : List Char} {r : ScannedScalar}
    (hs : ReadsString c.rest text rest) (hp : HasPlainBreaks c.rest)
    (h : scanQuotedFrom false start fuel before c = .ok r) :
    r.text = before ++ text ∧ r.cursor.rest = rest ∧ HasPlainBreaks rest := by
  induction fuel generalizing before text c with
  | zero => cases h
  | succ fuel ih =>
    rw [scanQuotedFrom] at h
    split at h
    · cases h
    · split at h
      · cases h
      · split at h
        · cases h
        · rename_i run cut after hrun
          obtain ⟨rfl, front, back, rfl, hfront, hback, hplain⟩ := quotedRun_eq_ok hs hp hrun
          rw [List.reverse_nil, List.nil_append] at hfront
          subst hfront
          simp only [Bool.false_eq_true, if_false] at h
          split at h
          · rename_i hquote
            cases h
            obtain ⟨rfl, rfl⟩ := readsString_quote hback hquote
            exact ⟨by simp, rfl, hplain.of_suffix (rest_skip_suffix after 1)⟩
          · split at h
            · cases h
            · rename_i gap next htake
              obtain ⟨front, back, rfl, htext, hback, hplain⟩ := take_eq_ok hback hplain htake
              obtain ⟨htext', hrest⟩ := ih hback hplain h
              refine ⟨?_, hrest⟩
              rw [htext', htext]
              simp

/-- A quoted scalar says the same as a string. -/
theorem scanQuoted_eq_ok {r : ScannedScalar} {inside : List Char} (hrest : c.rest = '"' :: inside)
    (hs : ReadsString inside text rest) (hp : HasPlainBreaks c.rest)
    (h : scanQuoted false c = .ok r) :
    r.text = text ∧ r.cursor.rest = rest ∧ HasPlainBreaks rest := by
  have hinside : (c.skip 1).rest = inside := by simp [Cursor.skip, hrest]
  exact scanQuotedFrom_eq_ok (hinside.symm ▸ hs) (hp.of_suffix (rest_skip_suffix c 1)) h

end ConfigCheck.Yaml
