import ConfigCheck.Proofs.Yaml.Complete
import ConfigCheck.Proofs.Yaml.Scanner
import Mathlib.Data.List.TakeWhile

/-!
# Texts without content

A text is void if each of its lines, as YAML has them, is blank, a comment, or a document marker at
the beginning of the line (`Yaml.isVoid`).  The scanner skips such lines and finds nothing but the
markers (`Yaml.tokens_of_isVoid`).
-/

namespace ConfigCheck.Yaml

/-- Whether a line holds nothing but blanks and a comment. -/
def isIdleLine (line : List Char) : Bool := (line.dropWhile isBlank).head?.all (· = '#')

/-- Whether a line holds a document marker, and nothing but blanks behind it. -/
def isMarkerLine (line : List Char) : Bool :=
  (line.take 3 = ['-', '-', '-'] || line.take 3 = ['.', '.', '.']) && (line.drop 3).all isBlank

/-- Whether no line of a text holds anything but blanks, a comment or a document marker. -/
def isVoid (cs : List Char) : Bool :=
  (cs.splitOnP isBreak).all fun line => isIdleLine line || isMarkerLine line

/-- Whether the rest of a text is void; a marker can only stand where a line begins. -/
def isVoidFrom (fresh : Bool) (cs : List Char) : Bool :=
  match cs.splitOnP isBreak with
  | [] => true
  | line :: rest => (isIdleLine line || fresh && isMarkerLine line) &&
      rest.all fun line => isIdleLine line || isMarkerLine line

variable {cs line rest : List Char} {b : Char} {fresh : Bool}

/-! ## Lines -/

/-- Blanks are spaces and tabs. -/
lemma isBlank_iff {c : Char} : isBlank c = true ↔ c = ' ' ∨ c = '\t' := by
  rw [isBlank, Bool.or_eq_true, decide_eq_true_iff, decide_eq_true_iff]

/-- A line end is not a blank. -/
lemma not_isBlank_of_isBreak (h : isBreak b = true) : ¬ isBlank b = true := by
  intro hblank
  rcases isBlank_iff.mp hblank with rfl | rfl
  · exact absurd h (by decide)
  · exact absurd h (by decide)

/-- A text without a line end is one line. -/
lemma isVoidFrom_line (hline : ∀ c ∈ line, isBreak c = false) :
    isVoidFrom fresh line = (isIdleLine line || fresh && isMarkerLine line) := by
  unfold isVoidFrom
  rw [List.splitOnP_eq_singleton hline]
  exact Bool.and_true _

/-- A line end ends the first line. -/
lemma isVoidFrom_append (hline : ∀ c ∈ line, isBreak c = false) (hb : isBreak b = true) :
    isVoidFrom fresh (line ++ b :: rest) =
      ((isIdleLine line || fresh && isMarkerLine line) && isVoid rest) := by
  unfold isVoidFrom
  rw [List.splitOnP_append_cons_of_forall_mem hline b hb rest]
  rfl

/-- A text begins with a line. -/
lemma exists_line (cs : List Char) : ∃ line after, cs = line ++ after ∧
    (∀ c ∈ line, isBreak c = false) ∧ ∀ c ∈ after.head?, isBreak c = true := by
  refine ⟨cs.takeWhile (!isBreak ·), cs.dropWhile (!isBreak ·), ?_, ?_, ?_⟩
  · exact List.takeWhile_append_dropWhile.symm
  · intro c hc
    have hnot := List.mem_takeWhile_imp hc
    exact Bool.not_eq_true' _ |>.mp hnot
  · intro c hc
    have hnot := List.head?_dropWhile_not (!isBreak ·) cs
    rw [Option.mem_def.mp hc] at hnot
    simpa using hnot

/-- A void text is void from its beginning on. -/
lemma isVoidFrom_of_isVoid (h : isVoid cs = true) : isVoidFrom true cs = true := by
  unfold isVoid at h
  unfold isVoidFrom
  split
  · rfl
  · rename_i line rest heq
    rw [heq, List.all_cons] at h
    exact h

/-- Behind a line feed a void text is void. -/
lemma isVoid_of_cons (hb : isBreak b = true) (h : isVoid (b :: rest) = true) :
    isVoid rest = true := by
  unfold isVoid at h
  rw [List.splitOnP_cons_eq_if_modifyHead, if_pos hb, List.all_cons, Bool.and_eq_true] at h
  exact h.2

/-- What stands behind the first line of a text is nothing or a line end. -/
lemma isVoid_behind {after : List Char} (hline : ∀ c ∈ line, isBreak c = false)
    (h : isVoidFrom fresh (line ++ after) = true) (hafter : after = b :: rest)
    (hb : isBreak b = true) : isVoid rest = true := by
  rw [hafter, isVoidFrom_append hline hb, Bool.and_eq_true] at h
  exact h.2

/-- The first line of a void text is idle or has a marker. -/
lemma idle_or_marker {after : List Char} (hline : ∀ c ∈ line, isBreak c = false)
    (hafter : ∀ c ∈ after.head?, isBreak c = true) (h : isVoidFrom fresh (line ++ after) = true) :
    isIdleLine line = true ∨ fresh = true ∧ isMarkerLine line = true := by
  cases after with
  | nil =>
    rw [List.append_nil, isVoidFrom_line hline, Bool.or_eq_true, Bool.and_eq_true] at h
    exact h
  | cons b rest =>
    rw [isVoidFrom_append hline (hafter b rfl), Bool.and_eq_true, Bool.or_eq_true,
      Bool.and_eq_true] at h
    exact h.1

/-- A void text does not begin with a byte order mark. -/
lemma head?_ne_byteOrderMark (h : isVoidFrom fresh cs = true) : cs.head? ≠ some '\ufeff' := by
  obtain ⟨line, after, rfl, hline, hafter⟩ := exists_line cs
  intro hhead
  cases line with
  | nil => exact absurd (hafter _ hhead) (by decide)
  | cons first more =>
    obtain rfl : first = '\ufeff' := Option.some.inj hhead
    rcases idle_or_marker hline hafter h with hidle | ⟨-, hmarker⟩
    · unfold isIdleLine at hidle
      rw [List.dropWhile_cons_of_neg (by decide)] at hidle
      have hhash : '\ufeff' = '#' := of_decide_eq_true hidle
      exact absurd hhash (by decide)
    · unfold isMarkerLine at hmarker
      simp at hmarker

/-! ## Cursors -/

/-- Characters that pass a test are skipped. -/
lemma rest_skipWhile (c : Cursor) (p : Char → Bool) :
    (c.skipWhile p).rest = c.rest.dropWhile p := by
  have hsplit := List.takeWhile_append_dropWhile (p := p) (l := c.rest)
  exact (congrArg (List.drop (c.rest.takeWhile p).length) hsplit.symm).trans List.drop_left

/-- Where the next character fails the test nothing is skipped. -/
lemma skipWhile_eq_self {c : Cursor} {p : Char → Bool} (h : ∀ char ∈ c.rest.head?, p char = false) :
    c.skipWhile p = c := by
  have hnone : c.rest.takeWhile p = [] := by
    cases hrest : c.rest with
    | nil => rfl
    | cons first rest =>
      rw [hrest] at h
      exact List.takeWhile_cons_of_neg (by simp [h first rfl])
  change c.skip (c.rest.takeWhile p).length = c
  rw [hnone]
  rfl

/-- A comment is skipped up to the end of its line. -/
lemma rest_skipComment {c : Cursor} {comment after : List Char}
    (hrest : c.rest = '#' :: comment ++ after) (hcomment : ∀ c ∈ comment, isBreak c = false)
    (hafter : ∀ c ∈ after.head?, isBreak c = true) : c.skipComment.rest = after := by
  have hat : c.at_ '#' = true := by
    rw [Cursor.at_, hrest]
    rfl
  rw [Cursor.skipComment, if_pos hat, rest_skipWhile, hrest]
  have hnone : ∀ c ∈ '#' :: comment, (!isBreak c) = true := by
    intro c hc
    rcases List.mem_cons.mp hc with rfl | hc
    · rfl
    · rw [hcomment c hc]
      rfl
  rw [List.dropWhile_append_of_pos hnone]
  cases after with
  | nil => rfl
  | cons b rest =>
    rw [List.dropWhile_cons, hafter b rfl]
    rfl

/-- Where no comment begins nothing is skipped. -/
lemma skipComment_eq_self {c : Cursor} (h : ∀ char ∈ c.rest.head?, char ≠ '#') :
    c.skipComment = c := by
  have hat : c.at_ '#' = false := by
    rw [Cursor.at_]
    cases hrest : c.rest.head? with
    | none => rfl
    | some char => exact beq_false_of_ne fun heq => h char hrest (Option.some.inj heq)
  rw [Cursor.skipComment, hat, if_neg Bool.false_ne_true]

/-- Behind a line end the rest of a void text is void, and a line begins. -/
lemma takeBreak_isVoid {c : Cursor} (hrest : c.rest = b :: rest) (hb : isBreak b = true)
    (hvoid : isVoid rest = true) :
    ∃ content next, c.takeBreak = (content, next) ∧ content ≠ [] ∧ next.column = 0 ∧
      isVoid next.rest = true ∧ next.rest.length < c.rest.length := by
  unfold Cursor.takeBreak
  split
  · rename_i behind heq
    rw [hrest] at heq
    obtain ⟨rfl, rfl⟩ := List.cons.inj heq
    refine ⟨_, _, rfl, List.cons_ne_nil _ _, rfl, isVoid_of_cons rfl hvoid, ?_⟩
    rw [hrest, List.length_cons, List.length_cons]
    exact Nat.lt_add_of_pos_right Nat.zero_lt_two
  · rename_i first behind _ heq
    rw [hrest] at heq
    obtain ⟨rfl, rfl⟩ := List.cons.inj heq
    rw [if_pos hb]
    refine ⟨_, _, rfl, List.cons_ne_nil _ _, rfl, hvoid, ?_⟩
    rw [hrest, List.length_cons]
    exact Nat.lt_succ_self _
  · rename_i heq
    rw [hrest] at heq
    cases heq

/-- Elsewhere there is no line end. -/
lemma takeBreak_eq_nil {c : Cursor} (h : ∀ char ∈ c.rest.head?, isBreak char = false) :
    c.takeBreak = ([], c) := by
  unfold Cursor.takeBreak
  split
  · rename_i heq
    rw [heq] at h
    exact absurd (h '\r' rfl) (by decide)
  · rename_i first behind _ heq
    rw [heq] at h
    rw [h first rfl, if_neg Bool.false_ne_true]
  · rfl

/-- A cursor stands at a document marker, and the rest of the text is void. -/
def Cursor.AtMarker (c : Cursor) : Prop :=
  c.column = 0 ∧ ∃ char rest, (char = '-' ∨ char = '.') ∧ c.rest = char :: char :: char :: rest ∧
    atSpace rest = true ∧ isVoidFrom false rest = true

/-- A line with a marker begins with it. -/
lemma Cursor.atMarker {c : Cursor} {after : List Char} (hcolumn : c.column = 0)
    (hrest : c.rest = line ++ after) (hline : ∀ c ∈ line, isBreak c = false)
    (hafter : ∀ c ∈ after.head?, isBreak c = true) (hvoid : isVoidFrom fresh c.rest = true)
    (hmarker : isMarkerLine line = true) : c.AtMarker := by
  obtain ⟨hkind, hblanks⟩ := Bool.and_eq_true_iff.mp hmarker
  have hchar : ∃ char, (char = '-' ∨ char = '.') ∧ line.take 3 = [char, char, char] := by
    rcases Bool.or_eq_true_iff.mp hkind with hdashes | hdots
    · exact ⟨'-', .inl rfl, of_decide_eq_true hdashes⟩
    · exact ⟨'.', .inr rfl, of_decide_eq_true hdots⟩
  obtain ⟨char, hchar, htake⟩ := hchar
  have hsplit : line = char :: char :: char :: line.drop 3 := by
    rw [← List.take_append_drop 3 line, htake]
    simp
  have hidle : isIdleLine (line.drop 3) = true := by
    rw [isIdleLine, List.dropWhile_eq_nil_iff.mpr (List.all_eq_true.mp hblanks)]
    rfl
  have hbehind : ∀ c ∈ line.drop 3, isBreak c = false := fun c hc =>
    hline c (List.mem_of_mem_drop hc)
  refine ⟨hcolumn, char, line.drop 3 ++ after, hchar, ?_, ?_, ?_⟩
  · rw [hrest]
    nth_rewrite 1 [hsplit]
    rfl
  · cases hdrop : line.drop 3 with
    | nil =>
      cases after with
      | nil => rfl
      | cons b rest =>
        rw [List.nil_append, atSpace, isBlankOrBreak, hafter b rfl, Bool.or_true]
    | cons blank more =>
      have hblank := List.all_eq_true.mp hblanks blank (hdrop ▸ List.mem_cons_self)
      rw [List.cons_append, atSpace, isBlankOrBreak, hblank, Bool.true_or]
  · cases after with
    | nil => rw [List.append_nil, isVoidFrom_line hbehind, hidle, Bool.true_or]
    | cons b rest =>
      have hrestVoid := isVoid_behind hline (hrest ▸ hvoid) rfl (hafter b rfl)
      rw [isVoidFrom_append hbehind (hafter b rfl), hidle, hrestVoid, Bool.true_or, Bool.true_and]

/-! ## Skipping -/

namespace Scanner

variable {s s' : Scanner} {out : List Token} {kinds : List TokenKind}

/-- Where the scanner stops in a void text. -/
def Stops (c : Cursor) : Prop := c.rest = [] ∨ c.rest.head? = some '\t' ∨ c.AtMarker

/-- What stops a skip of blanks on an idle line is a tab or a comment. -/
lemma tab_or_comment {p : Char → Bool} {first : Char} {more : List Char}
    (hp : ∀ c, p c = true → isBlank c = true) (hspace : p ' ' = true)
    (hidle : isIdleLine line = true) (hdrop : line.dropWhile p = first :: more) :
    first = '\t' ∨ first = '#' := by
  have hnot : p first = false := by
    have hfirst := List.head?_dropWhile_not p line
    rw [hdrop] at hfirst
    exact hfirst
  by_cases hblank : isBlank first = true
  · left
    refine (isBlank_iff.mp hblank).resolve_left ?_
    rintro rfl
    rw [hspace] at hnot
    cases hnot
  · right
    have hbefore : ∀ c ∈ line.takeWhile p, isBlank c = true := fun c hc =>
      hp c (List.mem_takeWhile_imp hc)
    have hsplit : line = line.takeWhile p ++ first :: more := by
      rw [← hdrop, List.takeWhile_append_dropWhile]
    rw [isIdleLine, hsplit, List.dropWhile_append_of_pos hbefore,
      List.dropWhile_cons_of_neg hblank] at hidle
    exact of_decide_eq_true hidle

/-- On an idle line the scanner gets to the end of the line, unless a tab stops it. -/
lemma skip_idle {c : Cursor} {after : List Char} {p : Char → Bool}
    (hp : ∀ c, p c = true → isBlank c = true) (hspace : p ' ' = true)
    (hrest : c.rest = line ++ after) (hline : ∀ c ∈ line, isBreak c = false)
    (hafter : ∀ c ∈ after.head?, isBreak c = true) (hidle : isIdleLine line = true) :
    ((c.skipWhile p).skipComment).rest = after ∨
      ((c.skipWhile p).skipComment).rest.head? = some '\t' := by
  have hstop : after.dropWhile p = after := by
    cases after with
    | nil => rfl
    | cons b rest =>
      exact List.dropWhile_cons_of_neg fun hb => not_isBlank_of_isBreak (hafter b rfl) (hp b hb)
  have hskip : (c.skipWhile p).rest = line.dropWhile p ++ after := by
    rw [rest_skipWhile, hrest, List.dropWhile_append]
    split
    · rename_i hempty
      rw [List.isEmpty_iff.mp hempty, hstop, List.nil_append]
    · rfl
  cases hbehind : line.dropWhile p with
  | nil =>
    rw [hbehind, List.nil_append] at hskip
    left
    rw [skipComment_eq_self, hskip]
    rw [hskip]
    rintro char hchar rfl
    exact absurd (hafter _ hchar) (by decide)
  | cons first more =>
    rw [hbehind] at hskip
    rcases tab_or_comment hp hspace hidle hbehind with rfl | rfl
    · right
      rw [skipComment_eq_self, hskip]
      · rfl
      · rw [hskip]
        rintro _ ⟨⟩
        decide
    · left
      refine rest_skipComment hskip (fun c hc => hline c ?_) hafter
      exact (List.dropWhile_sublist p).subset (hbehind ▸ List.mem_cons_of_mem _ hc)

/-- What the scanner skips in front of a token. -/
lemma isBlank_of_skipped (keyAllowed : Bool) {c : Char}
    (h : (c = ' ' || !keyAllowed && c = '\t') = true) : isBlank c = true := by
  simp only [Bool.or_eq_true, Bool.and_eq_true, decide_eq_true_eq] at h
  exact isBlank_iff.mpr (h.imp_right And.right)

/-- At a marker nothing is skipped. -/
lemma skipToToken_of_atMarker {fuel : Nat} (hflow : s.inFlow = false)
    (hmark : skipByteOrderMark s.cursor = s.cursor) (hat : s.cursor.AtMarker) :
    skipToToken (fuel + 1) s = s := by
  obtain ⟨-, char, rest, hchar, hrest, -, -⟩ := hat
  have hhead : ∀ first ∈ s.cursor.rest.head?, first = '-' ∨ first = '.' := by
    rw [hrest]
    rintro first ⟨⟩
    exact hchar
  have hblanks : s.cursor.skipWhile (fun c => c = ' ' || !s.keyAllowed && c = '\t') =
      s.cursor := by
    refine skipWhile_eq_self fun first hfirst => Bool.eq_false_iff.mpr fun hskipped => ?_
    rcases hhead first hfirst with rfl | rfl
    · exact absurd (isBlank_of_skipped _ hskipped) (by decide)
    · exact absurd (isBlank_of_skipped _ hskipped) (by decide)
  have hcomment : s.cursor.skipComment = s.cursor := by
    refine skipComment_eq_self fun first hfirst => ?_
    rcases hhead first hfirst with rfl | rfl
    · decide
    · decide
  have hbreak : s.cursor.takeBreak = ([], s.cursor) := by
    refine takeBreak_eq_nil fun first hfirst => ?_
    rcases hhead first hfirst with rfl | rfl
    · rfl
    · rfl
  rw [skipToToken, hmark, hflow, Bool.false_or, hblanks, hcomment, hbreak]

/-- In a void text the scanner skips lines up to a marker, a tab or the end. -/
lemma skipToToken_isVoid {fuel : Nat} (hflow : s.inFlow = false)
    (hvoid : isVoidFrom (s.cursor.column = 0) s.cursor.rest = true)
    (hfuel : s.cursor.rest.length < fuel) :
    ∃ cursor keyAllowed, skipToToken fuel s = { s with cursor, keyAllowed } ∧ Stops cursor := by
  induction fuel generalizing s with
  | zero => exact absurd hfuel (Nat.not_lt_zero _)
  | succ fuel ih =>
    obtain ⟨line, after, hrest, hline, hafter⟩ := exists_line s.cursor.rest
    have hmark : skipByteOrderMark s.cursor = s.cursor := by
      have hat : s.cursor.at_ '\ufeff' = false := beq_false_of_ne (head?_ne_byteOrderMark hvoid)
      rw [skipByteOrderMark, hat, Bool.and_false, if_neg Bool.false_ne_true]
    rcases idle_or_marker hline hafter (hrest ▸ hvoid) with hidle | ⟨hcolumn, hmarker⟩
    · have hskip := skip_idle (fun _ => isBlank_of_skipped s.keyAllowed) rfl hrest hline hafter
        hidle
      rw [skipToToken, hmark, hflow, Bool.false_or]
      generalize hc : (s.cursor.skipWhile fun c =>
        c = ' ' || !s.keyAllowed && c = '\t').skipComment = c at hskip
      rcases hskip with hbehind | htab
      · cases after with
        | nil =>
          rw [takeBreak_eq_nil (by simp [hbehind])]
          exact ⟨c, s.keyAllowed, rfl, .inl hbehind⟩
        | cons b rest =>
          have hb := hafter b rfl
          have hnext := isVoid_behind hline (hrest ▸ hvoid) rfl hb
          obtain ⟨content, next, htake, hne, hcolumn, hnextVoid, hlt⟩ :=
            takeBreak_isVoid hbehind hb hnext
          rw [htake]
          have hshort : next.rest.length < fuel := by
            rw [hbehind] at hlt
            rw [hrest, List.length_append] at hfuel
            omega
          have hfresh : isVoidFrom (next.column = 0) next.rest = true := by
            rw [decide_eq_true hcolumn]
            exact isVoidFrom_of_isVoid hnextVoid
          obtain ⟨cursor, keyAllowed, heq, hstops⟩ := ih
            (s := { s with cursor := next, keyAllowed := s.keyAllowed || !s.inFlow }) hflow hfresh
            hshort
          rw [hflow] at heq
          refine ⟨cursor, keyAllowed, ?_, hstops⟩
          cases content with
          | nil => exact absurd rfl hne
          | cons first more => exact heq
      · rw [takeBreak_eq_nil (by
          rw [htab]
          rintro char ⟨⟩
          rfl)]
        exact ⟨c, s.keyAllowed, rfl, .inr (.inl htab)⟩
    · have hat := Cursor.atMarker (of_decide_eq_true hcolumn) hrest hline hafter hvoid hmarker
      exact ⟨s.cursor, s.keyAllowed, skipToToken_of_atMarker hflow hmark hat, .inr (.inr hat)⟩

/-! ## Fetching -/

/-- A document marker is fetched, and behind it the text is void. -/
lemma Holds.fetchMarker_eq_ok {char : Char} (hs : s.Holds out kinds [none])
    (hat : s.cursor.AtMarker) (hrest : s.cursor.rest = char :: rest)
    (h : s.fetchToken char rest = .ok s') :
    ∃ kind, (kind = .documentStart ∨ kind = .documentEnd) ∧ s'.Holds out (kinds ++ [kind]) [none] ∧
      s'.ended = s.ended ∧ isVoidFrom (s'.cursor.column = 0) s'.cursor.rest = true := by
  obtain ⟨hcolumn, first, behind, hfirst, hmarker, hspace, hbehind⟩ := hat
  rw [hrest] at hmarker
  obtain ⟨rfl, rfl⟩ := List.cons.inj hmarker
  have hindicator : s.cursor.atDocumentIndicator = true := by
    unfold Cursor.atDocumentIndicator
    rw [hrest, hcolumn]
    rcases hfirst with rfl | rfl
    · simp [hspace]
    · simp [hspace]
  have hpercent : (decide (char = '%') && decide (s.mark.column = 0)) = false := by
    rcases hfirst with rfl | rfl
    · rfl
    · rfl
  unfold fetchToken at h
  rw [hpercent, if_neg Bool.false_ne_true, hindicator, if_pos rfl, fetchDocumentIndicator,
    hs.unrollIndent_eq] at h
  obtain ⟨s₁, hremove, h⟩ := bind_eq_ok_iff.mp h
  obtain ⟨hs₁, hcursor, hended⟩ := hs.removeKey_eq_ok hremove
  cases h
  refine ⟨_, ?_, hs₁.take 3 _ false, hended, ?_⟩
  · split
    · exact .inl rfl
    · exact .inr rfl
  · have hcolumn' : (s₁.cursor.skip 3).column ≠ 0 := Nat.succ_ne_zero _
    have hrest' : (s₁.cursor.skip 3).rest = behind := by
      rw [hcursor]
      change s.cursor.rest.drop 3 = behind
      rw [hrest]
      rfl
    change isVoidFrom (decide ((s₁.cursor.skip 3).column = 0)) (s₁.cursor.skip 3).rest = true
    rw [hrest', decide_eq_false hcolumn']
    exact hbehind

/-- In a void text the next token is a document marker or the end of the stream. -/
lemma Holds.fetchNext_isVoid (hs : s.Holds out kinds [none]) (hended : s.ended = false)
    (hvoid : isVoidFrom (s.cursor.column = 0) s.cursor.rest = true) (h : s.fetchNext = .ok s') :
    (s'.Holds out (kinds ++ [.streamEnd]) [none] ∧ s'.ended = true) ∨
      ∃ kind, (kind = .documentStart ∨ kind = .documentEnd) ∧
        s'.Holds out (kinds ++ [kind]) [none] ∧ s'.ended = false ∧
        isVoidFrom (s'.cursor.column = 0) s'.cursor.rest = true := by
  have hflow : s.inFlow = false := hs.inFlow_eq
  obtain ⟨cursor, keyAllowed, hskip, hstops⟩ :=
    skipToToken_isVoid hflow hvoid (Nat.lt_succ_self s.cursor.rest.length)
  unfold fetchNext at h
  rw [hskip] at h
  obtain ⟨s₁, hdrop, h⟩ := bind_eq_ok_iff.mp h
  obtain ⟨hs₁, hcursor, -, hended₁, -⟩ :=
    dropStaleKeys_eq_ok hdrop (hs.move cursor keyAllowed s.ended)
  have hcursor : s₁.cursor = cursor := hcursor
  rw [hs₁.unrollIndent_eq] at h
  dsimp only at h
  rw [← hcursor] at hstops
  split at h
  · exact .inl (hs₁.fetchStreamEnd_eq_ok h)
  · rename_i char rest hrest
    right
    rcases hstops with hend | htab | hmarker
    · rw [hrest] at hend
      cases hend
    · -- A tab that is left over would be refused as a token.
      rw [hrest] at htab
      obtain rfl := Option.some.inj htab
      rw [fetchToken_isSpace hrest rfl] at h
      cases h
    · obtain ⟨kind, hkind, hs', hended', hvoid'⟩ := hs₁.fetchMarker_eq_ok hmarker hrest h
      exact ⟨kind, hkind, hs', hended'.trans (hended₁.trans hended), hvoid'⟩

/-- The tokens of a void text are document markers up to the end of the stream. -/
lemma Holds.tokens_isVoid {final : List TokenKind} {fuel : Nat} (hs : s.Holds out kinds [none])
    (hended : s.ended = false) (hvoid : isVoidFrom (s.cursor.column = 0) s.cursor.rest = true)
    (hkinds : .streamEnd ∉ kinds) (hfinal : .streamEnd ∈ final)
    (hfuture : final = (out ++ (TokenStream.ofScanner fuel s).tokens).map Token.kind) :
    ∃ markers : List TokenKind,
      (∀ kind ∈ markers, kind = .documentStart ∨ kind = .documentEnd) ∧
        final = kinds ++ (markers ++ [.streamEnd]) := by
  induction fuel generalizing s out kinds with
  | zero =>
    obtain ⟨fuel', -, -, -, hfuel, -⟩ := hs.exists_fetchNext hended hkinds hfinal hfuture
    cases hfuel
  | succ fuel ih =>
    obtain ⟨fuel', tokens, s₁, s', hfuel, hs₁, hcursor, -, hended₁, hfetch, hfuture⟩ :=
      hs.exists_fetchNext hended hkinds hfinal hfuture
    cases hfuel
    rw [← hcursor] at hvoid
    rcases hs₁.fetchNext_isVoid hended₁ hvoid hfetch with
      ⟨hs', hended'⟩ | ⟨kind, hkind, hs', hended', hvoid'⟩
    · refine ⟨[], ?_, hs'.final_eq hended' hkinds hfinal hfuture⟩
      intro kind hkind
      cases hkind
    · have hkinds' : .streamEnd ∉ kinds ++ [kind] := by
        rw [List.mem_append, List.mem_singleton]
        rintro (hmem | rfl)
        · exact hkinds hmem
        · rcases hkind with h | h <;> cases h
      obtain ⟨markers, hmarkers, heq⟩ := ih hs' hended' hvoid' hkinds' hfuture
      refine ⟨kind :: markers, List.forall_mem_cons.mpr ⟨hkind, hmarkers⟩, ?_⟩
      rw [heq, List.append_assoc]
      rfl

end Scanner

/-- A void text that is scanned to its end forms document markers only. -/
theorem tokens_of_isVoid (hvoid : isVoid cs = true)
    (hfinal : .streamEnd ∈ (TokenStream.ofText cs).tokens.map Token.kind) :
    ∃ markers : List TokenKind,
      (∀ kind ∈ markers, kind = .documentStart ∨ kind = .documentEnd) ∧
        (TokenStream.ofText cs).tokens.map Token.kind =
          .streamStart :: (markers ++ [.streamEnd]) := by
  have hs : (Scanner.ofText cs).Holds [] [.streamStart] [none] := by
    refine ⟨rfl, rfl, rfl, rfl, .cons ?_ .nil⟩
    rintro _ ⟨⟩
  exact hs.tokens_isVoid rfl (isVoidFrom_of_isVoid hvoid) (by decide) hfinal rfl

end ConfigCheck.Yaml
