import ConfigCheck.Proofs.Yaml.Plain
import ConfigCheck.Proofs.Yaml.Quoted
import ConfigCheck.Yaml.Token.Stream
import Mathlib.Data.List.Forall2

/-!
# The scanner outside of block collections

The scanner has handed over some tokens and holds others back; together they are the tokens so far.
As long as there is no block collection, `Scanner.Holds` says which tokens these are and which of
them may still become keys.  Each kind of token that a JSON text can have is fetched from such a
state into another one; white space in front of it is skipped.
-/

namespace ConfigCheck.Yaml

open Json (skipSpace isSpace)

namespace Scanner

/-- A simple key that was remembered is not required, and its number is the given one, which was not
handed over yet. -/
def KeyAt (delivered : Nat) (key : Option SimpleKey) (number : Option Nat) : Prop :=
  ∀ k ∈ key, k.required = false ∧ delivered ≤ k.tokenNumber ∧ number = some k.tokenNumber

/-- The scanner is outside of all block collections.  It has handed over `out`; with what it holds
back these are the tokens `kinds`.  The simple keys can only be the tokens `keys`. -/
structure Holds (s : Scanner) (out : List Token) (kinds : List TokenKind)
    (keys : List (Option Nat)) : Prop where
  /-- There is no block collection. -/
  indent_eq : s.indent = -1
  /-- There is none around it. -/
  indents_eq : s.indents = []
  /-- The tokens that were handed over are counted. -/
  delivered_eq : s.delivered = out.length
  /-- The tokens so far. -/
  kinds_eq : (out ++ s.pending).map Token.kind = kinds
  /-- The simple keys, the innermost one first. -/
  keyAt : List.Forall₂ (KeyAt s.delivered) (s.simpleKey :: s.outerKeys) keys

variable {s s' : Scanner} {out tokens : List Token} {kinds : List TokenKind}
  {keys es : List (Option Nat)} {e : Option Nat} {c : Char} {cs rest : List Char}

/-- What was handed over comes first. -/
lemma Holds.kinds_begin (h : s.Holds out kinds keys) : out.map Token.kind <+: kinds := by
  rw [← h.kinds_eq, List.map_append]
  exact List.prefix_append _ _

/-- Every token counts. -/
lemma Holds.length (h : s.Holds out kinds keys) :
    s.delivered + s.pending.length = kinds.length := by
  rw [← h.kinds_eq, h.delivered_eq]
  simp

/-- The scanner is inside brackets if it has keys of outer levels. -/
lemma Holds.inFlow_eq (h : s.Holds out kinds (e :: es)) : s.inFlow = !es.isEmpty := by
  have houter := (List.forall₂_cons.mp h.keyAt).2
  unfold inFlow
  generalize s.outerKeys = outer at houter
  cases houter with
  | nil => rfl
  | cons => rfl

/-- The place, and whether a key may begin, do not matter. -/
lemma Holds.move (h : s.Holds out kinds keys) (cursor : Cursor) (keyAllowed ended : Bool) :
    { s with cursor, keyAllowed, ended }.Holds out kinds keys :=
  ⟨h.indent_eq, h.indents_eq, h.delivered_eq, h.kinds_eq, h.keyAt⟩

/-- One more token is held back. -/
lemma Holds.push (h : s.Holds out kinds keys) (t : Token) :
    (s.push t).Holds out (kinds ++ [t.kind]) keys := by
  refine ⟨h.indent_eq, h.indents_eq, h.delivered_eq, ?_, h.keyAt⟩
  rw [← h.kinds_eq]
  simp [Scanner.push]

/-- No block collection ends. -/
lemma Holds.unrollIndent_eq (h : s.Holds out kinds keys) (column : Int) :
    s.unrollIndent column = s := by
  unfold unrollIndent
  split
  · rfl
  · rw [h.indent_eq, h.indents_eq]
    simp only [unroll, List.replicate_zero, List.append_nil]
    rw [← h.indent_eq, ← h.indents_eq]

/-! ## Keys -/

/-- What becomes of a key that is dropped once it is stale. -/
lemma dropStale_eq_ok {m : Mark} {delivered : Nat} {key key' : Option SimpleKey}
    {number : Option Nat} (h : dropStale m key = .ok key') (hkey : KeyAt delivered key number) :
    KeyAt delivered key' number := by
  cases key with
  | none =>
    cases h
    exact hkey
  | some k =>
    rw [dropStale] at h
    split at h
    · split at h
      · cases h
      · cases h
        rintro _ ⟨⟩
    · cases h
      exact hkey

/-- Keys of outer levels can only be what they were. -/
lemma forall₂_keyAt_of_dropStale {m : Mark} {delivered : Nat}
    {outer outer' : List (Option SimpleKey)}
    (h : List.Forall₂ (fun key key' => dropStale m key = .ok key') outer outer')
    (hkeys : List.Forall₂ (KeyAt delivered) outer es) :
    List.Forall₂ (KeyAt delivered) outer' es := by
  induction h generalizing es with
  | nil => exact hkeys
  | cons hdrop _ ih =>
    obtain ⟨e, es, hkey, hrest, rfl⟩ := List.forall₂_cons_left_iff.mp hkeys
    exact .cons (dropStale_eq_ok hdrop hkey) (ih hrest)

/-- Keys that are stale are dropped, and nothing else happens. -/
lemma dropStaleKeys_eq_ok (h : s.dropStaleKeys = .ok s') (hs : s.Holds out kinds keys) :
    s'.Holds out kinds keys ∧ s'.cursor = s.cursor ∧ s'.keyAllowed = s.keyAllowed ∧
      s'.ended = s.ended ∧ s'.pending = s.pending := by
  unfold dropStaleKeys at h
  obtain ⟨outer, houter, h⟩ := bind_eq_ok_iff.mp h
  obtain ⟨innermost, hinnermost, h⟩ := bind_eq_ok_iff.mp h
  cases h
  refine ⟨⟨hs.indent_eq, hs.indents_eq, hs.delivered_eq, hs.kinds_eq, ?_⟩, rfl, rfl, rfl, rfl⟩
  obtain ⟨e, es, hkey, hkeys, rfl⟩ := List.forall₂_cons_left_iff.mp hs.keyAt
  refine .cons (dropStale_eq_ok hinnermost hkey) ?_
  have hdropped := List.rel_reverse (forall₂_of_mapM_eq_ok houter)
  rw [List.reverse_reverse] at hdropped
  exact forall₂_keyAt_of_dropStale hdropped hkeys

/-- Giving up a key does nothing else. -/
lemma removeKey_eq_ok (h : s.removeKey = .ok s') : s' = { s with simpleKey := none } := by
  unfold removeKey at h
  split at h
  · split at h
    · cases h
    · cases h
      rfl
  · rename_i hkey
    cases h
    rw [← hkey]

/-- Without its innermost key the scanner is in the same state. -/
lemma Holds.removeKey_eq_ok (hs : s.Holds out kinds (e :: es)) (h : s.removeKey = .ok s') :
    s'.Holds out kinds (none :: es) ∧ s'.cursor = s.cursor ∧ s'.ended = s.ended := by
  rw [Scanner.removeKey_eq_ok h]
  refine ⟨⟨hs.indent_eq, hs.indents_eq, hs.delivered_eq, hs.kinds_eq, ?_⟩, rfl, rfl⟩
  refine .cons ?_ (List.forall₂_cons.mp hs.keyAt).2
  rintro _ ⟨⟩

/-- A key that may begin has the number of the next token. -/
lemma Holds.saveKey_eq_ok (hs : s.Holds out kinds (e :: es)) (h : s.saveKey = .ok s') :
    s'.cursor = s.cursor ∧ s'.indent = s.indent ∧ s'.ended = s.ended ∧
      ∃ e', s'.Holds out kinds (e' :: es) ∧ (s.keyAllowed = true → e' = some kinds.length) := by
  unfold saveKey at h
  split at h
  · obtain ⟨s₁, hremove, h⟩ := bind_eq_ok_iff.mp h
    have hs₁ := Scanner.removeKey_eq_ok hremove
    cases h
    subst hs₁
    refine ⟨rfl, rfl, rfl, some kinds.length, ⟨hs.indent_eq, hs.indents_eq, hs.delivered_eq,
      hs.kinds_eq, .cons ?_ (List.forall₂_cons.mp hs.keyAt).2⟩, fun _ => rfl⟩
    rintro _ ⟨⟩
    have hcolumn : (s.indent == (s.mark.column : Int)) = false := by
      rw [hs.indent_eq]
      simp
    refine ⟨?_, Nat.le_add_right _ _, ?_⟩
    · simp [hcolumn]
    · rw [hs.length]
  · rename_i hallowed
    cases h
    exact ⟨rfl, rfl, rfl, e, hs, fun h => absurd h hallowed⟩

/-! ## Handing tokens over -/

/-- A token is handed over if no key may begin with it. -/
lemma Holds.deliver {t : Token} {pending : List Token} (h : s.Holds out kinds keys)
    (hpending : s.pending = t :: pending) (hblocked : ¬ s.isBlocked = true) :
    { s with pending := pending, delivered := s.delivered + 1 }.Holds (out ++ [t]) kinds keys := by
  refine ⟨h.indent_eq, h.indents_eq, ?_, ?_, ?_⟩
  · rw [List.length_append, ← h.delivered_eq]
    rfl
  · rw [← h.kinds_eq, hpending]
    simp
  · have hnumber : ∀ key ∈ s.simpleKey :: s.outerKeys, ∀ k ∈ key, k.tokenNumber ≠ s.delivered := by
      rintro key hkey k hk heq
      refine hblocked (List.any_eq_true.mpr ⟨key, hkey, ?_⟩)
      rw [hk]
      simpa using heq
    refine ((List.forall₂_and_left _ _).mpr ⟨hnumber, h.keyAt⟩).imp ?_
    rintro key number ⟨hne, hkey⟩ k hk
    obtain ⟨hrequired, hle, hk'⟩ := hkey k hk
    exact ⟨hrequired, Nat.lt_of_le_of_ne hle (hne k hk).symm, hk'⟩

/-- Tokens are handed over in order up to the first one that may be a key. -/
lemma release_eq_ok {fuel : Nat} (h : s.release fuel = .ok (tokens, s'))
    (hs : s.Holds out kinds keys) :
    s'.Holds (out ++ tokens) kinds keys ∧ s'.cursor = s.cursor ∧ s'.keyAllowed = s.keyAllowed ∧
      s'.ended = s.ended := by
  induction fuel generalizing s out tokens with
  | zero =>
    cases h
    rw [List.append_nil]
    exact ⟨hs, rfl, rfl, rfl⟩
  | succ fuel ih =>
    rw [release] at h
    split at h
    · cases h
      rw [List.append_nil]
      exact ⟨hs, rfl, rfl, rfl⟩
    · rename_i t pending hpending
      obtain ⟨s₁, hdrop, h⟩ := bind_eq_ok_iff.mp h
      obtain ⟨hs₁, hcursor, hallowed, hended, hpending₁⟩ := dropStaleKeys_eq_ok hdrop hs
      rw [hpending] at hpending₁
      split at h
      · cases h
        rw [List.append_nil]
        exact ⟨hs₁, hcursor, hallowed, hended⟩
      · rename_i hblocked
        obtain ⟨⟨tokens, s₂⟩, hrelease, h⟩ := bind_eq_ok_iff.mp h
        cases h
        obtain ⟨hs', hcursor', hallowed', hended'⟩ := ih hrelease (hs₁.deliver hpending₁ hblocked)
        rw [List.append_assoc] at hs'
        exact ⟨hs', hcursor'.trans hcursor, hallowed'.trans hallowed, hended'.trans hended⟩

/-! ## White space -/

/-- A character that is neither skipped nor part of a comment. -/
def isVisible (c : Char) : Bool := !isBlankOrBreak c && c != '#' && c != '\ufeff'

/-- Only white space of JSON stands in front of something visible. -/
lemma isSpace_of_isVisible {char : Char}
    (hcs : ∀ c ∈ (skipSpace (char :: cs)).head?, isVisible c = true)
    (hchar : isVisible char = false) : isSpace char = true := by
  cases hspace : isSpace char with
  | true => rfl
  | false =>
    rw [skipSpace_cons_of_not hspace] at hcs
    exact absurd (hcs char rfl) (by simp [hchar])

/-- Blanks that are skipped are white space of JSON. -/
lemma skipSpace_skipWhile {p : Char → Bool} (hp : ∀ c, p c = true → isSpace c = true) (c : Cursor) :
    skipSpace (c.skipWhile p).rest = skipSpace c.rest ∧ (c.skipWhile p).rest <:+ c.rest := by
  refine ⟨?_, rest_skip_suffix c _⟩
  change skipSpace (c.rest.drop (c.rest.takeWhile p).length) = skipSpace c.rest
  induction c.rest with
  | nil => rfl
  | cons char rest ih =>
    rw [List.takeWhile_cons]
    split
    · rename_i hchar
      rw [List.length_cons, List.drop_succ_cons, ih, skipSpace_cons (hp char hchar)]
    · rfl

/-- A line end that is skipped is white space of JSON, if something visible comes behind it. -/
lemma skipSpace_takeBreak {c next : Cursor} {content : List Char}
    (hvisible : ∀ char ∈ (skipSpace c.rest).head?, isVisible char = true)
    (h : c.takeBreak = (content, next)) (hne : content ≠ []) :
    skipSpace next.rest = skipSpace c.rest ∧ next.rest <:+ c.rest := by
  unfold Cursor.takeBreak at h
  split at h
  · rename_i rest heq
    cases h
    rw [heq]
    exact ⟨rfl, List.suffix_append ['\r', '\n'] rest⟩
  · rename_i char rest _ heq
    split at h
    · rename_i hbreak
      cases h
      rw [heq] at hvisible ⊢
      have hspace : isSpace char = true :=
        isSpace_of_isVisible hvisible (by simp [isVisible, isBlankOrBreak, hbreak])
      exact ⟨(skipSpace_cons hspace).symm, List.suffix_cons char rest⟩
    · cases h
      exact absurd rfl hne
  · cases h
    exact absurd rfl hne

/-- In front of something visible there is neither a comment nor a byte order mark. -/
lemma at_eq_false {c : Cursor} {char : Char}
    (hvisible : ∀ char ∈ (skipSpace c.rest).head?, isVisible char = true)
    (hchar : isVisible char = false) (hspace : isSpace char = false) : c.at_ char = false := by
  unfold Cursor.at_
  cases hrest : c.rest with
  | nil => rfl
  | cons first rest =>
    rw [hrest] at hvisible
    refine beq_false_of_ne fun heq => ?_
    cases heq
    exact absurd (isSpace_of_isVisible hvisible hchar) (by simp [hspace])

/-- Up to the next token white space is skipped, and nothing else happens. -/
lemma skipToToken_spec (fuel : Nat) (s : Scanner)
    (hvisible : ∀ c ∈ (skipSpace s.cursor.rest).head?, isVisible c = true) :
    ∃ cursor keyAllowed, skipToToken fuel s = { s with cursor, keyAllowed } ∧
      skipSpace cursor.rest = skipSpace s.cursor.rest ∧ cursor.rest <:+ s.cursor.rest ∧
      (s.keyAllowed = true → keyAllowed = true) := by
  induction fuel generalizing s with
  | zero => exact ⟨s.cursor, s.keyAllowed, rfl, rfl, List.suffix_rfl, id⟩
  | succ fuel ih =>
    have hmark : skipByteOrderMark s.cursor = s.cursor := by
      unfold skipByteOrderMark
      rw [at_eq_false hvisible rfl rfl, Bool.and_false, if_neg Bool.false_ne_true]
    rw [skipToToken, hmark]
    have hblanks := skipSpace_skipWhile (p := fun c =>
      c = ' ' || ((s.inFlow || !s.keyAllowed) && c = '\t')) (by
        intro c hc
        simp only [Bool.or_eq_true, Bool.and_eq_true, decide_eq_true_eq] at hc
        rcases hc with rfl | ⟨-, rfl⟩ <;> rfl) s.cursor
    generalize s.cursor.skipWhile (fun c =>
      c = ' ' || ((s.inFlow || !s.keyAllowed) && c = '\t')) = c at hblanks ⊢
    obtain ⟨hspace, hsuffix⟩ := hblanks
    rw [← hspace] at hvisible
    have hcomment : c.skipComment = c := by
      unfold Cursor.skipComment
      rw [at_eq_false hvisible rfl rfl, if_neg Bool.false_ne_true]
    rw [hcomment]
    split
    · exact ⟨c, s.keyAllowed, rfl, hspace, hsuffix, id⟩
    · rename_i content next hne htake
      obtain ⟨hspace', hsuffix'⟩ := skipSpace_takeBreak hvisible htake (by simpa using hne)
      rw [← hspace'] at hvisible
      obtain ⟨cursor, keyAllowed, heq, hcursor, hbehind, hallowed⟩ :=
        ih { s with cursor := next, keyAllowed := s.keyAllowed || !s.inFlow } hvisible
      refine ⟨cursor, keyAllowed, heq, hcursor.trans (hspace'.trans hspace),
        hbehind.trans (hsuffix'.trans hsuffix), fun h => hallowed ?_⟩
      simp [h]

/-! ## The kind of the next token -/

/-- A document indicator consists of dashes or dots. -/
lemma atDocumentIndicator_eq_false {cursor : Cursor} (hrest : cursor.rest = c :: rest)
    (hdash : c ≠ '-')
    (hdot : c ≠ '.') : cursor.atDocumentIndicator = false := by
  unfold Cursor.atDocumentIndicator
  rw [Bool.and_eq_false_iff]
  right
  rw [hrest]
  split
  · rename_i heq
    exact absurd (List.cons.inj heq).1 hdash
  · rename_i heq
    exact absurd (List.cons.inj heq).1 hdot
  · rfl

/-- No token starts with white space. -/
lemma fetchToken_isSpace (hrest : s.cursor.rest = c :: rest) (hspace : isSpace c = true) :
    s.fetchToken c rest = .error (.during .nextToken s.mark .cannotStartToken s.mark) := by
  have hindicator : s.cursor.atDocumentIndicator = false := by
    refine atDocumentIndicator_eq_false hrest ?_ ?_
    · rintro rfl
      exact absurd hspace (by decide)
    · rintro rfl
      exact absurd hspace (by decide)
  have hplain : startsPlain s.inFlow c rest = false := by
    unfold isSpace at hspace
    simp only [Bool.or_eq_true, decide_eq_true_eq] at hspace
    rcases hspace with ((rfl | rfl) | rfl) | rfl <;>
      simp [startsPlain, isBlankOrBreak, isBlank, isBreak]
  unfold isSpace at hspace
  simp only [Bool.or_eq_true, decide_eq_true_eq] at hspace
  rcases hspace with ((rfl | rfl) | rfl) | rfl <;> simp [fetchToken, hindicator, hplain]

/-- A bracket or a brace opens a collection. -/
lemma fetchToken_flowStart {kind : TokenKind} (hrest : s.cursor.rest = c :: rest)
    (hc : (c, kind) ∈ [('[', .flowSequenceStart), ('\x7b', .flowMappingStart)]) :
    s.fetchToken c rest = s.fetchFlowStart kind := by
  simp only [List.mem_cons, Prod.mk.injEq, List.not_mem_nil, or_false] at hc
  rcases hc with ⟨rfl, rfl⟩ | ⟨rfl, rfl⟩ <;>
    simp [fetchToken, atDocumentIndicator_eq_false hrest (by decide) (by decide)]

/-- A bracket or a brace closes a collection. -/
lemma fetchToken_flowEnd {kind : TokenKind} (hrest : s.cursor.rest = c :: rest)
    (hc : (c, kind) ∈ [(']', .flowSequenceEnd), ('\x7d', .flowMappingEnd)]) :
    s.fetchToken c rest = s.fetchFlowEnd kind := by
  simp only [List.mem_cons, Prod.mk.injEq, List.not_mem_nil, or_false] at hc
  rcases hc with ⟨rfl, rfl⟩ | ⟨rfl, rfl⟩ <;>
    simp [fetchToken, atDocumentIndicator_eq_false hrest (by decide) (by decide)]

/-- A comma ends an entry. -/
lemma fetchToken_comma (hrest : s.cursor.rest = ',' :: rest) :
    s.fetchToken ',' rest = s.fetchFlowEntry := by
  simp [fetchToken, atDocumentIndicator_eq_false hrest (by decide) (by decide)]

/-- Inside brackets a colon comes before a value. -/
lemma fetchToken_colon (hrest : s.cursor.rest = ':' :: rest) (hflow : s.inFlow = true) :
    s.fetchToken ':' rest = s.fetchValue := by
  simp [fetchToken, atDocumentIndicator_eq_false hrest (by decide) (by decide), hflow]

/-- A quote begins a scalar. -/
lemma fetchToken_quote (hrest : s.cursor.rest = '"' :: rest) :
    s.fetchToken '"' rest = s.fetchQuoted .doubleQuoted := by
  simp [fetchToken, atDocumentIndicator_eq_false hrest (by decide) (by decide)]

/-- A plain scalar starts with a visible character that is no indicator, or with a dash before
one. -/
lemma fetchToken_plain (hindicator : s.cursor.atDocumentIndicator = false)
    (hc : isBlankOrBreak c = false ∧ isIndicator c = false ∨
      c = '-' ∧ ∃ d more, rest = d :: more ∧ isBlankOrBreak d = false) :
    s.fetchToken c rest = s.fetchPlain := by
  rcases hc with ⟨hvisible, hc⟩ | ⟨rfl, d, more, rfl, hd⟩
  · have hplain : startsPlain s.inFlow c rest = true := by simp [startsPlain, hvisible, hc]
    simp [isIndicator] at hc
    simp [fetchToken, hindicator, hplain, hc]
  · have hblank : isBlank d = false := by
      unfold isBlankOrBreak at hd
      exact (Bool.or_eq_false_iff.mp hd).1
    simp [fetchToken, hindicator, startsPlain, atSpace, hd, hblank]

/-! ## Fetching tokens -/

/-- Behind white space the next token is fetched. -/
lemma Holds.fetchNext_eq_ok (hs : s.Holds out kinds keys)
    (hvisible : ∀ c ∈ (skipSpace s.cursor.rest).head?, isVisible c = true)
    (h : s.fetchNext = .ok s') :
    ∃ s₁ : Scanner, s₁.Holds out kinds keys ∧ s₁.cursor.rest = skipSpace s.cursor.rest ∧
      s₁.cursor.rest <:+ s.cursor.rest ∧ (s.keyAllowed = true → s₁.keyAllowed = true) ∧
      s₁.ended = s.ended ∧
      (match s₁.cursor.rest with
        | [] => s₁.fetchStreamEnd
        | c :: rest => s₁.fetchToken c rest) = .ok s' := by
  unfold fetchNext at h
  obtain ⟨cursor, keyAllowed, heq, hspace, hsuffix, hallowed⟩ :=
    skipToToken_spec (s.cursor.rest.length + 1) s hvisible
  rw [heq] at h
  obtain ⟨s₁, hdrop, h⟩ := bind_eq_ok_iff.mp h
  obtain ⟨hs₁, hcursor, hallowed₁, hended, -⟩ :=
    dropStaleKeys_eq_ok hdrop (hs.move cursor keyAllowed s.ended)
  rw [hs₁.unrollIndent_eq] at h
  have hcursor : s₁.cursor = cursor := hcursor
  refine ⟨s₁, hs₁, ?_, hcursor ▸ hsuffix, hallowed₁ ▸ hallowed, hended, h⟩
  rw [← hspace, hcursor]
  -- White space that is left over would be refused as a token.
  cases hrest : cursor.rest with
  | nil => rfl
  | cons c rest =>
    cases hc : isSpace c with
    | false => exact (skipSpace_cons_of_not hc).symm
    | true =>
      have hrest₁ : s₁.cursor.rest = c :: rest := by rw [hcursor, hrest]
      dsimp only at h
      rw [hrest₁] at h
      dsimp only at h
      rw [fetchToken_isSpace hrest₁ hc] at h
      cases h

/-- One more token, which is taken from the text. -/
lemma Holds.take (h : s.Holds out kinds keys) (n : Nat) (kind : TokenKind) (keyAllowed : Bool) :
    { s.take n kind with keyAllowed }.Holds out (kinds ++ [kind]) keys :=
  (h.push ⟨kind, s.mark, (s.cursor.skip n).mark⟩).move (s.cursor.skip n) keyAllowed s.ended

/-- An opening bracket begins a new level. -/
lemma Holds.fetchFlowStart_eq_ok {kind : TokenKind} (hs : s.Holds out kinds (e :: es))
    (h : s.fetchFlowStart kind = .ok s') :
    s'.cursor = s.cursor.skip 1 ∧ s'.keyAllowed = true ∧ s'.ended = s.ended ∧
      ∃ e', s'.Holds out (kinds ++ [kind]) (none :: e' :: es) := by
  unfold fetchFlowStart at h
  obtain ⟨s₁, hsave, h⟩ := bind_eq_ok_iff.mp h
  obtain ⟨hcursor, -, hended, e', hs₁, -⟩ := hs.saveKey_eq_ok hsave
  cases h
  refine ⟨congrArg (Cursor.skip · 1) hcursor, rfl, hended, e', ?_⟩
  have hinside : { s₁ with
      outerKeys := s₁.simpleKey :: s₁.outerKeys, simpleKey := none, keyAllowed := true }.Holds
        out kinds (none :: e' :: es) := by
    refine ⟨hs₁.indent_eq, hs₁.indents_eq, hs₁.delivered_eq, hs₁.kinds_eq, .cons ?_ hs₁.keyAt⟩
    rintro _ ⟨⟩
  exact hinside.take 1 kind true

/-- A closing bracket ends the level. -/
lemma Holds.fetchFlowEnd_eq_ok {kind : TokenKind} {e' : Option Nat}
    (hs : s.Holds out kinds (e :: e' :: es)) (h : s.fetchFlowEnd kind = .ok s') :
    s'.cursor = s.cursor.skip 1 ∧ s'.ended = s.ended ∧
      s'.Holds out (kinds ++ [kind]) (e' :: es) := by
  unfold fetchFlowEnd at h
  obtain ⟨s₁, hremove, h⟩ := bind_eq_ok_iff.mp h
  obtain ⟨hs₁, hcursor, hended⟩ := hs.removeKey_eq_ok hremove
  cases h
  obtain ⟨key, outer, hkey, houter, heq⟩ :=
    List.forall₂_cons_right_iff.mp (List.forall₂_cons.mp hs₁.keyAt).2
  rw [heq]
  refine ⟨congrArg (Cursor.skip · 1) hcursor, hended, ?_⟩
  have houtside : { s₁ with simpleKey := key, outerKeys := outer }.Holds out kinds (e' :: es) :=
    ⟨hs₁.indent_eq, hs₁.indents_eq, hs₁.delivered_eq, hs₁.kinds_eq, .cons hkey houter⟩
  exact houtside.take 1 kind false

/-- A comma ends an entry. -/
lemma Holds.fetchFlowEntry_eq_ok (hs : s.Holds out kinds (e :: es))
    (h : s.fetchFlowEntry = .ok s') :
    s'.cursor = s.cursor.skip 1 ∧ s'.keyAllowed = true ∧ s'.ended = s.ended ∧
      s'.Holds out (kinds ++ [.flowEntry]) (none :: es) := by
  unfold fetchFlowEntry at h
  obtain ⟨s₁, hremove, h⟩ := bind_eq_ok_iff.mp h
  obtain ⟨hs₁, hcursor, hended⟩ := hs.removeKey_eq_ok hremove
  cases h
  exact ⟨congrArg (Cursor.skip · 1) hcursor, rfl, hended, hs₁.take 1 .flowEntry true⟩

/-- Inside brackets no block mapping begins. -/
lemma rollIndent_of_inFlow (hflow : s.inFlow = true) (column : Nat) (number : Option Nat)
    (kind : TokenKind) (m : Mark) : s.rollIndent column number kind m = s := by
  unfold rollIndent
  rw [hflow]
  rfl

/-- A token that is put in front of others counts as one of the tokens so far. -/
lemma Holds.insertAt {before after : List TokenKind} (hs : s.Holds out (before ++ after) keys)
    (hle : s.delivered ≤ before.length) (t : Token) :
    (out ++ (s.insertAt before.length t).pending).map Token.kind = before ++ t.kind :: after := by
  have hout : out.take before.length = out := List.take_of_length_le (hs.delivered_eq ▸ hle)
  have hbefore : (out ++ s.pending.take (before.length - out.length)).map Token.kind = before := by
    have htake := congrArg (List.take before.length) hs.kinds_eq
    rwa [List.take_left, ← List.map_take, List.take_append, hout] at htake
  have hafter : (s.pending.drop (before.length - out.length)).map Token.kind = after := by
    have hdrop := congrArg (List.drop before.length) hs.kinds_eq
    rwa [List.drop_left, ← List.map_drop, List.drop_append,
      List.drop_eq_nil_of_le (hs.delivered_eq ▸ hle), List.nil_append] at hdrop
  unfold Scanner.insertAt
  dsimp only
  rw [hs.delivered_eq, ← List.append_assoc, List.map_append, hbefore, List.map_cons, hafter]

/-- A colon marks the last token as a key, if it can still be one. -/
lemma Holds.fetchValue_eq_ok {k : TokenKind}
    (hs : s.Holds out (kinds ++ [k]) (some kinds.length :: es))
    (hne : es ≠ []) (h : s.fetchValue = .ok s') :
    s'.cursor = s.cursor.skip 1 ∧ s'.ended = s.ended ∧ ∃ keyed : Bool,
      s'.Holds out (kinds ++ ((if keyed then [.key] else []) ++ [k, .value])) (none :: es) := by
  have hflow : s.inFlow = true := by
    rw [hs.inFlow_eq]
    simpa using hne
  obtain ⟨hkey, houter⟩ := List.forall₂_cons.mp hs.keyAt
  have hnone : KeyAt s.delivered none none := by
    rintro _ ⟨⟩
  unfold fetchValue at h
  split at h
  · rename_i key hsome
    obtain ⟨-, hle, hnumber⟩ := hkey key hsome
    rw [← Option.some.inj hnumber] at hle h
    rw [rollIndent_of_inFlow (s := s.insertAt kinds.length _) hflow] at h
    cases h
    refine ⟨rfl, rfl, true, ?_⟩
    have hinsert : { s.insertAt kinds.length ⟨.key, key.mark, key.mark⟩ with
        simpleKey := none }.Holds out (kinds ++ [TokenKind.key, k]) (none :: es) :=
      ⟨hs.indent_eq, hs.indents_eq, hs.delivered_eq, hs.insertAt hle _, .cons hnone houter⟩
    have htake := hinsert.take 1 .value false
    rw [List.append_assoc] at htake
    exact htake
  · rename_i hsimple
    rw [hflow, rollIndent_of_inFlow hflow] at h
    cases h
    refine ⟨rfl, rfl, false, ?_⟩
    have hold : s.Holds out (kinds ++ [k]) (none :: es) :=
      ⟨hs.indent_eq, hs.indents_eq, hs.delivered_eq, hs.kinds_eq, .cons (hsimple ▸ hnone) houter⟩
    have htake := hold.take 1 .value (!s.inFlow)
    rw [List.append_assoc] at htake
    exact htake

/-- A string becomes a quoted scalar. -/
lemma Holds.fetchQuoted_eq_ok {name : String} {inside : List Char}
    (hs : s.Holds out kinds (e :: es))
    (hrest : s.cursor.rest = '"' :: inside) (hname : Json.readString inside = .ok (name, rest))
    (hplain : HasPlainBreaks s.cursor.rest) (h : s.fetchQuoted .doubleQuoted = .ok s') :
    s'.cursor.rest = rest ∧ HasPlainBreaks rest ∧ s'.ended = s.ended ∧
      ∃ e', s'.Holds out (kinds ++ [.scalar name .doubleQuoted]) (e' :: es) ∧
        (s.keyAllowed = true → e' = some kinds.length) := by
  obtain ⟨text, rfl, hread⟩ := Json.readString_eq_ok hname
  unfold fetchQuoted at h
  obtain ⟨s₁, hsave, h⟩ := bind_eq_ok_iff.mp h
  obtain ⟨hcursor, -, hended, e', hs₁, hkey⟩ := hs.saveKey_eq_ok hsave
  obtain ⟨r, hscan, h⟩ := bind_eq_ok_iff.mp h
  rw [← hcursor] at hrest hplain
  obtain ⟨rfl, hbehind, hbreaks⟩ := scanQuoted_eq_ok hrest hread hplain hscan
  cases h
  exact ⟨hbehind, hbreaks, hended, e', (hs₁.push _).move r.cursor false s₁.ended, hkey⟩

/-- A number or a word becomes a plain scalar. -/
lemma Holds.fetchPlain_eq_ok {lexeme : List Char} (hs : s.Holds out kinds (e :: es))
    (hrest : s.cursor.rest = lexeme ++ rest) (hinner : ∀ c ∈ lexeme, isInner c = true)
    (hne : lexeme ≠ []) (hindicator : s.cursor.atDocumentIndicator = false)
    (hend : AtEnd (!es.isEmpty) rest) (h : s.fetchPlain = .ok s') :
    skipSpace s'.cursor.rest = skipSpace rest ∧ s'.cursor.rest <:+ s.cursor.rest ∧
      s'.ended = s.ended ∧
      ∃ e', s'.Holds out (kinds ++ [.scalar (String.ofList lexeme) .plain]) (e' :: es) := by
  unfold fetchPlain at h
  obtain ⟨s₁, hsave, h⟩ := bind_eq_ok_iff.mp h
  obtain ⟨hcursor, hindent, hended, e', hs₁, -⟩ := hs.saveKey_eq_ok hsave
  obtain ⟨r, hscan, h⟩ := bind_eq_ok_iff.mp h
  have hzero : (s₁.indent + 1).toNat = 0 := by rw [hs₁.indent_eq]; rfl
  rw [hzero, hs₁.inFlow_eq] at hscan
  have hsuffix : rest <:+ s.cursor.rest := hrest ▸ List.suffix_append lexeme rest
  rw [← hcursor] at hrest hindicator
  obtain ⟨rfl, hbehind, hrest'⟩ := scanPlain_eq_ok hrest hinner hne hindicator hend hscan
  cases h
  exact ⟨hbehind, hrest'.trans hsuffix, hended, e', (hs₁.push _).move r.cursor r.broken s₁.ended⟩

/-- At the end of the text the stream ends. -/
lemma Holds.fetchStreamEnd_eq_ok (hs : s.Holds out kinds (e :: es))
    (h : s.fetchStreamEnd = .ok s') :
    s'.Holds out (kinds ++ [.streamEnd]) (none :: es) ∧ s'.ended = true := by
  unfold fetchStreamEnd at h
  obtain ⟨s₁, hremove, h⟩ := bind_eq_ok_iff.mp h
  have hs₁ := hs.move { s.cursor with mark :=
    if s.mark.column = 0 then s.mark else { s.mark with line := s.mark.line + 1, column := 0 } }
    s.keyAllowed s.ended
  rw [hs₁.unrollIndent_eq] at hremove
  obtain ⟨hs₂, -, -⟩ := hs₁.removeKey_eq_ok hremove
  cases h
  exact ⟨(hs₂.push _).move s₁.cursor false true, rfl⟩

/-! ## The end of the stream -/

section

variable {final : List TokenKind} {fuel : Nat}

/-- As long as the end of the stream is still to come, the next token is fetched. -/
lemma Holds.exists_fetchNext (hs : s.Holds out kinds keys) (hended : s.ended = false)
    (hkinds : .streamEnd ∉ kinds) (hfinal : .streamEnd ∈ final)
    (hfuture : final = (out ++ (TokenStream.ofScanner fuel s).tokens).map Token.kind) :
    ∃ fuel' tokens, ∃ s₁ s' : Scanner, fuel = fuel' + 1 ∧ s₁.Holds (out ++ tokens) kinds keys ∧
      s₁.cursor = s.cursor ∧ s₁.keyAllowed = s.keyAllowed ∧ s₁.ended = false ∧
      s₁.fetchNext = .ok s' ∧
      final = (out ++ tokens ++ (TokenStream.ofScanner fuel' s').tokens).map Token.kind := by
  -- A stream that ends with the tokens so far would not be complete.
  have hstop : ∀ {s : Scanner} {out}, s.Holds out kinds keys → final ≠ out.map Token.kind := by
    rintro s out hs rfl
    exact hkinds (hs.kinds_begin.subset hfinal)
  cases fuel with
  | zero =>
    rw [TokenStream.ofScanner, List.append_nil] at hfuture
    exact absurd hfuture (hstop hs)
  | succ fuel =>
    rw [TokenStream.ofScanner] at hfuture
    cases hrelease : s.release (s.pending.length + 1) with
    | error =>
      rw [hrelease] at hfuture
      dsimp only at hfuture
      rw [List.append_nil] at hfuture
      exact absurd hfuture (hstop hs)
    | ok result =>
      obtain ⟨tokens, s₁⟩ := result
      obtain ⟨hs₁, hcursor, hallowed, hended₁⟩ := release_eq_ok hrelease hs
      rw [hended] at hended₁
      rw [hrelease] at hfuture
      dsimp only at hfuture
      rw [hended₁, if_neg Bool.false_ne_true] at hfuture
      cases hfetch : s₁.fetchNext with
      | error =>
        rw [hfetch] at hfuture
        exact absurd hfuture (hstop hs₁)
      | ok s' =>
        rw [hfetch] at hfuture
        refine ⟨fuel, tokens, s₁, s', rfl, hs₁, hcursor, hallowed, hended₁, hfetch, ?_⟩
        rw [hfuture, List.append_assoc]
        rfl

/-- Nothing comes behind the end of the stream. -/
lemma Holds.final_eq (hs : s.Holds out (kinds ++ [.streamEnd]) keys) (hended : s.ended = true)
    (hkinds : .streamEnd ∉ kinds) (hfinal : .streamEnd ∈ final)
    (hfuture : final = (out ++ (TokenStream.ofScanner fuel s).tokens).map Token.kind) :
    final = kinds ++ [.streamEnd] := by
  -- What is handed over now is the beginning of all tokens, so it is all of them.
  have hbegin : final <+: kinds ++ [.streamEnd] := by
    cases fuel with
    | zero =>
      rw [hfuture, TokenStream.ofScanner, List.append_nil]
      exact hs.kinds_begin
    | succ fuel =>
      rw [TokenStream.ofScanner] at hfuture
      cases hrelease : s.release (s.pending.length + 1) with
      | error =>
        rw [hfuture, hrelease]
        dsimp only
        rw [List.append_nil]
        exact hs.kinds_begin
      | ok result =>
        obtain ⟨tokens, s₁⟩ := result
        obtain ⟨hs₁, -, -, hended₁⟩ := release_eq_ok hrelease hs
        rw [hrelease] at hfuture
        dsimp only at hfuture
        rw [hended₁, hended, if_pos rfl] at hfuture
        rw [hfuture]
        exact hs₁.kinds_begin
  rcases List.prefix_concat_iff.mp hbegin with heq | hbegin
  · exact heq
  · exact absurd (hbegin.subset hfinal) hkinds

end

end Scanner

end ConfigCheck.Yaml
