import ConfigCheck.Proofs.Yaml.Meaning
import ConfigCheck.Proofs.Yaml.Scanner

/-!
# The tokens of a JSON text

A JSON text that is scanned to its end forms the tokens of what it says (`Tokens`), with one choice:
the name of a member is marked as a key if its colon comes soon enough.

`At` says that a scanner has formed certain tokens, is about to read a part of the text, and gives a
certain stream in the end.  Since that stream is complete no step fails, so each character that
starts a token leads from one such place to the next, and so does each phrase (`scansAs_of_reads`).
-/

namespace ConfigCheck.Yaml

open Json (Phrase Reads Source skipSpace isSpace)

/-- The tokens that a part of a JSON text forms; each name may be marked as a key or not. -/
inductive Tokens : Phrase → List TokenKind → Prop
  | null : Tokens (.value .null) [.scalar "null" .plain]
  | bool {b} : Tokens (.value (.bool b)) [.scalar (if b then "true" else "false") .plain]
  | number {m n} : Tokens (.value (.number m n)) [.scalar (String.ofList m.text) .plain]
  | string {s} : Tokens (.value (.string s)) [.scalar s .doubleQuoted]
  | array {list ks} (hlist : Tokens (.items true list) ks) :
    Tokens (.value (.array list)) (.flowSequenceStart :: ks)
  | object {list ks} (hlist : Tokens (.members true list) ks) :
    Tokens (.value (.object list)) (.flowMappingStart :: ks)
  | itemsEnd {first} : Tokens (.items first []) [.flowSequenceEnd]
  | itemsFirst {s list ks ks'} (hs : Tokens (.value s) ks)
      (hlist : Tokens (.items false list) ks') :
    Tokens (.items true (s :: list)) (ks ++ ks')
  | itemsNext {s list ks} (hlist : Tokens (.items true (s :: list)) ks) :
    Tokens (.items false (s :: list)) (.flowEntry :: ks)
  | membersEnd {first} : Tokens (.members first []) [.flowMappingEnd]
  | membersFirst {name s list ks ks'} (keyed : Bool) (hs : Tokens (.value s) ks)
      (hlist : Tokens (.members false list) ks') :
    Tokens (.members true ((name, s) :: list))
      ((if keyed then [.key] else []) ++ .scalar name .doubleQuoted :: .value :: (ks ++ ks'))
  | membersNext {m list ks} (hlist : Tokens (.members true (m :: list)) ks) :
    Tokens (.members false (m :: list)) (.flowEntry :: ks)

/-! ## Reading on -/

/-- A scanner that has formed the tokens `kinds` and gives the tokens `final` in the end is about to
read `cs`, perhaps behind some white space.  The simple keys can only be the tokens `keys`; if
`allowed`, one may begin. -/
def At (final kinds : List TokenKind) (keys : List (Option Nat)) (allowed : Bool)
    (cs : List Char) : Prop :=
  ∃ fuel out, ∃ s : Scanner, s.Holds out kinds keys ∧
    final = (out ++ (TokenStream.ofScanner fuel s).tokens).map Token.kind ∧
    skipSpace s.cursor.rest = skipSpace cs ∧ HasPlainBreaks s.cursor.rest ∧
    (allowed = true → s.keyAllowed = true) ∧ s.ended = false ∧ .streamEnd ∉ kinds

variable {final kinds : List TokenKind} {keys es : List (Option Nat)} {e : Option Nat}
  {allowed : Bool} {cs rest : List Char}

/-- The next token is fetched, since the stream does not end here. -/
lemma At.next (h : At final kinds keys allowed cs) (hfinal : .streamEnd ∈ final)
    (hvisible : ∀ c ∈ (skipSpace cs).head?, Scanner.isVisible c = true) :
    ∃ fuel out, ∃ s s' : Scanner, s.Holds out kinds keys ∧
      final = (out ++ (TokenStream.ofScanner fuel s').tokens).map Token.kind ∧
      s.cursor.rest = skipSpace cs ∧ HasPlainBreaks s.cursor.rest ∧
      (allowed = true → s.keyAllowed = true) ∧ s.ended = false ∧ .streamEnd ∉ kinds ∧
      (match s.cursor.rest with
        | [] => s.fetchStreamEnd
        | c :: rest => s.fetchToken c rest) = .ok s' := by
  obtain ⟨fuel, out, s, hs, hfuture, hcs, hplain, hallowed, hended, hkinds⟩ := h
  obtain ⟨fuel, tokens, s₁, s', -, hs₁, hcursor₁, hallowed₁, hended₁, hfetch, hfuture⟩ :=
    hs.exists_fetchNext hended hkinds hfinal hfuture
  rw [← hcursor₁] at hcs hplain
  rw [← hcs] at hvisible
  obtain ⟨s₂, hs₂, hrest, hsuffix, hallowed₂, hended₂, hnext⟩ :=
    hs₁.fetchNext_eq_ok hvisible hfetch
  exact ⟨fuel, out ++ tokens, s₂, s', hs₂, hfuture, hrest.trans hcs, hplain.of_suffix hsuffix,
    fun h => hallowed₂ (hallowed₁ ▸ hallowed h), hended₂.trans hended₁, hkinds, hnext⟩

/-- A token that starts with a visible character is fetched, and the scanner is ready for what comes
behind it. -/
lemma At.nextToken {c : Char} (h : At final kinds keys allowed cs) (hfinal : .streamEnd ∈ final)
    (hcs : skipSpace cs = c :: rest) (hc : Scanner.isVisible c = true) :
    ∃ out, ∃ s s' : Scanner, s.Holds out kinds keys ∧ s.cursor.rest = c :: rest ∧
      HasPlainBreaks (c :: rest) ∧ (allowed = true → s.keyAllowed = true) ∧ .streamEnd ∉ kinds ∧
      s.fetchToken c rest = .ok s' ∧
      ∀ {kinds' keys' allowed' cs'}, s'.Holds out kinds' keys' →
        skipSpace s'.cursor.rest = skipSpace cs' → HasPlainBreaks s'.cursor.rest →
        (allowed' = true → s'.keyAllowed = true) → s'.ended = s.ended → .streamEnd ∉ kinds' →
        At final kinds' keys' allowed' cs' := by
  have hvisible : ∀ c ∈ (skipSpace cs).head?, Scanner.isVisible c = true := by
    rw [hcs]
    rintro _ ⟨⟩
    exact hc
  obtain ⟨fuel, out, s, s', hs, hfuture, hrest, hplain, hallowed, hended, hkinds, hfetch⟩ :=
    h.next hfinal hvisible
  rw [hcs] at hrest
  rw [hrest] at hplain hfetch
  refine ⟨out, s, s', hs, hrest, hplain, hallowed, hkinds, hfetch, ?_⟩
  intro kinds' keys' allowed' cs' hs' hcs' hplain' hallowed' hended' hkinds'
  exact ⟨fuel, out, s', hs', hfuture, hcs', hplain', hallowed', hended'.trans hended, hkinds'⟩

/-- Behind one character the rest of the text is left. -/
lemma rest_skip_one {c : Char} {cursor next : Cursor} (hrest : cursor.rest = c :: rest)
    (hnext : next = cursor.skip 1) : next.rest = rest := by
  rw [hnext]
  simp [Cursor.skip, hrest]

/-- An opening bracket is scanned. -/
lemma At.flowStart {c : Char} {kind : TokenKind} (h : At final kinds (e :: es) allowed cs)
    (hfinal : .streamEnd ∈ final) (hcs : skipSpace cs = c :: rest)
    (hc : (c, kind) ∈ [('[', .flowSequenceStart), ('\x7b', .flowMappingStart)]) :
    ∃ e', At final (kinds ++ [kind]) (none :: e' :: es) true rest := by
  have hcases : Scanner.isVisible c = true ∧ kind ≠ .streamEnd := by
    simp only [List.mem_cons, Prod.mk.injEq, List.not_mem_nil, or_false] at hc
    rcases hc with ⟨rfl, rfl⟩ | ⟨rfl, rfl⟩ <;> decide
  obtain ⟨out, s, s', hs, hrest, hplain, -, hkinds, hfetch, hat⟩ := h.nextToken hfinal hcs hcases.1
  rw [Scanner.fetchToken_flowStart hrest hc] at hfetch
  obtain ⟨hcursor, hallowed, hended, e', hs'⟩ := hs.fetchFlowStart_eq_ok hfetch
  have hbehind := rest_skip_one hrest hcursor
  refine ⟨e', hat hs' (congrArg skipSpace hbehind) (hbehind ▸ hplain.of_cons) (fun _ => hallowed)
    hended ?_⟩
  simpa [hkinds] using hcases.2.symm

/-- A closing bracket is scanned. -/
lemma At.flowEnd {c : Char} {kind : TokenKind} {e' : Option Nat}
    (h : At final kinds (e :: e' :: es) allowed cs) (hfinal : .streamEnd ∈ final)
    (hcs : skipSpace cs = c :: rest)
    (hc : (c, kind) ∈ [(']', .flowSequenceEnd), ('\x7d', .flowMappingEnd)]) :
    At final (kinds ++ [kind]) (e' :: es) false rest := by
  have hcases : Scanner.isVisible c = true ∧ kind ≠ .streamEnd := by
    simp only [List.mem_cons, Prod.mk.injEq, List.not_mem_nil, or_false] at hc
    rcases hc with ⟨rfl, rfl⟩ | ⟨rfl, rfl⟩ <;> decide
  obtain ⟨out, s, s', hs, hrest, hplain, -, hkinds, hfetch, hat⟩ := h.nextToken hfinal hcs hcases.1
  rw [Scanner.fetchToken_flowEnd hrest hc] at hfetch
  obtain ⟨hcursor, hended, hs'⟩ := hs.fetchFlowEnd_eq_ok hfetch
  have hbehind := rest_skip_one hrest hcursor
  refine hat hs' (congrArg skipSpace hbehind) (hbehind ▸ hplain.of_cons)
    (fun h => absurd h Bool.false_ne_true) hended ?_
  simpa [hkinds] using hcases.2.symm

/-- A comma is scanned. -/
lemma At.comma (h : At final kinds (e :: es) allowed cs) (hfinal : .streamEnd ∈ final)
    (hcs : skipSpace cs = ',' :: rest) :
    At final (kinds ++ [.flowEntry]) (none :: es) true rest := by
  obtain ⟨out, s, s', hs, hrest, hplain, -, hkinds, hfetch, hat⟩ := h.nextToken hfinal hcs rfl
  rw [Scanner.fetchToken_comma hrest] at hfetch
  obtain ⟨hcursor, hallowed, hended, hs'⟩ := hs.fetchFlowEntry_eq_ok hfetch
  have hbehind := rest_skip_one hrest hcursor
  refine hat hs' (congrArg skipSpace hbehind) (hbehind ▸ hplain.of_cons) (fun _ => hallowed)
    hended ?_
  simpa using hkinds

/-- The colon behind a name is scanned; the name is marked as a key if it can still be one. -/
lemma At.colon {k : TokenKind} (h : At final (kinds ++ [k]) (some kinds.length :: es) allowed cs)
    (hne : es ≠ []) (hfinal : .streamEnd ∈ final) (hcs : skipSpace cs = ':' :: rest) :
    ∃ keyed : Bool, At final (kinds ++ ((if keyed then [.key] else []) ++ [k, .value])) (none :: es)
      false rest := by
  obtain ⟨out, s, s', hs, hrest, hplain, -, hkinds, hfetch, hat⟩ := h.nextToken hfinal hcs rfl
  have hflow : s.inFlow = true := by
    rw [hs.inFlow_eq]
    simpa using hne
  rw [Scanner.fetchToken_colon hrest hflow] at hfetch
  obtain ⟨hcursor, hended, keyed, hs'⟩ := hs.fetchValue_eq_ok hne hfetch
  have hbehind := rest_skip_one hrest hcursor
  refine ⟨keyed, hat hs' (congrArg skipSpace hbehind) (hbehind ▸ hplain.of_cons)
    (fun h => absurd h Bool.false_ne_true) hended ?_⟩
  cases keyed <;> simpa using hkinds

/-- A string is scanned; it may be a key where one is allowed. -/
lemma At.quoted {name : String} {inside : List Char} (h : At final kinds (e :: es) allowed cs)
    (hfinal : .streamEnd ∈ final) (hcs : skipSpace cs = '"' :: inside)
    (hname : Json.readString inside = .ok (name, rest)) :
    ∃ e', At final (kinds ++ [.scalar name .doubleQuoted]) (e' :: es) false rest ∧
      (allowed = true → e' = some kinds.length) := by
  obtain ⟨out, s, s', hs, hrest, hplain, hallowed, hkinds, hfetch, hat⟩ :=
    h.nextToken hfinal hcs rfl
  rw [Scanner.fetchToken_quote hrest] at hfetch
  obtain ⟨hbehind, hplain', hended, e', hs', hkey⟩ :=
    hs.fetchQuoted_eq_ok hrest hname (hrest ▸ hplain) hfetch
  refine ⟨e', hat hs' (congrArg skipSpace hbehind) (hbehind ▸ hplain')
    (fun h => absurd h Bool.false_ne_true) hended ?_, fun h => hkey (hallowed h)⟩
  simpa using hkinds

/-- A letter or a digit is visible; it is no indicator and no part of a document indicator. -/
lemma of_isAlphanum {c : Char} (h : c.isAlphanum = true) :
    Scanner.isVisible c = true ∧ isBlankOrBreak c = false ∧ Scanner.isIndicator c = false ∧
      c ≠ '-' ∧ c ≠ '.' := by
  have hne : ∀ d : Char, d.isAlphanum = false → c ≠ d := by
    rintro d hd rfl
    exact absurd (h.symm.trans hd) (by decide)
  refine ⟨?_, ?_, ?_, hne '-' rfl, hne '.' rfl⟩
  · simp [Scanner.isVisible, isBlankOrBreak, isBlank, isBreak, hne]
  · simp [isBlankOrBreak, isBlank, isBreak, hne]
  · simp [Scanner.isIndicator, hne]

/-- The first characters of a word or a number start a plain scalar. -/
lemma startsPlain_cases {c : Char} {lexeme : List Char} (rest : List Char)
    (hc : c.isAlphanum = true ∨ c = '-' ∧ ∃ d more, lexeme = d :: more ∧ d.isAlphanum = true) :
    Scanner.isVisible c = true ∧
      (isBlankOrBreak c = false ∧ Scanner.isIndicator c = false ∨
        c = '-' ∧ ∃ d more, lexeme ++ rest = d :: more ∧ isBlankOrBreak d = false) ∧
      ∀ cursor : Cursor, cursor.rest = c :: (lexeme ++ rest) →
        cursor.atDocumentIndicator = false := by
  rcases hc with hc | ⟨rfl, d, more, rfl, hd⟩
  · obtain ⟨hvisible, hblank, hindicator, hdash, hdot⟩ := of_isAlphanum hc
    exact ⟨hvisible, .inl ⟨hblank, hindicator⟩, fun cursor hrest =>
      Scanner.atDocumentIndicator_eq_false hrest hdash hdot⟩
  · obtain ⟨-, hblank, -, hdash, -⟩ := of_isAlphanum hd
    refine ⟨rfl, .inr ⟨rfl, d, more ++ rest, rfl, hblank⟩, fun cursor hrest => ?_⟩
    unfold Cursor.atDocumentIndicator
    rw [Bool.and_eq_false_iff]
    right
    rw [hrest]
    split
    · rename_i heq
      exact absurd (List.cons.inj (List.cons.inj heq).2).1 hdash
    · rename_i heq
      exact absurd (List.cons.inj heq).1 (by decide)
    · rfl

/-- A number or a word is scanned. -/
lemma At.plain {c : Char} {lexeme : List Char} (h : At final kinds (e :: es) allowed cs)
    (hfinal : .streamEnd ∈ final) (hcs : skipSpace cs = c :: (lexeme ++ rest))
    (hinner : ∀ char ∈ c :: lexeme, isInner char = true)
    (hc : c.isAlphanum = true ∨ c = '-' ∧ ∃ d more, lexeme = d :: more ∧ d.isAlphanum = true)
    (hend : AtEnd (!es.isEmpty) rest) :
    ∃ e', At final (kinds ++ [.scalar (String.ofList (c :: lexeme)) .plain]) (e' :: es) false
      rest := by
  obtain ⟨hvisible, hstart, hindicator⟩ := startsPlain_cases rest hc
  obtain ⟨out, s, s', hs, hrest, hplain, -, hkinds, hfetch, hat⟩ := h.nextToken hfinal hcs hvisible
  rw [Scanner.fetchToken_plain (hindicator s.cursor hrest) hstart] at hfetch
  obtain ⟨hbehind, hsuffix, hended, e', hs'⟩ :=
    hs.fetchPlain_eq_ok hrest hinner (List.cons_ne_nil c lexeme) (hindicator s.cursor hrest)
      hend hfetch
  refine ⟨e', hat hs' hbehind ((hrest ▸ hplain).of_suffix hsuffix)
    (fun h => absurd h Bool.false_ne_true) hended ?_⟩
  simpa using hkinds

/-- Nothing comes behind the end of the text. -/
lemma At.streamEnd (h : At final kinds [e] allowed cs) (hfinal : .streamEnd ∈ final)
    (hcs : skipSpace cs = []) : final = kinds ++ [.streamEnd] := by
  have hvisible : ∀ c ∈ (skipSpace cs).head?, Scanner.isVisible c = true := by
    rw [hcs]
    rintro _ ⟨⟩
  obtain ⟨fuel, out, s, s', hs, hfuture, hrest, -, -, -, hkinds, hfetch⟩ := h.next hfinal hvisible
  rw [hrest, hcs] at hfetch
  obtain ⟨hs', hended⟩ := hs.fetchStreamEnd_eq_ok hfetch
  exact hs'.final_eq hended hkinds hfinal hfuture

/-! ## Phrases -/

/-- A number starts with a digit or with a dash before one. -/
lemma exists_text_eq_cons (m : Json.Numeral) : ∃ c lexeme, m.text = c :: lexeme ∧
    (c.isAlphanum = true ∨ c = '-' ∧ ∃ d more, lexeme = d :: more ∧ d.isAlphanum = true) := by
  obtain ⟨d, more, hm, hd, -⟩ := exists_unsigned_eq_cons m
  have hdigit : d.isAlphanum = true := by
    unfold isDigit at hd
    rw [Bool.and_eq_true, decide_eq_true_iff, decide_eq_true_iff] at hd
    have hdigit : d.isDigit = true := by
      unfold Char.isDigit
      rw [Bool.and_eq_true, decide_eq_true_iff, decide_eq_true_iff]
      exact hd
    simp [Char.isAlphanum, hdigit]
  rw [text_eq, hm]
  split
  · exact ⟨'-', d :: more, rfl, .inr ⟨rfl, d, more, rfl, hdigit⟩⟩
  · exact ⟨d, more, rfl, .inl hdigit⟩

/-- Behind an item, and behind the value of a member, there is what ends it. -/
lemma atEnd_of_skipSpace {c : Char} (h : skipSpace cs = c :: rest)
    (hc : c = ',' ∨ c = ']' ∨ c = '\x7d') : AtEnd true cs := by
  unfold AtEnd
  rw [h]
  rintro _ ⟨⟩
  exact ⟨rfl, hc⟩

/-- What is scanned at a part of a text: its tokens, and what comes behind it is up next.  At items
and members the level of their brackets is left. -/
def ScansAs (final : List TokenKind) : Phrase → List Char → List Char → Prop
  | .value s, cs, rest => ∀ {kinds e es allowed}, At final kinds (e :: es) allowed cs →
      AtEnd (!es.isEmpty) rest →
      ∃ ks e', Tokens (.value s) ks ∧ At final (kinds ++ ks) (e' :: es) false rest
  | .items first list, cs, rest => ∀ {kinds e e' es}, At final kinds (e :: e' :: es) first cs →
      ∃ ks, Tokens (.items first list) ks ∧ At final (kinds ++ ks) (e' :: es) false rest
  | .members first list, cs, rest => ∀ {kinds e e' es}, At final kinds (e :: e' :: es) first cs →
      ∃ ks, Tokens (.members first list) ks ∧ At final (kinds ++ ks) (e' :: es) false rest

/-- Each part of a text is scanned as its tokens, if the stream is complete. -/
theorem scansAs_of_reads {p : Phrase} (h : Reads p cs rest) (hfinal : .streamEnd ∈ final) :
    ScansAs final p cs rest := by
  induction h with
  | null h =>
    intro kinds e es allowed hat hend
    have hword : skipSpace _ = 'n' :: (['u', 'l', 'l'] ++ _) := h
    obtain ⟨e', hat'⟩ := hat.plain hfinal hword (List.all_eq_true.mp rfl) (.inl rfl) hend
    exact ⟨_, e', .null, hat'⟩
  | true_ h =>
    intro kinds e es allowed hat hend
    have hword : skipSpace _ = 't' :: (['r', 'u', 'e'] ++ _) := h
    obtain ⟨e', hat'⟩ := hat.plain hfinal hword (List.all_eq_true.mp rfl) (.inl rfl) hend
    exact ⟨_, e', .bool, hat'⟩
  | false_ h =>
    intro kinds e es allowed hat hend
    have hword : skipSpace _ = 'f' :: (['a', 'l', 's', 'e'] ++ _) := h
    obtain ⟨e', hat'⟩ := hat.plain hfinal hword (List.all_eq_true.mp rfl) (.inl rfl) hend
    exact ⟨_, e', .bool, hat'⟩
  | @number m n cs rest h hn =>
    intro kinds e es allowed hat hend
    obtain ⟨c, lexeme, htext, hc⟩ := exists_text_eq_cons m
    have hinner := isInner_text m
    rw [htext] at h hinner
    obtain ⟨e', hat'⟩ := hat.plain hfinal h hinner hc hend
    rw [← htext] at hat'
    exact ⟨_, e', .number, hat'⟩
  | string h hs =>
    intro kinds e es allowed hat _
    obtain ⟨e', hat', -⟩ := hat.quoted hfinal h hs
    exact ⟨_, e', .string, hat'⟩
  | array h _ ih =>
    intro kinds e es allowed hat _
    obtain ⟨e', hinside⟩ := hat.flowStart hfinal h (.head _)
    obtain ⟨ks, hks, hat'⟩ := ih hinside
    exact ⟨_, e', .array hks, by simpa using hat'⟩
  | object h _ ih =>
    intro kinds e es allowed hat _
    obtain ⟨e', hinside⟩ := hat.flowStart hfinal h (.tail _ (.head _))
    obtain ⟨ks, hks, hat'⟩ := ih hinside
    exact ⟨_, e', .object hks, by simpa using hat'⟩
  | itemsEnd h =>
    intro kinds e e' es hat
    exact ⟨_, .itemsEnd, hat.flowEnd hfinal h (by decide)⟩
  | itemsFirst _ hlist ihs ihlist =>
    intro kinds e e' es hat
    have hend := by
      cases hlist with
      | itemsEnd h => exact atEnd_of_skipSpace h (.inr (.inl rfl))
      | itemsNext h => exact atEnd_of_skipSpace h (.inl rfl)
    obtain ⟨ks, e₁, hks, hbehind⟩ := ihs hat hend
    obtain ⟨ks', hks', hat'⟩ := ihlist hbehind
    exact ⟨_, .itemsFirst hks hks', by simpa using hat'⟩
  | itemsNext h _ ih =>
    intro kinds e e' es hat
    obtain ⟨ks, hks, hat'⟩ := ih (hat.comma hfinal h)
    exact ⟨_, .itemsNext hks, by simpa using hat'⟩
  | membersEnd h =>
    intro kinds e e' es hat
    exact ⟨_, .membersEnd, hat.flowEnd hfinal h (by decide)⟩
  | membersFirst h hname hcolon _ hlist ihs ihlist =>
    intro kinds e e' es hat
    obtain ⟨e₁, hnamed, hkey⟩ := hat.quoted hfinal h hname
    rw [hkey rfl] at hnamed
    obtain ⟨keyed, hvalue⟩ := hnamed.colon (List.cons_ne_nil e' es) hfinal hcolon
    have hend := by
      cases hlist with
      | membersEnd h => exact atEnd_of_skipSpace h (.inr (.inr rfl))
      | membersNext h => exact atEnd_of_skipSpace h (.inl rfl)
    obtain ⟨ks, e₂, hks, hbehind⟩ := ihs hvalue hend
    obtain ⟨ks', hks', hat'⟩ := ihlist hbehind
    exact ⟨_, .membersFirst keyed hks hks', by simpa using hat'⟩
  | membersNext h _ ih =>
    intro kinds e e' es hat
    obtain ⟨ks, hks, hat'⟩ := ih (hat.comma hfinal h)
    exact ⟨_, .membersNext hks, by simpa using hat'⟩

/-- The first character of a phrase is visible. -/
lemma isVisible_of_reads {p : Phrase} (h : Reads p cs rest) :
    ∀ c ∈ (skipSpace cs).head?, Scanner.isVisible c = true := by
  induction h with
  | @number m n cs rest h hn =>
    obtain ⟨c, lexeme, htext, hc⟩ := exists_text_eq_cons m
    rw [h, htext]
    rintro _ ⟨⟩
    exact (startsPlain_cases rest hc).1
  | itemsFirst _ _ ihs _ => exact ihs
  | _ h =>
    rw [h]
    rintro _ ⟨⟩
    rfl

/-- A JSON text that is scanned to its end forms the tokens of what it says. -/
theorem tokens_ofText {s : Source} {cs rest : List Char} (h : Reads (.value s) cs rest)
    (hrest : skipSpace rest = []) (hplain : HasPlainBreaks cs)
    (hfinal : .streamEnd ∈ (TokenStream.ofText cs).tokens.map Token.kind) :
    ∃ ks, Tokens (.value s) ks ∧
      (TokenStream.ofText cs).tokens.map Token.kind = .streamStart :: ks ++ [.streamEnd] := by
  have hstart :
      At ((TokenStream.ofText cs).tokens.map Token.kind) [.streamStart] [none] true cs := by
    refine ⟨cs.length + 2, [], .ofText cs, ⟨rfl, rfl, rfl, rfl, .cons ?_ .nil⟩, rfl, rfl, hplain,
      fun _ => rfl, rfl, by simp⟩
    rintro _ ⟨⟩
  have hend : AtEnd false rest := by
    unfold AtEnd
    rw [hrest]
    rintro _ ⟨⟩
  obtain ⟨ks, e, hks, hat⟩ := scansAs_of_reads h hfinal hstart hend
  exact ⟨ks, hks, hat.streamEnd hfinal hrest⟩

end ConfigCheck.Yaml
