import ConfigCheck.Proofs.Yaml.Complete
import ConfigCheck.Proofs.Yaml.Scan

/-!
# The pieces of a JSON text

The tokens of a JSON text are the tokens of a document with the pieces of what the text says
(`Json.Source.pieces`), if this document is whole; a name that is not marked as a key is refused.

The grammar takes one step after the other, and each event that it gives becomes a piece of the
document.  `Leads` says that a state of both leads to a certain outcome in the end.  Since that
outcome is whole no step fails, so each phrase leads from one state to the next
(`parsesAs_of_tokens`).
-/

namespace ConfigCheck

namespace Json

/-- The pieces of a document that says the same. -/
def Source.pieces : Source → List Yaml.Piece
  | .null => [.scalar none "null" .plain]
  | .bool b => [.scalar none (if b then "true" else "false") .plain]
  | .number m _ => [.scalar none (String.ofList m.text) .plain]
  | .string s => [.scalar none s .doubleQuoted]
  | .array items => .sequenceStart none :: piecesOfItems items
  | .object members => .mappingStart none :: piecesOfMembers members
where
  /-- The pieces of items up to the end of their sequence. -/
  piecesOfItems : List Source → List Yaml.Piece
    | [] => [.sequenceEnd]
    | s :: rest => s.pieces ++ piecesOfItems rest
  /-- The pieces of members up to the end of their mapping. -/
  piecesOfMembers : List (String × Source) → List Yaml.Piece
    | [] => [.mappingEnd]
    | (name, s) :: rest => .scalar none name .doubleQuoted :: (s.pieces ++ piecesOfMembers rest)

/-- The pieces of a phrase. -/
def Phrase.pieces : Phrase → List Yaml.Piece
  | .value s => s.pieces
  | .items _ list => Source.pieces.piecesOfItems list
  | .members _ list => Source.pieces.piecesOfMembers list

end Json

namespace Yaml

open Json (Phrase Source)

/-! ## Outcomes -/

/-- The pieces of a document so far. -/
def DocumentBuilder.kinds (b : DocumentBuilder) : List Piece := (b.pieces.map Prod.fst).reverse

@[simp] lemma DocumentBuilder.kinds_push (b : DocumentBuilder) (p : Piece) (m : Mark) :
    (b.push p m).kinds = b.kinds ++ [p] := by
  simp [kinds, push]

/-- The events from a step on, the later ones in at most `fuel` steps. -/
def Grammar.eventsFrom (fuel : Nat) : Result → List (Event × Mark)
  | .error _ => []
  | .ok (event, g) => event :: (g.run fuel).events

section

variable (failure : Option SyntaxError) (outcome : Document × Option (List (Event × Mark)))

/-- What was read of a document and a grammar lead to an outcome. -/
def Leads (b : DocumentBuilder) (g : Grammar) : Prop :=
  ∃ fuel, DocumentBuilder.read failure b (g.run fuel).events = outcome

/-- What was read of a document and a step of a grammar lead to an outcome. -/
def LeadsBy (b : DocumentBuilder) (r : Grammar.Result) : Prop :=
  ∃ fuel, DocumentBuilder.read failure b (Grammar.eventsFrom fuel r) = outcome

/-- An outcome is reached from a document with the pieces `ps` so far, and a grammar with the tokens
`kinds` left that expects `e` and then `stack`. -/
def Reaches (ps : List Piece) (kinds : List TokenKind) (e : Expectation)
    (stack : List Expectation) :
    Prop :=
  ∃ b g, Leads failure outcome b g ∧ b.kinds = ps ∧ g.tokens.map Token.kind = kinds ∧
    g.expected = e ∧ g.stack = stack

end

variable {failure : Option SyntaxError} {outcome : Document × Option (List (Event × Mark))}
  {b b' : DocumentBuilder} {g : Grammar} {m : Mark} {t : Token} {tokens : List Token}
  {e : Expectation} {stack : List Expectation}

/-- A document whose events end too early is not whole. -/
lemma not_isWhole_nil : ¬ IsWhole (DocumentBuilder.read failure b []) := by
  intro h
  obtain ⟨m, rest, heq⟩ := h.2 [] rfl
  cases heq

/-- The next step leads to the same outcome. -/
lemma Leads.step (h : Leads failure outcome b g) (hwhole : IsWhole outcome) :
    LeadsBy failure outcome b g.step := by
  obtain ⟨fuel, rfl⟩ := h
  cases fuel with
  | zero => exact absurd hwhole not_isWhole_nil
  | succ fuel =>
    refine ⟨fuel, ?_⟩
    rw [Grammar.run] at hwhole ⊢
    split at hwhole
    · exact absurd hwhole not_isWhole_nil
    · rename_i hexpected
      rw [if_neg hexpected]
      split at hwhole
      · exact absurd hwhole not_isWhole_nil
      · rename_i event g' hstep
        rw [hstep]
        rfl

/-- A step that leads to a whole document does not fail. -/
lemma LeadsBy.not_error {error : SyntaxError} (h : LeadsBy failure outcome b (.error error))
    (hwhole : IsWhole outcome) : False := by
  obtain ⟨fuel, rfl⟩ := h
  exact not_isWhole_nil hwhole

/-- Behind a step its event is read. -/
lemma LeadsBy.read {event : Event} (h : LeadsBy failure outcome b (.ok ((event, m), g)))
    (hread : ∀ rest, DocumentBuilder.read failure b ((event, m) :: rest) =
      DocumentBuilder.read failure b' rest) : Leads failure outcome b' g := by
  obtain ⟨fuel, h⟩ := h
  exact ⟨fuel, (hread _).symm.trans h⟩

/-! ## Nodes -/

namespace Grammar

/-- Whether a token begins a node of a JSON text. -/
def beginsNode : TokenKind → Bool
  | .scalar .. | .flowSequenceStart | .flowMappingStart => true
  | _ => false

variable {block indentless : Bool}

lemma peek_cons (h : g.tokens = t :: tokens) : g.peek = .ok t := by
  rw [peek, h]

/-- A scalar without anchor and tag. -/
lemma node_scalar {text : String} {style : ScalarStyle} (h : g.tokens = t :: tokens)
    (ht : t.kind = .scalar text style) :
    g.node block indentless = .ok ((.scalar .none text style, t.start), g.skip.done) := by
  simp [node, decoration, resolveTag, peek_cons h, ht, Properties.none, bind, Except.bind, pure,
    Except.pure]

/-- A sequence in brackets without anchor and tag. -/
lemma node_flowSequence (h : g.tokens = t :: tokens) (ht : t.kind = .flowSequenceStart) :
    g.node block indentless =
      .ok ((.sequenceStart .none, t.start), g.skip.expect (.flowEntry true t.start)) := by
  simp [node, decoration, resolveTag, peek_cons h, ht, Properties.none, bind, Except.bind, pure,
    Except.pure]

/-- A mapping in braces without anchor and tag. -/
lemma node_flowMapping (h : g.tokens = t :: tokens) (ht : t.kind = .flowMappingStart) :
    g.node block indentless =
      .ok ((.mappingStart .none, t.start), g.skip.expect (.flowKey true t.start)) := by
  simp [node, decoration, resolveTag, peek_cons h, ht, Properties.none, bind, Except.bind, pure,
    Except.pure]

/-- A node that is not missing. -/
lemma flowNodeUnless_beginsNode {missing : List TokenKind} (h : g.tokens = t :: tokens)
    (ht : beginsNode t.kind = true) (hmissing : ∀ k ∈ missing, beginsNode k = false) :
    g.flowNodeUnless missing e = (g.thenExpect e).node false false := by
  have hmem : t.kind ∉ missing := fun hmem => by
    rw [hmissing t.kind hmem] at ht
    cases ht
  unfold flowNodeUnless
  rw [peek_cons h]
  exact if_neg hmem

/-- The end of a sequence. -/
lemma flowEntry_end {first : Bool} (h : g.tokens = t :: tokens) (ht : t.kind = .flowSequenceEnd) :
    g.flowEntry first m = .ok ((.sequenceEnd, t.start), g.skip.done) := by
  unfold flowEntry
  rw [peek_cons h]
  exact if_pos ht

/-- A first item. -/
lemma flowEntry_beginsNode (h : g.tokens = t :: tokens) (ht : beginsNode t.kind = true) :
    g.flowEntry true m = (g.thenExpect (.flowEntry false m)).node false false := by
  have hend : t.kind ≠ .flowSequenceEnd := fun heq => by
    rw [heq] at ht
    cases ht
  have hkey : t.kind ≠ .key := fun heq => by
    rw [heq] at ht
    cases ht
  simp [flowEntry, peek_cons h, hend, bind, Except.bind, pure, Except.pure]

/-- Behind a comma an item is read like the first one. -/
lemma flowEntry_comma (h : g.tokens = t :: tokens) (ht : t.kind = .flowEntry) :
    g.flowEntry false m = g.skip.flowEntry true m := by
  have hcomma : g.skipComma .flowSequence m .missingFlowSequenceEnd = .ok g.skip := by
    unfold skipComma
    rw [peek_cons h]
    exact if_pos ht
  unfold flowEntry
  rw [peek_cons h, hcomma]
  simp only [bind, Except.bind, pure, Except.pure, ht, reduceCtorEq, if_false, if_true,
    Bool.false_eq_true]
  cases g.skip.peek with
  | error => rfl
  | ok t =>
    dsimp only
    by_cases hend : t.kind = .flowSequenceEnd
    · rw [if_pos hend, hend]
    · rw [if_neg hend]

/-- The end of a mapping. -/
lemma flowKey_end {first : Bool} (h : g.tokens = t :: tokens) (ht : t.kind = .flowMappingEnd) :
    g.flowKey first m = .ok ((.mappingEnd, t.start), g.skip.done) := by
  unfold flowKey
  rw [peek_cons h]
  exact if_pos ht

/-- A first name that is marked as a key. -/
lemma flowKey_key (h : g.tokens = t :: tokens) (ht : t.kind = .key) :
    g.flowKey true m =
      g.skip.flowNodeUnless [.value, .flowEntry, .flowMappingEnd] (.flowValue m) := by
  simp [flowKey, peek_cons h, ht, bind, Except.bind, pure, Except.pure]

/-- A first name that is not marked as a key. -/
lemma flowKey_beginsNode (h : g.tokens = t :: tokens) (ht : beginsNode t.kind = true) :
    g.flowKey true m = (g.thenExpect (.flowNoValue m)).node false false := by
  have hend : t.kind ≠ .flowMappingEnd := fun heq => by
    rw [heq] at ht
    cases ht
  have hkey : t.kind ≠ .key := fun heq => by
    rw [heq] at ht
    cases ht
  simp [flowKey, peek_cons h, hend, bind, Except.bind, pure, Except.pure]

/-- Behind a comma a name is read like the first one. -/
lemma flowKey_comma (h : g.tokens = t :: tokens) (ht : t.kind = .flowEntry) :
    g.flowKey false m = g.skip.flowKey true m := by
  have hcomma : g.skipComma .flowMapping m .missingFlowMappingEnd = .ok g.skip := by
    unfold skipComma
    rw [peek_cons h]
    exact if_pos ht
  unfold flowKey
  rw [peek_cons h, hcomma]
  simp only [bind, Except.bind, pure, Except.pure, ht, reduceCtorEq, if_false, if_true,
    Bool.false_eq_true]
  cases g.skip.peek with
  | error => rfl
  | ok t =>
    dsimp only
    by_cases hend : t.kind = .flowMappingEnd
    · rw [if_pos hend, hend]
    · rw [if_neg hend]

/-- A colon in the place of a comma is refused. -/
lemma flowKey_value (h : g.tokens = t :: tokens) (ht : t.kind = .value) :
    ∃ error, g.flowKey false m = .error error := by
  simp [flowKey, skipComma, peek_cons h, ht, bind, Except.bind, throw, throwThe,
    MonadExceptOf.throw]

/-- The value behind a colon. -/
lemma flowValue_value (h : g.tokens = t :: tokens) (ht : t.kind = .value) :
    g.flowValue m = g.skip.flowNodeUnless [.flowEntry, .flowMappingEnd] (.flowKey false m) := by
  simp [flowValue, peek_cons h, ht, bind, Except.bind]

lemma step_streamStart (h : g.expected = .streamStart) (htokens : g.tokens = t :: tokens) :
    g.step = .ok ((.streamStart, t.start), g.skip.expect .firstDocument) := by
  rw [step, h]
  dsimp only
  rw [peek_cons htokens]
  rfl

/-- A document that is not announced. -/
lemma step_firstDocument (h : g.expected = .firstDocument) (htokens : g.tokens = t :: tokens)
    (ht : beginsNode t.kind = true) :
    g.step = .ok ((.documentStart, t.start),
      ({ g with handles := addDefaults g.handles }.thenExpect .documentEnd).expect .blockNode) := by
  have hdocument : ¬ (startsDocument t.kind || t.kind = .streamEnd) = true := by
    cases hkind : t.kind with
    | scalar | flowSequenceStart | flowMappingStart => simp [startsDocument]
    | _ => simp [hkind, beginsNode] at ht
  rw [step, h]
  dsimp only
  unfold firstDocument
  rw [peek_cons htokens]
  exact if_neg hdocument

lemma step_blockNode (h : g.expected = .blockNode) : g.step = g.node true false := by
  rw [step, h]

/-- The end of a document at the end of the stream. -/
lemma step_documentEnd (h : g.expected = .documentEnd) (htokens : g.tokens = t :: tokens)
    (ht : t.kind = .streamEnd) :
    g.step = .ok ((.documentEnd, t.start), { g with handles := [], expected := .document }) := by
  rw [step, h]
  dsimp only
  unfold documentEnd
  rw [peek_cons htokens]
  simp [ht, bind, Except.bind, pure, Except.pure]

lemma step_flowEntry {first : Bool} (h : g.expected = .flowEntry first m) :
    g.step = g.flowEntry first m := by
  rw [step, h]

lemma step_flowValue (h : g.expected = .flowValue m) : g.step = g.flowValue m := by
  rw [step, h]

/-- A name that stands alone has an empty value. -/
lemma step_flowNoValue (h : g.expected = .flowNoValue m) (htokens : g.tokens = t :: tokens) :
    g.step = .ok ((.scalar .none "" .plain, t.start), g.expect (.flowKey false m)) := by
  rw [step, h]
  dsimp only
  rw [peek_cons htokens]
  rfl

lemma step_flowKey {first : Bool} (h : g.expected = .flowKey first m) :
    g.step = g.flowKey first m := by
  rw [step, h]

end Grammar

/-! ## Phrases -/

/-- A value begins with a token that begins a node. -/
lemma Tokens.beginsNode {s : Source} {ks : List TokenKind} (h : Tokens (.value s) ks) :
    ∃ k rest, ks = k :: rest ∧ Grammar.beginsNode k = true := by
  cases h <;> exact ⟨_, _, rfl, rfl⟩

/-- The next token, and the kinds of the tokens behind it. -/
lemma exists_token {k : TokenKind} {kinds : List TokenKind}
    (h : g.tokens.map Token.kind = k :: kinds) :
    ∃ t tokens, g.tokens = t :: tokens ∧ t.kind = k ∧ g.skip.tokens.map Token.kind = kinds := by
  obtain ⟨t, tokens, hcons, ht, htail⟩ := List.map_eq_cons_iff.mp h
  refine ⟨t, tokens, hcons, ht, ?_⟩
  rw [Grammar.tokens_skip, hcons]
  exact htail

/-- A step that ends a node with one piece. -/
lemma LeadsBy.done {event : Event} {p : Piece} {kinds : List TokenKind}
    (h : LeadsBy failure outcome b (.ok ((event, m), g.skip.done)))
    (hread : ∀ rest, DocumentBuilder.read failure b ((event, m) :: rest) =
      DocumentBuilder.read failure (b.push p m) rest)
    (htokens : g.skip.tokens.map Token.kind = kinds) (hstack : g.stack = e :: stack) :
    Reaches failure outcome (b.kinds ++ [p]) kinds e stack := by
  have hdone : g.skip.done = { g.skip with expected := e, stack := stack } := by
    unfold Grammar.done
    have hstack : g.skip.stack = e :: stack := hstack
    rw [hstack]
  rw [hdone] at h
  exact ⟨_, _, h.read hread, DocumentBuilder.kinds_push b p m, htokens, rfl, rfl⟩

/-- A scalar is one piece. -/
lemma LeadsBy.scalar {text : String} {style : ScalarStyle} {block indentless : Bool}
    {kinds : List TokenKind} (h : LeadsBy failure outcome b (g.node block indentless))
    (htokens : g.tokens.map Token.kind = .scalar text style :: kinds)
    (hstack : g.stack = e :: stack) :
    Reaches failure outcome (b.kinds ++ [.scalar none text style]) kinds e stack := by
  obtain ⟨t, tokens, hcons, ht, htail⟩ := exists_token htokens
  rw [Grammar.node_scalar hcons ht] at h
  exact h.done (fun _ => rfl) htail hstack

/-- The step in which a phrase begins. -/
def Begins (g : Grammar) (r : Grammar.Result) : Phrase → Prop
  | .value _ => ∃ block indentless, r = g.node block indentless
  | .items first _ => ∃ m, r = g.flowEntry first m
  | .members first _ => ∃ m, r = g.flowKey first m

/-- A node in braces is read if it is there. -/
lemma LeadsBy.flowNode {missing : List TokenKind} {k : TokenKind} {kinds : List TokenKind}
    (h : LeadsBy failure outcome b (g.flowNodeUnless missing e))
    (htokens : g.tokens.map Token.kind = k :: kinds) (hk : Grammar.beginsNode k = true)
    (hmissing : ∀ k ∈ missing, Grammar.beginsNode k = false) :
    LeadsBy failure outcome b ((g.thenExpect e).node false false) := by
  obtain ⟨t, tokens, hcons, rfl, -⟩ := exists_token htokens
  rwa [Grammar.flowNodeUnless_beginsNode hcons hk hmissing] at h

/-- A name is marked as a key, and then it is one piece. -/
lemma LeadsBy.name {keyed : Bool} {name : String} {kinds : List TokenKind}
    (h : LeadsBy failure outcome b (g.flowKey true m)) (hwhole : IsWhole outcome)
    (htokens : g.tokens.map Token.kind = (if keyed then [.key] else []) ++
      .scalar name .doubleQuoted :: .value :: kinds) :
    Reaches failure outcome (b.kinds ++ [.scalar none name .doubleQuoted]) (.value :: kinds)
      (.flowValue m) g.stack := by
  cases keyed with
  | true =>
    obtain ⟨t, tokens, hcons, ht, htail⟩ := exists_token htokens
    rw [Grammar.flowKey_key hcons ht] at h
    exact (h.flowNode htail rfl (by decide)).scalar htail rfl
  | false =>
    -- Without its mark the name would stand alone, and the colon would be in the place of a comma.
    obtain ⟨t, tokens, hcons, ht, -⟩ := exists_token htokens
    rw [Grammar.flowKey_beginsNode hcons (by rw [ht]; rfl)] at h
    obtain ⟨b₁, g₁, hleads, -, htokens₁, hexpected, -⟩ := h.scalar htokens rfl
    obtain ⟨t₁, tokens₁, hcons₁, ht₁, -⟩ := exists_token htokens₁
    have hstep := hleads.step hwhole
    rw [Grammar.step_flowNoValue hexpected hcons₁] at hstep
    have hcomma := (hstep.read fun _ => rfl).step hwhole
    rw [Grammar.step_flowKey rfl] at hcomma
    obtain ⟨error, herror⟩ := Grammar.flowKey_value (g := g₁.expect (.flowKey false m)) hcons₁ ht₁
    rw [herror] at hcomma
    exact absurd hwhole hcomma.not_error

/-- The tokens of a phrase give its pieces, if the document is whole. -/
theorem reaches_of_tokens {p : Phrase} {ks kinds : List TokenKind} {r : Grammar.Result}
    (h : Tokens p ks) (hwhole : IsWhole outcome) (hr : Begins g r p)
    (htokens : g.tokens.map Token.kind = ks ++ kinds) (hstack : g.stack = e :: stack)
    (hleads : LeadsBy failure outcome b r) :
    Reaches failure outcome (b.kinds ++ p.pieces) kinds e stack := by
  induction h generalizing b g r kinds e stack with
  | null =>
    obtain ⟨block, indentless, rfl⟩ := hr
    exact hleads.scalar htokens hstack
  | bool =>
    obtain ⟨block, indentless, rfl⟩ := hr
    exact hleads.scalar htokens hstack
  | number =>
    obtain ⟨block, indentless, rfl⟩ := hr
    exact hleads.scalar htokens hstack
  | string =>
    obtain ⟨block, indentless, rfl⟩ := hr
    exact hleads.scalar htokens hstack
  | array _ ih =>
    obtain ⟨block, indentless, rfl⟩ := hr
    obtain ⟨t, tokens, hcons, ht, htail⟩ := exists_token htokens
    rw [Grammar.node_flowSequence hcons ht] at hleads
    have hinside : Leads failure outcome (b.push (.sequenceStart none) t.start)
        (g.skip.expect (.flowEntry true t.start)) := hleads.read fun _ => rfl
    have hlist := ih (g := g.skip.expect (.flowEntry true t.start)) ⟨t.start, rfl⟩ htail hstack
      (hinside.step hwhole)
    rw [DocumentBuilder.kinds_push, List.append_assoc] at hlist
    exact hlist
  | object _ ih =>
    obtain ⟨block, indentless, rfl⟩ := hr
    obtain ⟨t, tokens, hcons, ht, htail⟩ := exists_token htokens
    rw [Grammar.node_flowMapping hcons ht] at hleads
    have hinside : Leads failure outcome (b.push (.mappingStart none) t.start)
        (g.skip.expect (.flowKey true t.start)) := hleads.read fun _ => rfl
    have hlist := ih (g := g.skip.expect (.flowKey true t.start)) ⟨t.start, rfl⟩ htail hstack
      (hinside.step hwhole)
    rw [DocumentBuilder.kinds_push, List.append_assoc] at hlist
    exact hlist
  | itemsEnd =>
    obtain ⟨m, rfl⟩ := hr
    obtain ⟨t, tokens, hcons, ht, htail⟩ := exists_token htokens
    rw [Grammar.flowEntry_end hcons ht] at hleads
    exact hleads.done (fun _ => rfl) htail hstack
  | itemsFirst hs _ ihs ihlist =>
    obtain ⟨m, rfl⟩ := hr
    obtain ⟨k, rest, rfl, hk⟩ := hs.beginsNode
    rw [List.append_assoc] at htokens
    obtain ⟨t, tokens, hcons, ht, -⟩ := exists_token htokens
    rw [Grammar.flowEntry_beginsNode hcons (ht ▸ hk)] at hleads
    obtain ⟨b₁, g₁, hleads₁, hkinds, htokens₁, hexpected, hstack₁⟩ :=
      ihs (g := g.thenExpect (.flowEntry false m)) ⟨false, false, rfl⟩ htokens rfl hleads
    rw [hstack] at hstack₁
    have hlist := ihlist ⟨m, Grammar.step_flowEntry hexpected⟩ htokens₁ hstack₁
      (hleads₁.step hwhole)
    rw [hkinds, List.append_assoc] at hlist
    exact hlist
  | itemsNext _ ih =>
    obtain ⟨m, rfl⟩ := hr
    obtain ⟨t, tokens, hcons, ht, htail⟩ := exists_token htokens
    rw [Grammar.flowEntry_comma hcons ht] at hleads
    exact ih (g := g.skip) ⟨m, rfl⟩ htail hstack hleads
  | membersEnd =>
    obtain ⟨m, rfl⟩ := hr
    obtain ⟨t, tokens, hcons, ht, htail⟩ := exists_token htokens
    rw [Grammar.flowKey_end hcons ht] at hleads
    exact hleads.done (fun _ => rfl) htail hstack
  | membersFirst keyed hs _ ihs ihlist =>
    obtain ⟨m, rfl⟩ := hr
    rw [List.append_assoc, List.cons_append, List.cons_append, List.append_assoc] at htokens
    obtain ⟨b₁, g₁, hleads₁, hkinds₁, htokens₁, hexpected₁, hstack₁⟩ := hleads.name hwhole htokens
    obtain ⟨t₁, tokens₁, hcons₁, ht₁, hvalue⟩ := exists_token htokens₁
    have hstep := hleads₁.step hwhole
    rw [Grammar.step_flowValue hexpected₁, Grammar.flowValue_value hcons₁ ht₁] at hstep
    obtain ⟨k, rest, rfl, hk⟩ := hs.beginsNode
    obtain ⟨b₂, g₂, hleads₂, hkinds₂, htokens₂, hexpected₂, hstack₂⟩ :=
      ihs (g := g₁.skip.thenExpect (.flowKey false m)) ⟨false, false, rfl⟩ hvalue rfl
        (hstep.flowNode hvalue hk (by decide))
    have hstack₂ : g₂.stack = e :: stack := hstack₂.trans (hstack₁.trans hstack)
    have hlist := ihlist ⟨m, Grammar.step_flowKey hexpected₂⟩ htokens₂ hstack₂ (hleads₂.step hwhole)
    rw [hkinds₂, hkinds₁, List.append_assoc, List.append_assoc] at hlist
    exact hlist
  | membersNext _ ih =>
    obtain ⟨m, rfl⟩ := hr
    obtain ⟨t, tokens, hcons, ht, htail⟩ := exists_token htokens
    rw [Grammar.flowKey_comma hcons ht] at hleads
    exact ih (g := g.skip) ⟨m, rfl⟩ htail hstack hleads

/-- The tokens of a JSON text are those of a document with its pieces, if the document is whole. -/
theorem pieces_of_tokens {s : TokenStream} {source : Source} {ks : List TokenKind}
    (h : Tokens (.value source) ks)
    (hkinds : s.tokens.map Token.kind = .streamStart :: ks ++ [.streamEnd])
    (hwhole : IsWhole (EventStream.ofTokens s).outcome) :
    (EventStream.ofTokens s).outcome.1.pieces.map Prod.fst = source.pieces := by
  let failure := (EventStream.ofTokens s).failure
  let outcome := (EventStream.ofTokens s).outcome
  have hstart : Leads failure outcome .empty (.ofTokens s) := ⟨_, rfl⟩
  obtain ⟨t, tokens, hcons, -, htokens⟩ := exists_token (g := .ofTokens s) hkinds
  have hstep := hstart.step hwhole
  rw [Grammar.step_streamStart rfl hcons] at hstep
  obtain ⟨k, rest, rfl, hk⟩ := h.beginsNode
  -- The first token of the value begins a document.
  let g₁ := (Grammar.ofTokens s).skip.expect .firstDocument
  obtain ⟨t₁, tokens₁, hcons₁, rfl, -⟩ := exists_token (g := g₁) htokens
  have hfirst : Leads failure outcome .empty g₁ := hstep.read fun _ => rfl
  have hstep₁ := hfirst.step hwhole
  rw [Grammar.step_firstDocument (g := g₁) rfl hcons₁ hk] at hstep₁
  let g₂ := ({ g₁ with handles := Grammar.addDefaults g₁.handles }.thenExpect .documentEnd).expect
    .blockNode
  have hcontent : Leads failure outcome .empty g₂ := hstep₁.read fun _ => rfl
  obtain ⟨b₃, g₃, hleads₃, hkinds₃, htokens₃, hexpected₃, -⟩ :=
    reaches_of_tokens (g := g₂) h hwhole ⟨true, false, Grammar.step_blockNode rfl⟩ htokens rfl
      (hcontent.step hwhole)
  -- The document ends where the stream does.
  obtain ⟨t₃, tokens₃, hcons₃, ht₃, -⟩ := exists_token htokens₃
  obtain ⟨fuel, hend⟩ := hleads₃.step hwhole
  rw [Grammar.step_documentEnd hexpected₃ hcons₃ ht₃] at hend
  have hpieces : (EventStream.ofTokens s).outcome.1.pieces = b₃.pieces.reverse := by
    rw [← hend]
    rfl
  rw [hpieces, List.map_reverse]
  exact hkinds₃

end Yaml

end ConfigCheck
