import ConfigCheck.Proofs.Outcome
import ConfigCheck.Yaml.Reader

/-!
# Complete streams

A text that is read has a complete stream of events, and the end of that stream comes from the end
of the stream of tokens (`isWhole_of_read`): a step of the grammar leaves a part of its tokens, and
only the last token ends the stream (`Grammar.follows_step`).
-/

namespace ConfigCheck.Yaml

namespace Grammar

/-- What a step leaves is a part of the tokens, and if the stream ends its last token was there. -/
def Follows (g : Grammar) (r : Result) : Prop :=
  ∀ event m g', r = .ok ((event, m), g') →
    g'.tokens <:+ g.tokens ∧ (event = .streamEnd → .streamEnd ∈ g.tokens.map Token.kind)

variable {g g' : Grammar} {r : Result} {event : Event} {m : Mark} {e : Expectation} {p : Prop}

@[simp] lemma tokens_expect : (g.expect e).tokens = g.tokens := rfl

@[simp] lemma tokens_thenExpect : (g.thenExpect e).tokens = g.tokens := rfl

@[simp] lemma tokens_skip : g.skip.tokens = g.tokens.tail := rfl

@[simp] lemma tokens_done : g.done.tokens = g.tokens := by
  unfold done
  split <;> rfl

/-- An event that does not end the stream, with at most one token. -/
lemma follows_ok (h : g'.tokens = g.tokens ∨ g'.tokens = g.tokens.tail)
    (hevent : event ≠ .streamEnd) : g.Follows (.ok ((event, m), g')) := by
  rintro _ _ _ ⟨⟩
  refine ⟨?_, fun heq => absurd heq hevent⟩
  rcases h with h | h
  · exact h ▸ List.suffix_rfl
  · exact h ▸ List.tail_suffix g.tokens

/-- Nothing follows an error. -/
lemma follows_error {error : SyntaxError} : g.Follows (.error error) := by
  rintro _ _ _ ⟨⟩

/-- A step from a part of the tokens is a step from all of them. -/
lemma Follows.of_suffix (h : g'.Follows r) (hg : g'.tokens <:+ g.tokens) : g.Follows r := by
  intro event m g'' hr
  obtain ⟨hsuffix, hend⟩ := h event m g'' hr
  exact ⟨hsuffix.trans hg, fun heq => ((hg.map Token.kind).subset (hend heq))⟩

/-- A step that follows another computation. -/
lemma follows_bind {α : Type} {x : Except SyntaxError α} {f : α → Result}
    (h : ∀ a, x = .ok a → g.Follows (f a)) : g.Follows (x >>= f) := by
  intro event m g' hr
  obtain ⟨a, ha, hr⟩ := bind_eq_ok_iff.mp hr
  exact h a ha event m g' hr

/-- A step that depends on a test. -/
lemma follows_ite {r' : Result} [Decidable p] (h : p → g.Follows r) (h' : ¬p → g.Follows r') :
    g.Follows (if p then r else r') := by
  split
  · exact h ‹_›
  · exact h' ‹_›

/-- A missing node is a scalar without text. -/
lemma follows_emptyScalar : g.Follows (g.emptyScalar m) :=
  follows_ok (.inl rfl) nofun

/-- Directives are the first tokens. -/
lemma directives_suffix {failure : Option SyntaxError} {version : Bool}
    {handles handles' : List (String × TagText)} {tokens tokens' : List Token}
    (h : directives failure version handles tokens = .ok (handles', tokens')) :
    tokens' <:+ tokens := by
  induction tokens generalizing version handles with
  | nil => cases h
  | cons t rest ih =>
    rw [directives] at h
    split at h
    · split at h
      · cases h
      · split at h
        · cases h
        · exact (ih h).trans (List.suffix_cons t rest)
    · split at h
      · cases h
      · exact (ih h).trans (List.suffix_cons t rest)
    · cases h
      exact List.suffix_rfl

/-- The next token is one of the tokens. -/
lemma mem_of_peek {t : Token} (h : g.peek = .ok t) : t ∈ g.tokens := by
  unfold peek at h
  split at h
  · rename_i heq
    cases h
    rw [heq]
    exact List.mem_cons_self ..
  · cases h

/-- A document that is announced, or the end of the stream. -/
lemma follows_explicitDocument : g.Follows g.explicitDocument := by
  unfold explicitDocument
  refine follows_bind fun first hfirst => follows_ite (fun hkind => ?_) fun _ => ?_
  · rintro _ _ _ ⟨⟩
    exact ⟨List.tail_suffix g.tokens, fun _ => hkind ▸ List.mem_map_of_mem (mem_of_peek hfirst)⟩
  · refine follows_bind fun (handles, tokens) hdirectives => ?_
    have hsuffix : { g with handles, tokens }.tokens <:+ g.tokens := directives_suffix hdirectives
    refine Follows.of_suffix ?_ hsuffix
    exact follows_bind fun t _ => follows_ite (fun _ => follows_error) fun _ =>
      follows_ok (by simp) nofun

/-- The anchor and the tag are the first tokens. -/
lemma decoration_suffix {d : Decoration} (h : g.decoration = .ok (d, g')) :
    g'.tokens <:+ g.tokens := by
  have hone : g.skip.tokens <:+ g.tokens := List.tail_suffix g.tokens
  have htwo : g.skip.skip.tokens <:+ g.tokens := (List.tail_suffix g.skip.tokens).trans hone
  unfold decoration at h
  obtain ⟨first, -, h⟩ := bind_eq_ok_iff.mp h
  split at h
  · obtain ⟨second, -, h⟩ := bind_eq_ok_iff.mp h
    split at h
    · cases h
      exact htwo
    · cases h
      exact hone
  · obtain ⟨second, -, h⟩ := bind_eq_ok_iff.mp h
    split at h
    · cases h
      exact htwo
    · cases h
      exact hone
  · cases h
    exact List.suffix_rfl

/-- A node without content takes nothing. -/
lemma follows_noContent {block : Bool} {d : Decoration} {properties : Properties} {t : Token} :
    g.Follows (node.noContent block g d properties t) := by
  unfold node.noContent
  exact follows_ite (fun _ => follows_ok (by simp) nofun) fun _ => follows_error

/-- A node begins with some of the tokens. -/
lemma follows_node {block indentless : Bool} : g.Follows (g.node block indentless) := by
  unfold node
  refine follows_bind fun first _ => ?_
  split
  · exact follows_ok (by simp) nofun
  · refine follows_bind fun (d, g') hdecoration => follows_bind fun tag _ => ?_
    refine Follows.of_suffix ?_ (decoration_suffix hdecoration)
    refine follows_bind fun t _ => ?_
    dsimp only
    split
    · exact follows_ite (fun _ => follows_ok (by simp) nofun) fun _ => follows_noContent
    · exact follows_ok (by simp) nofun
    · exact follows_ok (by simp) nofun
    · exact follows_ok (by simp) nofun
    · exact follows_ite (fun _ => follows_ok (by simp) nofun) fun _ => follows_noContent
    · exact follows_ite (fun _ => follows_ok (by simp) nofun) fun _ => follows_noContent
    · exact follows_noContent

/-- The content behind three dashes. -/
lemma follows_documentContent : g.Follows g.documentContent := by
  have hdone : g.done.tokens <:+ g.tokens := tokens_done.symm ▸ List.suffix_rfl
  exact follows_bind fun t _ => follows_ite (fun _ => Follows.of_suffix follows_emptyScalar hdone)
    fun _ => follows_node

/-- A first document. -/
lemma follows_firstDocument : g.Follows g.firstDocument :=
  follows_bind fun _ _ => follows_ite (fun _ => follows_explicitDocument) fun _ =>
    follows_ok (.inl rfl) nofun

/-- Another document. -/
lemma follows_nextDocument : g.Follows g.nextDocument :=
  Follows.of_suffix follows_explicitDocument (List.dropWhile_suffix _)

/-- The end of a document. -/
lemma follows_documentEnd : g.Follows g.documentEnd := by
  refine follows_bind fun t _ => follows_ok ?_ nofun
  dsimp only
  split <;> simp

/-- A node in a block collection. -/
lemma follows_blockNodeUnless {missing : List TokenKind} {indentless : Bool} :
    g.Follows (g.blockNodeUnless missing indentless m e) :=
  follows_bind fun _ _ => follows_ite
    (fun _ => Follows.of_suffix follows_emptyScalar List.suffix_rfl)
    fun _ => Follows.of_suffix follows_node List.suffix_rfl

/-- A node in a flow collection. -/
lemma follows_flowNodeUnless {missing : List TokenKind} :
    g.Follows (g.flowNodeUnless missing e) :=
  follows_bind fun _ _ => follows_ite
    (fun _ => Follows.of_suffix follows_emptyScalar List.suffix_rfl)
    fun _ => Follows.of_suffix follows_node List.suffix_rfl

/-- An item of a block sequence. -/
lemma follows_blockEntry : g.Follows (g.blockEntry m) := by
  refine follows_bind fun ⟨kind, _, _⟩ _ => ?_
  cases kind with
  | blockEntry => exact Follows.of_suffix follows_blockNodeUnless (List.tail_suffix g.tokens)
  | blockEnd => exact follows_ok (by simp) nofun
  | _ => exact follows_error

/-- An item of a sequence that is not indented. -/
lemma follows_indentlessEntry : g.Follows g.indentlessEntry := by
  refine follows_bind fun ⟨kind, _, _⟩ _ => ?_
  cases kind with
  | blockEntry => exact Follows.of_suffix follows_blockNodeUnless (List.tail_suffix g.tokens)
  | _ => exact follows_ok (.inl tokens_done) nofun

/-- A key of a block mapping. -/
lemma follows_blockKey : g.Follows (g.blockKey m) := by
  refine follows_bind fun ⟨kind, _, _⟩ _ => ?_
  cases kind with
  | key => exact Follows.of_suffix follows_blockNodeUnless (List.tail_suffix g.tokens)
  | blockEnd => exact follows_ok (by simp) nofun
  | _ => exact follows_error

/-- The value of a key of a block mapping. -/
lemma follows_blockValue : g.Follows (g.blockValue m) := by
  refine follows_bind fun ⟨kind, _, _⟩ _ => ?_
  cases kind with
  | value => exact Follows.of_suffix follows_blockNodeUnless (List.tail_suffix g.tokens)
  | _ => exact Follows.of_suffix follows_emptyScalar List.suffix_rfl

/-- The comma is the first token. -/
lemma skipComma_suffix {activity : Activity} {problem : Problem}
    (h : g.skipComma activity m problem = .ok g') : g'.tokens <:+ g.tokens := by
  unfold skipComma at h
  obtain ⟨t, -, h⟩ := bind_eq_ok_iff.mp h
  split at h
  · cases h
    exact List.tail_suffix g.tokens
  · cases h

/-- What comes behind a comma, unless it is the first entry. -/
lemma follows_behindComma {first : Bool} {activity : Activity} {problem : Problem}
    {f : Grammar → Result} (hf : ∀ g : Grammar, g.Follows (f g)) :
    g.Follows (if first = true then pure g >>= f else g.skipComma activity m problem >>= f) :=
  follows_ite (fun _ => hf g) fun _ => follows_bind fun g' hg' =>
    (hf g').of_suffix (skipComma_suffix hg')

/-- An item of a sequence in brackets. -/
lemma follows_flowEntry {first : Bool} : g.Follows (g.flowEntry first m) := by
  refine follows_bind fun t _ => follows_ite (fun _ => follows_ok (by simp) nofun) fun _ => ?_
  refine follows_behindComma fun g => follows_bind fun ⟨kind, _, _⟩ _ => ?_
  cases kind with
  | flowSequenceEnd | key => exact follows_ok (by simp) nofun
  | _ => exact Follows.of_suffix follows_node List.suffix_rfl

/-- The key of a mapping with one entry. -/
lemma follows_pairKey : g.Follows (g.pairKey m) :=
  follows_bind fun _ _ => follows_ite
    (fun _ => Follows.of_suffix follows_emptyScalar (List.tail_suffix g.tokens))
    fun _ => Follows.of_suffix follows_node List.suffix_rfl

/-- The value of a mapping with one entry. -/
lemma follows_pairValue : g.Follows (g.pairValue m) := by
  refine follows_bind fun ⟨kind, _, _⟩ _ => ?_
  cases kind with
  | value => exact Follows.of_suffix follows_flowNodeUnless (List.tail_suffix g.tokens)
  | _ => exact Follows.of_suffix follows_emptyScalar List.suffix_rfl

/-- A key of a mapping in braces. -/
lemma follows_flowKey {first : Bool} : g.Follows (g.flowKey first m) := by
  refine follows_bind fun t _ => follows_ite (fun _ => follows_ok (by simp) nofun) fun _ => ?_
  refine follows_behindComma fun g => follows_bind fun ⟨kind, _, _⟩ _ => ?_
  cases kind with
  | flowMappingEnd => exact follows_ok (by simp) nofun
  | key => exact Follows.of_suffix follows_flowNodeUnless (List.tail_suffix g.tokens)
  | _ => exact Follows.of_suffix follows_node List.suffix_rfl

/-- The value of a key of a mapping in braces. -/
lemma follows_flowValue : g.Follows (g.flowValue m) := by
  refine follows_bind fun ⟨kind, _, _⟩ _ => ?_
  cases kind with
  | value => exact Follows.of_suffix follows_flowNodeUnless (List.tail_suffix g.tokens)
  | _ => exact Follows.of_suffix follows_emptyScalar List.suffix_rfl

/-- Every step leaves a part of the tokens, and only the last token ends the stream. -/
theorem follows_step : g.Follows g.step := by
  unfold step
  cases g.expected with
  | streamStart => exact follows_bind fun _ _ => follows_ok (by simp) nofun
  | firstDocument => exact follows_firstDocument
  | document => exact follows_nextDocument
  | documentContent => exact follows_documentContent
  | documentEnd => exact follows_documentEnd
  | blockNode => exact follows_node
  | blockEntry => exact follows_blockEntry
  | indentlessEntry => exact follows_indentlessEntry
  | blockKey => exact follows_blockKey
  | blockValue => exact follows_blockValue
  | flowEntry => exact follows_flowEntry
  | pairKey => exact follows_pairKey
  | pairValue => exact follows_pairValue
  | pairEnd => exact follows_bind fun _ _ => follows_ok (by simp) nofun
  | flowKey => exact follows_flowKey
  | flowValue => exact follows_flowValue
  | flowNoValue =>
    exact follows_bind fun _ _ => Follows.of_suffix follows_emptyScalar List.suffix_rfl
  | nothing => exact follows_error

/-- A stream of events that ends comes from a stream of tokens that ends. -/
theorem streamEnd_mem_of_run {fuel : Nat} (h : .streamEnd ∈ (g.run fuel).events.map Prod.fst) :
    .streamEnd ∈ g.tokens.map Token.kind := by
  induction fuel generalizing g with
  | zero => cases h
  | succ fuel ih =>
    rw [run] at h
    split at h
    · cases h
    · split at h
      · cases h
      · rename_i event g' hstep
        obtain ⟨event, m⟩ := event
        obtain ⟨hsuffix, hend⟩ := follows_step event m g' hstep
        rcases List.mem_cons.mp h with heq | h
        · exact hend heq.symm
        · exact (hsuffix.map Token.kind).subset (ih h)

end Grammar

/-! ## Documents -/

/-- What the events of a document give if it is whole: no error cuts it short, and nothing but the
end of the stream comes behind it. -/
def IsWhole (outcome : Document × Option (List (Event × Mark))) : Prop :=
  outcome.1.failure = none ∧ ∀ behind ∈ outcome.2, ∃ m rest, behind = (.streamEnd, m) :: rest

variable {failure : Option SyntaxError} {b : DocumentBuilder} {events : List (Event × Mark)}

/-- A document that is whole needs the end of the stream. -/
lemma streamEnd_mem_of_isWhole (h : IsWhole (DocumentBuilder.read failure b events)) :
    .streamEnd ∈ events.map Prod.fst := by
  induction events generalizing b with
  | nil =>
    obtain ⟨m, rest, heq⟩ := h.2 [] rfl
    cases heq
  | cons event rest ih =>
    obtain ⟨event, m⟩ := event
    rw [List.map_cons]
    match event, h with
    | .streamEnd, _ => exact List.mem_cons_self ..
    | .documentEnd, h =>
      obtain ⟨m, behind, rfl⟩ := h.2 rest rfl
      simp
    | .alias name, h =>
      rw [DocumentBuilder.read] at h
      split at h
      · exact List.mem_cons_of_mem _ (ih h)
      · cases h.1
    | .streamStart, h | .documentStart, h | .scalar .., h | .sequenceStart .., h
    | .sequenceEnd, h | .mappingStart .., h | .mappingEnd, h =>
      exact List.mem_cons_of_mem _ (ih h)

/-- What the first document of an event stream gives. -/
def EventStream.outcome (s : EventStream) : Document × Option (List (Event × Mark)) :=
  DocumentBuilder.read s.failure .empty s.events

/-- A document is whole if nothing cuts it short and no other one comes behind it. -/
lemma isWhole_outcome {s : EventStream} (hfailure : s.outcome.1.failure = none)
    (hmore : (Document.ofEvents s).2 = false) : IsWhole s.outcome := by
  refine ⟨hfailure, fun behind hbehind => ?_⟩
  unfold Document.ofEvents at hmore
  split at hmore
  · rename_i heq
    rw [EventStream.outcome, heq] at hbehind
    cases hbehind
  · rename_i m rest heq
    rw [EventStream.outcome, heq] at hbehind
    cases hbehind
    exact ⟨m, rest, rfl⟩
  · cases hmore

/-- The first document of an event stream. -/
lemma ofEvents_fst (s : EventStream) : (Document.ofEvents s).1 = s.outcome.1 := by
  unfold Document.ofEvents EventStream.outcome
  split <;> simp [*]

/-- A document with a tree is not cut short. -/
lemma failure_of_toNode {d : Document} {n : Node} (h : d.toNode = .ok n) : d.failure = none := by
  unfold Document.toNode at h
  obtain ⟨_, -, h⟩ := bind_eq_ok_iff.mp h
  dsimp only at h
  split at h
  · cases h
  · assumption

/-- A text that is read has a whole document with its tree, and a complete stream of tokens. -/
theorem isWhole_of_read {text : String} {n : Node} (h : read text = .ok n) :
    let tokens := TokenStream.ofText (dropByteOrderMark text.toList).1
    IsWhole (EventStream.ofTokens tokens).outcome ∧
      (EventStream.ofTokens tokens).outcome.1.toNode = .ok n ∧
      .streamEnd ∈ tokens.tokens.map Token.kind := by
  intro tokens
  unfold read at h
  dsimp only at h
  split at h
  · cases h
  · obtain ⟨n', hnode, h⟩ := bind_eq_ok_iff.mp h
    split at h
    · cases h
    · rename_i hmore
      cases h
      rw [ofEvents_fst] at hnode
      have hwhole : IsWhole (EventStream.ofTokens tokens).outcome :=
        isWhole_outcome (failure_of_toNode hnode) (Bool.eq_false_iff.mpr hmore)
      have hevents : .streamEnd ∈ (EventStream.ofTokens tokens).events.map Prod.fst :=
        streamEnd_mem_of_isWhole hwhole
      have htokens : .streamEnd ∈ (Grammar.ofTokens tokens).tokens.map Token.kind :=
        Grammar.streamEnd_mem_of_run hevents
      exact ⟨hwhole, hnode, htokens⟩

end ConfigCheck.Yaml
