import ConfigCheck.Proofs.Yaml.Parse
import ConfigCheck.Proofs.Yaml.Void

/-!
# Streams of document markers

Between two document markers a document has no content and is null.  So a text that is void and is
read has no value (`Yaml.eq_null_of_isVoid`).
-/

namespace ConfigCheck

namespace Yaml

/-! ## Documents between markers -/

namespace Grammar

variable {g : Grammar} {t : Token} {tokens : List Token} {m : Mark}

/-- Without a document the stream ends. -/
lemma step_firstDocument_streamEnd (h : g.expected = .firstDocument)
    (htokens : g.tokens = t :: tokens) (ht : t.kind = .streamEnd) :
    g.step = .ok ((.streamEnd, t.start), g.skip.expect .nothing) := by
  simp [step, h, firstDocument, explicitDocument, peek_cons htokens, ht, bind, Except.bind, pure,
    Except.pure]

/-- Three dashes begin a document. -/
lemma step_firstDocument_documentStart (h : g.expected = .firstDocument)
    (htokens : g.tokens = t :: tokens) (ht : t.kind = .documentStart) :
    ∃ g' : Grammar, g.step = .ok ((.documentStart, t.start), g') ∧ g'.tokens = tokens ∧
      g'.expected = .documentContent ∧ g'.stack = .documentEnd :: g.stack := by
  have hdirectives : directives g.failure false g.handles g.tokens =
      .ok (addDefaults g.handles, t :: tokens) := by
    rw [htokens, directives, ht]
  refine ⟨(({ g with handles := addDefaults g.handles, tokens := t :: tokens }.skip).thenExpect
    .documentEnd).expect .documentContent, ?_, rfl, rfl, rfl⟩
  rw [htokens] at hdirectives
  simp [step, h, firstDocument, explicitDocument, htokens, hdirectives, ht, startsDocument, peek,
    bind, Except.bind, pure, Except.pure]

/-- Three dots do not begin a document. -/
lemma step_firstDocument_documentEnd (h : g.expected = .firstDocument)
    (htokens : g.tokens = t :: tokens) (ht : t.kind = .documentEnd) :
    ∃ g' : Grammar, g.step = .ok ((.documentStart, t.start), g') ∧
      ∃ error, g'.step = .error error := by
  refine ⟨({ g with handles := addDefaults g.handles }.thenExpect .documentEnd).expect .blockNode,
    ?_, ?_⟩
  · simp [step, h, firstDocument, peek_cons htokens, ht, startsDocument, bind, Except.bind, pure,
      Except.pure]
  · simp [step, expect, thenExpect, node, decoration, resolveTag, node.noContent, peek, htokens, ht,
      bind, Except.bind, pure, Except.pure]

/-- Between two markers a document has no content. -/
lemma step_documentContent (h : g.expected = .documentContent) (htokens : g.tokens = t :: tokens)
    (ht : t.kind = .documentStart ∨ t.kind = .documentEnd ∨ t.kind = .streamEnd) :
    g.step = .ok ((.scalar .none "" .plain, t.start), g.done) := by
  rcases ht with ht | ht | ht
  · simp [step, h, documentContent, peek_cons htokens, ht, startsDocument, emptyScalar, bind,
      Except.bind]
  · simp [step, h, documentContent, peek_cons htokens, ht, startsDocument, emptyScalar, bind,
      Except.bind]
  · simp [step, h, documentContent, peek_cons htokens, ht, startsDocument, emptyScalar, bind,
      Except.bind]

/-- A document ends in front of anything but three dots, and behind those. -/
lemma step_documentEnd_cons (h : g.expected = .documentEnd) (htokens : g.tokens = t :: tokens) :
    ∃ g' : Grammar, g.step = .ok ((.documentEnd, t.start), g') := by
  simp [step, h, documentEnd, peek_cons htokens, bind, Except.bind, pure, Except.pure]

end Grammar

/-- A document of one missing node is null. -/
lemma Document.eq_null_of_toNode {d : Document} {p : Piece} {m : Mark} {n : Node}
    (hpieces : d.pieces = [(p, m)]) (hp : p = .nothing ∨ p = .scalar none "" .plain)
    (h : d.toNode = .ok n) : n = .null := by
  have hnode : d.node 128 "." ⟨d.pieces, 0⟩ = .ok (.null, ⟨[], 0⟩) := by
    rw [hpieces]
    rcases hp with rfl | rfl
    · rfl
    · rfl
  unfold toNode at h
  obtain ⟨⟨n', r⟩, hbuilt, h⟩ := bind_eq_ok_iff.mp h
  rw [hnode] at hbuilt
  cases hbuilt
  dsimp only at h
  split at h
  · cases h
  · cases h
    rfl

section

variable {failure : Option SyntaxError} {outcome : Document × Option (List (Event × Mark))}
variable {g : Grammar} {kinds : List TokenKind}

/-- A stream that ends at once has a document of nothing. -/
lemma pieces_of_streamEnd (h : Leads failure outcome .empty g) (hwhole : IsWhole outcome)
    (hexpected : g.expected = .firstDocument)
    (htokens : g.tokens.map Token.kind = .streamEnd :: kinds) :
    ∃ m, outcome.1.pieces = [(.nothing, m)] := by
  obtain ⟨t, tokens, hcons, ht, -⟩ := exists_token htokens
  obtain ⟨fuel, rfl⟩ := h.step hwhole
  rw [Grammar.step_firstDocument_streamEnd hexpected hcons ht]
  exact ⟨t.start, rfl⟩

/-- A document between three dashes and another marker or the end of the stream is an empty
scalar. -/
lemma pieces_of_documentStart {next : TokenKind} (h : Leads failure outcome .empty g)
    (hwhole : IsWhole outcome) (hexpected : g.expected = .firstDocument)
    (htokens : g.tokens.map Token.kind = .documentStart :: next :: kinds)
    (hnext : next = .documentStart ∨ next = .documentEnd ∨ next = .streamEnd) :
    ∃ m, outcome.1.pieces = [(.scalar none "" .plain, m)] := by
  obtain ⟨t, tokens, hcons, ht, htail⟩ := exists_token htokens
  obtain ⟨g₁, hg₁, htokens₁, hexpected₁, hstack₁⟩ :=
    Grammar.step_firstDocument_documentStart hexpected hcons ht
  have hcontent : Leads failure outcome .empty g₁ := by
    have hstep := h.step hwhole
    rw [hg₁] at hstep
    exact hstep.read fun _ => rfl
  rw [Grammar.tokens_skip, hcons, List.tail_cons, ← htokens₁] at htail
  obtain ⟨t₁, tokens₁, hcons₁, ht₁, -⟩ := exists_token htail
  have hscalar : Leads failure outcome
      (DocumentBuilder.empty.push (.scalar none "" .plain) t₁.start) g₁.done := by
    have hstep := hcontent.step hwhole
    rw [Grammar.step_documentContent hexpected₁ hcons₁ (ht₁ ▸ hnext)] at hstep
    exact hstep.read fun _ => rfl
  have hdone : g₁.done.expected = .documentEnd := by
    unfold Grammar.done
    rw [hstack₁]
  obtain ⟨g₂, hg₂⟩ := Grammar.step_documentEnd_cons hdone (Grammar.tokens_done.trans hcons₁)
  obtain ⟨fuel, rfl⟩ := hscalar.step hwhole
  rw [hg₂]
  exact ⟨t₁.start, rfl⟩

/-- Three dots in the place of a document cut it short. -/
lemma not_isWhole_of_documentEnd (h : Leads failure outcome .empty g)
    (hexpected : g.expected = .firstDocument)
    (htokens : g.tokens.map Token.kind = .documentEnd :: kinds) : ¬ IsWhole outcome := by
  intro hwhole
  obtain ⟨t, tokens, hcons, ht, -⟩ := exists_token htokens
  obtain ⟨g₁, hg₁, error, herror⟩ := Grammar.step_firstDocument_documentEnd hexpected hcons ht
  have hstep := h.step hwhole
  rw [hg₁] at hstep
  have hcontent : Leads failure outcome .empty g₁ := hstep.read fun _ => rfl
  have hstop := hcontent.step hwhole
  rw [herror] at hstop
  exact hstop.not_error hwhole

end

/-- Tokens that are document markers only are those of a document that is null, if it is whole. -/
theorem eq_null_of_markers {s : TokenStream} {markers : List TokenKind} {n : Node}
    (hmarkers : ∀ kind ∈ markers, kind = .documentStart ∨ kind = .documentEnd)
    (hkinds : s.tokens.map Token.kind = .streamStart :: (markers ++ [.streamEnd]))
    (hwhole : IsWhole (EventStream.ofTokens s).outcome)
    (hnode : (EventStream.ofTokens s).outcome.1.toNode = .ok n) : n = .null := by
  obtain ⟨t, tokens, hcons, -, htokens⟩ := exists_token (g := .ofTokens s) hkinds
  have hfirst : Leads (EventStream.ofTokens s).failure (EventStream.ofTokens s).outcome .empty
      ((Grammar.ofTokens s).skip.expect .firstDocument) := by
    have hstart : Leads (EventStream.ofTokens s).failure (EventStream.ofTokens s).outcome .empty
      (.ofTokens s) := ⟨_, rfl⟩
    have hstep := hstart.step hwhole
    rw [Grammar.step_streamStart rfl hcons] at hstep
    exact hstep.read fun _ => rfl
  cases markers with
  | nil =>
    obtain ⟨m, hpieces⟩ := pieces_of_streamEnd hfirst hwhole rfl htokens
    exact Document.eq_null_of_toNode hpieces (.inl rfl) hnode
  | cons marker more =>
    obtain ⟨hmarker, hmore⟩ := List.forall_mem_cons.mp hmarkers
    rcases hmarker with rfl | rfl
    · have hpieces : ∃ m, (EventStream.ofTokens s).outcome.1.pieces =
          [(.scalar none "" .plain, m)] := by
        cases more with
        | nil => exact pieces_of_documentStart hfirst hwhole rfl htokens (.inr (.inr rfl))
        | cons next more =>
          have hnext := (List.forall_mem_cons.mp hmore).1
          exact pieces_of_documentStart hfirst hwhole rfl htokens (hnext.imp_right .inl)
      obtain ⟨m, hpieces⟩ := hpieces
      exact Document.eq_null_of_toNode hpieces (.inr rfl) hnode
    · exact absurd hwhole (not_isWhole_of_documentEnd hfirst rfl htokens)

/-- A void text has no value. -/
theorem eq_null_of_isVoid {text : String} {n : Node} (hvoid : isVoid text.toList = true)
    (h : read text = .ok n) : n = .null := by
  obtain ⟨hwhole, hnode, hfinal⟩ := isWhole_of_read h
  have hmark : (dropByteOrderMark text.toList).1 = text.toList := by
    unfold dropByteOrderMark
    split
    · rename_i heq
      have hhead := head?_ne_byteOrderMark (isVoidFrom_of_isVoid hvoid)
      rw [heq] at hhead
      exact absurd rfl hhead
    · rfl
  rw [hmark] at hwhole hnode hfinal
  obtain ⟨markers, hmarkers, hkinds⟩ := tokens_of_isVoid hvoid hfinal
  exact eq_null_of_markers hmarkers hkinds hwhole hnode

end Yaml

end ConfigCheck
