import ConfigCheck.Proofs.Schema.Names

/-!
# References that lead away

A schema can be searched without a defect only if each reference in it can be followed, and those
that can lead to a resource of the registry.  So beside the meta-schemas and a document without
names a reference to another site is a defect (`refused_of_isRemote`), and no search of other
references, wherever they lead, comes past it (`keeps_visitReference`).
-/

namespace ConfigCheck.Schema

variable {r : Registry} {key : String}

/-! ## Keys that are no names -/

/-- What cannot be followed is not among what has been followed after a visit. -/
theorem keeps_visitReference (hr : r.IsSettled) (hkey : ∀ e ∈ r.resources, ¬ IsKeyIn e.1 key)
    (n : ℕ) {reference : Reference} (hscope : reference.scope.base.IsNormal) :
    Keeps (key ∉ ·) (visitReference r n reference) := by
  induction n generalizing reference with
  | zero =>
    intro seen seen' hseen h
    rw [visitReference] at h
    cases h
    exact hseen
  | succ n ih =>
    intro seen seen' hseen h
    rw [visitReference] at h
    obtain ⟨own, hown, h⟩ := bind_eq_ok_iff.mp h
    split at h
    · cases h
      exact hseen
    split at h
    · cases h
    · rename_i target hfollow
      obtain ⟨e, he, hin⟩ := r.exists_isKeyIn_of_follow hr hscope hown hfollow
      have hne : key ≠ own := fun heq => hkey e he (heq ▸ hin)
      have htarget := Registry.isNormal_of_follow hscope hfollow
      have hkept : IsKept (visitReference r n) (key ∉ ·)
          (ofContents target.scope target.contents) :=
        isKept_of_occurs fun keyword inner hoccurs =>
          ih (isNormal_of_occurs htarget (.inr rfl) hoccurs)
      exact hkept.schema (own :: seen) seen' (List.not_mem_cons_of_ne_of_not_mem hne hseen) h

/-- A reference that cannot be followed is refused, unless it counts as followed. -/
theorem refused_visitReference (hr : r.IsSettled) (hkey : ∀ e ∈ r.resources, ¬ IsKeyIn e.1 key)
    (n : ℕ) {reference : Reference} (hscope : reference.scope.base.IsNormal)
    (hown : reference.key = .ok key) :
    Refused (key ∉ ·) (visitReference r (n + 1) reference) := by
  intro seen seen' hseen h
  rw [visitReference, hown] at h
  obtain ⟨_, hsame, h⟩ := bind_eq_ok_iff.mp h
  cases hsame
  rw [if_neg hseen] at h
  split at h
  · cases h
  · rename_i target hfollow
    obtain ⟨e, he, hin⟩ := r.exists_isKeyIn_of_follow hr hscope hown hfollow
    exact hkey e he hin

/-! ## Remote references -/

/-- A text is an address on the web at which no meta-schema stands, nor a place in one. -/
def IsRemote (text : String) : Prop :=
  ∃ uri, resolveText Uri.unnamed text = .ok uri ∧ uri.scheme ∈ [some "http", some "https"] ∧
    ∀ e ∈ MetaSchema.registry.resources, ¬ IsKeyIn e.1 uri.toString

/-- An address is remote that is not on the site of the meta-schemas. -/
lemma isRemote_of_site {text : String} {uri : Uri} (h : resolveText Uri.unnamed text = .ok uri)
    (hscheme : uri.scheme ∈ [some "http", some "https"]) (hsite : ∀ scheme ∈ ["http", "https"],
      ¬ scheme.toList ++ "://json-schema.org".toList <+: uri.toString.toList) : IsRemote text := by
  refine ⟨uri, h, hscheme, fun e he hin => ?_⟩
  obtain ⟨u, hpage, hname⟩ := MetaSchema.exists_isPage he
  obtain ⟨scheme, hmem, rest, -, htext⟩ := hpage.exists_eq
  refine hsite scheme hmem ?_
  have hprefix : e.1.toList <+: uri.toString.toList := by
    rcases hin with heq | ⟨g, hg⟩
    · exact heq ▸ List.prefix_rfl
    · rw [hg, String.toList_append]
      exact List.prefix_append _ _
  refine List.IsPrefix.trans ⟨rest, ?_⟩ hprefix
  rw [hname, htext]
  simp

/-- A registry has the meta-schemas, and a document without an identifier. -/
def Registry.HasOnly (r : Registry) (document : Json) : Prop :=
  r.resources = (Uri.unnamed.toString, ⟨document, .latest⟩) :: MetaSchema.registry.resources

section

variable {document : Json} (hr : r.HasOnly document)

include hr

/-- The names of the meta-schemas and of a document are settled. -/
lemma Registry.HasOnly.isSettled : r.IsSettled := by
  unfold IsSettled
  rw [hr]
  refine List.forall_mem_cons.mpr ⟨Uri.hasSettledText_unnamed, fun e he => ?_⟩
  obtain ⟨u, hpage, hname⟩ := MetaSchema.exists_isPage he
  exact hname ▸ hpage.hasSettledText

/-- A remote reference is that of no resource. -/
lemma IsRemote.exists_key {text : String} (h : IsRemote text) :
    ∃ key, Reference.key ⟨.named text, Scope.ofDocument⟩ = .ok key ∧
      ∀ e ∈ r.resources, ¬ IsKeyIn e.1 key := by
  obtain ⟨uri, hresolve, hscheme, hnone⟩ := h
  refine ⟨uri.toString, ?_, ?_⟩
  · have hbase : resolveText Scope.ofDocument.base text = .ok uri := hresolve
    unfold Reference.key
    dsimp only
    rw [hbase]
  · rw [hr]
    refine List.forall_mem_cons.mpr ⟨fun hin => ?_, hnone⟩
    have hhead := head?_toString_of_scheme hscheme
    obtain ⟨rest, hrest⟩ : ∃ rest, uri.toString = Uri.unnamed.toString ++ rest :=
      hin.elim (fun heq => ⟨"", by simpa using heq⟩) fun ⟨g, hg⟩ => ⟨_, hg⟩
    rw [hrest, head?_unnamed_append] at hhead
    cases hhead

end

end ConfigCheck.Schema
