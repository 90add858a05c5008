import ConfigCheck.Proofs.Schema.Buried
import ConfigCheck.Proofs.Schema.Composition
import ConfigCheck.Proofs.Schema.MetaSchema
import ConfigCheck.Proofs.Schema.Reached

/-!
# Names that are collected

From a document in which no schema names anything nothing is collected but the document
(`Registry.collect_registry`).  A document that has a name at its root, and no names inside it, is
put in under its base and its name (`Registry.mem_resources_add`).  So the registry of all
meta-schemas has no other names than their bases, all of which are pages of one site
(`MetaSchema.exists_isPage`).
-/

namespace ConfigCheck.Schema

/-! ## What collecting keeps -/

/-- Looks at a reference that has not been looked at; the number bounds the chains of local
references behind it. -/
def lookAt (base : Uri) (root : Json) (n : ℕ) (text : String) (c : Collection) :
    Except CollectFault Collection :=
  let c := { c with seen := (base.toString, text) :: c.seen }
  if text.toList.head? = some '#' then
    match localTarget? root text with
    | some target => collectReferences base root n target c
    | none => .ok c
  else (collectText base.withoutFragment text).map fun u =>
    { c with external := c.external ++ [u] }

/-- Looks at the name of a draft as at a reference. -/
def referToDraft (base : Uri) (contents : Json)
    (refer : String → Collection → Except CollectFault Collection) (c : Collection) :
    Except CollectFault Collection :=
  match textOf? contents.members "$schema" with
  | some text => if isWellKnown base text then .ok c else refer text c
  | none => .ok c

/-- The reference of a schema is looked at first, and then the name of its draft, unless they have
been looked at. -/
lemma collectReferences_succ (base : Uri) (root : Json) (n : ℕ) (contents : Json) :
    ∃ refer : String → Collection → Except CollectFault Collection,
      (∀ text c, refer text c = .ok c ∨ refer text c = lookAt base root n text c) ∧
      ∀ c, collectReferences base root (n + 1) contents c =
        if base.scheme = some "urn" then .ok c
        else
          match textOf? contents.members "$ref" with
          | some text =>
            if isWellKnown base text then .ok c
            else refer text c >>= referToDraft base contents refer
          | none => referToDraft base contents refer c := by
  refine ⟨fun text c => if text = "#" || (base.toString, text) ∈ c.seen then .ok c
    else lookAt base root n text c, fun text c => ?_, fun c => ?_⟩
  · dsimp only
    split
    · exact .inl rfl
    · exact .inr rfl
  · rw [collectReferences]
    rfl

/-- Looking at references adds nothing to the registry. -/
lemma keeps_collectReferences (r : Registry) (base : Uri) (root : Json) (n : ℕ) (contents : Json) :
    Keeps (fun c : Collection => c.registry = r) (collectReferences base root n contents) := by
  induction n generalizing contents with
  | zero =>
    intro c c' hc h
    rw [collectReferences] at h
    cases h
    exact hc
  | succ n ih =>
    have hlook : ∀ text,
        Keeps (fun c : Collection => c.registry = r) (lookAt base root n text) := by
      intro text c c' hc h
      unfold lookAt at h
      dsimp only at h
      split at h
      · split at h
        · refine ih _ _ _ ?_ h
          exact hc
        · cases h
          exact hc
      · obtain ⟨u, -, rfl⟩ := map_eq_ok_iff.mp h
        exact hc
    obtain ⟨refer, hcases, hrefers⟩ := collectReferences_succ base root n contents
    have hrefer : ∀ text, Keeps (fun c : Collection => c.registry = r) (refer text) := by
      intro text c c' hc h
      rcases hcases text c with hsame | hlooked
      · cases hsame.symm.trans h
        exact hc
      · exact hlook text c c' hc (hlooked ▸ h)
    have hdraft : Keeps (fun c : Collection => c.registry = r)
        (referToDraft base contents refer) := by
      intro c c' hc h
      unfold referToDraft at h
      split at h
      · split at h
        · cases h
          exact hc
        · exact hrefer _ _ _ hc h
      · cases h
        exact hc
    intro c c' hc h
    rw [hrefers] at h
    split at h
    · cases h
      exact hc
    · split at h
      · split at h
        · cases h
          exact hc
        · exact (hrefer _).bind hdraft c c' hc h
      · exact hdraft c c' hc h

/-- Looking at a schema puts in the schema itself if it has a name, and finds the schemas inside
it. -/
lemma Collection.visit_eq_ok_imp {c c' : Collection} {p : Pending} {more : List Pending}
    (h : c.visit p = .ok (c', more)) :
    ∃ base, collectBase p.base p.resource.draft p.resource.contents.members = .ok base ∧
      c'.registry = (c.enter base p.resource).registry ∧
      ∀ q ∈ more, ∃ t ∈ p.resource.draft.subschemas p.resource.contents, ∃ inner,
        p.resource.draft.detect t.members = .ok inner ∧ q = ⟨base, ⟨t, inner⟩⟩ := by
  unfold Collection.visit at h
  dsimp only at h
  obtain ⟨base, hbase, h⟩ := bind_eq_ok_iff.mp h
  obtain ⟨entered, hentered, h⟩ := bind_eq_ok_iff.mp h
  refine ⟨base, hbase, ?_⟩
  let Found : Collection × List Pending → Prop := fun state =>
    state.1.registry = (c.enter base p.resource).registry ∧
      ∀ q ∈ state.2, ∃ t ∈ p.resource.draft.subschemas p.resource.contents, ∃ inner,
        p.resource.draft.detect t.members = .ok inner ∧ q = ⟨base, ⟨t, inner⟩⟩
  have hstart : Found (entered, []) :=
    ⟨keeps_collectReferences _ _ _ _ _ _ entered rfl hentered, by simp⟩
  refine Keeps.foldlM (P := Found) (fun t ht => ?_) (entered, []) (c', more) hstart h
  rintro ⟨d, pending⟩ ⟨d', pending'⟩ ⟨hregistry, hpending⟩ hstep
  dsimp only at hstep
  split at hstep
  · rename_i inner hinner
    obtain ⟨_, hsame, hstep⟩ := bind_eq_ok_iff.mp hstep
    cases hsame
    obtain ⟨subBase, -, hstep⟩ := bind_eq_ok_iff.mp hstep
    obtain ⟨e, he, hstep⟩ := bind_eq_ok_iff.mp hstep
    cases hstep
    have hfound : ∀ q ∈ [(⟨base, ⟨t, inner⟩⟩ : Pending)],
        ∃ t ∈ p.resource.draft.subschemas p.resource.contents, ∃ inner,
          p.resource.draft.detect t.members = .ok inner ∧ q = ⟨base, ⟨t, inner⟩⟩ :=
      List.forall_mem_singleton.mpr ⟨t, ht, inner, hinner, rfl⟩
    exact ⟨keeps_collectReferences _ _ _ _ _ d _ hregistry he,
      List.forall_mem_append.mpr ⟨hpending, hfound⟩⟩
  · cases hstep

/-- Putting in the names of places changes no schemas. -/
lemma resources_foldl_insertAnchor (base : Uri) (resource : Resource) (names : List (String × Bool))
    (r : Registry) : (names.foldl (fun r (name, dynamic) =>
      r.insertAnchor base name ⟨dynamic, resource⟩) r).resources = r.resources := by
  induction names generalizing r with
  | nil => rfl
  | cons _ rest ih => exact ih _

/-- A schema is put in under its base, if at all. -/
lemma Collection.mem_resources_enter {c : Collection} {base : Uri} {resource : Resource}
    {e : String × Resource} (h : e ∈ (c.enter base resource).registry.resources) :
    e ∈ c.registry.resources ∨ e.1 = base.toString := by
  unfold enter at h
  dsimp only at h
  rw [resources_foldl_insertAnchor] at h
  split at h
  · rcases List.mem_cons.mp h with rfl | h
    · exact .inr rfl
    · exact .inl h
  · exact .inl h

lemma baseWithin_of_collectBase {outer base : Uri} {d : Draft} {members : Json.Members}
    (h : collectBase outer d members = .ok base) : baseWithin outer d members = .ok base := by
  unfold collectBase at h
  split at h
  · cases h
    assumption
  · cases h

/-! ## Documents without names -/

section

variable {d : Draft} {P : Json → Prop}
  (hP : ∀ contents, P contents → IsNameless d contents ∧ ∀ t ∈ d.subschemas contents, P t)

include hP

/-- Where no schema of a level has a name, nor one below, nothing is put in. -/
theorem Collection.visitAll_registry (n : ℕ) {pending : List Pending}
    (hpending : ∀ q ∈ pending, P q.resource.contents ∧ q.resource.draft = d) {c c' : Collection}
    (h : visitAll n pending c = .ok c') : c'.registry = c.registry := by
  induction n generalizing pending c with
  | zero =>
    rw [visitAll] at h
    cases h
    rfl
  | succ n ih =>
    rw [visitAll] at h
    split at h
    · cases h
      rfl
    · obtain ⟨⟨e, next⟩, hlevel, h⟩ := bind_eq_ok_iff.mp h
      let Level : Collection × List Pending → Prop := fun state =>
        state.1.registry = c.registry ∧
          ∀ q ∈ state.2, P q.resource.contents ∧ q.resource.draft = d
      have hend : Level (e, next) := by
        refine Keeps.foldlM (P := Level) (fun p hp => ?_) (c, []) (e, next) ⟨rfl, by simp⟩ hlevel
        rintro ⟨a, found⟩ ⟨a', found'⟩ ⟨hregistry, hfound⟩ hstep
        obtain ⟨⟨b, more⟩, hvisit, hstep⟩ := bind_eq_ok_iff.mp hstep
        cases hstep
        obtain ⟨outer, contents, draft⟩ := p
        obtain ⟨hcontents, rfl⟩ := hpending _ hp
        obtain ⟨hnameless, hinside⟩ := hP _ hcontents
        obtain ⟨base, -, henter, hmore⟩ := visit_eq_ok_imp hvisit
        rw [enter_eq_self hnameless] at henter
        refine ⟨henter.trans hregistry, List.forall_mem_append.mpr ⟨hfound, fun q hq => ?_⟩⟩
        obtain ⟨t, ht, inner, hinner, rfl⟩ := hmore q hq
        have hsub := hinside t ht
        cases hinner.symm.trans (Draft.detect_eq_ok (hP t hsub).1.draft)
        exact ⟨hsub, rfl⟩
      exact (ih hend.2 h).trans hend.1

/-- A document without names is put in, and nothing else. -/
theorem Registry.collect_registry {base : Uri} {contents : Json} (hcontents : P contents)
    {r : Registry} {c : Collection} (h : r.collect base ⟨contents, d⟩ = .ok c) :
    c.registry = r.insert base ⟨contents, d⟩ :=
  Collection.visitAll_registry hP _ (List.forall_mem_singleton.mpr ⟨hcontents, rfl⟩) h

/-- A document without names inside it is put in under its base and under its own name. -/
theorem Registry.mem_resources_add {base : Uri} {contents : Json}
    (hsubs : ∀ t ∈ d.subschemas contents, P t) {r : Registry} {e : String × Resource}
    (h : e ∈ (r.add base ⟨contents, d⟩).resources) :
    e ∈ r.resources ∨ e.1 = base.toString ∨
      ∃ named, baseWithin base d contents.members = .ok named ∧ e.1 = named.toString := by
  unfold add at h
  split at h
  · rename_i c hcollect
    unfold collect at hcollect
    rw [Collection.visitAll, List.isEmpty_cons, if_neg Bool.false_ne_true] at hcollect
    obtain ⟨⟨entered, next⟩, hlevel, hcollect⟩ := bind_eq_ok_iff.mp hcollect
    rw [List.foldlM_cons] at hlevel
    obtain ⟨level, hstep, hlevel⟩ := bind_eq_ok_iff.mp hlevel
    cases hlevel
    obtain ⟨⟨visited, more⟩, hvisit, hstep⟩ := bind_eq_ok_iff.mp hstep
    cases hstep
    obtain ⟨named, hnamed, henter, hmore⟩ := Collection.visit_eq_ok_imp hvisit
    have hnext : ∀ q ∈ [] ++ more, P q.resource.contents ∧ q.resource.draft = d := by
      intro q hq
      obtain ⟨t, ht, inner, hinner, rfl⟩ := hmore q hq
      have hsub := hsubs t ht
      cases hinner.symm.trans (Draft.detect_eq_ok (hP t hsub).1.draft)
      exact ⟨hsub, rfl⟩
    rw [Collection.visitAll_registry hP _ hnext hcollect, henter] at h
    rcases Collection.mem_resources_enter h with h | h
    · rcases List.mem_cons.mp h with rfl | h
      · exact .inr (.inl rfl)
      · exact .inl h
    · exact .inr (.inr ⟨named, baseWithin_of_collectBase hnamed, h⟩)
  · exact .inl h

end

/-! ## Pages -/

/-- The text of a page on the web begins with that of its scheme. -/
lemma head?_toString_of_scheme {u : Uri} (h : u.scheme ∈ [some "http", some "https"]) :
    u.toString.toList.head? = some 'h' := by
  simp only [List.mem_cons, List.not_mem_nil, or_false] at h
  unfold Uri.toString
  rcases h with h | h <;> simp [h]

/-- The text of a document without an identifier does not begin like that of a page. -/
lemma head?_unnamed_append (text : String) :
    (Uri.unnamed.toString ++ text).toList.head? = some 'j' := by
  have hunnamed : Uri.unnamed.toString.toList.head? = some 'j' := by decide
  rw [String.toList_append, List.head?_append, hunnamed]
  rfl

/-! ## The names of the meta-schemas -/

namespace MetaSchema

/-- An identifier is that of a page on the site of the meta-schemas, and its text is settled. -/
def IsPage (u : Uri) : Prop :=
  u.scheme ∈ [some "http", some "https"] ∧ u.authority = some "json-schema.org" ∧
    u.query = none ∧ u.fragment = none ∧
      Uri.IsSettled (u.scheme.getD "").toList ((u.authority.getD "").toList ++ u.path.toList)

instance (u : Uri) : Decidable (IsPage u) := inferInstanceAs (Decidable (_ ∧ _))

/-- The text of a page goes on behind the site. -/
lemma IsPage.exists_eq {u : Uri} (h : IsPage u) :
    ∃ scheme ∈ ["http", "https"], ∃ rest,
      Uri.IsSettled scheme.toList ("json-schema.org".toList ++ rest) ∧
        u.toString.toList =
          scheme.toList ++ ':' :: '/' :: '/' :: ("json-schema.org".toList ++ rest) := by
  obtain ⟨hscheme, hauthority, hquery, hfragment, hsettled⟩ := h
  have hschemes : u.scheme ∈ ["http", "https"].map some := hscheme
  obtain ⟨scheme, hmem, heq⟩ := List.mem_map.mp hschemes
  rw [← heq, hauthority] at hsettled
  refine ⟨scheme, hmem, u.path.toList, hsettled, ?_⟩
  unfold Uri.toString
  rw [← heq, hauthority, hquery, hfragment]
  simp

lemma IsPage.hasSettledText {u : Uri} (h : IsPage u) : Uri.HasSettledText u.toString := by
  obtain ⟨scheme, -, rest, hsettled, htext⟩ := h.exists_eq
  exact ⟨_, _, hsettled, htext⟩

/-- A plain page on the site is one of these pages. -/
lemma isPage_of_isPlainPage {scheme path : String} (hscheme : scheme ∈ ["http", "https"])
    (h : Uri.IsPlainPage scheme "json-schema.org" path) :
    IsPage (Uri.page scheme "json-schema.org" path) :=
  ⟨List.mem_map_of_mem hscheme, rfl, rfl, rfl, h.isSettled⟩

/-- No schema inside a document of an earlier draft has a name. -/
lemma isAnonymous_earlier : ∀ p ∈ earlierDocuments, ∀ t ∈ p.2.1.subschemas p.2.2,
    t.everywhere isAnonymous = true := by
  decide

/-- No schema inside a document has a name. -/
lemma isAnonymous_subschemas : ∀ p ∈ documents, ∀ t ∈ p.1.subschemas p.2,
    t.everywhere isAnonymous = true := by
  intro p hp
  rw [documents_eq] at hp
  rcases List.mem_append.mp hp with hp | hp
  · obtain ⟨q, hq, rfl⟩ := List.mem_map.mp hp
    exact isAnonymous_earlier q hq
  · obtain ⟨q, hq, rfl⟩ := List.mem_map.mp hp
    exact (names_latestDocuments q hq).2.2

/-- The documents of earlier drafts stand at plain pages. -/
lemma isPlainPage_earlier : ∀ p ∈ earlierDocuments, p.1.1 ∈ ["http", "https"] ∧
    Uri.IsPlainPage p.1.1 "json-schema.org" p.1.2 := by
  have hpaths : ∀ p ∈ earlierDocuments, p.1.1 ∈ ["http", "https"] ∧
      p.1.2.toList.head? = some '/' ∧
        p.1.2.toList.all (fun c => Uri.isSlugChar c || c = '/') = true := by
    decide
  intro p hp
  obtain ⟨hscheme, hslash, hsegments⟩ := hpaths p hp
  exact ⟨hscheme, isPlainPage_of_path hscheme hslash hsegments⟩

/-- The documents of earlier drafts name themselves by their pages. -/
lemma identifiers_earlier : ∀ p ∈ earlierDocuments,
    Json.Members.has p.2.2.members "$ref" = false ∧
      ∃ text ∈ textOf? p.2.2.members p.2.1.idKeyword,
        text = (Uri.page p.1.1 "json-schema.org" p.1.2).toString ∨
          text = (Uri.page p.1.1 "json-schema.org" p.1.2).toString ++ "#" := by
  decide

/-- From wherever the identifier of a document is read, it leads to one page. -/
lemma exists_isPage_of_mem_documents {p : Draft × Json} (hp : p ∈ documents) :
    ∃ u, IsPage u ∧ ∀ {base : Uri}, base.fragment = none →
      baseWithin base p.1 p.2.members = .ok u := by
  rw [documents_eq] at hp
  rcases List.mem_append.mp hp with hp | hp
  · obtain ⟨q, hq, rfl⟩ := List.mem_map.mp hp
    obtain ⟨hscheme, hplain⟩ := isPlainPage_earlier q hq
    obtain ⟨hreference, text, htext, hpage⟩ := identifiers_earlier q hq
    refine ⟨_, isPage_of_isPlainPage hscheme hplain, fun hbase => ?_⟩
    unfold baseWithin
    rw [Draft.identifierOf?_of_isPlainPage hplain hreference htext hpage]
    exact resolveText_of_isPlainPage hplain hbase
  · obtain ⟨q, hq, rfl⟩ := List.mem_map.mp hp
    exact ⟨_, isPage_of_isPlainPage (by decide) (isPlainPage_place hq), baseWithin_latest hq⟩

/-- The base of a document is a page, and its identifier leads there from everywhere. -/
lemma baseWithin_of_mem_documents {p : Draft × Json} (hp : p ∈ documents) :
    IsPage (baseOf p.1 p.2) ∧ ∀ {base : Uri}, base.fragment = none →
      baseWithin base p.1 p.2.members = .ok (baseOf p.1 p.2) := by
  obtain ⟨u, hpage, hbase⟩ := exists_isPage_of_mem_documents hp
  have hbaseOf : baseOf p.1 p.2 = u := by
    unfold baseOf
    rw [hbase rfl]
  rw [hbaseOf]
  exact ⟨hpage, hbase⟩

/-- Documents are put in at pages. -/
lemma exists_isPage_of_mem_foldl {list : List (Draft × Json)} (hlist : ∀ p ∈ list, p ∈ documents)
    {r : Registry} {e : String × Resource}
    (h : e ∈ (list.foldl (fun r (d, v) => r.add (baseOf d v) ⟨v, d⟩) r).resources) :
    e ∈ r.resources ∨ ∃ u, IsPage u ∧ e.1 = u.toString := by
  induction list generalizing r with
  | nil => exact .inl h
  | cons p rest ih =>
    obtain ⟨hp, hrest⟩ := List.forall_mem_cons.mp hlist
    obtain ⟨hpage, hbase⟩ := baseWithin_of_mem_documents hp
    refine (ih hrest h).elim (fun h => ?_) .inr
    have hinside : ∀ contents : Json, contents.everywhere isAnonymous = true →
        IsNameless p.1 contents ∧
          ∀ t ∈ p.1.subschemas contents, t.everywhere isAnonymous = true := fun contents h =>
      ⟨isNameless_of_isAnonymous (Json.test_of_everywhere h), fun t ht =>
        everywhere_of_mem_subschemas h ht⟩
    rcases Registry.mem_resources_add hinside (isAnonymous_subschemas p hp) h with
      h | h | ⟨named, hnamed, h⟩
    · exact .inl h
    · exact .inr ⟨_, hpage, h⟩
    · cases hnamed.symm.trans (hbase hpage.2.2.2.1)
      exact .inr ⟨_, hpage, h⟩

/-- All names in the registry are pages. -/
theorem exists_isPage {e : String × Resource} (h : e ∈ registry.resources) :
    ∃ u, IsPage u ∧ e.1 = u.toString :=
  (exists_isPage_of_mem_foldl (fun _ hp => hp) h).resolve_left fun hnone => by cases hnone

end MetaSchema

/-! ## Plain documents -/

/-- The schemas inside a plain document have no names. -/
lemma IsPlain.isNameless {document : Json} (h : IsPlain document) :
    IsNameless .latest document where
  draft := h.textOf?_eq_none (by decide) (by decide)
  identifier := Draft.identifierOf?_eq_none (h.textOf?_eq_none (by decide) (by decide))
  anchors := by
    unfold Draft.anchors
    dsimp only [Draft.latest]
    rw [h.textOf?_eq_none (by decide) (by decide), h.textOf?_eq_none (by decide) (by decide)]
    rfl

/-- The schemas that are collected from a schema stand inside it. -/
lemma isInside_of_mem_subschemas {contents t : Json} (h : t ∈ Draft.latest.subschemas contents) :
    IsInside t contents := by
  obtain ⟨m, hm, ht⟩ := List.mem_flatMap.mp h
  exact ⟨m, hm, .inr ht⟩

/-- What is collected from a plain document is the document. -/
theorem collect_of_isPlain {document : Json} (h : IsPlain document) {c : Collection}
    (hcollect : MetaSchema.registry.collect Uri.unnamed ⟨document, .latest⟩ = .ok c) :
    c.registry = MetaSchema.registry.insert Uri.unnamed ⟨document, .latest⟩ :=
  Registry.collect_registry
    (fun _ hcontents => ⟨hcontents.isNameless, fun _ ht =>
      hcontents.of_isInside (isInside_of_mem_subschemas ht)⟩) h hcollect

end ConfigCheck.Schema
