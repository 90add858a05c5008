import ConfigCheck.Proofs.Schema.Admits
import ConfigCheck.Proofs.Schema.MetaSchema
import ConfigCheck.Proofs.Text.Utf8
import ConfigCheck.Schema.Validator

/-!
# References in the meta-schema

Where the references lead that stand in the documents of the latest draft: from the root to a
document of the draft (`MetaSchema.follow_document`), inside a document to one of its definitions
(`MetaSchema.follow_definition`), and from each document back to the root
(`MetaSchema.follow_meta`).  All scopes on the way are alike: only roots are left for a document
(`MetaSchema.scopeAt`).
-/

namespace ConfigCheck.Schema

/-! ## References within a bound -/

/-- What is found at the target of a reference when at most so many are followed one inside the
other. -/
def followWithin (registry : Registry) : ℕ → Reference → Json → Outcome
  | 0, _, _ => {}
  | n + 1, r, w =>
    match registry.follow r with
    | .ok target => outcomeWithin registry n (ofContents target.scope target.contents) w
    | .error _ => {}

lemma outcomeWithin_eq_evaluate (registry : Registry) (n : ℕ) (s : Schema) (v : Json) :
    outcomeWithin registry n s v = evaluate (followWithin registry n) s v := by
  cases n with
  | zero =>
    rw [outcomeWithin]
    rfl
  | succ n =>
    rw [outcomeWithin]
    rfl

/-- A reference admits a value if its target does within every smaller bound. -/
theorem Keyword.admits_reference_of_follow {registry : Registry} {n : ℕ} {keyword : String}
    {r : Reference} {target : Target} {marks : Outcome} {v : Json}
    (hfollow : registry.follow r = .ok target)
    (htarget : ∀ m < n, Schema.Admits (followWithin registry m)
      (ofContents target.scope target.contents) v) :
    (Keyword.reference keyword r).Admits (followWithin registry n) marks v := by
  rw [admits_reference]
  cases n with
  | zero => rfl
  | succ n =>
    rw [followWithin, hfollow]
    dsimp only
    rw [outcomeWithin_eq_evaluate]
    exact htarget n (Nat.lt_succ_self n)

/-! ## Following pointers -/

/-- A path leads on in the scope if the schema at its end does not name itself. -/
lemma enterAlong_eq_ok {scope : Scope} {d : Draft} {path : List Json.Segment} {contents : Json}
    (hbase : baseWithin scope.base (d.within contents.members) contents.members =
      .ok scope.base) : enterAlong scope d path contents = .ok (scope, path) := by
  unfold enterAlong
  split
  · rw [hbase]
    dsimp only
    rw [if_pos rfl]
  · rfl

/-- One step of a pointer into an object. -/
lemma walkParts_object {d : Draft} {pointer part : String} {rest : List String}
    {path : List Json.Segment} {scope : Scope} {members : Json.Members} {v : Json}
    (hget : (Json.object members).get? (Json.unescapeToken part) = some v)
    (hbase : baseWithin scope.base (d.within v.members) v.members = .ok scope.base) :
    walkParts d pointer (part :: rest) path scope (.object members) =
      walkParts d pointer rest (path ++ [.key (Json.unescapeToken part)]) scope v := by
  have hitems : ∀ items, Json.object members = Json.array items → False := by
    intro items heq
    cases heq
  rw [walkParts]
  · dsimp only
    rw [hget]
    simp only [bind, Except.bind]
    rw [enterAlong_eq_ok hbase]
  · exact hitems

/-! ## Looking up -/

/-! ## Pointers -/

/-- Without percent signs a text stands for its own bytes. -/
lemma percentDecode_eq {cs : List Char} (h : '%' ∉ cs) :
    percentDecode cs = Utf8.encode (String.ofList cs) := by
  rw [Utf8.encode_ofList]
  induction cs with
  | nil => rfl
  | cons c rest ih =>
    rw [List.mem_cons, not_or] at h
    have hc : Utf8.encode (String.singleton c) = String.utf8EncodeChar c := by
      rw [String.singleton_eq_ofList, Utf8.encode_ofList]
      exact List.append_nil _
    rw [percentDecode, hc, ih h.2, List.flatMap_cons]
    exact fun _ _ _ heq => absurd heq.symm h.1

/-- Without percent signs the parts of a pointer are those between its slashes. -/
lemma partsOfPointer_eq {pointer : String} {parts : List String} (h : '%' ∉ pointer.toList)
    (hparts : Json.pointerParts pointer = parts) : partsOfPointer pointer = .ok parts := by
  unfold partsOfPointer
  rw [percentDecode_eq h, String.ofList_toList, Utf8.decode?_encode]
  exact congrArg _ hparts

namespace Registry

variable {r : Registry} {scope : Scope} {text fragment : String} {resource : Resource}

lemma follow_named (r : Registry) (scope : Scope) (text : String) :
    r.follow ⟨.named text, scope⟩ = r.lookup scope text := rfl

/-- A reference without a fragment leads to a resource. -/
lemma lookup_document {uri : Uri} (hmark : '#' ∉ text.toList)
    (hresolve : resolveText scope.base text = .ok uri) (hfind : r.find? uri = some resource) :
    r.lookup scope text = .ok ⟨resource.contents,
      { scope.evolve uri with draft := resource.draft.within resource.contents.members }⟩ := by
  have hsplit : splitFragment text = (text, "") := by
    unfold splitFragment
    dsimp only
    rw [if_neg (by simpa using hmark)]
  unfold lookup
  split
  · rename_i rest htext
    exact absurd (htext ▸ List.mem_cons_self) hmark
  · simp only [bind, Except.bind, pure, Except.pure]
    rw [hsplit]
    dsimp only
    rw [hresolve]
    dsimp only
    rw [hfind]
    rfl

/-- Where one schema is all that is further out, a name that it has belongs to it. -/
lemma outermost_replicate {uri : Uri} {name : String} {a : Anchor}
    (hanchor : r.anchor uri name = .ok a) (hdynamic : a.dynamic = true) (k : ℕ)
    (start : Resource) :
    r.outermost name start (List.replicate (k + 1) uri) = .ok a.resource := by
  unfold outermost
  induction k generalizing start with
  | zero =>
    rw [List.replicate_succ, List.foldlM_cons, hanchor]
    dsimp only
    rw [if_pos hdynamic]
    rfl
  | succ k ih =>
    rw [List.replicate_succ, List.foldlM_cons, hanchor]
    dsimp only
    rw [if_pos hdynamic]
    exact ih a.resource

section

variable (htext : text.toList = '#' :: fragment.toList) (hfind : r.find? scope.base = some resource)

include htext hfind

/-- A local reference with a pointer leads to a place inside the resource. -/
lemma lookup_pointer {parts : List String} {inner : Scope} {contents : Json}
    (hfragment : fragment.toList.head? = some '/') (hparts : partsOfPointer fragment = .ok parts)
    (hwalk : walkParts resource.draft fragment parts [] (scope.evolve scope.base)
      resource.contents = .ok (inner, contents)) :
    r.lookup scope text = .ok ⟨contents,
      { inner with draft := resource.draft.within contents.members }⟩ := by
  unfold lookup
  rw [htext]
  simp only [bind, Except.bind, pure, Except.pure, String.ofList_toList]
  rw [hfind]
  dsimp only
  rw [if_pos hfragment, hparts]
  dsimp only
  rw [hwalk]

variable (hevolve : scope.evolve scope.base = scope)

include hevolve

/-- A local reference with a name that can be taken over leads to the outermost schema that has the
name. -/
lemma lookup_dynamic {a : Anchor} {found : Resource} {base : Uri}
    (hfragment : fragment.toList.head? ≠ some '/') (hname : fragment ≠ "")
    (hanchor : r.anchor scope.base fragment = .ok a) (hdynamic : a.dynamic = true)
    (hfound : r.outermost fragment a.resource scope.outer = .ok found)
    (hbase : baseWithin scope.base found.draft found.contents.members = .ok base) :
    r.lookup scope text = .ok ⟨found.contents, { scope with
      base, draft := found.draft.within found.contents.members }⟩ := by
  unfold lookup
  rw [htext]
  simp only [bind, Except.bind, pure, Except.pure, String.ofList_toList]
  rw [hfind]
  dsimp only
  rw [if_neg hfragment, if_pos (bne_iff_ne.mpr hname), hanchor]
  dsimp only
  rw [if_pos hdynamic, hevolve, hfound]
  dsimp only
  rw [hbase]

end

end Registry

namespace MetaSchema

/-- The scope of a document of the latest draft, with `k` roots left for it. -/
def scopeAt (name : String) (k : ℕ) : Scope where
  base := place name
  outer := List.replicate k (place "schema")
  draft := .latest
  root := .latest

/-- Inside a document the scope stays as it is. -/
lemma evolve_scopeAt (name : String) (k : ℕ) :
    (scopeAt name (k + 1)).evolve (place name) = scopeAt name (k + 1) := by
  unfold Scope.evolve
  rw [if_neg]
  simp [scopeAt]

/-- A reference from the root leaves the root. -/
lemma evolve_schema {name : String} (hname : place name ≠ place "schema") (k : ℕ) :
    (scopeAt "schema" k).evolve (place name) = scopeAt name (k + 1) := by
  unfold Scope.evolve
  rw [if_pos]
  · rfl
  · simpa [scopeAt] using .inr hname

/-- The names of documents are references from the root. -/
lemma resolveText_place {p : String × Json} (hp : p ∈ latestDocuments) :
    resolveText (place "schema") p.1 = .ok (place p.1) := by
  have hplain := isPlainReference_latest hp
  have hmark : p.1.toList.head? ≠ some '#' := fun hhead =>
    hplain.mark_not_mem (List.mem_of_mem_head? hhead)
  have hresolve : Uri.resolve (place "schema") { path := p.1 } = .ok (place p.1) :=
    hplain.resolve_eq (by decide) (by decide) (isPlainPage_place hp)
  have hnormal : (place p.1).normalize = place p.1 := (isPlainPage_place hp).normalize_eq
  unfold resolveText
  rw [if_neg (by simp [hmark]), hplain.read_eq]
  dsimp only
  rw [hresolve]
  dsimp only
  rw [hnormal]

/-- The documents beside the root are of the latest draft. -/
lemma within_latestDocuments : ∀ p ∈ latestDocuments.drop 1,
    Draft.latest.within p.2.members = .latest ∧ p.1 ≠ "schema" := by
  decide

/-- From the root references lead to the documents of the draft. -/
theorem follow_document {p : String × Json} (hp : p ∈ latestDocuments.drop 1) (k : ℕ) :
    registry.follow ⟨.named p.1, scopeAt "schema" k⟩ = .ok ⟨p.2, scopeAt p.1 (k + 1)⟩ := by
  have hlatest := List.mem_of_mem_drop hp
  obtain ⟨hwithin, hname⟩ := within_latestDocuments p hp
  have hne : place p.1 ≠ place "schema" := fun heq =>
    hname (eq_of_toString_place (congrArg Uri.toString heq))
  have hbase : resolveText (scopeAt "schema" k).base p.1 = .ok (place p.1) :=
    resolveText_place hlatest
  have hmark := (isPlainReference_latest hlatest).mark_not_mem
  have hlookup := Registry.lookup_document hmark hbase (hasDocument_registry hlatest).found
  rw [Registry.follow_named, hlookup, evolve_schema hne, hwithin]
  rfl

section

variable {p : String × Json} (hp : p ∈ latestDocuments) (k : ℕ)

include hp

/-- In the scope of a document the document is found. -/
lemma find?_scopeAt : registry.find? (scopeAt p.1 k).base = some ⟨p.2, .latest⟩ :=
  (hasDocument_registry hp).found

/-- Inside a document references lead to its definitions. -/
theorem follow_definition {text fragment : String} {parts : List String} {contents : Json}
    (htext : text.toList = '#' :: fragment.toList) (hfragment : fragment.toList.head? = some '/')
    (hparts : partsOfPointer fragment = .ok parts)
    (hwalk : walkParts .latest fragment parts [] (scopeAt p.1 (k + 1)) p.2 =
      .ok (scopeAt p.1 (k + 1), contents))
    (hwithin : Draft.latest.within contents.members = .latest) :
    registry.follow ⟨.named text, scopeAt p.1 (k + 1)⟩ =
      .ok ⟨contents, scopeAt p.1 (k + 1)⟩ := by
  have hevolved : walkParts .latest fragment parts []
      ((scopeAt p.1 (k + 1)).evolve (scopeAt p.1 (k + 1)).base) p.2 =
        .ok (scopeAt p.1 (k + 1), contents) := by
    rw [← hwalk]
    exact congrArg (walkParts .latest fragment parts [] · p.2) (evolve_scopeAt p.1 k)
  have hlookup := Registry.lookup_pointer htext (find?_scopeAt hp _) hfragment hparts hevolved
  rw [Registry.follow_named, hlookup, hwithin]
  rfl

/-- From each document a reference leads back to the root. -/
theorem follow_meta :
    registry.follow ⟨.named "#meta", scopeAt p.1 (k + 1)⟩ =
      .ok ⟨draft2020, scopeAt "schema" (k + 1)⟩ := by
  have hroot : ("schema", draft2020) ∈ latestDocuments := List.mem_cons_self
  have htext : "#meta".toList = '#' :: "meta".toList := by decide
  have hbase : baseWithin (scopeAt p.1 (k + 1)).base .latest draft2020.members =
      .ok (place "schema") := baseWithin_latest hroot rfl
  have hwithin : Draft.latest.within draft2020.members = .latest := by decide
  have hlookup := Registry.lookup_dynamic htext (find?_scopeAt hp _) (evolve_scopeAt p.1 k)
    (by decide) (by decide) (anchor_place hp) rfl
    (Registry.outermost_replicate (anchor_place hroot) rfl k _) hbase
  rw [Registry.follow_named, hlookup, hwithin]
  rfl

end

end MetaSchema

end ConfigCheck.Schema
