import ConfigCheck.Proofs.Schema.Compile
import ConfigCheck.Proofs.Schema.Remote

/-!
# Faults that make a schema unusable

A schema with an invalid pattern, or with a reference to another site, is refused wherever it is
searched (`refused_of_hasBadPattern`, `refused_of_reference`).  So a document in which such a schema
stands at any depth, below whatever keywords and beside whatever other references, is not taken for
a schema (`HidesFault.ofJson_eq_error`).
-/

namespace ConfigCheck.Schema

/-- A schema has a pattern that is none. -/
def HasBadPattern (s : Json) : Prop :=
  ∃ text, textOf? s.members "pattern" = some text ∧ Regex.Pattern.ofString? text = none

/-- A schema refers to another site. -/
def RefersAway (s : Json) : Prop :=
  ∃ text, textOf? s.members "$ref" = some text ∧ IsRemote text

/-- A document in which no schema names anything, and in which at some depth a schema has a pattern
that is none or refers to another site. -/
structure HidesFault (document : Json) : Prop where
  /-- No keyword in it begins with a dollar sign, but for references. -/
  plain : IsPlain document
  /-- A schema is at fault. -/
  fault : ∃ s, Relation.ReflTransGen IsNested s document ∧ (HasBadPattern s ∨ RefersAway s)

/-- A member that is a text is in its object. -/
lemma exists_object_of_textOf? {s : Json} {name text : String}
    (h : textOf? s.members name = some text) :
    ∃ members, s = .object members ∧ (name, .string text) ∈ members := by
  obtain ⟨v, hget, htext⟩ := Option.bind_eq_some_iff.mp h
  cases v with
  | string t =>
    cases htext
    cases s with
    | object members => exact ⟨members, rfl, Json.Members.mem_of_get? hget⟩
    | _ => cases hget
  | _ => cases htext

section

variable {visit : Reference → Followed → Except Defect Followed} {I : Followed → Prop}
  {members : Json.Members}

/-- A pattern that is none is read into a keyword that cannot be used. -/
lemma plainKeywords_pattern (scope : Scope) (members : Json.Members) {text : String}
    (htext : Regex.Pattern.ofString? text = none) :
    plainKeywords scope members "pattern" (.string text) =
      [.unusable (.format (.string text) "regex")] := by
  have hpattern : patternOf (.string text) text = .error (.format (.string text) "regex") := by
    unfold patternOf
    rw [htext]
  unfold plainKeywords
  dsimp only
  rw [hpattern]
  rfl

/-- A schema is refused whose pattern is none. -/
lemma refused_of_hasBadPattern {scope : Scope} (hscope : scope.IsLatest)
    (hplain : IsPlain (.object members)) (hvisit : VisitsKeep visit I scope (.object members))
    {text : String} (hmem : ("pattern", .string text) ∈ members)
    (htext : Regex.Pattern.ofString? text = none) :
    Refused I (searchSchema visit (ofJson scope (.object members))) := by
  have hkeywords : partKeywords scope members (partsOf scope members) "pattern"
      (partOf scope "pattern" (.string text)) = [.unusable (.format (.string text) "regex")] :=
    plainKeywords_pattern scope members htext
  exact refused_of_mem_partKeywords hscope hplain hvisit hmem
    (hkeywords ▸ List.mem_singleton_self _) (refused_unusable _)

/-- A schema is refused if the visit of its reference is. -/
lemma refused_of_reference {scope : Scope} (hscope : scope.IsLatest)
    (hplain : IsPlain (.object members)) (hvisit : VisitsKeep visit I scope (.object members))
    {text : String} (hmem : ("$ref", .string text) ∈ members)
    (hrefused : Refused I (visit ⟨.named text, scope⟩)) :
    Refused I (searchSchema visit (ofJson scope (.object members))) := by
  refine refused_of_mem_partKeywords hscope hplain hvisit hmem (List.mem_singleton_self _) ?_
  intro seen seen' hseen h
  rw [searchKeyword] at h
  exact hrefused seen seen' hseen h

end

/-- What is known of a plain document that is taken for a schema. -/
lemma IsPlain.search_eq_ok {document : Json} (h : IsPlain document) {v : Validator}
    (hread : Validator.ofJson document = .ok v) :
    ∃ (r : Registry) (n : ℕ) (seen : Followed), r.HasOnly document ∧
      searchSchema (visitReference r (n + 1)) (ofJson Scope.ofDocument document) [] = .ok seen := by
  obtain ⟨draft, base, collection, husable, -⟩ := Validator.ofJson_eq_ok_iff.mp hread
  have hdraft : draftOf document = .ok .latest := by
    unfold draftOf
    rw [Draft.detect_eq_ok h.isNameless.draft]
  cases hdraft.symm.trans husable.drafted
  have hbase : documentBase .latest document = .ok Uri.unnamed := by
    unfold documentBase
    rw [h.isNameless.identifier]
  cases hbase.symm.trans husable.based
  have hdefect := husable.withoutDefect
  unfold firstDefect? at hdefect
  split at hdefect
  · rename_i seen hseen
    exact ⟨collection.registry, _, seen, congrArg _ (collect_of_isPlain h husable.collected), hseen⟩
  · cases hdefect

/-- A document with a fault in it is not taken for a schema. -/
theorem HidesFault.ofJson_eq_error {document : Json} (h : HidesFault document) :
    ∃ cause, Validator.ofJson document = .error cause := by
  cases hread : Validator.ofJson document with
  | error cause => exact ⟨cause, rfl⟩
  | ok v =>
    exfalso
    obtain ⟨r, n, seen, hr, hsearch⟩ := h.plain.search_eq_ok hread
    obtain ⟨s, hburied, ⟨text, htext, hpattern⟩ | ⟨text, htext, hremote⟩⟩ := h.fault
    · obtain ⟨members, rfl, hmem⟩ := exists_object_of_textOf? htext
      have hvisit : VisitsKeep (visitReference r (n + 1)) (fun _ => True) Scope.ofDocument
          document := fun _ _ _ _ _ _ _ _ => trivial
      exact refused_of_buried Scope.isLatest_ofDocument hburied h.plain hvisit
        (fun hplain hkeeps =>
          refused_of_hasBadPattern Scope.isLatest_ofDocument hplain hkeeps hmem hpattern)
        [] seen trivial hsearch
    · obtain ⟨members, rfl, hmem⟩ := exists_object_of_textOf? htext
      obtain ⟨key, hkey, hnone⟩ := hremote.exists_key hr
      have hvisit : VisitsKeep (visitReference r (n + 1)) (key ∉ ·) Scope.ofDocument document :=
        fun _ _ _ _ => keeps_visitReference hr.isSettled hnone _ Uri.isNormal_unnamed
      exact refused_of_buried Scope.isLatest_ofDocument hburied h.plain hvisit
        (fun hplain hkeeps => refused_of_reference Scope.isLatest_ofDocument hplain hkeeps hmem
          (refused_visitReference hr.isSettled hnone n Uri.isNormal_unnamed hkey))
        [] seen List.not_mem_nil hsearch

end ConfigCheck.Schema
