import ConfigCheck.Proofs.Outcome
import ConfigCheck.Proofs.Schema.Structure
import ConfigCheck.Schema.Defect

/-!
# Searches that end with a defect

The search for defects is a walk through the keywords of a schema and through the schemas inside
them (`searchKeywords_eq_foldlM`, `searchKeyword_eq_foldlM`).  So what the visits of all references
keep of the references that have been followed, the whole search keeps (`isKept_of_occurs`), and
a search is refused if it is refused at one of the keywords (`refused_of_mem`), wherever that
keyword stands and whatever stands beside it.
-/

namespace ConfigCheck.Schema

section

variable (visit : Reference → Followed → Except Defect Followed)

/-! ## Searches as walks -/

lemma searchAll_eq_foldlM (list : List Schema) (seen : Followed) :
    searchAll visit list seen = list.foldlM (fun seen s => searchSchema visit s seen) seen := by
  conv_rhs => rw [← List.map_id list]
  refine eq_foldlM_of_cons id (fun seen => ?_) (fun s rest seen => ?_) list seen
  · rw [searchAll]
  · rw [searchAll, id_eq]
    cases searchSchema visit s seen <;> rfl

lemma searchNamed_eq_foldlM (list : List (String × Schema)) (seen : Followed) :
    searchNamed visit list seen =
      (list.map (·.2)).foldlM (fun seen s => searchSchema visit s seen) seen := by
  refine eq_foldlM_of_cons (·.2) (fun seen => ?_) (fun m rest seen => ?_) list seen
  · rw [searchNamed]
  · rw [searchNamed]
    cases searchSchema visit m.2 seen <;> rfl

lemma searchPatterns_eq_foldlM (list : List (Regex.Pattern × Schema)) (seen : Followed) :
    searchPatterns visit list seen =
      (list.map (·.2)).foldlM (fun seen s => searchSchema visit s seen) seen := by
  refine eq_foldlM_of_cons (·.2) (fun seen => ?_) (fun m rest seen => ?_) list seen
  · rw [searchPatterns]
  · rw [searchPatterns]
    cases searchSchema visit m.2 seen <;> rfl

theorem searchKeywords_eq_foldlM (list : List Keyword) (seen : Followed) :
    searchKeywords visit list seen =
      list.foldlM (fun seen k => searchKeyword visit k seen) seen := by
  conv_rhs => rw [← List.map_id list]
  refine eq_foldlM_of_cons id (fun seen => ?_) (fun k rest seen => ?_) list seen
  · rw [searchKeywords]
  · rw [searchKeywords, id_eq]
    cases searchKeyword visit k seen <;> rfl

lemma searchConditions_eq_foldlM (list : List Keyword) (seen : Followed) :
    searchConditions visit list seen =
      list.foldlM (fun seen k => searchCondition visit k seen) seen := by
  conv_rhs => rw [← List.map_id list]
  refine eq_foldlM_of_cons id (fun seen => ?_) (fun k rest seen => ?_) list seen
  · rw [searchConditions]
  · rw [searchConditions, id_eq]
    cases searchCondition visit k seen <;> rfl

lemma searchBranches_eq_foldlM (list : List Schema) (seen : Followed) :
    searchBranches visit list seen =
      list.foldlM (fun seen s => searchWithin visit s seen) seen := by
  conv_rhs => rw [← List.map_id list]
  refine eq_foldlM_of_cons id (fun seen => ?_) (fun s rest seen => ?_) list seen
  · rw [searchBranches]
  · rw [searchBranches, id_eq]
    cases searchWithin visit s seen <;> rfl

/-- The schemas inside a keyword that are searched, in their order.  A condition without branches is
not searched. -/
def Keyword.searched : Keyword → List Schema
  | .condition _ => []
  | .members list patterns others =>
    patterns.map (·.2) ++
      if patterns.isEmpty then list.map (·.2) ++ [others] else others :: list.map (·.2)
  | .closedMembers list patterns => patterns.map (·.2) ++ list.map (·.2)
  | k => k.subschemas

/-- Only schemas inside a keyword are searched. -/
lemma Keyword.mem_subschemas_of_mem_searched {k : Keyword} {s : Schema} (h : s ∈ k.searched) :
    s ∈ k.subschemas := by
  cases k with
  | condition t => cases h
  | members list patterns others =>
    change s ∈ patterns.map (·.2) ++ ite _ _ _ at h
    change s ∈ list.map (·.2) ++ patterns.map (·.2) ++ [others]
    split at h <;> simp only [List.mem_append, List.mem_cons, List.not_mem_nil, or_false] at h ⊢ <;>
      tauto
  | closedMembers list patterns => exact List.mem_append.mpr (List.mem_append.mp h).symm
  | _ => exact h

/-- A keyword that is neither unusable nor a reference is searched by searching the schemas
inside it. -/
theorem searchKeyword_eq_foldlM {k : Keyword} (hunusable : ∀ c, k ≠ .unusable c)
    (hreference : ∀ keyword r, k ≠ .reference keyword r) (seen : Followed) :
    searchKeyword visit k seen =
      k.searched.foldlM (fun seen s => searchSchema visit s seen) seen := by
  cases k with
  | unusable c => exact absurd rfl (hunusable c)
  | reference keyword r => exact absurd rfl (hreference keyword r)
  | assertion | condition | noMembers | noPropertyNames =>
    rw [searchKeyword]
    rfl
  | allOf branches | anyOf branches | oneOf branches | itemList _ branches =>
    rw [searchKeyword, searchAll_eq_foldlM]
    rfl
  | properties list =>
    rw [searchKeyword, searchNamed_eq_foldlM]
    rfl
  | patternProperties list =>
    rw [searchKeyword, searchPatterns_eq_foldlM]
    rfl
  | conditional c t e =>
    rw [searchKeyword]
    change _ = [c, t, e].foldlM _ seen
    simp only [List.foldlM_cons, List.foldlM_nil, bind_pure]
    cases searchSchema visit c seen with
    | error d => rfl
    | ok next =>
      change _ = searchSchema visit t next >>= fun seen => searchSchema visit e seen
      dsimp only
      cases searchSchema visit t next <;> rfl
  | members list patterns others =>
    rw [searchKeyword, Keyword.searched, List.foldlM_append, searchPatterns_eq_foldlM]
    cases (patterns.map (·.2)).foldlM (fun seen s => searchSchema visit s seen) seen with
    | error d => rfl
    | ok next =>
      change _ = List.foldlM _ next _
      dsimp only
      split
      · rw [List.foldlM_append, searchNamed_eq_foldlM]
        simp only [List.foldlM_cons, List.foldlM_nil, bind_pure]
        cases (list.map (·.2)).foldlM (fun seen s => searchSchema visit s seen) next <;> rfl
      · rw [List.foldlM_cons]
        cases searchSchema visit others next with
        | error d => rfl
        | ok last => exact searchNamed_eq_foldlM visit list last
  | closedMembers list patterns =>
    rw [searchKeyword, Keyword.searched, List.foldlM_append, searchPatterns_eq_foldlM]
    cases (patterns.map (·.2)).foldlM (fun seen s => searchSchema visit s seen) seen with
    | error d => rfl
    | ok next => exact searchNamed_eq_foldlM visit list next
  | not _ s | propertyNames s | dependent _ _ s | items _ _ s | contains _ _ s
  | unevaluatedProperties s | unevaluatedItems s =>
    rw [searchKeyword]
    change _ = [s].foldlM _ seen
    simp only [List.foldlM_cons, List.foldlM_nil, bind_pure]

/-- The keywords are searched first, and then the conditions without branches if they count. -/
lemma searchSchema_keywords (list : List Keyword) (seen : Followed) :
    searchSchema visit (.keywords list) seen = searchKeywords visit list seen >>= fun seen =>
      if hasRest list then searchConditions visit list seen else .ok seen := by
  rw [searchSchema]
  cases searchKeywords visit list seen <;> rfl

lemma searchLone_keywords (list : List Keyword) (seen : Followed) :
    searchLone visit (.keywords list) seen =
      searchKeywords visit list seen >>= fun seen => searchConditions visit list seen := by
  rw [searchLone]
  cases searchKeywords visit list seen <;> rfl

end

variable {visit : Reference → Followed → Except Defect Followed} {I : Followed → Prop}

/-! ## What a search keeps -/

/-- All ways in which a schema is searched keep a property of what has been followed. -/
structure IsKept (visit : Reference → Followed → Except Defect Followed) (I : Followed → Prop)
    (s : Schema) : Prop where
  /-- The search for defects keeps it. -/
  schema : Keeps I (searchSchema visit s)
  /-- The search for conditions without branches keeps it. -/
  within : Keeps I (searchWithin visit s)
  /-- The search of a condition without branches keeps it. -/
  lone : Keeps I (searchLone visit s)

/-- Where nothing is searched, everything is kept. -/
lemma keeps_ok : Keeps I (fun seen => (.ok seen : Except Defect Followed)) := by
  intro seen seen' hseen h
  cases h
  exact hseen

/-- What the searches of the schemas inside a keyword keep, the search of the keyword keeps, if it
is no reference or the visit keeps it too. -/
lemma keeps_searchKeyword {k : Keyword} (hsub : ∀ s ∈ k.subschemas, IsKept visit I s)
    (hvisit : ∀ keyword r, k = .reference keyword r → Keeps I (visit r)) :
    Keeps I (searchKeyword visit k) := by
  by_cases hunusable : ∃ c, k = .unusable c
  · obtain ⟨c, rfl⟩ := hunusable
    intro seen seen' _ h
    rw [searchKeyword] at h
    cases h
  by_cases hreference : ∃ keyword r, k = .reference keyword r
  · obtain ⟨keyword, r, rfl⟩ := hreference
    intro seen seen' hseen h
    rw [searchKeyword] at h
    exact hvisit keyword r rfl seen seen' hseen h
  have hwalk : searchKeyword visit k =
      fun seen => k.searched.foldlM (fun seen s => searchSchema visit s seen) seen :=
    funext fun seen => searchKeyword_eq_foldlM visit (fun c hc => hunusable ⟨c, hc⟩)
      (fun keyword r hr => hreference ⟨keyword, r, hr⟩) seen
  rw [hwalk]
  exact Keeps.foldlM fun s hs => (hsub s (Keyword.mem_subschemas_of_mem_searched hs)).schema

/-- What the searches of the schemas inside a keyword keep, the search for conditions in it
keeps. -/
lemma keeps_searchCondition {k : Keyword} (hsub : ∀ s ∈ k.subschemas, IsKept visit I s) :
    Keeps I (searchCondition visit k) := by
  have hbranches : ∀ {branches : List Schema}, (∀ s ∈ branches, IsKept visit I s) →
      Keeps I (searchBranches visit branches) := by
    intro branches h
    rw [funext (searchBranches_eq_foldlM visit branches)]
    exact Keeps.foldlM fun s hs => (h s hs).within
  cases k with
  | condition s =>
    intro seen seen' hseen h
    rw [searchCondition] at h
    exact (hsub s (List.mem_singleton_self s)).lone seen seen' hseen h
  | conditional c t e =>
    have hwalk := hbranches hsub
    intro seen seen' hseen h
    refine hwalk seen seen' hseen ?_
    rw [← h, searchCondition]
    change searchBranches visit [c, t, e] seen = _
    simp only [searchBranches]
    cases searchWithin visit c seen with
    | error d => rfl
    | ok next =>
      dsimp only
      cases searchWithin visit t next with
      | error d => rfl
      | ok last =>
        dsimp only
        cases searchWithin visit e last <;> rfl
  | allOf branches | anyOf branches | oneOf branches =>
    intro seen seen' hseen h
    rw [searchCondition] at h
    exact hbranches hsub seen seen' hseen h
  | dependent _ _ s =>
    intro seen seen' hseen h
    rw [searchCondition] at h
    exact (hsub s (List.mem_singleton_self s)).within seen seen' hseen h
  | _ =>
    intro seen seen' hseen h
    rw [searchCondition] at h
    all_goals first | exact keeps_ok seen seen' hseen h | simp

/-- What the visits of all references in a schema keep, its search keeps. -/
theorem isKept_of_occurs {s : Schema}
    (hvisit : ∀ keyword r, Occurs (.reference keyword r) s → Keeps I (visit r)) :
    IsKept visit I s := by
  induction s using Schema.tree_induction with
  | always verdict =>
    refine ⟨?_, ?_, ?_⟩ <;> intro seen seen' hseen h
    · rw [searchSchema] at h
      exact keeps_ok seen seen' hseen h
    · rw [searchWithin] at h
      · exact keeps_ok seen seen' hseen h
      · simp
    · rw [searchLone] at h
      · exact keeps_ok seen seen' hseen h
      · simp
  | unusable value =>
    refine ⟨?_, ?_, ?_⟩ <;> intro seen seen' hseen h
    · rw [searchSchema] at h
      cases h
    · rw [searchWithin] at h
      · exact keeps_ok seen seen' hseen h
      · simp
    · rw [searchLone] at h
      · exact keeps_ok seen seen' hseen h
      · simp
  | keywords list ih =>
    have hsub : ∀ k ∈ list, ∀ t ∈ k.subschemas, IsKept visit I t := fun k hk t ht =>
      ih k hk t ht fun keyword r hr => hvisit keyword r (.inside hk ht hr)
    have hkeywords : Keeps I (searchKeywords visit list) := by
      rw [funext (searchKeywords_eq_foldlM visit list)]
      exact Keeps.foldlM fun k hk => keeps_searchKeyword (hsub k hk) fun keyword r hr =>
        hvisit keyword r (.here (hr ▸ hk))
    have hconditions : Keeps I (searchConditions visit list) := by
      rw [funext (searchConditions_eq_foldlM visit list)]
      exact Keeps.foldlM fun k hk => keeps_searchCondition (hsub k hk)
    refine ⟨?_, ?_, ?_⟩
    · rw [funext (searchSchema_keywords visit list)]
      refine hkeywords.bind ?_
      split
      · exact hconditions
      · exact keeps_ok
    · intro seen seen' hseen h
      rw [searchWithin] at h
      exact hconditions seen seen' hseen h
    · rw [funext (searchLone_keywords visit list)]
      exact hkeywords.bind hconditions

/-! ## What a search refuses -/

/-- A keyword is unusable, or a schema inside it is searched. -/
def Keyword.Looks (k : Keyword) (s : Schema) : Prop := (∃ c, k = .unusable c) ∨ s ∈ k.searched

/-- The search of an unusable keyword is refused. -/
lemma refused_unusable (c : Complaint) : Refused I (searchKeyword visit (.unusable c)) := by
  intro seen seen' _ h
  rw [searchKeyword] at h
  cases h

/-- A keyword is refused if it looks at a schema whose search is. -/
lemma refused_of_looks {k : Keyword} (hsub : ∀ s ∈ k.subschemas, IsKept visit I s) {s : Schema}
    (hlooks : k.Looks s) (hrefused : Refused I (searchSchema visit s)) :
    Refused I (searchKeyword visit k) := by
  rcases hlooks with ⟨c, rfl⟩ | hs
  · exact refused_unusable c
  have hwalk : searchKeyword visit k =
      fun seen => k.searched.foldlM (fun seen s => searchSchema visit s seen) seen := by
    refine funext fun seen => searchKeyword_eq_foldlM visit ?_ ?_ seen
    · rintro c rfl
      cases hs
    · rintro keyword r rfl
      cases hs
  have hkeeps : ∀ s ∈ k.searched, Keeps I (searchSchema visit s) := fun s hs =>
    (hsub s (Keyword.mem_subschemas_of_mem_searched hs)).schema
  rw [hwalk]
  exact Refused.foldlM hkeeps hs hrefused

section

variable {list : List Keyword}
  (hvisit : ∀ keyword r, Occurs (.reference keyword r) (.keywords list) → Keeps I (visit r))

include hvisit

/-- Whatever stands beside it, a keyword that is refused makes the schema refused. -/
theorem refused_of_mem {k : Keyword} (hk : k ∈ list)
    (hrefused : Refused I (searchKeyword visit k)) :
    Refused I (searchSchema visit (.keywords list)) := by
  have hkeeps : ∀ k ∈ list, Keeps I (searchKeyword visit k) := fun k hk =>
    keeps_searchKeyword
      (fun s hs => isKept_of_occurs fun keyword r hr => hvisit keyword r (.inside hk hs hr))
      fun keyword r hr => hvisit keyword r (.here (hr ▸ hk))
  have hkeywords : Refused I (searchKeywords visit list) := by
    rw [funext (searchKeywords_eq_foldlM visit list)]
    exact Refused.foldlM hkeeps hk hrefused
  rw [funext (searchSchema_keywords visit list)]
  exact hkeywords.bind _

/-- A schema is refused if one of its keywords looks at a schema whose search is. -/
theorem refused_of_mem_looks {k : Keyword} (hk : k ∈ list) {s : Schema} (hlooks : k.Looks s)
    (hrefused : Refused I (searchSchema visit s)) :
    Refused I (searchSchema visit (.keywords list)) :=
  refused_of_mem hvisit hk <| refused_of_looks
    (fun _ ht => isKept_of_occurs fun keyword r hr => hvisit keyword r (.inside hk ht hr))
    hlooks hrefused

end

end ConfigCheck.Schema
