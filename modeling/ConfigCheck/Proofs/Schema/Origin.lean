import ConfigCheck.Proofs.Json.Place
import ConfigCheck.Proofs.Schema.Structure

/-!
# Where failures come from

What a keyword finds in a value it has against the value itself, or it hands it on: from a schema
inside it, which has looked at the value, at a member or an item of it or at the name of a member,
or from the target of a reference (`Keyword.Finds`).  This is said once for all keywords
(`Keyword.finds_of_mem`), with the tokens under which each failure is handed on; a property of
failures follows from it by one case for each kind.
-/

namespace ConfigCheck.Schema

/-- The complaints that a keyword with schemas inside it can have against a value itself. -/
inductive Complaint.IsOwn (v : Json) : String → Complaint → Prop where
  /-- No branch holds. -/
  | anyOf : IsOwn v "anyOf" (.anyOf v)
  /-- No branch holds, of which one should. -/
  | oneOfNone : IsOwn v "oneOf" (.oneOfNone v)
  /-- Too many branches hold. -/
  | oneOfMany : IsOwn v "oneOf" (.oneOfMany v)
  /-- A schema holds that should not. -/
  | not (source : Json) : IsOwn v "not" (.not v source)
  /-- No item is as it should be. -/
  | contains : IsOwn v "contains" (.contains v)
  /-- Too few items are as they should be. -/
  | minContains : IsOwn v "minContains" (.contains v)
  /-- Too many items are as they should be, or none. -/
  | maxContains : IsOwn v "maxContains" (.contains v)
  /-- There are members that nothing allows. -/
  | additionalProperties {names : List String} : names ⊆ v.members.map Prod.fst →
    IsOwn v "additionalProperties" (.additionalProperties names)
  /-- There is a member where there should be none. -/
  | firstMember (w : Json) : IsOwn v "additionalProperties" (.falseSchema w)
  /-- There is a name where there should be none. -/
  | propertyNames : IsOwn v "propertyNames" (.falseSchema v)
  /-- There are members that no schema has looked at. -/
  | unevaluatedProperties {names : List String} : names ⊆ v.members.map Prod.fst →
    IsOwn v "unevaluatedProperties" (.unevaluatedProperties names)
  /-- There are items that no schema has looked at. -/
  | unevaluatedItems (items : List Json) : IsOwn v "unevaluatedItems" (.unevaluatedItems items)

/-- What a keyword finds in a value, by where it comes from. -/
inductive Keyword.Finds (follow : Reference → Json → Outcome) :
    Keyword → Json → Failure → Prop where
  /-- A rule has something against the value. -/
  | rule {keyword : String} {a : Assertion} {v : Json} {f : Failure} :
    f ∈ a.failures keyword v → Finds follow (.assertion keyword a) v f
  /-- A keyword with schemas inside it has something against the value. -/
  | own {k : Keyword} {v : Json} {name : String} {c : Complaint} : name ∈ k.ownNames →
    c.IsOwn v name → Finds follow k v ⟨[], [name], c⟩
  /-- A schema inside the keyword finds something in the value. -/
  | branch {k : Keyword} {v : Json} {tokens : List String} {s : Schema} {f : Failure} :
    (tokens, s) ∈ k.places → f ∈ (evaluate follow s v).failures → Finds follow k v (f.below tokens)
  /-- A schema inside the keyword finds something in a member. -/
  | member {k : Keyword} {members : Json.Members} {name : String} {w : Json}
      {tokens : List String} {s : Schema} {f : Failure} : (name, w) ∈ members →
    (tokens, s) ∈ k.places → f ∈ (evaluate follow s w).failures →
      Finds follow k (.object members) ((f.below tokens).inside name)
  /-- A schema inside the keyword finds something in an item. -/
  | item {k : Keyword} {items : List Json} {i : ℕ} {w : Json} {tokens : List String} {s : Schema}
      {f : Failure} : items[i]? = some w → (tokens, s) ∈ k.places →
    f ∈ (evaluate follow s w).failures →
      Finds follow k (.array items) ((f.below tokens).inside (toString i))
  /-- A schema inside the keyword finds something in the name of a member. -/
  | name {members : Json.Members} {name : String} {w : Json} {s : Schema} {f : Failure} :
    (name, w) ∈ members → f ∈ (evaluate follow s (.string name)).failures →
      Finds follow (.propertyNames s) (.object members) f.ofName
  /-- The target of a reference finds something in the value. -/
  | reference {keyword : String} {r : Reference} {v : Json} {f : Failure} :
    f ∈ (follow r v).failures → Finds follow (.reference keyword r) v (f.below [keyword])

lemma mem_members {v w : Json} {name : String} (h : (name, w) ∈ Json.members v) :
    ∃ members, v = .object members ∧ (name, w) ∈ members := by
  cases v with
  | object members => exact ⟨members, rfl, h⟩
  | _ => cases h

namespace Keyword

variable {follow : Reference → Json → Outcome} {k : Keyword} {v w : Json} {f : Failure}
  {name : String}

/-- A demand of a keyword is about the value itself. -/
lemma finds_demand {holds : Bool} {c : Complaint} (hname : name ∈ k.ownNames)
    (hc : c.IsOwn v name) (hf : f ∈ (Outcome.demand holds name c).failures) :
    k.Finds follow v f := by
  rw [Outcome.failures_demand] at hf
  split at hf
  · cases hf
  · cases List.mem_singleton.mp hf
    exact .own hname hc

/-- What a schema inside a keyword finds in a member. -/
lemma finds_member {tokens : List String} {s : Schema} (hmem : (name, w) ∈ Json.members v)
    (hplace : (tokens, s) ∈ k.places)
    (hf : f ∈ (((evaluate follow s w).below tokens).inside name).failures) :
    k.Finds follow v f := by
  rw [Outcome.failures_inside, Outcome.failures_below, List.map_map] at hf
  obtain ⟨g, hg, rfl⟩ := List.mem_map.mp hf
  obtain ⟨members, rfl, hmember⟩ := mem_members hmem
  exact .member hmember hplace hg

/-- What a schema inside a keyword finds in an item. -/
lemma finds_item {i : ℕ} {tokens : List String} {s : Schema}
    (hmem : (i, w) ∈ Finding.itemsOf v) (hplace : (tokens, s) ∈ k.places)
    (hf : f ∈ (((evaluate follow s w).below tokens).inside (toString i)).failures) :
    k.Finds follow v f := by
  rw [Outcome.failures_inside, Outcome.failures_below, List.map_map] at hf
  obtain ⟨g, hg, rfl⟩ := List.mem_map.mp hf
  obtain ⟨items, rfl, hitem⟩ := Finding.mem_itemsOf hmem
  exact .item hitem hplace hg

/-- What a schema inside a keyword finds in the value itself. -/
lemma finds_branch {tokens : List String} {s : Schema} (hplace : (tokens, s) ∈ k.places)
    (hf : f ∈ ((evaluate follow s v).below tokens).failures) : k.Finds follow v f := by
  rw [Outcome.failures_below] at hf
  obtain ⟨g, hg, rfl⟩ := List.mem_map.mp hf
  exact .branch hplace hg

/-- A listed member is looked at by the schema at its place. -/
lemma place_of_mem_ofName {list : List (String × Schema)}
    {patterns : List (Regex.Pattern × Schema)} {o : Outcome}
    (ho : o ∈ ofName follow list name w) :
    ∃ tokens s, (tokens, s) ∈ (closedMembers list patterns).places ∧
      o = (evaluate follow s w).below tokens := by
  rw [ofName_eq_lookup] at ho
  obtain ⟨s, hs, rfl⟩ := Option.map_eq_some_iff.mp ho
  obtain ⟨before, after, hlist, -⟩ := List.lookup_eq_some_iff.mp hs
  have hmem : (name, s) ∈ list := by
    rw [hlist]
    exact List.mem_append_right _ List.mem_cons_self
  exact ⟨_, s, List.mem_append_left _ (List.mem_map_of_mem hmem), rfl⟩

/-- A member is looked at by the schemas at the places of the patterns that its name matches. -/
lemma place_of_mem_ofMatching {list : List (String × Schema)}
    {patterns : List (Regex.Pattern × Schema)} {o : Outcome}
    (ho : o ∈ ofMatching follow patterns name w) :
    ∃ tokens s, (tokens, s) ∈ (closedMembers list patterns).places ∧
      o = (evaluate follow s w).below tokens := by
  rw [ofMatching_eq_map] at ho
  obtain ⟨⟨p, s⟩, hs, rfl⟩ := List.mem_map.mp ho
  have hmem : (p, s) ∈ patterns := (List.mem_filter.mp hs).1
  exact ⟨_, s, List.mem_append_right _ (List.mem_map_of_mem hmem), rfl⟩

/-- What the schemas find that are listed or stand under a pattern, in the member that they look
at. -/
lemma finds_known {list : List (String × Schema)} {patterns : List (Regex.Pattern × Schema)}
    (hplaces : (closedMembers list patterns).places ⊆ k.places)
    (hmem : (name, w) ∈ Json.members v)
    (hf : f ∈ (Outcome.join (((ofName follow list name w).toList ++
      ofMatching follow patterns name w).map fun (o : Outcome) => o.inside name)).failures) :
    k.Finds follow v f := by
  rw [Outcome.failures_join] at hf
  obtain ⟨o, ho, hf⟩ := List.mem_flatMap.mp hf
  obtain ⟨known, hknown, rfl⟩ := List.mem_map.mp ho
  have hplace : ∃ tokens s, (tokens, s) ∈ (closedMembers list patterns).places ∧
      known = (evaluate follow s w).below tokens := by
    rcases List.mem_append.mp hknown with hlisted | hmatching
    · exact place_of_mem_ofName (Option.mem_toList.mp hlisted)
    · exact place_of_mem_ofMatching hmatching
  obtain ⟨tokens, s, hplace, rfl⟩ := hplace
  exact finds_member hmem (hplaces hplace) hf

/-- What one of several schemas finds that must all hold. -/
lemma finds_allOf {branches : List Schema}
    (hf : f ∈ (Outcome.allOf (branchesOf follow branches v)).failures) :
    (allOf branches).Finds follow v f := by
  change f ∈ List.flatMap _ _ at hf
  obtain ⟨⟨i, o⟩, ho, hf⟩ := List.mem_flatMap.mp hf
  obtain ⟨j, hj, hget⟩ := Outcome.getElem?_of_mem_numbered ho
  rw [Nat.zero_add] at hj
  subst hj
  rw [branchesOf_eq_map, List.map_map, List.getElem?_map] at hget
  obtain ⟨s, hs, rfl⟩ := Option.map_eq_some_iff.mp hget
  have hplace : (["allOf", toString i], s) ∈ (allOf branches).places :=
    List.mem_map.mpr ⟨(s, i), List.mem_zipIdx_iff_getElem?.mpr hs, rfl⟩
  exact finds_branch hplace hf

/-- What is wrong with a count of items is about the count, or about one of its bounds. -/
lemma finds_countWithin {low high : Option ℕ} {s : Schema} {count : ℕ}
    (hf : f ∈ (Outcome.countWithin v low high count).failures) :
    (contains low high s).Finds follow v f := by
  have hmin : ∀ {n high}, "minContains" ∈ (contains (some n) high s).ownNames := by
    intro n high
    exact List.mem_cons_self
  have hmax : ∀ {low n}, "maxContains" ∈ (contains low (some n) s).ownNames := by
    intro low n
    cases low with
    | none => exact List.mem_cons_self
    | some m => exact List.mem_cons_of_mem _ List.mem_cons_self
  unfold Outcome.countWithin at hf
  split at hf
  · exact finds_demand List.mem_cons_self .contains hf
  · exact finds_demand hmax .maxContains hf
  · exact finds_demand hmin .minContains hf
  · split at hf
    · cases List.mem_singleton.mp hf
      exact .own hmax .maxContains
    · exact finds_demand hmin .minContains hf

/-- What is found in members of which the others are as a schema says. -/
lemma finds_members {list : List (String × Schema)} {patterns : List (Regex.Pattern × Schema)}
    {others : Schema} {marks : Outcome}
    (hf : f ∈ ((finding follow (.members list patterns others) v).settle v marks).failures) :
    (members list patterns others).Finds follow v f := by
  rw [finding, Finding.failures_settle_settled, Outcome.failures_withNames, List.map_map,
    Outcome.failures_join] at hf
  obtain ⟨o, ho, hf⟩ := List.mem_flatMap.mp hf
  obtain ⟨⟨name, w⟩, hmem, rfl⟩ := List.mem_map.mp ho
  dsimp only [Function.comp] at hf
  split at hf
  · have hothers : (["additionalProperties"], others) ∈ (members list patterns others).places :=
      List.mem_append_right _ (List.mem_singleton_self _)
    exact finds_member hmem hothers hf
  · exact finds_known (List.subset_append_left _ _) hmem hf

/-- What is found in members of which there are no others. -/
lemma finds_closedMembers {list : List (String × Schema)}
    {patterns : List (Regex.Pattern × Schema)} {marks : Outcome}
    (hf : f ∈ ((finding follow (.closedMembers list patterns) v).settle v marks).failures) :
    (closedMembers list patterns).Finds follow v f := by
  rw [finding, Finding.failures_settle_settled, Outcome.failures_withNames,
    Outcome.failures_append] at hf
  rcases List.mem_append.mp hf with hlooked | hunknown
  · rw [Outcome.failures_join, List.map_map] at hlooked
    obtain ⟨o, ho, hlooked⟩ := List.mem_flatMap.mp hlooked
    obtain ⟨⟨name, w⟩, hmem, rfl⟩ := List.mem_map.mp ho
    exact finds_known (List.Subset.refl _) hmem hlooked
  · refine finds_demand (List.mem_singleton_self _) (.additionalProperties ?_) hunknown
    intro name hname
    obtain ⟨m, hm, rfl⟩ := List.mem_map.mp hname
    obtain ⟨⟨listed, w⟩, hmem, rfl⟩ := List.mem_map.mp (List.mem_filter.mp hm).1
    exact List.mem_map_of_mem hmem

/-- Whatever a keyword finds comes from where `Finds` says. -/
theorem finds_of_mem {marks : Outcome}
    (hf : f ∈ ((finding follow k v).settle v marks).failures) : k.Finds follow v f := by
  cases k with
  | assertion keyword rule =>
    rw [finding] at hf
    exact .rule hf
  | unusable cause =>
    rw [finding] at hf
    cases hf
  | allOf branches =>
    rw [finding] at hf
    exact finds_allOf hf
  | anyOf branches =>
    rw [finding] at hf
    exact finds_demand (List.mem_singleton_self _) .anyOf hf
  | oneOf branches =>
    rw [finding, Finding.failures_settle_settled, Outcome.failures_oneOf] at hf
    split at hf
    · cases List.mem_singleton.mp hf
      exact .own (List.mem_singleton_self _) .oneOfNone
    · cases hf
    · cases List.mem_singleton.mp hf
      exact .own (List.mem_singleton_self _) .oneOfMany
  | not source s =>
    rw [finding] at hf
    exact finds_demand (List.mem_singleton_self _) (.not source) hf
  | conditional c t e =>
    rw [finding, Finding.failures_settle_settled, Outcome.failures_conditional] at hf
    split at hf
    · exact finds_branch (by simp [places]) hf
    · exact finds_branch (by simp [places]) hf
  | condition s =>
    rw [finding, Finding.failures_settle_settled, Outcome.failures_condition] at hf
    cases hf
  | properties list =>
    rw [finding, Finding.failures_settle_settled, Outcome.failures_ofMembers] at hf
    obtain ⟨o, ho, hf⟩ := List.mem_flatMap.mp hf
    rw [ofNames_eq_filterMap] at ho
    obtain ⟨⟨name, s⟩, hs, ho⟩ := List.mem_filterMap.mp ho
    obtain ⟨w, hw, rfl⟩ := Option.map_eq_some_iff.mp ho
    exact finds_member (Json.Members.mem_of_get? hw) (List.mem_map_of_mem hs) hf
  | patternProperties list =>
    rw [finding, Finding.failures_settle_settled, Outcome.failures_ofMembers] at hf
    obtain ⟨o, ho, hf⟩ := List.mem_flatMap.mp hf
    rw [ofPatterns_eq_flatMap] at ho
    obtain ⟨⟨p, s⟩, hs, ho⟩ := List.mem_flatMap.mp ho
    obtain ⟨⟨name, w⟩, hw, rfl⟩ := List.mem_map.mp ho
    exact finds_member (List.mem_filter.mp hw).1 (List.mem_map_of_mem hs) hf
  | members list patterns others => exact finds_members hf
  | closedMembers list patterns => exact finds_closedMembers hf
  | noMembers =>
    rw [finding, Finding.failures_settle_settled] at hf
    unfold firstMember at hf
    split at hf
    · cases hf
    · rename_i w rest hv
      cases List.mem_singleton.mp hf
      exact .own (List.mem_singleton_self _) (.firstMember w)
  | propertyNames s =>
    rw [finding, Finding.failures_settle_settled, Outcome.failures_ofFailures] at hf
    obtain ⟨⟨name, w⟩, hmem, hf⟩ := List.mem_flatMap.mp hf
    obtain ⟨g, hg, rfl⟩ := List.mem_map.mp hf
    obtain ⟨members, rfl, hmember⟩ := mem_members hmem
    exact .name hmember hg
  | noPropertyNames =>
    rw [finding] at hf
    exact finds_demand (List.mem_singleton_self _) .propertyNames hf
  | dependent keyword name s =>
    rw [finding, Finding.failures_settle_settled] at hf
    split at hf
    · have hbelow : f ∈ ((evaluate follow s v).below [keyword, name]).failures := by
        dsimp only at hf
        split at hf
        · exact hf
        · exact hf
      exact finds_branch (List.mem_singleton_self _) hbelow
    · cases hf
  | items keyword skip s =>
    rw [finding, Finding.failures_settle_settled, Outcome.failures_withPositions,
      Outcome.failures_join] at hf
    obtain ⟨o, ho, hf⟩ := List.mem_flatMap.mp hf
    obtain ⟨⟨i, w⟩, hmem, rfl⟩ := List.mem_map.mp ho
    exact finds_item (List.mem_of_mem_drop hmem) (List.mem_singleton_self _) hf
  | itemList keyword list =>
    rw [finding, Finding.failures_settle_settled, Outcome.failures_withPositions,
      Outcome.failures_join, ofPositions_eq_map] at hf
    obtain ⟨o, ho, hf⟩ := List.mem_flatMap.mp hf
    obtain ⟨⟨⟨s, p⟩, ⟨i, w⟩⟩, hmem, rfl⟩ := List.mem_map.mp ho
    obtain ⟨hs, hw⟩ := List.of_mem_zip hmem
    have hplace : ([keyword, toString p], s) ∈ (itemList keyword list).places :=
      List.mem_map.mpr ⟨(s, p), hs, rfl⟩
    exact finds_item hw hplace hf
  | contains low high s =>
    unfold finding at hf
    split at hf
    · exact finds_countWithin hf
    · cases hf
  | unevaluatedProperties s =>
    rw [finding] at hf
    refine finds_demand (List.mem_singleton_self _) (.unevaluatedProperties ?_) hf
    intro name hname
    exact (List.mem_filter.mp hname).1
  | unevaluatedItems s =>
    rw [finding] at hf
    exact finds_demand (List.mem_singleton_self _) (.unevaluatedItems _) hf
  | reference keyword r =>
    rw [finding, Finding.failures_settle_settled, Outcome.failures_below] at hf
    obtain ⟨g, hg, rfl⟩ := List.mem_map.mp hf
    exact .reference hg

end Keyword

end ConfigCheck.Schema
