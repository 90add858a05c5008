import ConfigCheck.Proofs.Schema.Outcome

/-!
# The structure of schemas

A schema is a tree: below each keyword stand the schemas inside it (`Keyword.subschemas`).  What
holds of a list of keywords once it holds of all schemas below them holds of all schemas
(`Schema.tree_induction`), and a keyword can occur at any depth (`Occurs`).

Evaluation walks lists of schemas one by one; here each such walk is an operation on lists, so that
no proof about evaluation has to repeat the walk (`branchesOf_eq_map`, `ofNames_eq_filterMap` and
their like).
-/

namespace ConfigCheck

namespace Schema

/-- The schemas directly inside a keyword. -/
def Keyword.subschemas : Keyword → List Schema
  | .allOf branches | .anyOf branches | .oneOf branches => branches
  | .not _ s => [s]
  | .conditional c t e => [c, t, e]
  | .condition s => [s]
  | .properties list => list.map (·.2)
  | .patternProperties list => list.map (·.2)
  | .members list patterns others => list.map (·.2) ++ patterns.map (·.2) ++ [others]
  | .closedMembers list patterns => list.map (·.2) ++ patterns.map (·.2)
  | .propertyNames s => [s]
  | .dependent _ _ s => [s]
  | .items _ _ s => [s]
  | .itemList _ list => list
  | .contains _ _ s => [s]
  | .unevaluatedProperties s | .unevaluatedItems s => [s]
  | .assertion _ _ | .unusable _ | .noMembers | .noPropertyNames | .reference _ _ => []

/-- The schemas directly inside a keyword, each with the tokens that lead to it. -/
def Keyword.places : Keyword → List (List String × Schema)
  | .allOf branches => branches.zipIdx.map fun (s, i) => (["allOf", toString i], s)
  | .anyOf branches => branches.zipIdx.map fun (s, i) => (["anyOf", toString i], s)
  | .oneOf branches => branches.zipIdx.map fun (s, i) => (["oneOf", toString i], s)
  | .not _ s => [(["not"], s)]
  | .conditional c t e => [(["if"], c), (["then"], t), (["else"], e)]
  | .condition s => [(["if"], s)]
  | .properties list => list.map fun (name, s) => (["properties", name], s)
  | .patternProperties list => list.map fun (p, s) => (["patternProperties", p.source], s)
  | .members list patterns others =>
    (list.map fun (name, s) => (["properties", name], s)) ++
      (patterns.map fun (p, s) => (["patternProperties", p.source], s)) ++
      [(["additionalProperties"], others)]
  | .closedMembers list patterns =>
    (list.map fun (name, s) => (["properties", name], s)) ++
      patterns.map fun (p, s) => (["patternProperties", p.source], s)
  | .propertyNames s => [(["propertyNames"], s)]
  | .dependent keyword name s => [([keyword, name], s)]
  | .items keyword _ s => [([keyword], s)]
  | .itemList keyword list => list.zipIdx.map fun (s, i) => ([keyword, toString i], s)
  | .contains _ _ s => [(["contains"], s)]
  | .unevaluatedProperties s => [(["unevaluatedProperties"], s)]
  | .unevaluatedItems s => [(["unevaluatedItems"], s)]
  | .assertion _ _ | .unusable _ | .noMembers | .noPropertyNames | .reference _ _ => []

/-- The names under which a keyword complains about the value itself. -/
def Keyword.ownNames : Keyword → List String
  | .assertion keyword a => a.ownNames keyword
  | .anyOf _ => ["anyOf"]
  | .oneOf _ => ["oneOf"]
  | .not _ _ => ["not"]
  | .closedMembers _ _ | .noMembers => ["additionalProperties"]
  | .noPropertyNames => ["propertyNames"]
  | .contains none none _ => ["contains"]
  | .contains low high _ =>
    (low.map fun _ => "minContains").toList ++ (high.map fun _ => "maxContains").toList
  | .unevaluatedProperties _ => ["unevaluatedProperties"]
  | .unevaluatedItems _ => ["unevaluatedItems"]
  | _ => []

/-- Schemas with tokens from their positions are these schemas. -/
lemma map_snd_numbered (tokens : ℕ → List String) (list : List Schema) :
    (list.zipIdx.map fun (s, i) => (tokens i, s)).map Prod.snd = list := by
  rw [List.map_map]
  exact List.zipIdx_map_fst 0 list

/-- Schemas with tokens from their names are these schemas. -/
lemma map_snd_tokens {α : Type} (tokens : α → List String) (list : List (α × Schema)) :
    (list.map fun (a, s) => (tokens a, s)).map Prod.snd = list.map (·.2) := by
  rw [List.map_map]
  rfl

/-- The schemas at the places of a keyword are those inside it. -/
theorem Keyword.map_snd_places (k : Keyword) : k.places.map Prod.snd = k.subschemas := by
  cases k with
  | allOf branches | anyOf branches | oneOf branches | itemList keyword branches =>
    exact map_snd_numbered (fun i => [_, toString i]) branches
  | properties list => exact map_snd_tokens (fun name => ["properties", name]) list
  | patternProperties list =>
    exact map_snd_tokens (fun p : Regex.Pattern => ["patternProperties", p.source]) list
  | members list patterns others =>
    unfold places subschemas
    rw [List.map_append, List.map_append, map_snd_tokens (fun name => ["properties", name]) list,
      map_snd_tokens (fun p : Regex.Pattern => ["patternProperties", p.source]) patterns]
    rfl
  | closedMembers list patterns =>
    unfold places subschemas
    rw [List.map_append, map_snd_tokens (fun name => ["properties", name]) list,
      map_snd_tokens (fun p : Regex.Pattern => ["patternProperties", p.source]) patterns]
  | _ => rfl

/-- A schema at a place of a keyword is inside it. -/
lemma Keyword.mem_subschemas_of_mem_places {k : Keyword} {tokens : List String} {s : Schema}
    (h : (tokens, s) ∈ k.places) : s ∈ k.subschemas := by
  rw [← k.map_snd_places]
  exact List.mem_map_of_mem h

/-- What stands second in a pair of a list is smaller than the list. -/
lemma sizeOf_lt_of_mem_map_snd {α β : Type} [SizeOf α] [SizeOf β] {list : List (α × β)} {s : β}
    (h : s ∈ list.map (·.2)) : sizeOf s < sizeOf list := by
  obtain ⟨⟨a, t⟩, hmem, rfl⟩ := List.mem_map.mp h
  have hlt := List.sizeOf_lt_of_mem hmem
  rw [Prod.mk.sizeOf_spec] at hlt
  change sizeOf t < sizeOf list
  omega

/-- A schema inside a keyword is smaller than the keyword. -/
lemma sizeOf_lt_of_mem_subschemas {k : Keyword} {s : Schema} (h : s ∈ k.subschemas) :
    sizeOf s < sizeOf k := by
  cases k with
  | allOf branches | anyOf branches | oneOf branches | itemList keyword branches =>
    have hmem : s ∈ branches := h
    have hlt := List.sizeOf_lt_of_mem hmem
    simp only [Keyword.allOf.sizeOf_spec, Keyword.anyOf.sizeOf_spec, Keyword.oneOf.sizeOf_spec,
      Keyword.itemList.sizeOf_spec]
    omega
  | properties list | patternProperties list =>
    have hlt := sizeOf_lt_of_mem_map_snd h
    simp only [Keyword.properties.sizeOf_spec, Keyword.patternProperties.sizeOf_spec]
    omega
  | members list patterns others =>
    rw [Keyword.members.sizeOf_spec]
    rcases List.mem_append.mp h with h | h
    · rcases List.mem_append.mp h with h | h
      · have hlt := sizeOf_lt_of_mem_map_snd h
        omega
      · have hlt := sizeOf_lt_of_mem_map_snd h
        omega
    · cases List.mem_singleton.mp h
      omega
  | closedMembers list patterns =>
    rw [Keyword.closedMembers.sizeOf_spec]
    rcases List.mem_append.mp h with h | h
    · have hlt := sizeOf_lt_of_mem_map_snd h
      omega
    · have hlt := sizeOf_lt_of_mem_map_snd h
      omega
  | conditional c t e =>
    simp only [Keyword.subschemas, List.mem_cons, List.not_mem_nil, or_false] at h
    rw [Keyword.conditional.sizeOf_spec]
    rcases h with rfl | rfl | rfl <;> omega
  | assertion | unusable | noMembers | noPropertyNames | reference => cases h
  | _ =>
    cases List.mem_singleton.mp h
    simp only [Keyword.not.sizeOf_spec, Keyword.condition.sizeOf_spec,
      Keyword.propertyNames.sizeOf_spec, Keyword.dependent.sizeOf_spec,
      Keyword.items.sizeOf_spec, Keyword.contains.sizeOf_spec,
      Keyword.unevaluatedProperties.sizeOf_spec, Keyword.unevaluatedItems.sizeOf_spec]
    omega

end Schema

/-- What holds of verdicts and of unusable values, and of a list of keywords once it holds of the
schemas inside them, holds of all schemas. -/
theorem Schema.tree_induction {M : Schema → Prop} (always : ∀ verdict, M (.always verdict))
    (unusable : ∀ value, M (.unusable value))
    (keywords : ∀ list : List Schema.Keyword,
      (∀ k ∈ list, ∀ s ∈ k.subschemas, M s) → M (.keywords list)) (s : Schema) : M s :=
  match s with
  | .always verdict => always verdict
  | .unusable value => unusable value
  | .keywords list => keywords list fun k hk t ht =>
    have : sizeOf t < 1 + sizeOf list :=
      have hlist := List.sizeOf_lt_of_mem hk
      have hk := sizeOf_lt_of_mem_subschemas ht
      by omega
    tree_induction always unusable keywords t
termination_by sizeOf s
decreasing_by
  rw [Schema.keywords.sizeOf_spec]
  exact this

namespace Schema

/-- A keyword stands somewhere in a schema. -/
inductive Occurs : Keyword → Schema → Prop where
  /-- It is one of the keywords of the schema. -/
  | here {k : Keyword} {list : List Keyword} : k ∈ list → Occurs k (.keywords list)
  /-- It stands in a schema inside one of them. -/
  | inside {k l : Keyword} {list : List Keyword} {s : Schema} :
    l ∈ list → s ∈ l.subschemas → Occurs k s → Occurs k (.keywords list)

/-! ## Evaluation, list by list -/

section

-- In this section what the evaluation does in each of its cases is a matter of simplification.
attribute [local simp] evaluate findings finding branchesOf ofNames ofName ofPatterns ofMatching
  ofPositions

variable (follow : Reference → Json → Outcome)

theorem findings_eq_map (list : List Keyword) (v : Json) :
    findings follow list v = list.map fun k => finding follow k v := by
  induction list with
  | nil => simp
  | cons k rest ih => rw [findings, List.map_cons, ih]

theorem branchesOf_eq_map (branches : List Schema) (v : Json) :
    branchesOf follow branches v =
      branches.map fun s => ⟨s.hasKeywords, evaluate follow s v⟩ := by
  induction branches with
  | nil => simp
  | cons s rest ih => rw [branchesOf, List.map_cons, ih]

/-- What the schema of a listed member finds in it, seen from the object. -/
def memberOutcome (name : String) (s : Schema) (w : Json) : String × Outcome :=
  Outcome.ofMember name ((evaluate follow s w).below ["properties", name])

theorem ofNames_eq_filterMap (list : List (String × Schema)) (members : Json.Members) :
    ofNames follow list members = list.filterMap fun (name, s) =>
      (Json.Members.get? members name).map (memberOutcome follow name s) := by
  induction list with
  | nil => simp
  | cons m rest ih =>
    obtain ⟨name, s⟩ := m
    rw [ofNames, List.filterMap_cons, ih]
    cases h : Json.Members.get? members name <;> simp [h, memberOutcome]

theorem ofName_eq_lookup (list : List (String × Schema)) (name : String) (w : Json) :
    ofName follow list name w = (list.lookup name).map fun s =>
      (evaluate follow s w).below ["properties", name] := by
  induction list with
  | nil => simp
  | cons m rest ih =>
    obtain ⟨listed, s⟩ := m
    rw [ofName, List.lookup_cons, ih]
    by_cases h : listed = name
    · subst h
      simp
    · rw [if_neg h, beq_false_of_ne (Ne.symm h)]

theorem ofPatterns_eq_flatMap (list : List (Regex.Pattern × Schema)) (members : Json.Members) :
    ofPatterns follow list members = list.flatMap fun (p, s) =>
      (members.filter fun (name, _) => p.accepts name).map fun (name, w) =>
        Outcome.ofMember name ((evaluate follow s w).below ["patternProperties", p.source]) := by
  induction list with
  | nil => simp
  | cons m rest ih =>
    obtain ⟨p, s⟩ := m
    rw [ofPatterns, List.flatMap_cons, ih]

theorem ofMatching_eq_map (list : List (Regex.Pattern × Schema)) (name : String) (w : Json) :
    ofMatching follow list name w = (list.filter fun (p, _) => p.accepts name).map fun (p, s) =>
      (evaluate follow s w).below ["patternProperties", p.source] := by
  induction list with
  | nil => simp
  | cons m rest ih =>
    obtain ⟨p, s⟩ := m
    rw [ofMatching, List.filter_cons, ih]
    cases h : p.accepts name <;> simp [h]

theorem ofPositions_eq_map (keyword : String) (list : List Schema) (position : Nat)
    (items : List (Nat × Json)) :
    ofPositions follow keyword list position items =
      ((list.zipIdx position).zip items).map fun ((s, p), (i, w)) =>
        ((evaluate follow s w).below [keyword, toString p]).inside (toString i) := by
  induction list generalizing position items with
  | nil => simp
  | cons s rest ih =>
    cases items with
    | nil => simp
    | cons item items =>
      obtain ⟨i, w⟩ := item
      rw [ofPositions, List.zipIdx_cons, List.zip_cons_cons, List.map_cons, ih]

end

end Schema

end ConfigCheck
