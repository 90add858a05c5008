import ConfigCheck.Proofs.Schema.Structure
import ConfigCheck.Schema.Read
import Mathlib.Tactic.Conv

/-!
# Reading schemas, member by member

Reading is recursion over a value; here each step of it is an operation on the list of members
(`partsOf_eq_map`) and of items (`schemasOf_eq_map`), so that what a schema is read into can be said
keyword by keyword.

A schema that names neither itself nor a draft is read in the scope around it
(`Scope.enter_eq_self`).
-/

namespace ConfigCheck.Schema

/-! ## Scopes -/

/-- A schema that names no draft is of the draft around it. -/
lemma Draft.detect_eq_ok {d : Draft} {members : Json.Members}
    (hschema : textOf? members "$schema" = none) : d.detect members = .ok d := by
  unfold Draft.detect
  rw [hschema]

/-- A schema without an identifier has the base around it. -/
lemma baseWithin_eq_ok {base : Uri} {d : Draft} {members : Json.Members}
    (hid : d.identifierOf? members = none) : baseWithin base d members = .ok base := by
  unfold baseWithin
  rw [hid]

/-- A schema that names neither itself nor a draft is read in the scope around it. -/
lemma Scope.enter_eq_self {scope : Scope} {members : Json.Members}
    (hschema : textOf? members "$schema" = none)
    (hid : scope.draft.identifierOf? members = none) : scope.enter members = scope := by
  have hwithin : scope.draft.within members = scope.draft := by
    unfold Draft.within
    rw [Draft.detect_eq_ok hschema]
  unfold enter
  dsimp only
  rw [hwithin, baseWithin_eq_ok hid]

/-- A schema without the member for it has no identifier. -/
lemma Draft.identifierOf?_eq_none {d : Draft} {members : Json.Members}
    (hid : textOf? members d.idKeyword = none) : d.identifierOf? members = none := by
  unfold identifierOf?
  rw [hid]
  cases d.referencesStandAlone <;> rfl

/-! ## Parts -/

/-- The part that the value of a keyword makes. -/
def partOf (scope : Scope) (keyword : String) (v : Json) : Part :=
  match scope.draft.role keyword with
  | .plain => .plain v
  | .schema => .schema v (ofJson scope v)
  | .schemas => match v with
    | .array items => .schemas (schemasOf scope items)
    | v => .plain v
  | .schemaOrSchemas => match v with
    | .array items => .schemas (schemasOf scope items)
    | v => .schema v (ofJson scope v)
  | .namedSchemas => match v with
    | .object members => .namedSchemas members (namedSchemasOf scope members)
    | v => .plain v

/-- A plain part is the value itself. -/
lemma eq_of_partOf_eq_plain {scope : Scope} {keyword : String} {v value : Json}
    (h : partOf scope keyword v = .plain value) : v = value := by
  unfold partOf at h
  split at h
  · cases h
    rfl
  · cases h
  · split at h
    · cases h
    · cases h
      rfl
  · split at h
    · cases h
    · cases h
  · split at h
    · cases h
    · cases h
      rfl

theorem partsOf_eq_map (scope : Scope) (members : Json.Members) :
    partsOf scope members = members.map fun m => (m.1, partOf scope m.1 m.2) := by
  induction members with
  | nil => rw [partsOf, List.map_nil]
  | cons m rest ih =>
    obtain ⟨keyword, v⟩ := m
    rw [List.map_cons, ← ih]
    conv_lhs => unfold partsOf
    rfl

theorem schemasOf_eq_map (scope : Scope) (list : List Json) :
    schemasOf scope list = list.map (ofJson scope) := by
  induction list with
  | nil => rw [schemasOf, List.map_nil]
  | cons v rest ih => rw [schemasOf, List.map_cons, ih]

theorem namedSchemasOf_eq_map (scope : Scope) (members : Json.Members) :
    namedSchemasOf scope members = members.map fun m => (m.1, ofJson scope m.2) := by
  induction members with
  | nil => rw [namedSchemasOf, List.map_nil]
  | cons m rest ih =>
    obtain ⟨name, v⟩ := m
    rw [namedSchemasOf, List.map_cons, ih]

/-- The part of a keyword that is not there. -/
lemma lookup_partsOf_eq_none {scope : Scope} {members : Json.Members} {keyword : String}
    (h : Json.Members.get? members keyword = none) :
    (partsOf scope members).lookup keyword = none := by
  rw [Json.Members.get?, List.lookup_eq_none_iff] at h
  rw [partsOf_eq_map, List.lookup_eq_none_iff]
  intro p hp
  obtain ⟨m, hm, rfl⟩ := List.mem_map.mp hp
  exact h m hm

/-- A list of texts is read as these names. -/
lemma names?_strings (names : List String) : names? (.array (names.map .string)) = some names := by
  unfold names?
  dsimp only
  rw [List.mapM_map]
  change names.mapM (fun name => (pure name : Option String)) = some names
  rw [List.mapM_pure, List.map_id']
  rfl

/-- A list of texts is read into the rule that asks for these members. -/
lemma plainKeywords_required (scope : Scope) (members : Json.Members) (names : List String) :
    plainKeywords scope members "required" (.array (names.map .string)) =
      [.assertion "required" (.required names)] := by
  unfold plainKeywords
  dsimp only
  rw [names?_strings]
  rfl

/-- A value is a verdict or an object, as all schemas are. -/
def IsVerdictOrObject (v : Json) : Prop :=
  (∃ verdict, v = .bool verdict) ∨ ∃ members, v = .object members

/-- The schema for items is read as a schema, and not as a list of schemas. -/
lemma partOf_items {base : Uri} {outer : List Uri} {v : Json} (hv : IsVerdictOrObject v) :
    partOf ⟨base, outer, .latest, .latest⟩ "items" v =
      .schema v (ofJson ⟨base, outer, .latest, .latest⟩ v) := by
  rcases hv with ⟨verdict, rfl⟩ | ⟨members, rfl⟩ <;> rfl

/-- Where no first items have schemas of their own, the schema for items is about all of them. -/
lemma schemaKeywords_items {d : Draft} {members : Json.Members} {parts : Parts} {schema : Schema}
    {v : Json} (hv : IsVerdictOrObject v)
    (hbefore : Json.Members.get? members "prefixItems" = none) :
    schemaKeywords d members parts "items" v schema = [.items "items" 0 schema] := by
  unfold schemaKeywords
  rw [hbefore]
  rcases hv with ⟨verdict, rfl⟩ | ⟨members, rfl⟩ <;> rfl

/-! ## Keywords -/

/-- Whether the two drafts of a scope are the latest, where every keyword counts. -/
structure Scope.IsLatest (scope : Scope) : Prop where
  /-- The schema is of the latest draft. -/
  draft : scope.draft = .latest
  /-- The document is of the latest draft. -/
  root : scope.root = .latest

/-- In the latest draft the keywords of a schema are those of its members, in their order. -/
theorem assemble_eq_flatMap {scope : Scope} (hscope : scope.IsLatest) (members : Json.Members) :
    assemble scope members (partsOf scope members) = members.flatMap fun m =>
      partKeywords scope members (partsOf scope members) m.1 (partOf scope m.1 m.2) := by
  have huses : ∀ keyword, scope.draft.uses scope.root keyword = true := by
    intro keyword
    rw [hscope.draft, hscope.root]
    unfold Draft.uses
    generalize Draft.latest.vocabularyOf keyword = vocabulary
    cases vocabulary <;> rfl
  have halone : scope.draft.referencesStandAlone = false := by
    rw [hscope.draft]
    rfl
  unfold assemble
  rw [halone, Bool.false_and, if_neg Bool.false_ne_true]
  rw [List.filter_eq_self.mpr fun _ _ => huses _]
  dsimp only
  conv_lhs => arg 2; rw [partsOf_eq_map]
  rw [List.flatMap_map]

end ConfigCheck.Schema
