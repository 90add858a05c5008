import ConfigCheck.Proofs.Schema.Reading
import ConfigCheck.Proofs.Shape.Basic
import Mathlib.Data.List.Basic

/-!
# Reading shapes

The schema that is written for a shape is read clause by clause: each clause becomes one keyword
(`Clause.toKeyword`), and nothing else comes of it (`Shape.ofJson_toJson`).
-/

namespace ConfigCheck

open Schema (ValueType Scope)

mutual

/-- The schema that a shape is read into. -/
def Shape.toSchema : Shape → Schema
  | .always verdict => .always verdict
  | .clauses list => .keywords (Shape.keywordsOf list)

/-- The keyword that a clause is read into. -/
def Clause.toKeyword : Clause → Schema.Keyword
  | .type t => .assertion "type" (.type false t)
  | .types [t] => .assertion "type" (.type false t)
  | .types list => .assertion "type" (.types false (ValueType.all.filter (· ∈ list)))
  | .required names => .assertion "required" (.required names)
  | .properties list => .properties (Shape.namedSchemasOf list)
  | .items s => .items "items" 0 s.toSchema
  | .allOf branches => .allOf (Shape.schemasOf branches)
  | .anyOf branches => .anyOf (Shape.schemasOf branches)
  | .oneOf branches => .oneOf (Shape.schemasOf branches)
  | .not s => .not s.toJson s.toSchema

/-- The keywords that clauses are read into. -/
def Shape.keywordsOf : List Clause → List Schema.Keyword
  | [] => []
  | k :: rest => k.toKeyword :: Shape.keywordsOf rest

/-- The schemas that named shapes are read into. -/
def Shape.namedSchemasOf : List (String × Shape) → List (String × Schema)
  | [] => []
  | (name, s) :: rest => (name, s.toSchema) :: Shape.namedSchemasOf rest

/-- The schemas that a list of shapes is read into. -/
def Shape.schemasOf : List Shape → List Schema
  | [] => []
  | s :: rest => s.toSchema :: Shape.schemasOf rest

end

/-- Several types are a rule, whether they are one type or more. -/
lemma Clause.exists_toKeyword_types (list : List ValueType) :
    ∃ rule, (types list).toKeyword = .assertion "type" rule := by
  rcases list with _ | ⟨t, _ | ⟨u, rest⟩⟩ <;> exact ⟨_, rfl⟩

namespace Shape

lemma keywordsOf_eq_map (list : List Clause) : keywordsOf list = list.map Clause.toKeyword := by
  induction list with
  | nil => rw [keywordsOf, List.map_nil]
  | cons k rest ih => rw [keywordsOf, List.map_cons, ih]

lemma namedSchemasOf_eq_map (list : List (String × Shape)) :
    namedSchemasOf list = list.map fun m => (m.1, m.2.toSchema) := by
  induction list with
  | nil => rw [namedSchemasOf, List.map_nil]
  | cons m rest ih => rw [namedSchemasOf, List.map_cons, ih]

lemma schemasOf_eq_map (list : List Shape) : schemasOf list = list.map toSchema := by
  induction list with
  | nil => rw [schemasOf, List.map_nil]
  | cons s rest ih => rw [schemasOf, List.map_cons, ih]

/-- Only the keywords of clauses stand in the schema of a shape. -/
lemma get?_membersOf_eq_none {list : List Clause} {name : String}
    (h : name ∉ Clause.keywords) : Json.Members.get? (membersOf list) name = none := by
  rw [Json.Members.get?, List.lookup_eq_none_iff, membersOf_eq_map]
  intro m hm
  obtain ⟨k, -, rfl⟩ := List.mem_map.mp hm
  have hne : name ≠ k.keyword := fun heq => h (heq ▸ k.keyword_mem_keywords)
  exact bne_iff_ne.mpr hne

lemma textOf?_membersOf_eq_none {list : List Clause} {name : String}
    (h : name ∉ Clause.keywords) : Schema.textOf? (membersOf list) name = none := by
  unfold Schema.textOf?
  rw [get?_membersOf_eq_none h, Option.bind_none]

/-- The schema of a shape is read in the scope around it. -/
lemma enter_membersOf {scope : Scope} (hscope : scope.IsLatest) (list : List Clause) :
    scope.enter (membersOf list) = scope := by
  refine Scope.enter_eq_self (textOf?_membersOf_eq_none (by decide)) ?_
  refine Schema.Draft.identifierOf?_eq_none (textOf?_membersOf_eq_none ?_)
  rw [hscope.draft]
  decide

end Shape

/-! ## Clauses that hold no shapes -/

/-- The name of a type is read as the type. -/
lemma Schema.ValueType.ofName?_name (t : ValueType) : ValueType.ofName? t.name = some t := by
  cases t <;> decide

/-- Names of types are read as the types. -/
lemma Schema.filterMap_typeOf?_names (list : List ValueType) :
    (list.map fun t => Json.string t.name).filterMap Schema.typeOf? = list := by
  rw [List.filterMap_map]
  conv_rhs => rw [← List.filterMap_some (l := list)]
  congr 1
  funext t
  exact t.ofName?_name

/-- Names of types have no fault. -/
lemma Schema.findSome?_typeFault?_names (list : List ValueType) :
    (list.map fun t => Json.string t.name).findSome? Schema.typeFault? = none := by
  rw [List.findSome?_eq_none_iff]
  intro v hv
  obtain ⟨t, -, rfl⟩ := List.mem_map.mp hv
  cases t <;> decide

/-- A list of names of types is read into the keyword of the clause. -/
lemma Schema.typeKeywords_names (list : List ValueType) :
    Schema.typeKeywords false "type" (.array (list.map fun t => .string t.name)) =
      [(Clause.types list).toKeyword] := by
  have hfaults := findSome?_typeFault?_names list
  have htypes := filterMap_typeOf?_names list
  rcases list with _ | ⟨t, _ | ⟨u, rest⟩⟩
  · rfl
  · rw [List.map_singleton, typeKeywords, t.ofName?_name]
    rfl
  · rw [List.map_cons, List.map_cons] at hfaults htypes ⊢
    unfold typeKeywords
    dsimp only
    rw [hfaults, htypes]
    rfl

/-! ## Reading -/

namespace Shape

variable {scope : Scope}

/-- The schemas of a list of shapes are read into theirs if each of them is. -/
lemma schemasOf_listOf {list : List Shape}
    (hshapes : ∀ s ∈ list, Schema.ofJson scope s.toJson = s.toSchema) :
    Schema.schemasOf scope (listOf list) = schemasOf list := by
  rw [Schema.schemasOf_eq_map, listOf_eq_map, schemasOf_eq_map, List.map_map]
  exact List.map_congr_left hshapes

/-- The schema of a shape is a verdict or an object. -/
lemma isVerdictOrObject_toJson (s : Shape) : Schema.IsVerdictOrObject s.toJson := by
  cases s with
  | always verdict => exact .inl ⟨verdict, rfl⟩
  | clauses list => exact .inr ⟨membersOf list, rfl⟩

/-- The part of a clause is read into the keyword of the clause, once the shapes inside it are read
into their schemas. -/
theorem partKeywords_clause (hscope : scope.IsLatest) {members : Json.Members} {k : Clause}
    (hmembers : ∀ name, name ∉ Clause.keywords → Json.Members.get? members name = none)
    (hshapes : ∀ s ∈ k.shapes, Schema.ofJson scope s.toJson = s.toSchema) :
    Schema.partKeywords scope members (Schema.partsOf scope members) k.keyword
      (Schema.partOf scope k.keyword k.toJson) = [k.toKeyword] := by
  obtain ⟨base, outer, draft, root⟩ := scope
  obtain ⟨rfl, rfl⟩ := hscope
  cases k with
  | type t =>
    change Schema.typeKeywords false "type" (.string t.name) = _
    rw [Schema.typeKeywords, t.ofName?_name]
    rfl
  | types list =>
    change Schema.typeKeywords false "type" (.array _) = _
    exact Schema.typeKeywords_names list
  | required names =>
    exact Schema.plainKeywords_required ⟨base, outer, .latest, .latest⟩ members names
  | properties list =>
    have hread : Schema.namedSchemasOf ⟨base, outer, .latest, .latest⟩ (namedOf list) =
        namedSchemasOf list := by
      rw [Schema.namedSchemasOf_eq_map, namedOf_eq_map, namedSchemasOf_eq_map, List.map_map]
      refine List.map_congr_left fun m hm => ?_
      exact congrArg _ (hshapes m.2 (List.mem_map_of_mem hm))
    have hothers : (Schema.partsOf ⟨base, outer, .latest, .latest⟩ members).lookup
        "additionalProperties" = none :=
      Schema.lookup_partsOf_eq_none (hmembers _ (by decide))
    change Schema.namedKeywords _ "properties" (namedOf list)
      (Schema.namedSchemasOf _ (namedOf list)) = _
    rw [hread]
    unfold Schema.namedKeywords Schema.othersTakeOver
    rw [hothers]
    rfl
  | items s =>
    have hbefore : Json.Members.get? members "prefixItems" = none := hmembers _ (by decide)
    rw [Clause.keyword, Clause.toJson, Schema.partOf_items s.isVerdictOrObject_toJson,
      Schema.partKeywords, Schema.schemaKeywords_items s.isVerdictOrObject_toJson hbefore,
      hshapes s (List.mem_singleton_self s)]
    rfl
  | allOf branches =>
    change Schema.listKeywords "allOf" (Schema.schemasOf _ (listOf branches)) = _
    rw [schemasOf_listOf fun s (hs : s ∈ branches) => hshapes s hs]
    rfl
  | anyOf branches =>
    change Schema.listKeywords "anyOf" (Schema.schemasOf _ (listOf branches)) = _
    rw [schemasOf_listOf fun s (hs : s ∈ branches) => hshapes s hs]
    rfl
  | oneOf branches =>
    change Schema.listKeywords "oneOf" (Schema.schemasOf _ (listOf branches)) = _
    rw [schemasOf_listOf fun s (hs : s ∈ branches) => hshapes s hs]
    rfl
  | not s =>
    change [Schema.Keyword.not s.toJson (Schema.ofJson _ s.toJson)] = _
    rw [hshapes s (List.mem_singleton_self s)]
    rfl

/-- The schema of a shape is read clause by clause. -/
theorem ofJson_toJson (hscope : scope.IsLatest) {s : Shape} (hs : s.WellFormed) :
    Schema.ofJson scope s.toJson = s.toSchema := by
  induction hs with
  | always verdict => rfl
  | @clauses list _ _ _ ih =>
    have hmembers : ∀ name, name ∉ Clause.keywords →
        Json.Members.get? (membersOf list) name = none := fun _ => get?_membersOf_eq_none
    rw [toJson, Schema.ofJson, enter_membersOf hscope, toSchema, keywordsOf_eq_map,
      Schema.assemble_eq_flatMap hscope]
    refine congrArg _ ?_
    conv_lhs => arg 2; rw [membersOf_eq_map]
    rw [List.flatMap_map, List.map_eq_flatMap]
    exact List.flatMap_congr fun k hk => partKeywords_clause hscope hmembers (ih k hk)

end Shape

end ConfigCheck
