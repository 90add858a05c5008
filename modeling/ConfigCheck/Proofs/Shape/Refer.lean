import ConfigCheck.Proofs.Schema.Composition
import ConfigCheck.Proofs.Shape.Around

/-!
# Shapes behind a reference

A schema may hold a shape among its definitions and refer to it.  It is taken for a schema
(`Shape.ofJson_referring_eq_ok`), and it finds what the shape finds, each time with the name of the
reference in front of the tokens of the rule (`Shape.failures_referrer`).
-/

namespace ConfigCheck

open Schema (Failure Reference Scope followWithin)
open Schema.MetaSchema

/-! ## Shapes lead nowhere else -/

/-- The keyword of a clause is no reference. -/
lemma Clause.isLocal_toKeyword (k : Clause) : k.toKeyword.isLocal = true := by
  cases k with
  | types list => rcases list with _ | ⟨t, _ | ⟨u, rest⟩⟩ <;> rfl
  | _ => rfl

/-- The schemas inside the keyword of a clause are those of the shapes inside it. -/
lemma Clause.subschemas_toKeyword (k : Clause) :
    k.toKeyword.subschemas = k.shapes.map Shape.toSchema := by
  cases k with
  | types list => rcases list with _ | ⟨t, _ | ⟨u, rest⟩⟩ <;> rfl
  | properties list =>
    change (Shape.namedSchemasOf list).map (·.2) = _
    rw [Shape.namedSchemasOf_eq_map, List.map_map, shapes, List.map_map]
    rfl
  | allOf branches | anyOf branches | oneOf branches => exact Shape.schemasOf_eq_map branches
  | _ => rfl

namespace Shape

variable {s : Shape}

/-- No keyword of a shape leads anywhere else. -/
lemma isLocal_of_occurs (hs : s.WellFormed) {k : Schema.Keyword}
    (hk : Schema.Occurs k s.toSchema) : k.isLocal = true := by
  induction hs with
  | always verdict => cases hk
  | @clauses list _ _ _ ih =>
    rw [toSchema, keywordsOf_eq_map] at hk
    cases hk with
    | here hmem =>
      obtain ⟨c, -, rfl⟩ := List.mem_map.mp hmem
      exact c.isLocal_toKeyword
    | inside hmem hsub hk =>
      obtain ⟨c, hc, rfl⟩ := List.mem_map.mp hmem
      rw [c.subschemas_toKeyword] at hsub
      obtain ⟨u, hu, rfl⟩ := List.mem_map.mp hsub
      exact ih c hc u hu hk

/-- What a shape finds does not depend on where references lead. -/
theorem evaluate_toSchema (hs : s.WellFormed)
    (follow : Reference → Json → Schema.Outcome) :
    Schema.evaluate follow s.toSchema = Schema.evaluate (fun _ _ => {}) s.toSchema :=
  Schema.evaluate_congr (fun _ hk => isLocal_of_occurs hs hk) _ _

/-- The validator of a shape follows no reference. -/
theorem failures_validator (hs : s.WellFormed) (document : Json) :
    s.validator.failures document =
      (Schema.evaluate (fun _ _ => {}) s.toSchema document).failures := by
  rw [Validator.failures_eq_evaluate, validator_schema, evaluate_toSchema hs]

/-- The contents of a shape are read into its schema. -/
lemma ofContents_toJson {scope : Scope} (hscope : scope.IsLatest) (hs : s.WellFormed) :
    Schema.ofContents scope s.toJson = s.toSchema := by
  have hread := ofJson_toJson hscope hs
  cases s with
  | always verdict => exact hread
  | clauses list =>
    rw [toJson, Schema.ofJson, enter_membersOf hscope] at hread
    exact hread

/-! ## The reference -/

/-- The members of a schema that refers to a shape among its definitions. -/
def referring (s : Shape) : Json.Members :=
  [("$defs", .object [("shape", s.toJson)]), ("$ref", .string "#/$defs/shape")]

/-- The reference to the definition. -/
def toDefinition : Reference := ⟨.named "#/$defs/shape", Scope.ofDocument⟩

/-- The scope behind the reference. -/
def definitionScope : Scope := ⟨Uri.unnamed, [Uri.unnamed], .latest, .latest⟩

/-- The validator of the schema that refers to a shape. -/
def referrer (s : Shape) : Validator where
  schema := Schema.ofJson Scope.ofDocument (.object s.referring)
  registry := registry.insert Uri.unnamed ⟨.object s.referring, .latest⟩

/-- The schema that refers to a shape is read into the reference. -/
lemma referrer_schema (s : Shape) :
    s.referrer.schema = .keywords [.reference "$ref" toDefinition] := rfl

/-- The reference leads to the shape. -/
theorem follow_toDefinition (s : Shape) :
    s.referrer.registry.follow toDefinition = .ok ⟨s.toJson, definitionScope⟩ := by
  have hnameless : Schema.IsNameless .latest s.toJson :=
    Schema.isNameless_of_isAnonymous s.isAnonymous_toJson
  have hwithin : Schema.Draft.latest.within s.toJson.members = .latest := by
    unfold Schema.Draft.within
    rw [Schema.Draft.detect_eq_ok hnameless.draft]
  have hbase : Schema.baseWithin definitionScope.base (Schema.Draft.latest.within s.toJson.members)
      s.toJson.members = .ok definitionScope.base := by
    rw [hwithin, Schema.baseWithin_eq_ok hnameless.identifier]
  have hwalk : Schema.walkParts .latest "/$defs/shape" ["$defs", "shape"] []
      (Scope.ofDocument.evolve Scope.ofDocument.base) (.object s.referring) =
        .ok (definitionScope, s.toJson) := by
    change Schema.walkParts _ _ _ _ definitionScope _ = _
    rw [referring, Schema.walkParts_object rfl rfl, Schema.walkParts_object rfl hbase]
    rfl
  have hfind : s.referrer.registry.find? Scope.ofDocument.base =
      some ⟨.object s.referring, .latest⟩ := rfl
  have htext : "#/$defs/shape".toList = '#' :: "/$defs/shape".toList := by decide
  have hparts : Schema.partsOfPointer "/$defs/shape" = .ok ["$defs", "shape"] :=
    Schema.partsOfPointer_eq (by decide) (by decide)
  rw [toDefinition, Schema.Registry.follow_named,
    Schema.Registry.lookup_pointer htext hfind (by decide) hparts hwalk, hwithin]
  rfl

/-! ## The schema that refers -/

/-- The members of the schema stand around shapes. -/
lemma surrounds_of_mem_referring (hs : s.WellFormed) :
    ∀ m ∈ s.referring, Surrounds m.1 m.2 := by
  have hlist : ∀ m ∈ [("shape", s)], m.2.WellFormed := List.forall_mem_singleton.mpr hs
  rw [referring, List.forall_mem_cons, List.forall_mem_singleton]
  exact ⟨.definitions hlist, .reference _⟩

/-- The reference of the schema leads to the shape. -/
lemma refersToShape_referring (hs : s.WellFormed) : RefersToShape s.referring := by
  intro text htext
  have hname : Schema.textOf? s.referring "$ref" = some "#/$defs/shape" := rfl
  cases Option.some.inj (hname.symm.trans htext)
  have htarget : Schema.localTarget? (.object s.referring) "#/$defs/shape" = some s.toJson := rfl
  refine ⟨by decide, fun t ht => ⟨s, hs, ?_⟩⟩
  exact Option.some.inj (htarget.symm.trans ht)

/-- The text of the reference can be resolved. -/
lemma exists_key_toDefinition : ∃ key, toDefinition.key = .ok key := by
  have hresolved : (Schema.resolveText Uri.unnamed "#/$defs/shape").toOption.isSome = true := by
    decide +kernel
  obtain ⟨uri, huri⟩ := Option.isSome_iff_exists.mp hresolved
  refine ⟨uri.toString, ?_⟩
  have hok := toOption_eq_some_iff.mp huri
  unfold Reference.key toDefinition
  dsimp only
  rw [Scope.ofDocument, hok]

/-- The search for defects follows the reference and passes the shape. -/
lemma firstDefect?_referrer (hs : s.WellFormed) (n : ℕ) :
    Schema.firstDefect? s.referrer.registry (n + 1) s.referrer.schema = none := by
  obtain ⟨key, hkey⟩ := exists_key_toDefinition
  have hvisit : Schema.visitReference s.referrer.registry (n + 1) toDefinition [] = .ok [key] := by
    rw [Schema.visitReference, hkey]
    simp only [bind, Except.bind]
    rw [if_neg List.not_mem_nil, follow_toDefinition]
    dsimp only
    rw [ofContents_toJson ⟨rfl, rfl⟩ hs]
    exact passes_toSchema hs [key]
  have hsearch : Schema.searchKeywords (Schema.visitReference s.referrer.registry (n + 1))
      [.reference "$ref" toDefinition] [] = .ok [key] := by
    rw [Schema.searchKeywords, Schema.searchKeyword, hvisit]
    dsimp only
    rw [Schema.searchKeywords]
  rw [referrer_schema]
  exact Schema.firstDefect?_eq_none (Schema.searchSchema_eq_ok hsearch rfl)

/-- The schema that refers to a shape is taken for a schema. -/
theorem ofJson_referring_eq_ok (hs : s.WellFormed) :
    Validator.ofJson (.object s.referring) = .ok s.referrer :=
  ofJson_object_eq_ok_of_reference (surrounds_of_mem_referring hs) (refersToShape_referring hs)
    (firstDefect?_referrer hs _)

/-- The schema that refers to a shape finds what the shape finds, behind the name of the
reference. -/
theorem failures_referrer (hs : s.WellFormed) (document : Json) :
    s.referrer.failures document =
      (s.validator.failures document).map (Failure.below ["$ref"]) := by
  obtain ⟨n, hbudget⟩ : ∃ n, s.referrer.registry.budget document = n + 1 := by
    refine ⟨_, (Nat.succ_pred_eq_of_pos ?_).symm⟩
    exact Nat.mul_pos (Nat.succ_pos _) (Nat.succ_pos _)
  have hshape : followWithin s.referrer.registry (n + 1) toDefinition document =
      Schema.evaluate (fun _ _ => {}) s.toSchema document := by
    rw [followWithin, follow_toDefinition]
    dsimp only
    rw [ofContents_toJson ⟨rfl, rfl⟩ hs, Schema.outcomeWithin_eq_evaluate, evaluate_toSchema hs]
  rw [failures_validator hs, Validator.failures_eq_evaluate, hbudget, referrer_schema,
    Schema.evaluate, Schema.findings_eq_map, List.map_singleton,
    Schema.Outcome.failures_ofFindings, List.flatMap_singleton, Schema.finding, hshape]
  rfl

end Shape

end ConfigCheck
