import ConfigCheck.Proofs.Schema.Compile
import ConfigCheck.Proofs.Shape.Accept
import ConfigCheck.Proofs.Shape.Defect
import ConfigCheck.Proofs.Shape.Verdict

/-!
# Validators of shapes

The schema of every shape that can be used is taken for a schema, and its validator is known
(`Shape.ofJson_toJson_eq_ok`).  With the verdict on shapes this gives what a validator is for: a
document has no violation exactly if it fits the shape (`Shape.violations_eq_nil_iff`).
-/

namespace ConfigCheck

open Schema (Draft)

/-- What a validator finds is what its schema finds, where references lead into its registry.  The
registry is a variable here: with a known one, comparing the two sides would count its nodes. -/
theorem Validator.failures_eq_evaluate (v : Validator) (document : Json) :
    v.failures document = (Schema.evaluate
      (Schema.followWithin v.registry (v.registry.budget document)) v.schema
        document).failures := by
  unfold failures Schema.outcome
  rw [Schema.outcomeWithin_eq_evaluate]

/-- A document has no violation exactly if the schema admits it. -/
theorem Validator.violations_eq_nil_iff_admits {v : Validator} {document : Json} :
    v.violations document = [] ↔ Schema.Admits
      (Schema.followWithin v.registry (v.registry.budget document)) v.schema document := by
  unfold violations Schema.Admits
  rw [List.map_eq_nil_iff, failures_eq_evaluate]

/-- The meta-schema has nothing against what its root admits. -/
lemma Schema.metaComplaint?_eq_none {document : Json}
    (hadmits : ∀ n, Admits (followWithin MetaSchema.registry n)
      (ofContents (MetaSchema.scopeAt "schema" 0) MetaSchema.draft2020) document) :
    metaComplaint? .latest document = none := by
  have hroot : ("schema", MetaSchema.draft2020) ∈ MetaSchema.latestDocuments := List.mem_cons_self
  have hbase : MetaSchema.baseOf .latest MetaSchema.draft2020 = MetaSchema.place "schema" := by
    unfold MetaSchema.baseOf
    rw [MetaSchema.baseWithin_latest hroot rfl]
  have hschema : MetaSchema.schemaOf .latest =
      ofContents (MetaSchema.scopeAt "schema" 0) MetaSchema.draft2020 := by
    unfold MetaSchema.schemaOf
    change ofContents ⟨MetaSchema.baseOf .latest MetaSchema.draft2020, [], .latest, .latest⟩
      MetaSchema.draft2020 = _
    rw [hbase]
    rfl
  have hnone := hadmits (MetaSchema.registry.budget document)
  unfold metaComplaint? outcome
  rw [hschema, outcomeWithin_eq_evaluate, hnone]
  rfl

/-- A document without names that the meta-schema admits is taken for a schema if all references in
it lead somewhere and no keyword is unusable. -/
theorem Validator.ofJson_eq_ok {document : Json} {collection : Schema.Collection}
    (hnames : Schema.IsNameless .latest document)
    (hcollect : Schema.MetaSchema.registry.collect Uri.unnamed ⟨document, .latest⟩ =
      .ok collection) (hmissing : collection.missing? = none)
    (hadmits : ∀ n, Schema.Admits (Schema.followWithin Schema.MetaSchema.registry n)
      (Schema.ofContents (Schema.MetaSchema.scopeAt "schema" 0) Schema.MetaSchema.draft2020)
      document)
    (hdefect : Schema.firstDefect? collection.registry (collection.registry.nodes + 1)
      (Schema.ofJson ⟨Uri.unnamed, [], .latest, .latest⟩ document) = none) :
    ofJson document = .ok
      ⟨Schema.ofJson ⟨Uri.unnamed, [], .latest, .latest⟩ document, collection.registry⟩ := by
  have hdraft : Schema.draftOf document = .ok .latest := by
    unfold Schema.draftOf
    rw [Draft.detect_eq_ok hnames.draft]
  have hbase : Schema.documentBase .latest document = .ok Uri.unnamed := by
    unfold Schema.documentBase
    rw [hnames.identifier]
  have hmeta := Schema.metaComplaint?_eq_none hadmits
  rw [ofJson_eq_ok_iff]
  exact ⟨.latest, Uri.unnamed, collection, ⟨hdraft, hbase, hcollect, hmissing, hmeta, hdefect⟩, rfl⟩

namespace Shape

/-! ## Collecting -/

/-- A shape names neither itself, nor a place in it, nor a draft. -/
lemma isAnonymous_toJson (s : Shape) : Schema.isAnonymous s.toJson = true := by
  cases s with
  | always verdict => rfl
  | clauses list =>
    unfold Schema.isAnonymous
    rw [List.all_eq_true]
    intro name hname
    have hkeyword : name ∉ Clause.keywords := by
      revert name
      decide
    rw [toJson, Json.members, textOf?_membersOf_eq_none hkeyword]
    rfl

/-- The schemas inside the schema of a shape are those of the shapes inside it. -/
lemma exists_shape_of_mem_subschemas {s : Shape} {t : Json}
    (ht : t ∈ Draft.latest.subschemas s.toJson) :
    ∃ c ∈ s.list, ∃ u ∈ c.shapes, u.toJson = t := by
  cases s with
  | always verdict => cases ht
  | clauses list =>
    unfold Draft.subschemas at ht
    rw [toJson, Json.members, membersOf_eq_map, List.flatMap_map] at ht
    obtain ⟨c, hc, ht⟩ := List.mem_flatMap.mp ht
    refine ⟨c, hc, ?_⟩
    cases c with
    | type t => cases ht
    | types list => cases ht
    | required names => cases ht
    | properties list =>
      rw [Clause.toJson, namedOf_eq_map] at ht
      change t ∈ (list.map _).map _ at ht
      rw [List.map_map] at ht
      obtain ⟨m, hm, rfl⟩ := List.mem_map.mp ht
      exact ⟨m.2, List.mem_map_of_mem hm, rfl⟩
    | items s | not s =>
      refine ⟨s, List.mem_singleton_self s, ?_⟩
      cases s <;> exact (List.mem_singleton.mp ht).symm
    | allOf branches | anyOf branches | oneOf branches =>
      rw [Clause.toJson, listOf_eq_map] at ht
      obtain ⟨u, hu, rfl⟩ := List.mem_map.mp ht
      exact ⟨u, hu, rfl⟩

/-- A shape is no reference. -/
lemma textOf?_reference_toJson (s : Shape) : Schema.textOf? s.toJson.members "$ref" = none := by
  cases s with
  | always verdict => rfl
  | clauses list => exact textOf?_membersOf_eq_none (by decide)

/-- A shape has neither names nor references. -/
lemma isSilent_toJson (s : Shape) : Schema.IsSilent Uri.unnamed .latest s.toJson :=
  ⟨Schema.isNameless_of_isAnonymous s.isAnonymous_toJson, .inl s.textOf?_reference_toJson⟩

/-- Nothing is collected from a shape but the shape itself. -/
theorem collect_toJson {s : Shape} (hs : s.WellFormed) (r : Schema.Registry) :
    r.collect Uri.unnamed ⟨s.toJson, .latest⟩ =
      .ok { registry := r.insert Uri.unnamed ⟨s.toJson, .latest⟩ } := by
  refine Schema.Registry.collect_eq_ok (P := fun t => ∃ u : Shape, u.WellFormed ∧ u.toJson = t) ?_
    ⟨s, hs, rfl⟩ r
  rintro _ ⟨u, hu, rfl⟩
  refine ⟨u.isSilent_toJson, fun t ht => ?_⟩
  obtain ⟨c, hc, v, hv, rfl⟩ := exists_shape_of_mem_subschemas ht
  exact ⟨v, (hu.of_mem_list hc).2 v hv, rfl⟩

/-! ## Validators -/

/-- The validator of a shape. -/
def validator (s : Shape) : Validator where
  schema := s.toSchema
  registry := Schema.MetaSchema.registry.insert Uri.unnamed ⟨s.toJson, .latest⟩

lemma validator_schema (s : Shape) : s.validator.schema = s.toSchema := rfl

/-- The schema of every shape that can be used is taken for a schema. -/
theorem ofJson_toJson_eq_ok {s : Shape} (hs : s.WellFormed) :
    Validator.ofJson s.toJson = .ok s.validator := by
  have hnames : Schema.IsNameless .latest s.toJson :=
    Schema.isNameless_of_isAnonymous s.isAnonymous_toJson
  have hread : Schema.ofJson ⟨Uri.unnamed, [], .latest, .latest⟩ s.toJson = s.toSchema :=
    ofJson_toJson ⟨rfl, rfl⟩ hs
  have hok := Validator.ofJson_eq_ok hnames (collect_toJson hs _) rfl
    (fun n => admits_draft2020 n 0 hs)
    (by rw [hread]; exact Schema.firstDefect?_eq_none (passes_toSchema hs []))
  rw [hok, hread]
  rfl

/-- The schema of every shape that can be used is taken for a schema, and a document has no
violation exactly if it fits the shape. -/
theorem violations_eq_nil_iff {s : Shape} (hs : s.WellFormed) :
    ∃ v, Validator.ofJson s.toJson = .ok v ∧
      ∀ document, v.violations document = [] ↔ s.Fits document := by
  refine ⟨s.validator, ofJson_toJson_eq_ok hs, fun document => ?_⟩
  rw [Validator.violations_eq_nil_iff_admits, validator_schema]
  exact admits_toSchema_iff hs document

/-- Objects with a port that is an integer or `null`, but no text. -/
def withPort : Shape :=
  .clauses [.not (.clauses [.type .string]),
    .properties [("port", .clauses [.anyOf [.clauses [.type .integer], .clauses [.type .null]]])],
    .required ["port"], .type .object]

/-- An object with an integer for its port has no violation, one with a list has. -/
theorem violations_withPort :
    withPort.WellFormed ∧ ∃ v, Validator.ofJson withPort.toJson = .ok v ∧
      v.violations (.object [("port", .number (.int 80))]) = [] ∧
      v.violations (.object [("port", .array [])]) ≠ [] := by
  have htypes : ∀ t, (clauses [.type t]).WellFormed := .type
  have hport : (clauses [.anyOf [.clauses [.type .integer], .clauses [.type .null]]]).WellFormed :=
    .clauses (by decide) (by simp [Clause.IsProper]) (by simp [Clause.shapes, htypes])
  have hs : withPort.WellFormed :=
    .clauses (by decide) (by simp [Clause.IsProper]) (by simp [Clause.shapes, htypes, hport])
  obtain ⟨v, hv, hverdict⟩ := violations_eq_nil_iff hs
  refine ⟨hs, v, hv, (hverdict _).mpr ?_, fun h => ?_⟩
  · have hinteger : (Number.int 80).IsInteger := trivial
    simp [withPort, Fits, Clause.Holds, Schema.ValueType.Includes, Json.get?, Json.Members.get?,
      hinteger]
  · have hfits := (hverdict _).mp h
    simp [withPort, Fits, Clause.Holds, Schema.ValueType.Includes, Json.get?,
      Json.Members.get?] at hfits

end Shape

end ConfigCheck
