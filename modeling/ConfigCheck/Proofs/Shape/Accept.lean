import ConfigCheck.Proofs.Json.Place
import ConfigCheck.Proofs.Schema.Follow
import ConfigCheck.Proofs.Shape.Read

/-!
# Shapes and the meta-schema

The meta-schema of the latest draft admits the schema of every shape that can be used
(`Shape.admits_draft2020`).  The proof follows the references of the meta-schema: the root refers to
one document for each vocabulary, only two of which ask for anything that stands in the schema of a
shape, and these come back to the root for the shapes inside it.  Each reference that is followed
lowers the bound, so the induction is on the bound and not on the shape.
-/

namespace ConfigCheck

open Schema (Scope followWithin)
open Schema.MetaSchema

/-! ## Distinct texts -/

/-- Texts are told apart by how they are written. -/
lemma Json.distinctBy_strings {related : Json → Json → Bool}
    (hrelated : ∀ a b : String, related (.string a) (.string b) = (a == b)) {texts : List String}
    (h : texts.Nodup) : Json.distinctBy related (texts.map .string) = true := by
  induction texts with
  | nil => rfl
  | cons text rest ih =>
    rw [List.nodup_cons] at h
    have hnone : (rest.map Json.string).any (related (.string text)) = false := by
      rw [List.any_map, List.any_eq_false]
      intro other hother
      rw [Function.comp, hrelated, beq_iff_eq]
      exact fun heq => h.1 (heq ▸ hother)
    rw [List.map_cons, Json.distinctBy, hnone, ih h.2]
    rfl

lemma Json.allDistinct_strings {texts : List String} (h : texts.Nodup) :
    Json.allDistinct (texts.map .string) = true := by
  unfold Json.allDistinct
  split
  · exact distinctBy_strings (fun _ _ => by rw [Json.same]) h
  · exact distinctBy_strings (fun _ _ => by rw [Json.identical, Json.same]; all_goals simp) h

/-- No two types have one name. -/
lemma Schema.ValueType.name_injective : Function.Injective Schema.ValueType.name := by
  intro t u h
  cases t <;> cases u <;> first | rfl | exact absurd h (by decide)

/-! ## Documents -/

/-- The schemas of listed members in a document. -/
def Schema.propertiesOf (document : Json) : Json.Members :=
  ((document.get? "properties").getD .null).members

/-- The schemas of a listed member in a document that is read in a scope. -/
def Schema.schemasUnder (scope : Scope) (document : Json) (name : String) : List Schema :=
  ((propertiesOf document).filter fun m => m.1 = name).map fun m => Schema.ofJson scope m.2

/-- What a document for a vocabulary is read into. -/
lemma Schema.read_document (base : Uri) (outer : List Uri) : ∀ p ∈ latestDocuments.drop 1,
    Schema.ofContents ⟨base, outer, .latest, .latest⟩ p.2 = .keywords [
      .properties (Schema.namedSchemasOf ⟨base, outer, .latest, .latest⟩ (propertiesOf p.2)),
      .assertion "type" (.types false [.boolean, .object])] := by
  simp only [latestDocuments, List.drop_succ_cons, List.drop_zero, List.forall_mem_cons]
  refine ⟨rfl, rfl, rfl, rfl, rfl, rfl, rfl, rfl, ?_⟩
  exact fun _ h => by cases h

/-! ## Vocabularies -/

section

variable {n k : ℕ} {name : String} {v : Json}

/-- Nothing is asked for under a name that is not listed. -/
lemma Schema.schemasUnder_eq_nil {scope : Scope} {document : Json}
    (h : ∀ m ∈ propertiesOf document, m.1 ≠ name) : schemasUnder scope document name = [] := by
  unfold schemasUnder
  rw [List.map_eq_nil_iff, List.filter_eq_nil_iff]
  intro m hm hname
  exact h m hm (of_decide_eq_true hname)

/-- Listed members admit a value if they admit each of its members. -/
lemma Schema.admits_propertiesOf {document : Json} {marks : Outcome}
    (hmembers : ∀ keyword w, v.get? keyword = some w →
      ∀ t ∈ schemasUnder (scopeAt name k) document keyword,
        Admits (followWithin registry n) t w) :
    (Keyword.properties (namedSchemasOf (scopeAt name k) (propertiesOf document))).Admits
      (followWithin registry n) marks v := by
  rw [Keyword.admits_properties, namedSchemasOf_eq_map, List.forall_mem_map]
  intro m hm w hw
  refine hmembers m.1 w hw _ (List.mem_map.mpr ⟨m, List.mem_filter.mpr ⟨hm, ?_⟩, rfl⟩)
  exact decide_eq_true rfl

/-- A document for a vocabulary admits a verdict or an object if it admits each of its members. -/
theorem Schema.admits_document {p : String × Json} (hp : p ∈ latestDocuments.drop 1)
    (htype : ∃ t ∈ [ValueType.boolean, ValueType.object], t.accepts false v = true)
    (hmembers : ∀ keyword w, v.get? keyword = some w →
      ∀ t ∈ schemasUnder (scopeAt p.1 k) p.2 keyword, Admits (followWithin registry n) t w) :
    Admits (followWithin registry n) (ofContents (scopeAt p.1 k) p.2) v := by
  unfold scopeAt at hmembers ⊢
  rw [read_document _ _ p hp, admits_keywords, List.forall_mem_cons, List.forall_mem_singleton,
    Keyword.admits_assertion, Assertion.failures_types_eq_nil_iff]
  exact ⟨admits_propertiesOf hmembers, htype⟩

end

namespace Shape

/-! ## Clauses -/

/-- The clauses of a shape. -/
def list : Shape → List Clause
  | .always _ => []
  | .clauses list => list

/-- A member of the schema of a shape is that of a clause. -/
lemma exists_clause_of_get? {s : Shape} {name : String} {w : Json}
    (h : s.toJson.get? name = some w) : ∃ k ∈ s.list, k.keyword = name ∧ k.toJson = w := by
  cases s with
  | always verdict => cases h
  | clauses list =>
    have hmem := Json.Members.mem_of_get? h
    rw [membersOf_eq_map] at hmem
    obtain ⟨k, hk, heq⟩ := List.mem_map.mp hmem
    cases heq
    exact ⟨k, hk, rfl, rfl⟩

/-- The schema of a shape is of one of the types of a schema. -/
lemma exists_accepts_toJson (s : Shape) :
    ∃ t ∈ [Schema.ValueType.boolean, Schema.ValueType.object], t.accepts false s.toJson = true := by
  cases s with
  | always verdict => exact ⟨.boolean, List.mem_cons_self, rfl⟩
  | clauses list => exact ⟨.object, by simp, rfl⟩

/-! ## References and definitions -/

/-- A schema that is a reference admits a value if its target does within every smaller bound. -/
lemma admits_of_follow {n : ℕ} {keyword : String} {r : Schema.Reference} {target : Schema.Target}
    {v : Json} (hfollow : registry.follow r = .ok target)
    (htarget : ∀ m < n, Schema.Admits (followWithin registry m)
      (Schema.ofContents target.scope target.contents) v) :
    Schema.Admits (followWithin registry n) (.keywords [.reference keyword r]) v := by
  rw [Schema.admits_keywords, List.forall_mem_singleton]
  exact Schema.Keyword.admits_reference_of_follow hfollow htarget

/-- The vocabulary for schemas inside schemas. -/
lemma applicator_mem : ("meta/applicator", applicator2020) ∈ latestDocuments.drop 1 := by
  simp [latestDocuments]

/-- The vocabulary for rules without schemas. -/
lemma validation_mem : ("meta/validation", validation2020) ∈ latestDocuments.drop 1 := by
  simp [latestDocuments]

/-- The schemas of lists of schemas, of names of types, and of lists of texts. -/
def definitionOf (document : Json) (name : String) : Json :=
  (((document.get? "$defs").getD .null).get? name).getD .null

lemma follow_schemaArray (k : ℕ) :
    registry.follow ⟨.named "#/$defs/schemaArray", scopeAt "meta/applicator" (k + 1)⟩ =
      .ok ⟨definitionOf applicator2020 "schemaArray", scopeAt "meta/applicator" (k + 1)⟩ := by
  have hparts : Schema.partsOfPointer "/$defs/schemaArray" = .ok ["$defs", "schemaArray"] :=
    Schema.partsOfPointer_eq (by decide) (by decide)
  exact follow_definition (List.mem_of_mem_drop applicator_mem) k (by decide) (by decide) hparts
    rfl rfl

lemma follow_simpleTypes (k : ℕ) :
    registry.follow ⟨.named "#/$defs/simpleTypes", scopeAt "meta/validation" (k + 1)⟩ =
      .ok ⟨definitionOf validation2020 "simpleTypes", scopeAt "meta/validation" (k + 1)⟩ := by
  have hparts : Schema.partsOfPointer "/$defs/simpleTypes" = .ok ["$defs", "simpleTypes"] :=
    Schema.partsOfPointer_eq (by decide) (by decide)
  exact follow_definition (List.mem_of_mem_drop validation_mem) k (by decide) (by decide) hparts
    rfl rfl

lemma follow_stringArray (k : ℕ) :
    registry.follow ⟨.named "#/$defs/stringArray", scopeAt "meta/validation" (k + 1)⟩ =
      .ok ⟨definitionOf validation2020 "stringArray", scopeAt "meta/validation" (k + 1)⟩ := by
  have hparts : Schema.partsOfPointer "/$defs/stringArray" = .ok ["$defs", "stringArray"] :=
    Schema.partsOfPointer_eq (by decide) (by decide)
  exact follow_definition (List.mem_of_mem_drop validation_mem) k (by decide) (by decide) hparts
    rfl rfl

/-- A list of texts without repetitions is admitted as one. -/
lemma admits_stringArray (n k : ℕ) {texts : List String} (h : texts.Nodup) :
    Schema.Admits (followWithin registry n) (Schema.ofContents (scopeAt "meta/validation" k)
      (definitionOf validation2020 "stringArray")) (.array (texts.map .string)) := by
  have hread : Schema.ofContents (scopeAt "meta/validation" k)
      (definitionOf validation2020 "stringArray") = .keywords [
        .items "items" 0 (.keywords [.assertion "type" (.type false .string)]),
        .assertion "type" (.type false .array), .assertion "uniqueItems" .uniqueItems] := rfl
  rw [hread, Schema.admits_keywords, List.forall_mem_cons, List.forall_mem_cons,
    List.forall_mem_singleton]
  refine ⟨?_, Schema.Keyword.admits_assertion.mpr rfl, ?_⟩
  · rw [Schema.Keyword.admits_items]
    rintro list ⟨⟩ w hw
    obtain ⟨text, -, rfl⟩ := List.mem_map.mp hw
    rw [Schema.admits_keywords, List.forall_mem_singleton]
    exact Schema.Keyword.admits_assertion.mpr rfl
  · rw [Schema.Keyword.admits_assertion, Schema.Assertion.failures_uniqueItems_eq_nil_iff]
    exact Json.allDistinct_strings h

/-- The name of a type is admitted as one. -/
lemma admits_simpleTypes (n k : ℕ) (t : Schema.ValueType) :
    Schema.Admits (followWithin registry n) (Schema.ofContents (scopeAt "meta/validation" k)
      (definitionOf validation2020 "simpleTypes")) (.string t.name) := by
  have hread : Schema.ofContents (scopeAt "meta/validation" k)
      (definitionOf validation2020 "simpleTypes") = .keywords [.assertion "enum" (.enum
        (Schema.ValueType.all.map fun t => .string t.name))] := rfl
  have hname : Json.same (.string t.name) (.string t.name) = true := by
    rw [Json.same, beq_self_eq_true]
  have hall : t ∈ Schema.ValueType.all := by
    cases t <;> decide
  rw [hread, Schema.admits_keywords, List.forall_mem_singleton, Schema.Keyword.admits_assertion,
    Schema.Assertion.failures_enum_eq_nil_iff]
  exact ⟨.string t.name, List.mem_map.mpr ⟨t, hall, rfl⟩, hname⟩

/-! ## What stands under the keywords -/

/-- The schema for types: one of two, for one name or for several. -/
lemma schemasUnder_type (k : ℕ) :
    Schema.schemasUnder (scopeAt "meta/validation" k) validation2020 "type" = [
      .keywords [.anyOf [
        .keywords [.reference "$ref" ⟨.named "#/$defs/simpleTypes", scopeAt "meta/validation" k⟩],
        .keywords [
          .items "items" 0 (.keywords [
            .reference "$ref" ⟨.named "#/$defs/simpleTypes", scopeAt "meta/validation" k⟩]),
          .assertion "minItems" (.minItems 1), .assertion "type" (.type false .array),
          .assertion "uniqueItems" .uniqueItems]]]] := rfl

/-- The schema for required members. -/
lemma schemasUnder_required (k : ℕ) :
    Schema.schemasUnder (scopeAt "meta/validation" k) validation2020 "required" = [
      .keywords [.reference "$ref" ⟨.named "#/$defs/stringArray", scopeAt "meta/validation" k⟩]] :=
  rfl

/-- What stands under a clause without shapes is admitted by the vocabulary for rules. -/
theorem admits_validation_clause (n k : ℕ) {c : Clause} (hc : c.IsProper) :
    ∀ t ∈ Schema.schemasUnder (scopeAt "meta/validation" (k + 1)) validation2020 c.keyword,
      Schema.Admits (followWithin registry n) t c.toJson := by
  cases c with
  | type t =>
    rw [Clause.keyword, schemasUnder_type, List.forall_mem_singleton, Schema.admits_keywords,
      List.forall_mem_singleton, Schema.Keyword.admits_anyOf]
    refine ⟨_, List.mem_cons_self, admits_of_follow (follow_simpleTypes k) fun m _ => ?_⟩
    exact admits_simpleTypes m (k + 1) t
  | types list =>
    rw [Clause.keyword, schemasUnder_type, List.forall_mem_singleton, Schema.admits_keywords,
      List.forall_mem_singleton, Schema.Keyword.admits_anyOf]
    refine ⟨_, List.mem_cons_of_mem _ List.mem_cons_self, ?_⟩
    rw [Clause.toJson, Schema.admits_keywords, List.forall_mem_cons, List.forall_mem_cons,
      List.forall_mem_cons, List.forall_mem_singleton]
    refine ⟨?_, ?_, Schema.Keyword.admits_assertion.mpr rfl, ?_⟩
    · rw [Schema.Keyword.admits_items]
      rintro _ ⟨⟩ w hw
      obtain ⟨t, -, rfl⟩ := List.mem_map.mp hw
      exact admits_of_follow (follow_simpleTypes k) fun m _ => admits_simpleTypes m (k + 1) t
    · rw [Schema.Keyword.admits_assertion, Schema.Assertion.failures_minItems_eq_nil_iff,
        List.length_map]
      exact List.length_pos_of_ne_nil hc.1
    · have hnames : (list.map Schema.ValueType.name).Nodup :=
        hc.2.map Schema.ValueType.name_injective
      rw [Schema.Keyword.admits_assertion, Schema.Assertion.failures_uniqueItems_eq_nil_iff,
        ← Function.comp_def, ← List.map_map]
      exact Json.allDistinct_strings hnames
  | required names =>
    rw [Clause.keyword, schemasUnder_required, List.forall_mem_singleton]
    exact admits_of_follow (follow_stringArray k) fun m _ => admits_stringArray m (k + 1) hc
  | _ =>
    rw [Clause.keyword]
    exact fun t ht => by cases ht

/-- The schema of a shape is admitted where the root is asked for it, if the root admits it within
every smaller bound. -/
lemma admits_of_meta {n k : ℕ} {s : Shape}
    (hs : ∀ m < n, Schema.Admits (followWithin registry m)
      (Schema.ofContents (scopeAt "schema" (k + 1)) draft2020) s.toJson) :
    Schema.Admits (followWithin registry n) (.keywords [
      .reference "$dynamicRef" ⟨.named "#meta", scopeAt "meta/applicator" (k + 1)⟩]) s.toJson :=
  admits_of_follow (follow_meta (List.mem_of_mem_drop applicator_mem) k) hs

/-- A list of schemas of shapes is admitted as one, if the root admits each of them within every
smaller bound. -/
lemma admits_of_schemaArray {n k : ℕ} {branches : List Shape} (hbranches : branches ≠ [])
    (hshapes : ∀ m < n, ∀ s ∈ branches, Schema.Admits (followWithin registry m)
      (Schema.ofContents (scopeAt "schema" (k + 1)) draft2020) s.toJson) :
    Schema.Admits (followWithin registry n) (.keywords [
      .reference "$ref" ⟨.named "#/$defs/schemaArray", scopeAt "meta/applicator" (k + 1)⟩])
      (.array (listOf branches)) := by
  have hread : Schema.ofContents (scopeAt "meta/applicator" (k + 1))
      (definitionOf applicator2020 "schemaArray") = .keywords [
        .items "items" 0 (.keywords [
          .reference "$dynamicRef" ⟨.named "#meta", scopeAt "meta/applicator" (k + 1)⟩]),
        .assertion "minItems" (.minItems 1), .assertion "type" (.type false .array)] := rfl
  refine admits_of_follow (follow_schemaArray k) fun m hm => ?_
  dsimp only
  rw [hread, Schema.admits_keywords, List.forall_mem_cons, List.forall_mem_cons,
    List.forall_mem_singleton, listOf_eq_map]
  refine ⟨?_, ?_, Schema.Keyword.admits_assertion.mpr rfl⟩
  · rw [Schema.Keyword.admits_items]
    rintro _ ⟨⟩ w hw
    obtain ⟨s, hs, rfl⟩ := List.mem_map.mp hw
    exact admits_of_meta fun b hb => hshapes b (Nat.lt_trans hb hm) s hs
  · rw [Schema.Keyword.admits_assertion, Schema.Assertion.failures_minItems_eq_nil_iff,
      List.length_map]
    exact List.length_pos_of_ne_nil hbranches

/-- The schema for listed members. -/
lemma schemasUnder_properties (k : ℕ) :
    Schema.schemasUnder (scopeAt "meta/applicator" k) applicator2020 "properties" = [
      .keywords [
        .members [] [] (.keywords [
          .reference "$dynamicRef" ⟨.named "#meta", scopeAt "meta/applicator" k⟩]),
        .assertion "type" (.type false .object)]] := rfl

/-- The schema for one schema. -/
lemma schemasUnder_one {name : String} (hname : name = "items" ∨ name = "not") (k : ℕ) :
    Schema.schemasUnder (scopeAt "meta/applicator" k) applicator2020 name = [
      .keywords [.reference "$dynamicRef" ⟨.named "#meta", scopeAt "meta/applicator" k⟩]] := by
  rcases hname with rfl | rfl <;> rfl

/-- The schema for a list of schemas. -/
lemma schemasUnder_many {name : String} (hname : name = "allOf" ∨ name = "anyOf" ∨ name = "oneOf")
    (k : ℕ) :
    Schema.schemasUnder (scopeAt "meta/applicator" k) applicator2020 name = [
      .keywords [.reference "$ref" ⟨.named "#/$defs/schemaArray",
        scopeAt "meta/applicator" k⟩]] := by
  rcases hname with rfl | rfl | rfl <;> rfl

/-- What stands under a clause with shapes is admitted by the vocabulary for schemas inside schemas,
if the root admits the schemas of these shapes within every smaller bound. -/
theorem admits_applicator_clause {n k : ℕ} {c : Clause} (hc : c.IsProper)
    (hshapes : ∀ m < n, ∀ s ∈ c.shapes, Schema.Admits (followWithin registry m)
      (Schema.ofContents (scopeAt "schema" (k + 1)) draft2020) s.toJson) :
    ∀ t ∈ Schema.schemasUnder (scopeAt "meta/applicator" (k + 1)) applicator2020 c.keyword,
      Schema.Admits (followWithin registry n) t c.toJson := by
  cases c with
  | properties list =>
    rw [Clause.keyword, schemasUnder_properties, List.forall_mem_singleton, Schema.admits_keywords,
      List.forall_mem_cons, List.forall_mem_singleton, Schema.Keyword.admits_members,
      Clause.toJson, namedOf_eq_map]
    refine ⟨List.forall_mem_map.mpr fun m hm => ?_, Schema.Keyword.admits_assertion.mpr rfl⟩
    exact admits_of_meta fun b hb => hshapes b hb m.2 (List.mem_map_of_mem hm)
  | items s =>
    rw [Clause.keyword, schemasUnder_one (.inl rfl), List.forall_mem_singleton]
    exact admits_of_meta fun b hb => hshapes b hb s (List.mem_singleton_self s)
  | not s =>
    rw [Clause.keyword, schemasUnder_one (.inr rfl), List.forall_mem_singleton]
    exact admits_of_meta fun b hb => hshapes b hb s (List.mem_singleton_self s)
  | allOf branches =>
    rw [Clause.keyword, schemasUnder_many (.inl rfl), List.forall_mem_singleton]
    exact admits_of_schemaArray hc hshapes
  | anyOf branches =>
    rw [Clause.keyword, schemasUnder_many (.inr (.inl rfl)), List.forall_mem_singleton]
    exact admits_of_schemaArray hc hshapes
  | oneOf branches =>
    rw [Clause.keyword, schemasUnder_many (.inr (.inr rfl)), List.forall_mem_singleton]
    exact admits_of_schemaArray hc hshapes
  | _ =>
    rw [Clause.keyword]
    exact fun t ht => by cases ht

/-! ## The root -/

/-- The documents to which the root refers. -/
def vocabularies : List (String × Json) :=
  (latestDocuments.drop 1).filter fun p => p.1 ≠ "meta/format-assertion"

/-- What the root is read into: references to all vocabularies, and members of earlier drafts. -/
lemma read_draft2020 (k : ℕ) :
    Schema.ofContents (scopeAt "schema" k) draft2020 = .keywords [
      .allOf (vocabularies.map fun p =>
        .keywords [.reference "$ref" ⟨.named p.1, scopeAt "schema" k⟩]),
      .properties (Schema.namedSchemasOf (scopeAt "schema" k) (Schema.propertiesOf draft2020)),
      .assertion "type" (.types false [.boolean, .object])] := rfl

/-- The root itself asks for nothing that stands under the keyword of a clause. -/
lemma keyword_notMem_draft2020 :
    ∀ m ∈ Schema.propertiesOf draft2020, m.1 ∉ Clause.keywords := by
  decide

/-- Only two vocabularies ask for anything that stands under the keyword of a clause. -/
lemma vocabulary_cases : ∀ p ∈ vocabularies,
    p = ("meta/applicator", applicator2020) ∨ p = ("meta/validation", validation2020) ∨
      ∀ m ∈ Schema.propertiesOf p.2, m.1 ∉ Clause.keywords := by
  have hlist : vocabularies = [("meta/core", core2020), ("meta/applicator", applicator2020),
      ("meta/unevaluated", unevaluated2020), ("meta/validation", validation2020),
      ("meta/meta-data", metaData2020), ("meta/format-annotation", formatAnnotation2020),
      ("meta/content", content2020)] := rfl
  rw [hlist]
  iterate 6 rw [List.forall_mem_cons]
  rw [List.forall_mem_singleton]
  refine ⟨.inr (.inr ?_), .inl rfl, .inr (.inr ?_), .inr (.inl rfl), .inr (.inr ?_),
    .inr (.inr ?_), .inr (.inr ?_)⟩
  all_goals decide

/-- The root admits a verdict or an object if each vocabulary admits each of its members, and none
of them is a member of earlier drafts. -/
theorem admits_root {n k : ℕ} {v : Json}
    (htype : ∃ t ∈ [Schema.ValueType.boolean, Schema.ValueType.object], t.accepts false v = true)
    (hlatest : ∀ keyword w, v.get? keyword = some w →
      ∀ m ∈ Schema.propertiesOf draft2020, m.1 ≠ keyword)
    (hmembers : ∀ p ∈ vocabularies, ∀ m < n, ∀ keyword w, v.get? keyword = some w →
      ∀ t ∈ Schema.schemasUnder (scopeAt p.1 (k + 1)) p.2 keyword,
        Schema.Admits (followWithin registry m) t w) :
    Schema.Admits (followWithin registry n) (Schema.ofContents (scopeAt "schema" k) draft2020)
      v := by
  rw [read_draft2020, Schema.admits_keywords, List.forall_mem_cons, List.forall_mem_cons,
    List.forall_mem_singleton, Schema.Keyword.admits_allOf, List.forall_mem_map,
    Schema.Keyword.admits_assertion, Schema.Assertion.failures_types_eq_nil_iff]
  refine ⟨fun p hp => ?_, Schema.admits_propertiesOf fun keyword w hw => ?_, htype⟩
  · have hdocument := (List.mem_filter.mp hp).1
    refine admits_of_follow (follow_document hdocument k) fun m hm => ?_
    exact Schema.admits_document hdocument htype (hmembers p hp m hm)
  · rw [Schema.schemasUnder_eq_nil (hlatest keyword w hw)]
    exact fun t ht => by cases ht

/-- A keyword of clauses is no other name. -/
lemma ne_keyword {document : Json} (h : ∀ m ∈ Schema.propertiesOf document, m.1 ∉ Clause.keywords)
    (c : Clause) : ∀ m ∈ Schema.propertiesOf document, m.1 ≠ c.keyword :=
  fun m hm hname => h m hm (hname ▸ c.keyword_mem_keywords)

/-- The clauses of a shape that can be used can be used, and so can the shapes inside them. -/
lemma WellFormed.of_mem_list {s : Shape} (hs : s.WellFormed) {c : Clause} (hc : c ∈ s.list) :
    c.IsProper ∧ ∀ t ∈ c.shapes, t.WellFormed := by
  cases hs with
  | always verdict => cases hc
  | clauses _ hproper hshapes => exact ⟨hproper c hc, hshapes c hc⟩

/-- The meta-schema of the latest draft admits the schema of every shape that can be used, however
many references are followed. -/
theorem admits_draft2020 (n k : ℕ) {s : Shape} (hs : s.WellFormed) :
    Schema.Admits (followWithin registry n) (Schema.ofContents (scopeAt "schema" k) draft2020)
      s.toJson := by
  induction n using Nat.strong_induction_on generalizing k s with
  | h n ih =>
    refine admits_root (exists_accepts_toJson s) (fun keyword w hw => ?_)
      fun p hp m hm keyword w hw => ?_
    · obtain ⟨c, hc, rfl, rfl⟩ := exists_clause_of_get? hw
      exact ne_keyword keyword_notMem_draft2020 c
    · obtain ⟨c, hc, rfl, rfl⟩ := exists_clause_of_get? hw
      obtain ⟨hproper, hshapes⟩ := hs.of_mem_list hc
      rcases vocabulary_cases p hp with rfl | rfl | hnone
      · exact admits_applicator_clause hproper fun b hb t ht =>
          ih b (Nat.lt_trans hb hm) (k + 1) (hshapes t ht)
      · exact admits_validation_clause m k hproper
      · rw [Schema.schemasUnder_eq_nil (ne_keyword hnone c)]
        exact fun t ht => by cases ht

end Shape

end ConfigCheck
