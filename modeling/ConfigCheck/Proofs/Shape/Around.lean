import ConfigCheck.Proofs.Shape.Compile

/-!
# Schemas around shapes

Some keywords stand around shapes without being clauses of them: a shape for the other members or
for the items that are left, definitions, and references.  The meta-schema of the latest draft
admits every object of such members (`Shape.admits_draft2020_object`).  So such an object is taken
for a schema as soon as its schemas can be collected and none of its keywords is unusable
(`Shape.ofJson_object_eq_ok`).
-/

namespace ConfigCheck

open Schema (followWithin)
open Schema.MetaSchema

namespace Shape

/-- A member that may stand around shapes. -/
inductive Surrounds : String → Json → Prop where
  /-- A shape for the other members. -/
  | others {s : Shape} : s.WellFormed → Surrounds "additionalProperties" s.toJson
  /-- A shape for the items that are left. -/
  | rest {s : Shape} : s.WellFormed → Surrounds "unevaluatedItems" s.toJson
  /-- Shapes with names. -/
  | definitions {list : List (String × Shape)} : (∀ m ∈ list, m.2.WellFormed) →
    Surrounds "$defs" (.object (list.map fun m => (m.1, m.2.toJson)))
  /-- A reference. -/
  | reference (text : String) : Surrounds "$ref" (.string text)

/-- The names of the members that may stand around shapes. -/
def surrounding : List String := ["additionalProperties", "unevaluatedItems", "$defs", "$ref"]

lemma Surrounds.name_mem {name : String} {v : Json} (h : Surrounds name v) :
    name ∈ surrounding := by
  cases h <;> simp [surrounding]

/-! ## Vocabularies -/

/-- The vocabulary for names and references. -/
lemma core_mem : ("meta/core", core2020) ∈ latestDocuments.drop 1 := by
  simp [latestDocuments]

/-- The vocabulary for what the others have not looked at. -/
lemma unevaluated_mem : ("meta/unevaluated", unevaluated2020) ∈ latestDocuments.drop 1 := by
  simp [latestDocuments]

/-- Only three vocabularies ask for anything that stands around shapes. -/
lemma vocabulary_cases_surrounding : ∀ p ∈ vocabularies,
    p = ("meta/core", core2020) ∨ p = ("meta/applicator", applicator2020) ∨
      p = ("meta/unevaluated", unevaluated2020) ∨
        ∀ m ∈ Schema.propertiesOf p.2, m.1 ∉ surrounding := by
  have hlist : vocabularies = [("meta/core", core2020), ("meta/applicator", applicator2020),
      ("meta/unevaluated", unevaluated2020), ("meta/validation", validation2020),
      ("meta/meta-data", metaData2020), ("meta/format-annotation", formatAnnotation2020),
      ("meta/content", content2020)] := rfl
  rw [hlist]
  iterate 6 rw [List.forall_mem_cons]
  rw [List.forall_mem_singleton]
  refine ⟨.inl rfl, .inr (.inl rfl), .inr (.inr (.inl rfl)), .inr (.inr (.inr ?_)),
    .inr (.inr (.inr ?_)), .inr (.inr (.inr ?_)), .inr (.inr (.inr ?_))⟩
  all_goals decide

section

variable {n k : ℕ} {s : Shape} {name : String} {v : Json}

/-- A document that asks for the root somewhere admits the schema of a shape there. -/
lemma admits_root_of_shape {document : Json} (hdocument : (name, document) ∈ latestDocuments)
    (hs : s.WellFormed) :
    Schema.Admits (followWithin registry n) (.keywords [
      .reference "$dynamicRef" ⟨.named "#meta", scopeAt name (k + 1)⟩]) s.toJson := by
  apply admits_of_follow (follow_meta hdocument k)
  intro m _
  exact admits_draft2020 m (k + 1) hs

lemma follow_uriReference (k : ℕ) :
    registry.follow ⟨.named "#/$defs/uriReferenceString", scopeAt "meta/core" (k + 1)⟩ =
      .ok ⟨definitionOf core2020 "uriReferenceString", scopeAt "meta/core" (k + 1)⟩ := by
  have hparts : Schema.partsOfPointer "/$defs/uriReferenceString" =
      .ok ["$defs", "uriReferenceString"] := Schema.partsOfPointer_eq (by decide) (by decide)
  exact follow_definition (List.mem_of_mem_drop core_mem) k (by decide) (by decide) hparts rfl rfl

/-- Each text is admitted as a reference. -/
lemma admits_uriReference (text : String) :
    Schema.Admits (followWithin registry n) (.keywords [
      .reference "$ref" ⟨.named "#/$defs/uriReferenceString", scopeAt "meta/core" (k + 1)⟩])
      (.string text) := by
  apply admits_of_follow (follow_uriReference k)
  intro m _
  have hread : Schema.ofContents (scopeAt "meta/core" (k + 1))
      (definitionOf core2020 "uriReferenceString") = .keywords [
        .assertion "type" (.type false .string)] := rfl
  dsimp only
  rw [hread, Schema.admits_keywords, List.forall_mem_singleton]
  exact Schema.Keyword.admits_assertion.mpr rfl

/-- The schema for definitions. -/
lemma schemasUnder_definitions (k : ℕ) :
    Schema.schemasUnder (scopeAt "meta/core" k) core2020 "$defs" = [
      .keywords [
        .members [] [] (.keywords [
          .reference "$dynamicRef" ⟨.named "#meta", scopeAt "meta/core" k⟩]),
        .assertion "type" (.type false .object)]] := rfl

/-- The schema for references. -/
lemma schemasUnder_reference (k : ℕ) :
    Schema.schemasUnder (scopeAt "meta/core" k) core2020 "$ref" = [
      .keywords [.reference "$ref" ⟨.named "#/$defs/uriReferenceString",
        scopeAt "meta/core" k⟩]] := rfl

/-- The schema for the other members. -/
lemma schemasUnder_others (k : ℕ) :
    Schema.schemasUnder (scopeAt "meta/applicator" k) applicator2020 "additionalProperties" = [
      .keywords [.reference "$dynamicRef" ⟨.named "#meta", scopeAt "meta/applicator" k⟩]] := rfl

/-- The schema for the items that are left. -/
lemma schemasUnder_rest (k : ℕ) :
    Schema.schemasUnder (scopeAt "meta/unevaluated" k) unevaluated2020 "unevaluatedItems" = [
      .keywords [.reference "$dynamicRef" ⟨.named "#meta", scopeAt "meta/unevaluated" k⟩]] := rfl

/-- The vocabulary for names and references admits what stands around shapes. -/
lemma admits_core (h : Surrounds name v) :
    ∀ t ∈ Schema.schemasUnder (scopeAt "meta/core" (k + 1)) core2020 name,
      Schema.Admits (followWithin registry n) t v := by
  cases h with
  | definitions hlist =>
    rw [schemasUnder_definitions, List.forall_mem_singleton, Schema.admits_keywords,
      List.forall_mem_cons, List.forall_mem_singleton, Schema.Keyword.admits_members]
    refine ⟨List.forall_mem_map.mpr fun m hm => ?_, Schema.Keyword.admits_assertion.mpr rfl⟩
    exact admits_root_of_shape (List.mem_of_mem_drop core_mem) (hlist m hm)
  | reference text =>
    rw [schemasUnder_reference, List.forall_mem_singleton]
    exact admits_uriReference text
  | others | rest =>
    rw [Schema.schemasUnder_eq_nil (by decide)]
    exact fun t ht => by cases ht

/-- The vocabulary for schemas inside schemas admits what stands around shapes. -/
lemma admits_applicator (h : Surrounds name v) :
    ∀ t ∈ Schema.schemasUnder (scopeAt "meta/applicator" (k + 1)) applicator2020 name,
      Schema.Admits (followWithin registry n) t v := by
  cases h with
  | others hs =>
    rw [schemasUnder_others, List.forall_mem_singleton]
    exact admits_root_of_shape (List.mem_of_mem_drop applicator_mem) hs
  | definitions | reference | rest =>
    rw [Schema.schemasUnder_eq_nil (by decide)]
    exact fun t ht => by cases ht

/-- The vocabulary for what is left admits what stands around shapes. -/
lemma admits_unevaluated (h : Surrounds name v) :
    ∀ t ∈ Schema.schemasUnder (scopeAt "meta/unevaluated" (k + 1)) unevaluated2020 name,
      Schema.Admits (followWithin registry n) t v := by
  cases h with
  | rest hs =>
    rw [schemasUnder_rest, List.forall_mem_singleton]
    exact admits_root_of_shape (List.mem_of_mem_drop unevaluated_mem) hs
  | definitions | reference | others =>
    rw [Schema.schemasUnder_eq_nil (by decide)]
    exact fun t ht => by cases ht

/-- Each vocabulary admits what stands around shapes. -/
theorem admits_surrounding {p : String × Json} (hp : p ∈ vocabularies) (h : Surrounds name v) :
    ∀ t ∈ Schema.schemasUnder (scopeAt p.1 (k + 1)) p.2 name,
      Schema.Admits (followWithin registry n) t v := by
  rcases vocabulary_cases_surrounding p hp with rfl | rfl | rfl | hnone
  · exact admits_core h
  · exact admits_applicator h
  · exact admits_unevaluated h
  · have hnothing : ∀ m ∈ Schema.propertiesOf p.2, m.1 ≠ name :=
      fun m hm hname => hnone m hm (hname ▸ h.name_mem)
    rw [Schema.schemasUnder_eq_nil hnothing]
    exact fun t ht => by cases ht

end

/-- The root itself asks for nothing that stands around shapes. -/
lemma surrounding_notMem_draft2020 :
    ∀ m ∈ Schema.propertiesOf draft2020, m.1 ∉ surrounding := by
  decide

/-- The meta-schema of the latest draft admits objects of members around shapes, however many
references are followed. -/
theorem admits_draft2020_object (n k : ℕ) {members : Json.Members}
    (hmembers : ∀ m ∈ members, Surrounds m.1 m.2) :
    Schema.Admits (followWithin registry n) (Schema.ofContents (scopeAt "schema" k) draft2020)
      (.object members) := by
  have htype : ∃ t ∈ [Schema.ValueType.boolean, Schema.ValueType.object],
      t.accepts false (.object members) = true := ⟨.object, by simp, rfl⟩
  have hsurrounds : ∀ keyword w, (Json.object members).get? keyword = some w →
      Surrounds keyword w := by
    intro keyword w hw
    exact hmembers (keyword, w) (Json.Members.mem_of_get? hw)
  apply admits_root htype
  · intro keyword w hw listed hlisted hname
    exact surrounding_notMem_draft2020 listed hlisted (hname ▸ (hsurrounds keyword w hw).name_mem)
  · intro p hp m _ keyword w hw
    exact admits_surrounding hp (hsurrounds keyword w hw)

/-! ## Collecting -/

/-- An object of members around shapes names neither itself, nor a place in it, nor a draft. -/
lemma isNameless_object {members : Json.Members} (hmembers : ∀ m ∈ members, Surrounds m.1 m.2) :
    Schema.IsNameless .latest (.object members) := by
  apply Schema.isNameless_of_isAnonymous
  unfold Schema.isAnonymous
  rw [List.all_eq_true]
  intro name hname
  have hother : name ∉ surrounding := by
    revert name
    decide
  have hnone : Json.Members.get? members name = none := by
    cases hget : Json.Members.get? members name with
    | none => rfl
    | some w => exact absurd (hmembers _ (Json.Members.mem_of_get? hget)).name_mem hother
  unfold Schema.textOf?
  rw [Json.members, hnone]
  rfl

/-- The schemas inside an object of members around shapes are those of shapes. -/
lemma exists_shape_of_mem_subschemas_object {members : Json.Members}
    (hmembers : ∀ m ∈ members, Surrounds m.1 m.2) {t : Json}
    (ht : t ∈ Schema.Draft.latest.subschemas (.object members)) :
    ∃ s : Shape, s.WellFormed ∧ s.toJson = t := by
  obtain ⟨⟨name, v⟩, hm, ht⟩ := List.mem_flatMap.mp ht
  have hsurrounds : Surrounds name v := hmembers _ hm
  cases hsurrounds with
  | @others s hs | @rest s hs =>
    refine ⟨s, hs, ?_⟩
    cases s <;> exact (List.mem_singleton.mp ht).symm
  | @definitions list hlist =>
    change t ∈ (list.map _).map _ at ht
    rw [List.map_map] at ht
    obtain ⟨m, hm, rfl⟩ := List.mem_map.mp ht
    exact ⟨m.2, hlist m hm, rfl⟩
  | reference text => cases ht

/-- If there is a reference among members, it leads to a shape in the object, or nowhere. -/
def RefersToShape (members : Json.Members) : Prop :=
  ∀ text, Schema.textOf? members "$ref" = some text → text.toList.head? = some '#' ∧
    ∀ t, Schema.localTarget? (.object members) text = some t →
      ∃ s : Shape, s.WellFormed ∧ s.toJson = t

/-- Nothing is collected from an object of members around shapes but the object itself; a reference
in it is looked at. -/
theorem collect_object {members : Json.Members} (hmembers : ∀ m ∈ members, Surrounds m.1 m.2)
    (hreference : RefersToShape members) (r : Schema.Registry) :
    ∃ seen, r.collect Uri.unnamed ⟨.object members, .latest⟩ =
      .ok { registry := r.insert Uri.unnamed ⟨.object members, .latest⟩, seen } := by
  have hnameless := isNameless_object hmembers
  have hshapes : ∀ t, (∃ s : Shape, s.WellFormed ∧ s.toJson = t) →
      Schema.IsSilent Uri.unnamed .latest t ∧
        ∀ u ∈ Schema.Draft.latest.subschemas t, ∃ s : Shape, s.WellFormed ∧ s.toJson = u := by
    rintro _ ⟨s, hs, rfl⟩
    refine ⟨s.isSilent_toJson, fun t ht => ?_⟩
    obtain ⟨c, hc, u, hu, rfl⟩ := exists_shape_of_mem_subschemas ht
    exact ⟨u, (hs.of_mem_list hc).2 u hu, rfl⟩
  have hsubs : ∀ t ∈ Schema.Draft.latest.subschemas (.object members),
      ∃ s : Shape, s.WellFormed ∧ s.toJson = t :=
    fun t ht => exists_shape_of_mem_subschemas_object hmembers ht
  have hreferences : ∀ c : Schema.Collection, ∃ seen,
      c.addReferences Uri.unnamed (.object members) = .ok { c with seen } := by
    intro c
    cases href : Schema.textOf? members "$ref" with
    | none =>
      have hinside : Schema.StaysInside Uri.unnamed (.object members) := .inl href
      refine ⟨c.seen, Schema.addReferences_eq_ok hinside (fun text htext => ?_) c⟩
      exact absurd (htext.symm.trans hnameless.draft) (Option.some_ne_none text)
    | some text =>
      obtain ⟨hmark, htarget⟩ := hreference text href
      have htext : Schema.textOf? (Json.object members).members "$ref" = some text := href
      refine Schema.addReferences_eq_ok_of_local htext hnameless.draft hmark (fun t ht => ?_) c
      obtain ⟨s, -, rfl⟩ := htarget t ht
      exact ⟨textOf?_reference_toJson s, s.isSilent_toJson.draft⟩
  obtain ⟨seen, hseen⟩ := hreferences
    { registry := r.insert Uri.unnamed ⟨.object members, .latest⟩ }
  refine ⟨seen, Schema.Registry.collect_eq_ok_of_visit hshapes ?_ hsubs⟩
  refine Schema.Collection.visit_eq_ok_of_addReferences
    (Schema.baseWithin_eq_ok hnameless.identifier) ?_ fun t ht => (hshapes t (hsubs t ht)).1
  rw [Schema.Collection.enter_eq_self hnameless]
  exact hseen

/-- An object of members around shapes is taken for a schema if no keyword of it is unusable and its
reference leads somewhere. -/
theorem ofJson_object_eq_ok_of_reference {members : Json.Members}
    (hmembers : ∀ m ∈ members, Surrounds m.1 m.2) (hreference : RefersToShape members)
    (hdefect : Schema.firstDefect? (registry.insert Uri.unnamed ⟨.object members, .latest⟩)
      ((registry.insert Uri.unnamed ⟨.object members, .latest⟩).nodes + 1)
      (Schema.ofJson ⟨Uri.unnamed, [], .latest, .latest⟩ (.object members)) = none) :
    Validator.ofJson (.object members) = .ok
      ⟨Schema.ofJson ⟨Uri.unnamed, [], .latest, .latest⟩ (.object members),
        registry.insert Uri.unnamed ⟨.object members, .latest⟩⟩ := by
  obtain ⟨seen, hcollect⟩ := collect_object hmembers hreference registry
  exact Validator.ofJson_eq_ok (isNameless_object hmembers) hcollect rfl
    (fun n => admits_draft2020_object n 0 hmembers) hdefect

/-- An object of members around shapes, without references, is taken for a schema if the search for
defects passes it. -/
theorem ofJson_object_eq_ok {members : Json.Members}
    (hmembers : ∀ m ∈ members, Surrounds m.1 m.2) (hlocal : ∀ m ∈ members, m.1 ≠ "$ref")
    (hpasses : ∀ visit, Schema.Passes visit
      (Schema.ofJson ⟨Uri.unnamed, [], .latest, .latest⟩ (.object members))) :
    Validator.ofJson (.object members) = .ok
      ⟨Schema.ofJson ⟨Uri.unnamed, [], .latest, .latest⟩ (.object members),
        registry.insert Uri.unnamed ⟨.object members, .latest⟩⟩ := by
  have hnone : Schema.textOf? members "$ref" = none := by
    unfold Schema.textOf?
    cases hget : Json.Members.get? members "$ref" with
    | none => rfl
    | some w => exact absurd rfl (hlocal _ (Json.Members.mem_of_get? hget))
  refine ofJson_object_eq_ok_of_reference hmembers (fun text htext => ?_)
    (Schema.firstDefect?_eq_none (hpasses _ []))
  exact absurd (htext.symm.trans hnone) (Option.some_ne_none text)

end Shape

end ConfigCheck
