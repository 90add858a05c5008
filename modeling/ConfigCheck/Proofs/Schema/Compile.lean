import ConfigCheck.Proofs.Outcome
import ConfigCheck.Schema.Validator

/-!
# Compiling schemas

A document is taken for a schema exactly if nothing stands against it at any of the steps, and then
its validator holds the schema that is read and the resources that are collected
(`Validator.ofJson_eq_ok_iff`).
-/

namespace ConfigCheck

namespace Schema

/-- A document of a draft stands at a base, and nothing is wrong with it as a schema of the draft;
`collection` is what is collected from it. -/
structure IsUsable (document : Json) (draft : Draft) (base : Uri) (collection : Collection) :
    Prop where
  /-- The draft is that of the document. -/
  drafted : draftOf document = .ok draft
  /-- The base is that of the document. -/
  based : documentBase draft document = .ok base
  /-- The schemas inside it can be collected. -/
  collected : MetaSchema.registry.collect base ⟨document, draft⟩ = .ok collection
  /-- No reference leads to a schema that is not there. -/
  nothingMissing : collection.missing? = none
  /-- The document meets the meta-schema of its draft. -/
  meetsMetaSchema : metaComplaint? draft document = none
  /-- No keyword is unusable. -/
  withoutDefect : firstDefect? collection.registry (collection.registry.nodes + 1)
    (ofJson ⟨base, [], draft, draft⟩ document) = none

end Schema

/-- A document is taken for a schema exactly if nothing is wrong with it. -/
theorem Validator.ofJson_eq_ok_iff {document : Json} {v : Validator} :
    Validator.ofJson document = .ok v ↔ ∃ draft base collection,
      Schema.IsUsable document draft base collection ∧
        v = ⟨Schema.ofJson ⟨base, [], draft, draft⟩ document, collection.registry⟩ := by
  unfold Validator.ofJson
  rw [bind_eq_ok_iff]
  refine exists_congr fun draft => ?_
  constructor
  · rintro ⟨hdraft, h⟩
    obtain ⟨base, hbase, h⟩ := bind_eq_ok_iff.mp h
    refine ⟨base, ?_⟩
    generalize hmeta : Schema.metaComplaint? draft document = complaint at h
    generalize hcollect : Schema.MetaSchema.registry.collect base ⟨document, draft⟩ = collected at h
    cases collected with
    | error fault => cases h
    | ok collection =>
      cases hmissing : collection.missing? with
      | some uri =>
        simp only [bind, Except.bind, hmissing] at h
        cases h
      | none =>
        cases complaint with
        | some complaint =>
          simp only [bind, Except.bind, hmissing] at h
          cases h
        | none =>
          cases hdefect : Schema.firstDefect? collection.registry (collection.registry.nodes + 1)
              (Schema.ofJson ⟨base, [], draft, draft⟩ document) with
          | some d =>
            simp only [bind, Except.bind, hmissing, hdefect] at h
            cases h
          | none =>
            simp only [bind, Except.bind, hmissing, hdefect] at h
            cases h
            exact ⟨collection, ⟨hdraft, hbase, hcollect, hmissing, hmeta, hdefect⟩, rfl⟩
  · rintro ⟨base, collection, husable, rfl⟩
    refine ⟨husable.drafted, bind_eq_ok_iff.mpr ⟨base, husable.based, ?_⟩⟩
    have hmeta := husable.meetsMetaSchema
    have hcollect := husable.collected
    generalize Schema.metaComplaint? draft document = complaint at hmeta ⊢
    generalize Schema.MetaSchema.registry.collect base ⟨document, draft⟩ = collected at hcollect ⊢
    subst hmeta hcollect
    simp only [bind, Except.bind, husable.nothingMissing, husable.withoutDefect]
    rfl

end ConfigCheck
