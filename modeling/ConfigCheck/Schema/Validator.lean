import ConfigCheck.Schema.Defect
import ConfigCheck.Schema.Evaluate
import ConfigCheck.Schema.MetaSchema

/-!
# Validators

A validator is a schema that has been found usable, with the resources to which it refers.  A value
is taken for a schema if its draft is known, its references lead somewhere, it meets the
meta-schema of its draft, and none of its keywords is unusable, in this order
(`Validator.ofJson`).  Validation gives all violations of a document in order
(`Validator.violations`).
-/

namespace ConfigCheck

namespace Schema

/-- What a schema finds in a value when references are followed; the number bounds how many of
them are followed one inside the other. -/
def outcomeWithin (registry : Registry) : Nat → Schema → Json → Outcome
  | 0, s, v => evaluate (fun _ _ => {}) s v
  | n + 1, s, v =>
    evaluate (fun r w =>
      match registry.follow r with
      | .ok target => outcomeWithin registry n (ofContents target.scope target.contents) w
      | .error _ => {}) s v

/-- The number of values in all resources of a registry. -/
def Registry.nodes (r : Registry) : Nat :=
  r.resources.foldl (fun n (_, s) => n + s.contents.nodes) 0

/-- How many references are followed one inside the other.  Between two steps into the value no
reference is followed twice, unless the schema would go on without end. -/
def Registry.budget (r : Registry) (value : Json) : Nat := (r.nodes + 1) * (value.depth + 2)

/-- What a schema finds in a value. -/
def outcome (registry : Registry) (s : Schema) (v : Json) : Outcome :=
  outcomeWithin registry (registry.budget v) s v

/-- Why a value cannot be taken for a schema. -/
inductive CompileError where
  /-- Its schemas cannot be collected. -/
  | collecting (fault : CollectFault)
  /-- A reference leads nowhere. -/
  | lookup (fault : LookupFault)
  /-- The value does not meet the meta-schema. -/
  | metaSchema (complaint : Complaint)
  /-- A keyword or a reference is unusable. -/
  | defect (d : Defect)
deriving Repr, Inhabited

/-- The error in words. -/
def CompileError.message : CompileError → String
  | collecting fault => fault.message
  | lookup fault => fault.message
  | metaSchema complaint => complaint.message
  | defect d => d.message

/-- The draft of a document. -/
def draftOf (document : Json) : Except CompileError Draft :=
  match Draft.latest.detect document.members with
  | .ok d => .ok d
  | .error name => .error (.collecting (.unknownDraft name))

/-- The base of a document: its identifier, or that of a document without one. -/
def documentBase (d : Draft) (document : Json) : Except CompileError Uri :=
  match d.identifierOf? document.members with
  | none => .ok Uri.unnamed
  | some id =>
    match resolveText Uri.unnamed id with
    | .ok base => .ok base
    | .error fault => .error (.collecting (.base fault))

/-- What the meta-schema of a draft has against a document, first of all. -/
def metaComplaint? (d : Draft) (document : Json) : Option Complaint :=
  (outcome MetaSchema.registry (MetaSchema.schemaOf d) document).failures.head?.map
    Failure.complaint

end Schema

/-- A usable schema with the resources to which it refers. -/
structure Validator where
  /-- The schema. -/
  schema : Schema
  /-- The resources. -/
  registry : Schema.Registry

namespace Validator

/-- Takes a document for a schema. -/
def ofJson (document : Json) : Except Schema.CompileError Validator := do
  let draft ← Schema.draftOf document
  let base ← Schema.documentBase draft document
  let collection ←
    match Schema.MetaSchema.registry.collect base ⟨document, draft⟩ with
    | .ok c => .ok c
    | .error fault => .error (.collecting fault)
  if let some uri := collection.missing? then throw (.lookup (.external uri))
  if let some complaint := Schema.metaComplaint? draft document then throw (.metaSchema complaint)
  let registry := collection.registry
  let schema := Schema.ofJson { base, outer := [], draft, root := draft } document
  if let some d := Schema.firstDefect? registry (registry.nodes + 1) schema then throw (.defect d)
  return { schema, registry }

/-- What a schema has against a value, in order. -/
def failures (v : Validator) (document : Json) : List Schema.Failure :=
  (Schema.outcome v.registry v.schema document).failures

/-- All violations of a document, in order. -/
def violations (v : Validator) (document : Json) : List Violation :=
  (v.failures document).map (Schema.Failure.toViolation document)

/-- Whether a document has no violation. -/
def accepts (v : Validator) (document : Json) : Bool := (v.violations document).isEmpty

end Validator

end ConfigCheck
