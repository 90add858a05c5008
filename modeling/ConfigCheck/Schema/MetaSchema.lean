import ConfigCheck.Schema.MetaSchema.Draft2019
import ConfigCheck.Schema.MetaSchema.Draft2020
import ConfigCheck.Schema.MetaSchema.Legacy
import ConfigCheck.Schema.Resource

/-!
# Meta-schemas

The schemas of schemas, and the registry in which all of them can be found.
-/

namespace ConfigCheck.Schema

/-- The schema that all schemas of a draft have to meet. -/
def Draft.metaSchema : Draft → Json
  | draft4 => MetaSchema.draft4
  | draft6 => MetaSchema.draft6
  | draft7 => MetaSchema.draft7
  | draft2019 => MetaSchema.draft2019
  | draft2020 => MetaSchema.draft2020

namespace MetaSchema

/-- The documents of all drafts. -/
def documents : List (Draft × Json) :=
  [(.draft4, draft4), (.draft6, draft6), (.draft7, draft7)] ++
  ([draft2019, core2019, applicator2019, validation2019, metaData2019, format2019,
    content2019].map fun v => (.draft2019, v)) ++
  ([draft2020, core2020, applicator2020, unevaluated2020, validation2020, metaData2020,
    formatAnnotation2020, formatAssertion2020, content2020].map fun v => (.draft2020, v))

/-- The base of a document that names itself. -/
def baseOf (d : Draft) (document : Json) : Uri :=
  match baseWithin Uri.unnamed d document.members with
  | .ok base => base
  | .error _ => Uri.unnamed

/-- All documents. -/
def registry : Registry :=
  documents.foldl (fun r (d, v) => r.add (baseOf d v) ⟨v, d⟩) {}

/-- The meta-schema of a draft, read. -/
def schemaOf (d : Draft) : Schema :=
  ofContents { base := baseOf d d.metaSchema, outer := [], draft := d, root := d } d.metaSchema

end MetaSchema

end ConfigCheck.Schema
