/-!
# Drafts

The editions of the schema language, in order.  A schema names its draft by an identifier; without
one it is of the latest.
-/

namespace ConfigCheck.Schema

/-- An edition of the schema language. -/
inductive Draft where
  /-- Draft 4. -/
  | draft4
  /-- Draft 6. -/
  | draft6
  /-- Draft 7. -/
  | draft7
  /-- Draft 2019-09. -/
  | draft2019
  /-- Draft 2020-12. -/
  | draft2020
deriving DecidableEq, Repr, Inhabited

namespace Draft

/-- The place of a draft in the order. -/
def rank : Draft → Nat
  | draft4 => 0
  | draft6 => 1
  | draft7 => 2
  | draft2019 => 3
  | draft2020 => 4

/-- The draft of a schema that names none. -/
def latest : Draft := draft2020

/-- Whether the draft is at least as late as another. -/
def since (d e : Draft) : Bool := e.rank ≤ d.rank

/-- The identifier of the meta-schema. -/
def identifier : Draft → String
  | draft4 => "http://json-schema.org/draft-04/schema"
  | draft6 => "http://json-schema.org/draft-06/schema"
  | draft7 => "http://json-schema.org/draft-07/schema"
  | draft2019 => "https://json-schema.org/draft/2019-09/schema"
  | draft2020 => "https://json-schema.org/draft/2020-12/schema"

/-- All drafts. -/
def all : List Draft := [draft4, draft6, draft7, draft2019, draft2020]

/-- A text without number signs at its end. -/
def trimMarks (s : String) : String :=
  String.ofList (s.toList.reverse.dropWhile (· == '#')).reverse

/-- The draft with an identifier, which may have an empty fragment behind it. -/
def ofIdentifier? (s : String) : Option Draft :=
  all.find? fun d => d.identifier = trimMarks s

/-- Whether formats are checked, not just noted. -/
def assertsFormats (d : Draft) : Bool := !d.since draft2019

/-- Whether a reference stands alone: the keywords beside it count for nothing. -/
def referencesStandAlone (d : Draft) : Bool := !d.since draft2019

/-- The keyword by which a schema names itself. -/
def idKeyword : Draft → String
  | draft4 => "id"
  | _ => "$id"

end Draft

/-! ## Vocabularies -/

/-- A group of keywords that is in use or not. -/
inductive Vocabulary where
  /-- References and identifiers. -/
  | core
  /-- Keywords that hold schemas. -/
  | applicator
  /-- Keywords for what other keywords have not looked at. -/
  | unevaluated
  /-- Keywords that are rules of their own. -/
  | validation
deriving DecidableEq, Repr, Inhabited

namespace Draft

/-- The vocabularies that a document of the draft uses.  Before draft 2019-09 there are none. -/
def vocabularies : Draft → List Vocabulary
  | draft4 | draft6 | draft7 => []
  | draft2019 => [.core, .applicator, .validation]
  | draft2020 => [.core, .applicator, .unevaluated, .validation]

/-- The vocabulary of a keyword in the draft. -/
def vocabularyOf (d : Draft) (keyword : String) : Vocabulary :=
  match keyword with
  | "$ref" | "$dynamicRef" | "$recursiveRef" => .core
  | "unevaluatedItems" | "unevaluatedProperties" =>
    if d.since draft2020 then .unevaluated else .applicator
  | "additionalItems" | "additionalProperties" | "allOf" | "anyOf" | "contains" | "dependencies"
  | "dependentSchemas" | "else" | "if" | "items" | "not" | "oneOf" | "patternProperties"
  | "prefixItems" | "properties" | "propertyNames" | "then" => .applicator
  | _ => .validation

/-- Whether a schema of draft `d` uses a keyword inside a document of draft `root`: up to draft 7
it does, later on the vocabularies of the document decide. -/
def uses (d root : Draft) (keyword : String) : Bool :=
  !d.since draft2019 || d.vocabularyOf keyword = .core ||
    d.vocabularyOf keyword ∈ root.vocabularies

end Draft

end ConfigCheck.Schema
