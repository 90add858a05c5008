import ConfigCheck.Json.Path

/-!
# Violations

A violation says which constraint of the schema a node of the document does not meet.  Its
category comes from the keyword of the constraint.
-/

namespace ConfigCheck

/-- The category of a violation. -/
inductive Category where
  /-- A required property is missing. -/
  | missingProperty
  /-- A value of another type. -/
  | typeMismatch
  /-- A value that is not among the allowed ones. -/
  | enumMismatch
  /-- A number beyond a bound, or not a multiple. -/
  | outOfRange
  /-- A string that breaks a length, a pattern or a format. -/
  | stringConstraint
  /-- An array that breaks a rule on its items. -/
  | arrayConstraint
  /-- A property that should not be there, or too few or too many. -/
  | unexpectedProperty
  /-- A combination of schemas that does not hold. -/
  | composition
  /-- Any other keyword, as it stands in the schema. -/
  | other (keyword : String)
deriving DecidableEq, Repr, Inhabited

namespace Category

/-- The category of a keyword. -/
def ofKeyword (keyword : String) : Category :=
  if keyword ∈ ["required", "dependentRequired", "dependencies"] then .missingProperty
  else if keyword = "type" then .typeMismatch
  else if keyword ∈ ["enum", "const"] then .enumMismatch
  else if keyword ∈ ["minimum", "maximum", "exclusiveMinimum", "exclusiveMaximum", "multipleOf"]
    then .outOfRange
  else if keyword ∈ ["pattern", "minLength", "maxLength", "format"] then .stringConstraint
  else if keyword ∈ ["items", "prefixItems", "additionalItems", "minItems", "maxItems",
    "uniqueItems", "contains", "minContains", "maxContains"] then .arrayConstraint
  else if keyword ∈ ["additionalProperties", "unevaluatedProperties", "propertyNames",
    "minProperties", "maxProperties"] then .unexpectedProperty
  else if keyword ∈ ["allOf", "anyOf", "oneOf", "not", "if", "then", "else"] then .composition
  else .other keyword

/-- The name of the category in reports. -/
def name : Category → String
  | .missingProperty => "missing-required-property"
  | .typeMismatch => "type-mismatch"
  | .enumMismatch => "enum-mismatch"
  | .outOfRange => "out-of-range"
  | .stringConstraint => "string-constraint"
  | .arrayConstraint => "array-constraint"
  | .unexpectedProperty => "unexpected-property"
  | .composition => "composition"
  | .other keyword => keyword

/-- The category as it is shown in a log. -/
def detail : Category → String
  | .missingProperty => "MissingProperty"
  | .typeMismatch => "TypeMismatch"
  | .enumMismatch => "EnumMismatch"
  | .outOfRange => "OutOfRange"
  | .stringConstraint => "StringConstraint"
  | .arrayConstraint => "ArrayConstraint"
  | .unexpectedProperty => "UnexpectedProperty"
  | .composition => "Composition"
  | .other keyword => Text.wrap "Other" (Text.quote keyword)

end Category

/-- A constraint that a node of a document does not meet. -/
structure Violation where
  /-- From the root of the document to the node. -/
  instancePath : List Json.Segment
  /-- The category of the constraint. -/
  category : Category
  /-- What is wrong, without the place. -/
  message : String
  /-- The name of a required property that is missing; it is not part of the path. -/
  missingProperty : Option String
  /-- The pointer to the constraint in the schema. -/
  schemaPath : String
deriving DecidableEq, Repr, Inhabited

/-- The violation with all its parts, as it is shown in a log. -/
def Violation.detail (v : Violation) : String :=
  Text.record "Violation"
    [("instance_path", Text.list (v.instancePath.map Json.Segment.detail)),
     ("kind", v.category.detail),
     ("message", Text.quote v.message),
     ("missing_property", match v.missingProperty with
        | some name => Text.wrap "Some" (Text.quote name)
        | none => "None"),
     ("schema_path", Text.quote v.schemaPath)]

end ConfigCheck
