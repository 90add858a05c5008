import ConfigCheck.Json.Printer
import ConfigCheck.Regex.Backtrack
import ConfigCheck.Report.Violation

/-!
# Complaints

A complaint is what a schema has against one value, as a cause: which rule does not hold, with the
value and the demand.  Its wording is `Complaint.message`; its category, where the cause alone
decides it, is `Complaint.category?`.
-/

namespace ConfigCheck.Schema

/-- A type that a schema can demand. -/
inductive ValueType where
  /-- A list. -/
  | array
  /-- `true` or `false`. -/
  | boolean
  /-- A number without fractional part. -/
  | integer
  /-- The value `null`. -/
  | null
  /-- A number. -/
  | number
  /-- Members with names. -/
  | object
  /-- A string. -/
  | string
deriving DecidableEq, Repr, Inhabited

namespace ValueType

/-- The name of a type. -/
def name : ValueType → String
  | array => "array"
  | boolean => "boolean"
  | integer => "integer"
  | null => "null"
  | number => "number"
  | object => "object"
  | string => "string"

/-- All types, in alphabetical order. -/
def all : List ValueType := [array, boolean, integer, null, number, object, string]

/-- The type with a name. -/
def ofName? (name : String) : Option ValueType := all.find? (·.name = name)

/-- Whether a value is of the type.  A strict reading takes the number `1.0` for no integer. -/
def accepts (strict : Bool) : ValueType → Json → Bool
  | array, .array _ => true
  | boolean, .bool _ => true
  | integer, .number n => match n with
    | .int _ => true
    | .float _ => !strict && n.isIntegral
  | null, .null => true
  | number, .number _ => true
  | object, .object _ => true
  | string, .string _ => true
  | _, _ => false

end ValueType

/-- What a schema has against a value. -/
inductive Complaint where
  /-- The schema is `false`. -/
  | falseSchema (value : Json)
  /-- The value is not of the type. -/
  | type (value : Json) (expected : ValueType)
  /-- The value is of none of the types. -/
  | types (value : Json) (expected : List ValueType)
  /-- There is no type of that name. -/
  | unknownType
  /-- A member is missing. -/
  | required (name : String)
  /-- The value is not the one that is expected. -/
  | const (expected : Json)
  /-- The value is none of the options. -/
  | enum (value : Json) (options : List Json)
  /-- The number is less than the limit. -/
  | minimum (value : Json) (limit : Number)
  /-- The number is greater than the limit. -/
  | maximum (value : Json) (limit : Number)
  /-- The number is not greater than the limit. -/
  | exclusiveMinimum (value : Json) (limit : Number)
  /-- The number is not less than the limit. -/
  | exclusiveMaximum (value : Json) (limit : Number)
  /-- The number is no multiple of another. -/
  | multipleOf (value : Json) (divisor : Number)
  /-- The string is too short. -/
  | minLength (value : Json) (limit : Nat)
  /-- The string is too long. -/
  | maxLength (value : Json) (limit : Nat)
  /-- The string does not match the pattern. -/
  | pattern (value : Json) (pattern : String)
  /-- The search for the pattern was given up. -/
  | patternLimit (cause : Regex.Exhausted)
  /-- The string does not have the format. -/
  | format (value : Json) (format : String)
  /-- The list is too short. -/
  | minItems (value : Json) (limit : Nat)
  /-- The list is too long. -/
  | maxItems (value : Json) (limit : Nat)
  /-- Two items are equal. -/
  | uniqueItems (value : Json)
  /-- There are items that nothing allows. -/
  | additionalItems (items : List Json)
  /-- No item, too few items or too many items are what they should be. -/
  | contains (value : Json)
  /-- There are items that no schema has looked at. -/
  | unevaluatedItems (items : List Json)
  /-- There are members that nothing allows. -/
  | additionalProperties (names : List String)
  /-- There are members that no schema has looked at. -/
  | unevaluatedProperties (names : List String)
  /-- There are too few members. -/
  | minProperties (value : Json) (limit : Nat)
  /-- There are too many members. -/
  | maxProperties (value : Json) (limit : Nat)
  /-- The name of a member is not as it should be. -/
  | propertyName (inner : Complaint)
  /-- None of the schemas holds. -/
  | anyOf (value : Json)
  /-- None of the schemas holds, of which one should. -/
  | oneOfNone (value : Json)
  /-- More than one of the schemas holds. -/
  | oneOfMany (value : Json)
  /-- A schema holds that should not. -/
  | not (value : Json) (schema : Json)
  /-- The string is not in the encoding. -/
  | contentEncoding (value : Json) (encoding : String)
  /-- The string does not hold what it should. -/
  | contentMediaType (value : Json) (mediaType : String)
  /-- The decoded string is no text; `reason` says why. -/
  | notText (reason : String)
deriving Repr, Inhabited

namespace Complaint

/-- `one` for a count of one, else `many`. -/
def plural (count : Nat) (one many : String) : String := if count = 1 then one else many

/-- A count with its noun. -/
def counted (count : Nat) (one many : String) : String :=
  s!"{count} " ++ plural count one many

/-- A list in words, with the verb that fits its length. -/
def wasUnexpected (parts : List String) : String :=
  ", ".intercalate parts ++ plural parts.length " was" " were" ++ " unexpected"

/-- A text between single quotes. -/
def singleQuoted (s : String) : String := "'" ++ s ++ "'"

/-- The complaint in words. -/
def message : Complaint → String
  | falseSchema v => s!"False schema does not allow {v.compact}"
  | type v t => s!"{v.compact} is not of type \"{t.name}\""
  | types v ts =>
    s!"{v.compact} is not of types " ++ ", ".intercalate (ts.map fun t => s!"\"{t.name}\"")
  | unknownType => "Unexpected type"
  | required name => s!"{(Json.string name).compact} is a required property"
  | const expected => s!"{expected.compact} was expected"
  | enum v options => s!"{v.compact} is not one of {(Json.array options).compact}"
  | minimum v n => s!"{v.compact} is less than the minimum of {n.write .json}"
  | maximum v n => s!"{v.compact} is greater than the maximum of {n.write .json}"
  | exclusiveMinimum v n =>
    s!"{v.compact} is less than or equal to the minimum of {n.write .json}"
  | exclusiveMaximum v n =>
    s!"{v.compact} is greater than or equal to the maximum of {n.write .json}"
  | multipleOf v n => s!"{v.compact} is not a multiple of {Notation.plain.write n.toBinary64}"
  | minLength v n => s!"{v.compact} is shorter than " ++ counted n "character" "characters"
  | maxLength v n => s!"{v.compact} is longer than " ++ counted n "character" "characters"
  | pattern v p => s!"{v.compact} does not match \"{p}\""
  | patternLimit cause => cause.message
  | format v f => s!"{v.compact} is not a \"{f}\""
  | minItems v n => s!"{v.compact} has less than " ++ counted n "item" "items"
  | maxItems v n => s!"{v.compact} has more than " ++ counted n "item" "items"
  | uniqueItems v => s!"{v.compact} has non-unique elements"
  | additionalItems items =>
    s!"Additional items are not allowed ({wasUnexpected (items.map Json.compact)})"
  | contains v => s!"None of {v.compact} are valid under the given schema"
  | unevaluatedItems items =>
    let parts := items.map fun v => singleQuoted v.compact
    s!"Unevaluated items are not allowed ({wasUnexpected parts})"
  | additionalProperties names =>
    s!"Additional properties are not allowed ({wasUnexpected (names.map singleQuoted)})"
  | unevaluatedProperties names =>
    s!"Unevaluated properties are not allowed ({wasUnexpected (names.map singleQuoted)})"
  | minProperties v n => s!"{v.compact} has less than " ++ counted n "property" "properties"
  | maxProperties v n => s!"{v.compact} has more than " ++ counted n "property" "properties"
  | propertyName inner => inner.message
  | anyOf v => s!"{v.compact} is not valid under any of the schemas listed in the 'anyOf' keyword"
  | oneOfNone v =>
    s!"{v.compact} is not valid under any of the schemas listed in the 'oneOf' keyword"
  | oneOfMany v =>
    s!"{v.compact} is valid under more than one of the schemas listed in the 'oneOf' keyword"
  | not v schema => s!"{schema.compact} is not allowed for {v.compact}"
  | contentEncoding v encoding =>
    s!"{v.compact} is not compliant with \"{encoding}\" content encoding"
  | contentMediaType v mediaType =>
    s!"{v.compact} is not compliant with \"{mediaType}\" media type"
  | notText reason => reason

/-- The category, where the cause decides it; else the keyword does. -/
def category? : Complaint → Option Category
  | required _ => some .missingProperty
  | type _ _ | types _ _ => some .typeMismatch
  | const _ | enum _ _ => some .enumMismatch
  | minimum _ _ | maximum _ _ | exclusiveMinimum _ _ | exclusiveMaximum _ _ | multipleOf _ _ =>
    some .outOfRange
  | minLength _ _ | maxLength _ _ | pattern _ _ | format _ _ => some .stringConstraint
  | minItems _ _ | maxItems _ _ | uniqueItems _ | additionalItems _ | contains _
  | unevaluatedItems _ => some .arrayConstraint
  | additionalProperties _ | unevaluatedProperties _ | minProperties _ _ | maxProperties _ _
  | propertyName _ => some .unexpectedProperty
  | falseSchema _ | anyOf _ | oneOfNone _ | oneOfMany _ | not _ _ => some .composition
  | unknownType | patternLimit _ | contentEncoding _ _ | contentMediaType _ _ | notText _ => none

/-- The name of the member that is missing. -/
def missing? : Complaint → Option String
  | required name => some name
  | _ => none

/-- A member is reported missing exactly in the category of missing members, if the cause decides
the category. -/
theorem missing?_isSome (c : Complaint) :
    c.missing?.isSome = (c.category? == some .missingProperty) := by
  cases c <;> rfl

/-- Whether a complaint says where in the value it was found.  One about a string that is no text
does not. -/
def isPlaced : Complaint → Bool
  | notText _ => false
  | _ => true

/-- Whether a complaint says where in the schema the rule stands.  One about a string that is no
text does not, not even if the string is the name of a member. -/
def isTraced : Complaint → Bool
  | notText _ => false
  | propertyName inner => inner.isTraced
  | _ => true

end Complaint

/-- A complaint with its place in the value and the place of the rule in the schema, as the tokens
of pointers. -/
structure Failure where
  /-- The tokens from the value that was looked at to the one that is complained about. -/
  place : List String
  /-- The tokens from the schema to the rule. -/
  rule : List String
  /-- What is wrong. -/
  complaint : Complaint
deriving Repr, Inhabited

namespace Failure

/-- A failure seen from around the value. -/
def inside (token : String) (f : Failure) : Failure := { f with place := token :: f.place }

/-- A failure seen from around the schema. -/
def below (tokens : List String) (f : Failure) : Failure := { f with rule := tokens ++ f.rule }

/-- The category of a failure: that of its cause, or else that of the last token of the rule. -/
def category (f : Failure) : Category :=
  f.complaint.category?.getD <| .ofKeyword (f.rule.getLast?.getD "")

/-- A failure as it is reported.  A complaint that does not say where it was found is reported for
the whole document, and one that does not say where the rule stands for the whole schema. -/
def reported (f : Failure) : Failure where
  place := if f.complaint.isPlaced then f.place else []
  rule := if f.complaint.isTraced then f.rule else []
  complaint := f.complaint

/-- The violation in a document.  The document decides which tokens are indices. -/
def toViolation (document : Json) (f : Failure) : Violation where
  instancePath := Json.resolvePointer (Json.pointerText f.reported.place) document
  category := f.reported.category
  message := f.complaint.message
  missingProperty := f.complaint.missing?
  schemaPath := Json.pointerText f.reported.rule

end Failure

end ConfigCheck.Schema
