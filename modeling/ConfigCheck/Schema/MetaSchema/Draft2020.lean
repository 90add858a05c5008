import ConfigCheck.Json.Value

/-!
# Meta-schemas of draft 2020-12

What a schema of draft 2020-12 has to look like: one document for each vocabulary, and one that
joins them.
-/

namespace ConfigCheck.Schema.MetaSchema

/-- The meta-schema of draft 2020-12. -/
def draft2020 : Json :=
  .object [
    ("$dynamicAnchor", .string "meta"),
    ("$id", .string "https://json-schema.org/draft/2020-12/schema"),
    ("$schema", .string "https://json-schema.org/draft/2020-12/schema"),
    ("$vocabulary", .object [("https://json-schema.org/draft/2020-12/vocab/applicator",
      .bool true), ("https://json-schema.org/draft/2020-12/vocab/content", .bool true),
      ("https://json-schema.org/draft/2020-12/vocab/core", .bool true),
      ("https://json-schema.org/draft/2020-12/vocab/format-annotation", .bool true),
      ("https://json-schema.org/draft/2020-12/vocab/meta-data", .bool true),
      ("https://json-schema.org/draft/2020-12/vocab/unevaluated", .bool true),
      ("https://json-schema.org/draft/2020-12/vocab/validation", .bool true)]),
    ("allOf", .array [.object [("$ref", .string "meta/core")], .object [("$ref",
      .string "meta/applicator")], .object [("$ref", .string "meta/unevaluated")],
      .object [("$ref", .string "meta/validation")], .object [("$ref", .string "meta/meta-data")],
      .object [("$ref", .string "meta/format-annotation")], .object [("$ref",
      .string "meta/content")]]),
    ("properties", .object [
      ("$recursiveAnchor", .object [("$ref", .string "meta/core#/$defs/anchorString"),
        ("deprecated", .bool true)]),
      ("$recursiveRef", .object [("$ref", .string "meta/core#/$defs/uriReferenceString"),
        ("deprecated", .bool true)]),
      ("definitions", .object [("additionalProperties", .object [("$dynamicRef",
        .string "#meta")]), ("default", .object []), ("deprecated", .bool true), ("type",
        .string "object")]),
      ("dependencies", .object [("additionalProperties", .object [("anyOf",
        .array [.object [("$dynamicRef", .string "#meta")], .object [("$ref",
        .string "meta/validation#/$defs/stringArray")]])]), ("default", .object []),
        ("deprecated", .bool true), ("type", .string "object")])]),
    ("title", .string "Core and Validation specifications meta-schema"),
    ("type", .array [.string "object", .string "boolean"])]

/-- The vocabulary `core` of draft 2020-12. -/
def core2020 : Json :=
  .object [
    ("$defs", .object [
      ("anchorString", .object [("pattern", .string "^[A-Za-z_][-A-Za-z0-9._]*$"), ("type",
        .string "string")]),
      ("uriReferenceString", .object [("format", .string "uri-reference"), ("type",
        .string "string")]),
      ("uriString", .object [("format", .string "uri"), ("type", .string "string")])]),
    ("$dynamicAnchor", .string "meta"),
    ("$id", .string "https://json-schema.org/draft/2020-12/meta/core"),
    ("$schema", .string "https://json-schema.org/draft/2020-12/schema"),
    ("$vocabulary", .object [("https://json-schema.org/draft/2020-12/vocab/core", .bool true)]),
    ("properties", .object [
      ("$anchor", .object [("$ref", .string "#/$defs/anchorString")]),
      ("$comment", .object [("type", .string "string")]),
      ("$defs", .object [("additionalProperties", .object [("$dynamicRef", .string "#meta")]),
        ("type", .string "object")]),
      ("$dynamicAnchor", .object [("$ref", .string "#/$defs/anchorString")]),
      ("$dynamicRef", .object [("$ref", .string "#/$defs/uriReferenceString")]),
      ("$id", .object [("$comment", .string "Non-empty fragments not allowed."), ("$ref",
        .string "#/$defs/uriReferenceString"), ("pattern", .string "^[^#]*#?$")]),
      ("$ref", .object [("$ref", .string "#/$defs/uriReferenceString")]),
      ("$schema", .object [("$ref", .string "#/$defs/uriString")]),
      ("$vocabulary", .object [("additionalProperties", .object [("type", .string "boolean")]),
        ("propertyNames", .object [("$ref", .string "#/$defs/uriString")]), ("type",
        .string "object")])]),
    ("title", .string "Core vocabulary meta-schema"),
    ("type", .array [.string "object", .string "boolean"])]

/-- The vocabulary `applicator` of draft 2020-12. -/
def applicator2020 : Json :=
  .object [
    ("$defs", .object [
      ("schemaArray", .object [("items", .object [("$dynamicRef", .string "#meta")]), ("minItems",
        .number (.int 1)), ("type", .string "array")])]),
    ("$dynamicAnchor", .string "meta"),
    ("$id", .string "https://json-schema.org/draft/2020-12/meta/applicator"),
    ("$schema", .string "https://json-schema.org/draft/2020-12/schema"),
    ("$vocabulary", .object [("https://json-schema.org/draft/2020-12/vocab/applicator",
      .bool true)]),
    ("properties", .object [
      ("additionalProperties", .object [("$dynamicRef", .string "#meta")]),
      ("allOf", .object [("$ref", .string "#/$defs/schemaArray")]),
      ("anyOf", .object [("$ref", .string "#/$defs/schemaArray")]),
      ("contains", .object [("$dynamicRef", .string "#meta")]),
      ("dependentSchemas", .object [("additionalProperties", .object [("$dynamicRef",
        .string "#meta")]), ("default", .object []), ("type", .string "object")]),
      ("else", .object [("$dynamicRef", .string "#meta")]),
      ("if", .object [("$dynamicRef", .string "#meta")]),
      ("items", .object [("$dynamicRef", .string "#meta")]),
      ("not", .object [("$dynamicRef", .string "#meta")]),
      ("oneOf", .object [("$ref", .string "#/$defs/schemaArray")]),
      ("patternProperties", .object [("additionalProperties", .object [("$dynamicRef",
        .string "#meta")]), ("default", .object []), ("propertyNames", .object [("format",
        .string "regex")]), ("type", .string "object")]),
      ("prefixItems", .object [("$ref", .string "#/$defs/schemaArray")]),
      ("properties", .object [("additionalProperties", .object [("$dynamicRef",
        .string "#meta")]), ("default", .object []), ("type", .string "object")]),
      ("propertyNames", .object [("$dynamicRef", .string "#meta")]),
      ("then", .object [("$dynamicRef", .string "#meta")])]),
    ("title", .string "Applicator vocabulary meta-schema"),
    ("type", .array [.string "object", .string "boolean"])]

/-- The vocabulary `unevaluated` of draft 2020-12. -/
def unevaluated2020 : Json :=
  .object [
    ("$dynamicAnchor", .string "meta"),
    ("$id", .string "https://json-schema.org/draft/2020-12/meta/unevaluated"),
    ("$schema", .string "https://json-schema.org/draft/2020-12/schema"),
    ("$vocabulary", .object [("https://json-schema.org/draft/2020-12/vocab/unevaluated",
      .bool true)]),
    ("properties", .object [
      ("unevaluatedItems", .object [("$dynamicRef", .string "#meta")]),
      ("unevaluatedProperties", .object [("$dynamicRef", .string "#meta")])]),
    ("title", .string "Unevaluated applicator vocabulary meta-schema"),
    ("type", .array [.string "object", .string "boolean"])]

/-- The vocabulary `validation` of draft 2020-12. -/
def validation2020 : Json :=
  .object [
    ("$defs", .object [
      ("nonNegativeInteger", .object [("minimum", .number (.int 0)), ("type", .string "integer")]),
      ("nonNegativeIntegerDefault0", .object [("$ref", .string "#/$defs/nonNegativeInteger"),
        ("default", .number (.int 0))]),
      ("simpleTypes", .object [("enum", .array [.string "array", .string "boolean",
        .string "integer", .string "null", .string "number", .string "object",
        .string "string"])]),
      ("stringArray", .object [("default", .array []), ("items", .object [("type",
        .string "string")]), ("type", .string "array"), ("uniqueItems", .bool true)])]),
    ("$dynamicAnchor", .string "meta"),
    ("$id", .string "https://json-schema.org/draft/2020-12/meta/validation"),
    ("$schema", .string "https://json-schema.org/draft/2020-12/schema"),
    ("$vocabulary", .object [("https://json-schema.org/draft/2020-12/vocab/validation",
      .bool true)]),
    ("properties", .object [
      ("const", .bool true),
      ("dependentRequired", .object [("additionalProperties", .object [("$ref",
        .string "#/$defs/stringArray")]), ("type", .string "object")]),
      ("enum", .object [("items", .bool true), ("type", .string "array")]),
      ("exclusiveMaximum", .object [("type", .string "number")]),
      ("exclusiveMinimum", .object [("type", .string "number")]),
      ("maxContains", .object [("$ref", .string "#/$defs/nonNegativeInteger")]),
      ("maxItems", .object [("$ref", .string "#/$defs/nonNegativeInteger")]),
      ("maxLength", .object [("$ref", .string "#/$defs/nonNegativeInteger")]),
      ("maxProperties", .object [("$ref", .string "#/$defs/nonNegativeInteger")]),
      ("maximum", .object [("type", .string "number")]),
      ("minContains", .object [("$ref", .string "#/$defs/nonNegativeInteger"), ("default",
        .number (.int 1))]),
      ("minItems", .object [("$ref", .string "#/$defs/nonNegativeIntegerDefault0")]),
      ("minLength", .object [("$ref", .string "#/$defs/nonNegativeIntegerDefault0")]),
      ("minProperties", .object [("$ref", .string "#/$defs/nonNegativeIntegerDefault0")]),
      ("minimum", .object [("type", .string "number")]),
      ("multipleOf", .object [("exclusiveMinimum", .number (.int 0)), ("type", .string "number")]),
      ("pattern", .object [("format", .string "regex"), ("type", .string "string")]),
      ("required", .object [("$ref", .string "#/$defs/stringArray")]),
      ("type", .object [("anyOf", .array [.object [("$ref", .string "#/$defs/simpleTypes")],
        .object [("items", .object [("$ref", .string "#/$defs/simpleTypes")]), ("minItems",
        .number (.int 1)), ("type", .string "array"), ("uniqueItems", .bool true)]])]),
      ("uniqueItems", .object [("default", .bool false), ("type", .string "boolean")])]),
    ("title", .string "Validation vocabulary meta-schema"),
    ("type", .array [.string "object", .string "boolean"])]

/-- The vocabulary `meta-data` of draft 2020-12. -/
def metaData2020 : Json :=
  .object [
    ("$dynamicAnchor", .string "meta"),
    ("$id", .string "https://json-schema.org/draft/2020-12/meta/meta-data"),
    ("$schema", .string "https://json-schema.org/draft/2020-12/schema"),
    ("$vocabulary", .object [("https://json-schema.org/draft/2020-12/vocab/meta-data",
      .bool true)]),
    ("properties", .object [
      ("default", .bool true),
      ("deprecated", .object [("default", .bool false), ("type", .string "boolean")]),
      ("description", .object [("type", .string "string")]),
      ("examples", .object [("items", .bool true), ("type", .string "array")]),
      ("readOnly", .object [("default", .bool false), ("type", .string "boolean")]),
      ("title", .object [("type", .string "string")]),
      ("writeOnly", .object [("default", .bool false), ("type", .string "boolean")])]),
    ("title", .string "Meta-data vocabulary meta-schema"),
    ("type", .array [.string "object", .string "boolean"])]

/-- The vocabulary `format-annotation` of draft 2020-12. -/
def formatAnnotation2020 : Json :=
  .object [
    ("$dynamicAnchor", .string "meta"),
    ("$id", .string "https://json-schema.org/draft/2020-12/meta/format-annotation"),
    ("$schema", .string "https://json-schema.org/draft/2020-12/schema"),
    ("$vocabulary", .object [("https://json-schema.org/draft/2020-12/vocab/format-annotation",
      .bool true)]),
    ("properties", .object [
      ("format", .object [("type", .string "string")])]),
    ("title", .string "Format vocabulary meta-schema for annotation results"),
    ("type", .array [.string "object", .string "boolean"])]

/-- The vocabulary `content` of draft 2020-12. -/
def content2020 : Json :=
  .object [
    ("$dynamicAnchor", .string "meta"),
    ("$id", .string "https://json-schema.org/draft/2020-12/meta/content"),
    ("$schema", .string "https://json-schema.org/draft/2020-12/schema"),
    ("$vocabulary", .object [("https://json-schema.org/draft/2020-12/vocab/content", .bool true)]),
    ("properties", .object [
      ("contentEncoding", .object [("type", .string "string")]),
      ("contentMediaType", .object [("type", .string "string")]),
      ("contentSchema", .object [("$dynamicRef", .string "#meta")])]),
    ("title", .string "Content vocabulary meta-schema"),
    ("type", .array [.string "object", .string "boolean"])]

/-- The vocabulary `format-assertion` of draft 2020-12. -/
def formatAssertion2020 : Json :=
  .object [
    ("$dynamicAnchor", .string "meta"),
    ("$id", .string "https://json-schema.org/draft/2020-12/meta/format-assertion"),
    ("$schema", .string "https://json-schema.org/draft/2020-12/schema"),
    ("$vocabulary", .object [("https://json-schema.org/draft/2020-12/vocab/format-assertion",
      .bool true)]),
    ("properties", .object [
      ("format", .object [("type", .string "string")])]),
    ("title", .string "Format vocabulary meta-schema for assertion results"),
    ("type", .array [.string "object", .string "boolean"])]

end ConfigCheck.Schema.MetaSchema
