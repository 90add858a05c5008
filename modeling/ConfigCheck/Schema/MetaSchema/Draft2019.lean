import ConfigCheck.Json.Value

/-!
# Meta-schemas of draft 2019-09

What a schema of draft 2019-09 has to look like: one document for each vocabulary, and one that
joins them.
-/

namespace ConfigCheck.Schema.MetaSchema

/-- The meta-schema of draft 2019-09. -/
def draft2019 : Json :=
  .object [
    ("$id", .string "https://json-schema.org/draft/2019-09/schema"),
    ("$recursiveAnchor", .bool true),
    ("$schema", .string "https://json-schema.org/draft/2019-09/schema"),
    ("$vocabulary", .object [("https://json-schema.org/draft/2019-09/vocab/applicator",
      .bool true), ("https://json-schema.org/draft/2019-09/vocab/content", .bool true),
      ("https://json-schema.org/draft/2019-09/vocab/core", .bool true),
      ("https://json-schema.org/draft/2019-09/vocab/format", .bool false),
      ("https://json-schema.org/draft/2019-09/vocab/meta-data", .bool true),
      ("https://json-schema.org/draft/2019-09/vocab/validation", .bool true)]),
    ("allOf", .array [.object [("$ref", .string "meta/core")], .object [("$ref",
      .string "meta/applicator")], .object [("$ref", .string "meta/validation")],
      .object [("$ref", .string "meta/meta-data")], .object [("$ref", .string "meta/format")],
      .object [("$ref", .string "meta/content")]]),
    ("properties", .object [
      ("definitions", .object [("additionalProperties", .object [("$recursiveRef", .string "#")]),
        ("default", .object []), ("type", .string "object")]),
      ("dependencies", .object [("additionalProperties", .object [("anyOf",
        .array [.object [("$recursiveRef", .string "#")], .object [("$ref",
        .string "meta/validation#/$defs/stringArray")]])]), ("type", .string "object")])]),
    ("title", .string "Core and Validation specifications meta-schema"),
    ("type", .array [.string "object", .string "boolean"])]

/-- The vocabulary `core` of draft 2019-09. -/
def core2019 : Json :=
  .object [
    ("$id", .string "https://json-schema.org/draft/2019-09/meta/core"),
    ("$recursiveAnchor", .bool true),
    ("$schema", .string "https://json-schema.org/draft/2019-09/schema"),
    ("$vocabulary", .object [("https://json-schema.org/draft/2019-09/vocab/core", .bool true)]),
    ("properties", .object [
      ("$anchor", .object [("pattern", .string "^[A-Za-z][-A-Za-z0-9.:_]*$"), ("type",
        .string "string")]),
      ("$comment", .object [("type", .string "string")]),
      ("$defs", .object [("additionalProperties", .object [("$recursiveRef", .string "#")]),
        ("default", .object []), ("type", .string "object")]),
      ("$id", .object [("$comment", .string "Non-empty fragments not allowed."), ("format",
        .string "uri-reference"), ("pattern", .string "^[^#]*#?$"), ("type", .string "string")]),
      ("$recursiveAnchor", .object [("default", .bool false), ("type", .string "boolean")]),
      ("$recursiveRef", .object [("format", .string "uri-reference"), ("type", .string "string")]),
      ("$ref", .object [("format", .string "uri-reference"), ("type", .string "string")]),
      ("$schema", .object [("format", .string "uri"), ("type", .string "string")]),
      ("$vocabulary", .object [("additionalProperties", .object [("type", .string "boolean")]),
        ("propertyNames", .object [("format", .string "uri"), ("type", .string "string")]),
        ("type", .string "object")])]),
    ("title", .string "Core vocabulary meta-schema"),
    ("type", .array [.string "object", .string "boolean"])]

/-- The vocabulary `applicator` of draft 2019-09. -/
def applicator2019 : Json :=
  .object [
    ("$defs", .object [
      ("schemaArray", .object [("items", .object [("$recursiveRef", .string "#")]), ("minItems",
        .number (.int 1)), ("type", .string "array")])]),
    ("$id", .string "https://json-schema.org/draft/2019-09/meta/applicator"),
    ("$recursiveAnchor", .bool true),
    ("$schema", .string "https://json-schema.org/draft/2019-09/schema"),
    ("$vocabulary", .object [("https://json-schema.org/draft/2019-09/vocab/applicator",
      .bool true)]),
    ("properties", .object [
      ("additionalItems", .object [("$recursiveRef", .string "#")]),
      ("additionalProperties", .object [("$recursiveRef", .string "#")]),
      ("allOf", .object [("$ref", .string "#/$defs/schemaArray")]),
      ("anyOf", .object [("$ref", .string "#/$defs/schemaArray")]),
      ("contains", .object [("$recursiveRef", .string "#")]),
      ("dependentSchemas", .object [("additionalProperties", .object [("$recursiveRef",
        .string "#")]), ("type", .string "object")]),
      ("else", .object [("$recursiveRef", .string "#")]),
      ("if", .object [("$recursiveRef", .string "#")]),
      ("items", .object [("anyOf", .array [.object [("$recursiveRef", .string "#")],
        .object [("$ref", .string "#/$defs/schemaArray")]])]),
      ("not", .object [("$recursiveRef", .string "#")]),
      ("oneOf", .object [("$ref", .string "#/$defs/schemaArray")]),
      ("patternProperties", .object [("additionalProperties", .object [("$recursiveRef",
        .string "#")]), ("default", .object []), ("propertyNames", .object [("format",
        .string "regex")]), ("type", .string "object")]),
      ("properties", .object [("additionalProperties", .object [("$recursiveRef", .string "#")]),
        ("default", .object []), ("type", .string "object")]),
      ("propertyNames", .object [("$recursiveRef", .string "#")]),
      ("then", .object [("$recursiveRef", .string "#")]),
      ("unevaluatedItems", .object [("$recursiveRef", .string "#")]),
      ("unevaluatedProperties", .object [("$recursiveRef", .string "#")])]),
    ("title", .string "Applicator vocabulary meta-schema"),
    ("type", .array [.string "object", .string "boolean"])]

/-- The vocabulary `validation` of draft 2019-09. -/
def validation2019 : Json :=
  .object [
    ("$defs", .object [
      ("nonNegativeInteger", .object [("minimum", .number (.int 0)), ("type", .string "integer")]),
      ("nonNegativeIntegerDefault0", .object [("$ref", .string "#/$defs/nonNegativeInteger"),
        ("default", .number (.int 0))]),
      ("simpleTypes", .object [("enum", .array [.string "array", .string "boolean",
        .string "integer", .string "null", .string "number", .string "object",
        .string "string"])]),
      ("stringArray", .object [("default", .array []), ("items", .object [("type",
        .string "string")]), ("type", .string "array"), ("uniqueItems", .bool true)])]),
    ("$id", .string "https://json-schema.org/draft/2019-09/meta/validation"),
    ("$recursiveAnchor", .bool true),
    ("$schema", .string "https://json-schema.org/draft/2019-09/schema"),
    ("$vocabulary", .object [("https://json-schema.org/draft/2019-09/vocab/validation",
      .bool true)]),
    ("properties", .object [
      ("const", .bool true),
      ("dependentRequired", .object [("additionalProperties", .object [("$ref",
        .string "#/$defs/stringArray")]), ("type", .string "object")]),
      ("enum", .object [("items", .bool true), ("type", .string "array")]),
      ("exclusiveMaximum", .object [("type", .string "number")]),
      ("exclusiveMinimum", .object [("type", .string "number")]),
      ("maxContains", .object [("$ref", .string "#/$defs/nonNegativeInteger")]),
      ("maxItems", .object [("$ref", .string "#/$defs/nonNegativeInteger")]),
      ("maxLength", .object [("$ref", .string "#/$defs/nonNegativeInteger")]),
      ("maxProperties", .object [("$ref", .string "#/$defs/nonNegativeInteger")]),
      ("maximum", .object [("type", .string "number")]),
      ("minContains", .object [("$ref", .string "#/$defs/nonNegativeInteger"), ("default",
        .number (.int 1))]),
      ("minItems", .object [("$ref", .string "#/$defs/nonNegativeIntegerDefault0")]),
      ("minLength", .object [("$ref", .string "#/$defs/nonNegativeIntegerDefault0")]),
      ("minProperties", .object [("$ref", .string "#/$defs/nonNegativeIntegerDefault0")]),
      ("minimum", .object [("type", .string "number")]),
      ("multipleOf", .object [("exclusiveMinimum", .number (.int 0)), ("type", .string "number")]),
      ("pattern", .object [("format", .string "regex"), ("type", .string "string")]),
      ("required", .object [("$ref", .string "#/$defs/stringArray")]),
      ("type", .object [("anyOf", .array [.object [("$ref", .string "#/$defs/simpleTypes")],
        .object [("items", .object [("$ref", .string "#/$defs/simpleTypes")]), ("minItems",
        .number (.int 1)), ("type", .string "array"), ("uniqueItems", .bool true)]])]),
      ("uniqueItems", .object [("default", .bool false), ("type", .string "boolean")])]),
    ("title", .string "Validation vocabulary meta-schema"),
    ("type", .array [.string "object", .string "boolean"])]

/-- The vocabulary `meta-data` of draft 2019-09. -/
def metaData2019 : Json :=
  .object [
    ("$id", .string "https://json-schema.org/draft/2019-09/meta/meta-data"),
    ("$recursiveAnchor", .bool true),
    ("$schema", .string "https://json-schema.org/draft/2019-09/schema"),
    ("$vocabulary", .object [("https://json-schema.org/draft/2019-09/vocab/meta-data",
      .bool true)]),
    ("properties", .object [
      ("default", .bool true),
      ("deprecated", .object [("default", .bool false), ("type", .string "boolean")]),
      ("description", .object [("type", .string "string")]),
      ("examples", .object [("items", .bool true), ("type", .string "array")]),
      ("readOnly", .object [("default", .bool false), ("type", .string "boolean")]),
      ("title", .object [("type", .string "string")]),
      ("writeOnly", .object [("default", .bool false), ("type", .string "boolean")])]),
    ("title", .string "Meta-data vocabulary meta-schema"),
    ("type", .array [.string "object", .string "boolean"])]

/-- The vocabulary `format` of draft 2019-09. -/
def format2019 : Json :=
  .object [
    ("$id", .string "https://json-schema.org/draft/2019-09/meta/format"),
    ("$recursiveAnchor", .bool true),
    ("$schema", .string "https://json-schema.org/draft/2019-09/schema"),
    ("$vocabulary", .object [("https://json-schema.org/draft/2019-09/vocab/format", .bool true)]),
    ("properties", .object [
      ("format", .object [("type", .string "string")])]),
    ("title", .string "Format vocabulary meta-schema"),
    ("type", .array [.string "object", .string "boolean"])]

/-- The vocabulary `content` of draft 2019-09. -/
def content2019 : Json :=
  .object [
    ("$id", .string "https://json-schema.org/draft/2019-09/meta/content"),
    ("$recursiveAnchor", .bool true),
    ("$schema", .string "https://json-schema.org/draft/2019-09/schema"),
    ("$vocabulary", .object [("https://json-schema.org/draft/2019-09/vocab/content", .bool true)]),
    ("properties", .object [
      ("contentEncoding", .object [("type", .string "string")]),
      ("contentMediaType", .object [("type", .string "string")]),
      ("contentSchema", .object [("$recursiveRef", .string "#")])]),
    ("title", .string "Content vocabulary meta-schema"),
    ("type", .array [.string "object", .string "boolean"])]

end ConfigCheck.Schema.MetaSchema
