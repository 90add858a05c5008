import ConfigCheck.Json.Value

/-!
# Meta-schemas of drafts 4, 6 and 7

What a schema of drafts 4, 6 or 7 has to look like, as a schema of the same draft.
-/

namespace ConfigCheck.Schema.MetaSchema

/-- The meta-schema of draft 4. -/
def draft4 : Json :=
  .object [
    ("$schema", .string "http://json-schema.org/draft-04/schema#"),
    ("default", .object []),
    ("definitions", .object [
      ("positiveInteger", .object [("minimum", .number (.int 0)), ("type", .string "integer")]),
      ("positiveIntegerDefault0", .object [("allOf", .array [.object [("$ref",
        .string "#/definitions/positiveInteger")], .object [("default", .number (.int 0))]])]),
      ("schemaArray", .object [("items", .object [("$ref", .string "#")]), ("minItems",
        .number (.int 1)), ("type", .string "array")]),
      ("simpleTypes", .object [("enum", .array [.string "array", .string "boolean",
        .string "integer", .string "null", .string "number", .string "object",
        .string "string"])]),
      ("stringArray", .object [("items", .object [("type", .string "string")]), ("minItems",
        .number (.int 1)), ("type", .string "array"), ("uniqueItems", .bool true)])]),
    ("dependencies", .object [("exclusiveMaximum", .array [.string "maximum"]),
      ("exclusiveMinimum", .array [.string "minimum"])]),
    ("description", .string "Core schema meta-schema"),
    ("id", .string "http://json-schema.org/draft-04/schema#"),
    ("properties", .object [
      ("$schema", .object [("format", .string "uri"), ("type", .string "string")]),
      ("additionalItems", .object [("anyOf", .array [.object [("type", .string "boolean")],
        .object [("$ref", .string "#")]]), ("default", .object [])]),
      ("additionalProperties", .object [("anyOf", .array [.object [("type", .string "boolean")],
        .object [("$ref", .string "#")]]), ("default", .object [])]),
      ("allOf", .object [("$ref", .string "#/definitions/schemaArray")]),
      ("anyOf", .object [("$ref", .string "#/definitions/schemaArray")]),
      ("default", .object []),
      ("definitions", .object [("additionalProperties", .object [("$ref", .string "#")]),
        ("default", .object []), ("type", .string "object")]),
      ("dependencies", .object [("additionalProperties", .object [("anyOf",
        .array [.object [("$ref", .string "#")], .object [("$ref",
        .string "#/definitions/stringArray")]])]), ("type", .string "object")]),
      ("description", .object [("type", .string "string")]),
      ("enum", .object [("type", .string "array")]),
      ("exclusiveMaximum", .object [("type", .string "boolean")]),
      ("exclusiveMinimum", .object [("type", .string "boolean")]),
      ("format", .object [("type", .string "string")]),
      ("id", .object [("format", .string "uri"), ("type", .string "string")]),
      ("items", .object [("anyOf", .array [.object [("$ref", .string "#")], .object [("$ref",
        .string "#/definitions/schemaArray")]]), ("default", .object [])]),
      ("maxItems", .object [("$ref", .string "#/definitions/positiveInteger")]),
      ("maxLength", .object [("$ref", .string "#/definitions/positiveInteger")]),
      ("maxProperties", .object [("$ref", .string "#/definitions/positiveInteger")]),
      ("maximum", .object [("type", .string "number")]),
      ("minItems", .object [("$ref", .string "#/definitions/positiveIntegerDefault0")]),
      ("minLength", .object [("$ref", .string "#/definitions/positiveIntegerDefault0")]),
      ("minProperties", .object [("$ref", .string "#/definitions/positiveIntegerDefault0")]),
      ("minimum", .object [("type", .string "number")]),
      ("multipleOf", .object [("exclusiveMinimum", .bool true), ("minimum", .number (.int 0)),
        ("type", .string "number")]),
      ("not", .object [("$ref", .string "#")]),
      ("oneOf", .object [("$ref", .string "#/definitions/schemaArray")]),
      ("pattern", .object [("format", .string "regex"), ("type", .string "string")]),
      ("patternProperties", .object [("additionalProperties", .object [("$ref", .string "#")]),
        ("default", .object []), ("type", .string "object")]),
      ("properties", .object [("additionalProperties", .object [("$ref", .string "#")]),
        ("default", .object []), ("type", .string "object")]),
      ("required", .object [("$ref", .string "#/definitions/stringArray")]),
      ("title", .object [("type", .string "string")]),
      ("type", .object [("anyOf", .array [.object [("$ref", .string "#/definitions/simpleTypes")],
        .object [("items", .object [("$ref", .string "#/definitions/simpleTypes")]), ("minItems",
        .number (.int 1)), ("type", .string "array"), ("uniqueItems", .bool true)]])]),
      ("uniqueItems", .object [("default", .bool false), ("type", .string "boolean")])]),
    ("type", .string "object")]

/-- The meta-schema of draft 6. -/
def draft6 : Json :=
  .object [
    ("$id", .string "http://json-schema.org/draft-06/schema#"),
    ("$schema", .string "http://json-schema.org/draft-06/schema#"),
    ("default", .object []),
    ("definitions", .object [
      ("nonNegativeInteger", .object [("minimum", .number (.int 0)), ("type", .string "integer")]),
      ("nonNegativeIntegerDefault0", .object [("allOf", .array [.object [("$ref",
        .string "#/definitions/nonNegativeInteger")], .object [("default", .number (.int 0))]])]),
      ("schemaArray", .object [("items", .object [("$ref", .string "#")]), ("minItems",
        .number (.int 1)), ("type", .string "array")]),
      ("simpleTypes", .object [("enum", .array [.string "array", .string "boolean",
        .string "integer", .string "null", .string "number", .string "object",
        .string "string"])]),
      ("stringArray", .object [("default", .array []), ("items", .object [("type",
        .string "string")]), ("type", .string "array"), ("uniqueItems", .bool true)])]),
    ("properties", .object [
      ("$id", .object [("format", .string "uri-reference"), ("type", .string "string")]),
      ("$ref", .object [("format", .string "uri-reference"), ("type", .string "string")]),
      ("$schema", .object [("format", .string "uri"), ("type", .string "string")]),
      ("additionalItems", .object [("$ref", .string "#")]),
      ("additionalProperties", .object [("$ref", .string "#")]),
      ("allOf", .object [("$ref", .string "#/definitions/schemaArray")]),
      ("anyOf", .object [("$ref", .string "#/definitions/schemaArray")]),
      ("const", .object []),
      ("contains", .object [("$ref", .string "#")]),
      ("default", .object []),
      ("definitions", .object [("additionalProperties", .object [("$ref", .string "#")]),
        ("default", .object []), ("type", .string "object")]),
      ("dependencies", .object [("additionalProperties", .object [("anyOf",
        .array [.object [("$ref", .string "#")], .object [("$ref",
        .string "#/definitions/stringArray")]])]), ("type", .string "object")]),
      ("description", .object [("type", .string "string")]),
      ("enum", .object [("type", .string "array")]),
      ("examples", .object [("items", .object []), ("type", .string "array")]),
      ("exclusiveMaximum", .object [("type", .string "number")]),
      ("exclusiveMinimum", .object [("type", .string "number")]),
      ("format", .object [("type", .string "string")]),
      ("items", .object [("anyOf", .array [.object [("$ref", .string "#")], .object [("$ref",
        .string "#/definitions/schemaArray")]]), ("default", .object [])]),
      ("maxItems", .object [("$ref", .string "#/definitions/nonNegativeInteger")]),
      ("maxLength", .object [("$ref", .string "#/definitions/nonNegativeInteger")]),
      ("maxProperties", .object [("$ref", .string "#/definitions/nonNegativeInteger")]),
      ("maximum", .object [("type", .string "number")]),
      ("minItems", .object [("$ref", .string "#/definitions/nonNegativeIntegerDefault0")]),
      ("minLength", .object [("$ref", .string "#/definitions/nonNegativeIntegerDefault0")]),
      ("minProperties", .object [("$ref", .string "#/definitions/nonNegativeIntegerDefault0")]),
      ("minimum", .object [("type", .string "number")]),
      ("multipleOf", .object [("exclusiveMinimum", .number (.int 0)), ("type", .string "number")]),
      ("not", .object [("$ref", .string "#")]),
      ("oneOf", .object [("$ref", .string "#/definitions/schemaArray")]),
      ("pattern", .object [("format", .string "regex"), ("type", .string "string")]),
      ("patternProperties", .object [("additionalProperties", .object [("$ref", .string "#")]),
        ("default", .object []), ("propertyNames", .object [("format", .string "regex")]),
        ("type", .string "object")]),
      ("properties", .object [("additionalProperties", .object [("$ref", .string "#")]),
        ("default", .object []), ("type", .string "object")]),
      ("propertyNames", .object [("$ref", .string "#")]),
      ("required", .object [("$ref", .string "#/definitions/stringArray")]),
      ("title", .object [("type", .string "string")]),
      ("type", .object [("anyOf", .array [.object [("$ref", .string "#/definitions/simpleTypes")],
        .object [("items", .object [("$ref", .string "#/definitions/simpleTypes")]), ("minItems",
        .number (.int 1)), ("type", .string "array"), ("uniqueItems", .bool true)]])]),
      ("uniqueItems", .object [("default", .bool false), ("type", .string "boolean")])]),
    ("title", .string "Core schema meta-schema"),
    ("type", .array [.string "object", .string "boolean"])]

/-- The meta-schema of draft 7. -/
def draft7 : Json :=
  .object [
    ("$id", .string "http://json-schema.org/draft-07/schema#"),
    ("$schema", .string "http://json-schema.org/draft-07/schema#"),
    ("default", .bool true),
    ("definitions", .object [
      ("nonNegativeInteger", .object [("minimum", .number (.int 0)), ("type", .string "integer")]),
      ("nonNegativeIntegerDefault0", .object [("allOf", .array [.object [("$ref",
        .string "#/definitions/nonNegativeInteger")], .object [("default", .number (.int 0))]])]),
      ("schemaArray", .object [("items", .object [("$ref", .string "#")]), ("minItems",
        .number (.int 1)), ("type", .string "array")]),
      ("simpleTypes", .object [("enum", .array [.string "array", .string "boolean",
        .string "integer", .string "null", .string "number", .string "object",
        .string "string"])]),
      ("stringArray", .object [("default", .array []), ("items", .object [("type",
        .string "string")]), ("type", .string "array"), ("uniqueItems", .bool true)])]),
    ("properties", .object [
      ("$comment", .object [("type", .string "string")]),
      ("$id", .object [("format", .string "uri-reference"), ("type", .string "string")]),
      ("$ref", .object [("format", .string "uri-reference"), ("type", .string "string")]),
      ("$schema", .object [("format", .string "uri"), ("type", .string "string")]),
      ("additionalItems", .object [("$ref", .string "#")]),
      ("additionalProperties", .object [("$ref", .string "#")]),
      ("allOf", .object [("$ref", .string "#/definitions/schemaArray")]),
      ("anyOf", .object [("$ref", .string "#/definitions/schemaArray")]),
      ("const", .bool true),
      ("contains", .object [("$ref", .string "#")]),
      ("contentEncoding", .object [("type", .string "string")]),
      ("contentMediaType", .object [("type", .string "string")]),
      ("default", .bool true),
      ("definitions", .object [("additionalProperties", .object [("$ref", .string "#")]),
        ("default", .object []), ("type", .string "object")]),
      ("dependencies", .object [("additionalProperties", .object [("anyOf",
        .array [.object [("$ref", .string "#")], .object [("$ref",
        .string "#/definitions/stringArray")]])]), ("type", .string "object")]),
      ("description", .object [("type", .string "string")]),
      ("else", .object [("$ref", .string "#")]),
      ("enum", .object [("items", .bool true), ("type", .string "array")]),
      ("examples", .object [("items", .bool true), ("type", .string "array")]),
      ("exclusiveMaximum", .object [("type", .string "number")]),
      ("exclusiveMinimum", .object [("type", .string "number")]),
      ("format", .object [("type", .string "string")]),
      ("if", .object [("$ref", .string "#")]),
      ("items", .object [("anyOf", .array [.object [("$ref", .string "#")], .object [("$ref",
        .string "#/definitions/schemaArray")]]), ("default", .bool true)]),
      ("maxItems", .object [("$ref", .string "#/definitions/nonNegativeInteger")]),
      ("maxLength", .object [("$ref", .string "#/definitions/nonNegativeInteger")]),
      ("maxProperties", .object [("$ref", .string "#/definitions/nonNegativeInteger")]),
      ("maximum", .object [("type", .string "number")]),
      ("minItems", .object [("$ref", .string "#/definitions/nonNegativeIntegerDefault0")]),
      ("minLength", .object [("$ref", .string "#/definitions/nonNegativeIntegerDefault0")]),
      ("minProperties", .object [("$ref", .string "#/definitions/nonNegativeIntegerDefault0")]),
      ("minimum", .object [("type", .string "number")]),
      ("multipleOf", .object [("exclusiveMinimum", .number (.int 0)), ("type", .string "number")]),
      ("not", .object [("$ref", .string "#")]),
      ("oneOf", .object [("$ref", .string "#/definitions/schemaArray")]),
      ("pattern", .object [("format", .string "regex"), ("type", .string "string")]),
      ("patternProperties", .object [("additionalProperties", .object [("$ref", .string "#")]),
        ("default", .object []), ("propertyNames", .object [("format", .string "regex")]),
        ("type", .string "object")]),
      ("properties", .object [("additionalProperties", .object [("$ref", .string "#")]),
        ("default", .object []), ("type", .string "object")]),
      ("propertyNames", .object [("$ref", .string "#")]),
      ("readOnly", .object [("default", .bool false), ("type", .string "boolean")]),
      ("required", .object [("$ref", .string "#/definitions/stringArray")]),
      ("then", .object [("$ref", .string "#")]),
      ("title", .object [("type", .string "string")]),
      ("type", .object [("anyOf", .array [.object [("$ref", .string "#/definitions/simpleTypes")],
        .object [("items", .object [("$ref", .string "#/definitions/simpleTypes")]), ("minItems",
        .number (.int 1)), ("type", .string "array"), ("uniqueItems", .bool true)]])]),
      ("uniqueItems", .object [("default", .bool false), ("type", .string "boolean")]),
      ("writeOnly", .object [("default", .bool false), ("type", .string "boolean")])]),
    ("title", .string "Core schema meta-schema"),
    ("type", .array [.string "object", .string "boolean"])]

end ConfigCheck.Schema.MetaSchema
