import ConfigCheck.Schema.Scope

/-!
# Reading schemas

A value is read into a schema in two steps.  First each member is read by the role that its keyword
has in the draft: schemas inside it are read, other values are kept (`Part`).  Then the parts are
put together: a few keywords depend on their neighbours.  The keywords of a schema come in the
order of their names.
-/

namespace ConfigCheck.Schema

/-- What the value of a keyword holds. -/
inductive Role where
  /-- A schema. -/
  | schema
  /-- A list of schemas. -/
  | schemas
  /-- A schema or a list of schemas. -/
  | schemaOrSchemas
  /-- Schemas with names. -/
  | namedSchemas
  /-- No schemas. -/
  | plain
deriving DecidableEq, Repr, Inhabited

/-- The role of a keyword in a draft. -/
def Draft.role (d : Draft) (keyword : String) : Role :=
  match keyword with
  | "not" | "additionalProperties" => .schema
  | "allOf" | "anyOf" | "oneOf" => .schemas
  | "properties" | "patternProperties" | "dependencies" => .namedSchemas
  | "items" => .schemaOrSchemas
  | "additionalItems" => .schema
  | "contains" | "propertyNames" => if d.since .draft6 then .schema else .plain
  | "if" | "then" | "else" => if d.since .draft7 then .schema else .plain
  | "dependentSchemas" => if d.since .draft2019 then .namedSchemas else .plain
  | "unevaluatedProperties" | "unevaluatedItems" =>
    if d.since .draft2019 then .schema else .plain
  | "prefixItems" => if d.since .draft2020 then .schemas else .plain
  | _ => .plain

/-- The value of a keyword, with the schemas inside it. -/
inductive Part where
  /-- A value without schemas. -/
  | plain (value : Json)
  /-- A schema, and the value from which it was read. -/
  | schema (value : Json) (schema : Schema)
  /-- A list of schemas. -/
  | schemas (list : List Schema)
  /-- Schemas with names, and the values from which they were read. -/
  | namedSchemas (values : Json.Members) (list : List (String × Schema))

instance : Inhabited Part := ⟨.plain .null⟩

/-- The parts of a schema by their keywords. -/
abbrev Parts := List (String × Part)

namespace Parts

/-- The schema under a keyword. -/
def schema? (parts : Parts) (keyword : String) : Option Schema :=
  match parts.lookup keyword with
  | some (.schema _ s) => some s
  | _ => none

/-- Whether there is a keyword. -/
def has (parts : Parts) (keyword : String) : Bool := (parts.lookup keyword).isSome

end Parts

/-! ## Assertions -/

/-- A keyword that is an assertion. -/
def rule (keyword : String) (a : Assertion) : List Keyword := [.assertion keyword a]

/-- A keyword that cannot be used because its value is not of the type. -/
def wrongType (value : Json) (expected : ValueType) : List Keyword :=
  [.unusable (.type value expected)]

/-- The greatest limit. -/
def greatestLimit : Nat := 2 ^ 64 - 1

/-- The count nearest to a number without fractional part. -/
def nearestCount (x : Binary64) : Nat :=
  if 0 ≤ x.signedUnits then min (x.units / 2 ^ 1074) greatestLimit else 0

/-- The limit that a value of draft `d` sets.  In draft 4 it is an integer from zero on; later it
is any number without fractional part, and one below zero stands for zero. -/
def limit? (d : Draft) : Json → Option Nat
  | .number (.int i) => if 0 ≤ i || d.since .draft6 then some i.toNat else none
  | .number (.float x) => if d.since .draft6 && x.isIntegral then some (nearestCount x) else none
  | _ => none

/-- The bound that a value sets on a count of items: an integer from zero on, or any other number
without fractional part that is not written as an integer. -/
def bound? : Json → Option Nat
  | .number (.int i) => if 0 ≤ i then some i.toNat else none
  | .number (.float x) => if x.isIntegral then some (nearestCount x) else none
  | _ => none

/-- What is wrong with a value that is no limit. -/
def limitFault (value : Json) : Complaint :=
  match value with
  | .number (.int _) => .minimum value (.int 0)
  | _ => .type value .integer

/-- A keyword with a limit that is a count. -/
def counting (d : Draft) (keyword : String) (value : Json) (a : Nat → Assertion) : List Keyword :=
  match limit? d value with
  | some n => rule keyword (a n)
  | none => [.unusable (limitFault value)]

/-- A keyword with a limit that is a number. -/
def comparing (keyword : String) (value : Json) (a : Number → Assertion) : List Keyword :=
  match value with
  | .number n => rule keyword (a n)
  | _ => wrongType value .number

/-- The type that a value names. -/
def typeOf? (value : Json) : Option ValueType := value.text?.bind ValueType.ofName?

/-- What is wrong with one of several names of types. -/
def typeFault? (value : Json) : Option Complaint :=
  match value with
  | .string _ =>
    if (typeOf? value).isSome then none
    else some (.enum value (ValueType.all.map fun t => .string t.name))
  | v => some (.type v .string)

/-- The keyword for types: one name, alone or in a list, or several names. -/
def typeKeywords (strict : Bool) (keyword : String) (value : Json) : List Keyword :=
  match value with
  | .string s | .array [.string s] =>
    match ValueType.ofName? s with
    | some t => rule keyword (.type strict t)
    | none => [.unusable .unknownType]
  | .array items =>
    match items.findSome? typeFault? with
    | some c => [.unusable c]
    | none =>
      let types := items.filterMap typeOf?
      rule keyword (.types strict (ValueType.all.filter (· ∈ types)))
  | v => [.unusable (.types v [.array, .string])]

/-- The names that a list holds. -/
def names? : Json → Option (List String)
  | .array items => items.mapM Json.text?
  | _ => none

/-- What is wrong with a value that should be a list of names. -/
def namesFault : Json → Complaint
  | .array items =>
    match items.find? fun v => v.text?.isNone with
    | some v => .type v .string
    | none => .type (.array items) .array
  | v => .type v .array

/-- A keyword with a pattern. -/
def patternOf (value : Json) (text : String) : Except Complaint Regex.Pattern :=
  match Regex.Pattern.ofString? text with
  | some p => .ok p
  | none => .error (.format value "regex")

/-- The keyword for content of a known kind or in a known encoding.  Where both are named, the
kind decides. -/
def contentRule (keyword : String) (members : Json.Members) (value : Json) : List Keyword :=
  match value with
  | .string s =>
    if keyword = "contentMediaType" then
      if s = knownMediaType then
        match Json.Members.get? members "contentEncoding" with
        | none => rule keyword .holdsJson
        | some (.string e) => if e = knownEncoding then rule keyword .encodedJson else []
        | some v => wrongType v .string
      else []
    else if s = knownEncoding && !Json.Members.has members "contentMediaType" then
      rule keyword .encoded
    else []
  | v => wrongType v .string

/-- Whether a member is `true`. -/
def isTrue (members : Json.Members) (name : String) : Bool :=
  match Json.Members.get? members name with
  | some (.bool b) => b
  | _ => false

/-- The keyword for a member that needs others, from their names. -/
def requirement (keyword trigger : String) (value : Json) : List Keyword :=
  match names? value with
  | some names => rule keyword (.requiredWith trigger names)
  | none => [.unusable (namesFault value)]

/-- The keywords for members that need others, where no name may come twice. -/
def requirements (keyword : String) (value : Json) : List Keyword :=
  match value with
  | .object entries => entries.flatMap fun (trigger, v) =>
    match v with
    | .array items =>
      if Json.allDistinct items then requirement keyword trigger v
      else [.unusable (.uniqueItems v)]
    | v => wrongType v .array
  | v => wrongType v .object

/-- The keywords that a plain value makes. -/
def plainKeywords (scope : Scope) (members : Json.Members) (keyword : String) (value : Json) :
    List Keyword :=
  let d := scope.draft
  let since (e : Draft) (ks : List Keyword) : List Keyword := if d.since e then ks else []
  match keyword with
  | "type" => typeKeywords (d == .draft4) keyword value
  | "enum" =>
    match value with
    | .array options => rule keyword (.enum options)
    | v => wrongType v .array
  | "const" => since .draft6 (rule keyword (.const value))
  | "minimum" =>
    if d == .draft4 && isTrue members "exclusiveMinimum" then
      comparing "exclusiveMinimum" value .exclusiveMinimum
    else comparing keyword value .minimum
  | "maximum" =>
    if d == .draft4 && isTrue members "exclusiveMaximum" then
      comparing "exclusiveMaximum" value .exclusiveMaximum
    else comparing keyword value .maximum
  | "exclusiveMinimum" => since .draft6 (comparing keyword value .exclusiveMinimum)
  | "exclusiveMaximum" => since .draft6 (comparing keyword value .exclusiveMaximum)
  | "multipleOf" => comparing keyword value .multipleOf
  | "minLength" => counting d keyword value .minLength
  | "maxLength" => counting d keyword value .maxLength
  | "minItems" => counting d keyword value .minItems
  | "maxItems" => counting d keyword value .maxItems
  | "minProperties" => counting d keyword value .minProperties
  | "maxProperties" => counting d keyword value .maxProperties
  | "pattern" =>
    match value with
    | .string s =>
      match patternOf value s with
      | .ok p => rule keyword (.pattern p)
      | .error c => [.unusable c]
    | v => wrongType v .string
  | "format" =>
    match value with
    | .string s => ((StringFormat.ofName? d s).map fun f => rule keyword (.format f)).getD []
    | _ => []
  | "uniqueItems" =>
    match value with
    | .bool true => rule keyword .uniqueItems
    | _ => []
  | "required" =>
    match names? value with
    | some names => rule keyword (.required names)
    | none => [.unusable (namesFault value)]
  | "dependentRequired" => since .draft2019 (requirements keyword value)
  | "contentEncoding" | "contentMediaType" =>
    if d == .draft6 || d == .draft7 then contentRule keyword members value else []
  | "$ref" =>
    match value with
    | .string text => [.reference keyword ⟨.named text, scope⟩]
    | v => wrongType v .string
  | "$dynamicRef" =>
    match value with
    | .string text => since .draft2020 [.reference keyword ⟨.named text, scope⟩]
    | v => since .draft2020 (wrongType v .string)
  | "$recursiveRef" =>
    match value with
    | .string _ => if d == .draft2019 then [.reference keyword ⟨.recursive, scope⟩] else []
    | v => if d == .draft2019 then wrongType v .string else []
  | "properties" | "patternProperties" | "dependencies" => wrongType value .object
  | "dependentSchemas" => since .draft2019 (wrongType value .object)
  | "allOf" | "anyOf" | "oneOf" => wrongType value .array
  | "prefixItems" => since .draft2020 (wrongType value .array)
  | _ => []

/-! ## Keywords with schemas -/

/-- The patterns with their schemas up to the first one that is none, and what is wrong with that
one. -/
def patternsOf (values : Json.Members) (list : List (String × Schema)) :
    List (Regex.Pattern × Schema) × Option Complaint :=
  list.foldr (fun (text, s) (patterns, fault) =>
    match patternOf ((Json.Members.get? values text).getD .null) text with
    | .ok p => ((p, s) :: patterns, fault)
    | .error c => ([], some c)) ([], none)

/-- Keywords for patterns with their schemas.  A pattern that is none is a fault behind those
before it. -/
def withPatterns (values : Json.Members) (list : List (String × Schema))
    (keywords : List (Regex.Pattern × Schema) → List Keyword) : List Keyword :=
  match patternsOf values list with
  | (patterns, none) => keywords patterns
  | (patterns, some c) => [.patternProperties patterns, .unusable c]

/-- Whether the schema for other members takes over the listed ones and the patterns: it does if it
is `false` or an object. -/
def othersTakeOver (parts : Parts) : Bool :=
  match parts.lookup "additionalProperties" with
  | some (.schema (.bool b) _) => !b
  | some (.schema (.object _) _) => true
  | _ => false

/-- The keyword for other members, with the listed ones and the patterns. -/
def othersBeside (parts : Parts) (value : Json) (others : Schema)
    (patterns : List (Regex.Pattern × Schema)) : List Keyword :=
  match value, parts.lookup "properties" with
  | .bool true, _ => [.members [] [] others]
  | .bool false, none =>
    if parts.has "patternProperties" then [.closedMembers [] patterns] else [.noMembers]
  | .bool false, some (.namedSchemas _ list) => [.closedMembers list patterns]
  | _, none => [.members [] patterns others]
  | _, some (.namedSchemas _ list) => [.members list patterns others]
  | _, some _ => [.unusable .unknownType]

/-- The keywords for other members.  The patterns are looked at first. -/
def othersKeywords (parts : Parts) (value : Json) (others : Schema) : List Keyword :=
  match parts.lookup "patternProperties" with
  | some (.namedSchemas values list) =>
    withPatterns values list (othersBeside parts value others)
  | some _ => wrongType value .object
  | none => othersBeside parts value others []

/-- The keywords for items behind a list of schemas, from the value that stands for `items`. -/
def itemsBeyond (keyword : String) (items? : Option Json) (value : Json) (s : Schema) :
    List Keyword :=
  match items?, value with
  | none, _ | some (.object _), _ | some (.bool true), _ => []
  | some (.bool false), _ => rule keyword .never
  | some (.array items), .object _ => [.items keyword items.length s]
  | some (.array items), .bool false =>
    rule keyword (.noItemsAfter items.length) ++ [.items keyword items.length (.always true)]
  | some (.array items), .bool true => [.items keyword items.length s]
  | some (.array _), _ => []
  | some _, v => [.unusable (.types v [.array, .boolean, .object])]

/-- The keywords for a count of items, or what is wrong with its bounds. -/
def containsKeywords (d : Draft) (members : Json.Members) (s : Schema) : List Keyword :=
  let bound (name : String) : Except Complaint (Option Nat) :=
    match Json.Members.get? members name with
    | none => .ok none
    | some v =>
      if d.since .draft2019 then
        match bound? v with
        | some n => .ok (some n)
        | none => .error (limitFault v)
      else .ok none
  match bound "minContains", bound "maxContains" with
  | .error c, _ | .ok _, .error c => [.unusable c]
  | .ok low, .ok high => [.contains low high s]

/-- The keywords that a schema makes. -/
def schemaKeywords (d : Draft) (members : Json.Members) (parts : Parts) (keyword : String)
    (value : Json) (s : Schema) : List Keyword :=
  match keyword with
  | "not" => [.not value s]
  | "additionalProperties" => othersKeywords parts value s
  | "propertyNames" =>
    match value with
    | .object _ => [.propertyNames s]
    | .bool false => [.noPropertyNames]
    | _ => []
  | "items" =>
    let skip := match Json.Members.get? members "prefixItems" with
      | some (.array before) => before.length
      | _ => 0
    match value with
    | .object _ | .bool _ => [.items keyword skip s]
    | _ => []
  | "additionalItems" => itemsBeyond keyword (Json.Members.get? members "items") value s
  | "contains" => containsKeywords d members s
  | "if" =>
    let branch (name : String) : Schema := (parts.schema? name).getD (.always true)
    if parts.has "then" || parts.has "else" then [.conditional s (branch "then") (branch "else")]
    else [.condition s]
  | "unevaluatedProperties" => [.unevaluatedProperties s]
  | "unevaluatedItems" => [.unevaluatedItems s]
  | _ => []

/-- The keywords that a list of schemas makes. -/
def listKeywords (keyword : String) (list : List Schema) : List Keyword :=
  match keyword with
  | "allOf" => [.allOf list]
  | "anyOf" => [.anyOf list]
  | "oneOf" => [.oneOf list]
  | _ => [.itemList keyword list]

/-- The keywords that schemas with names make. -/
def namedKeywords (parts : Parts) (keyword : String) (values : Json.Members)
    (list : List (String × Schema)) : List Keyword :=
  match keyword with
  | "properties" => if othersTakeOver parts then [] else [.properties list]
  | "patternProperties" =>
    if othersTakeOver parts then []
    else withPatterns values list fun patterns => [.patternProperties patterns]
  | "dependencies" => list.flatMap fun (name, s) =>
    match Json.Members.get? values name with
    | some (.array items) => requirement keyword name (.array items)
    | _ => [.dependent keyword name s]
  | _ => list.map fun (name, s) => .dependent keyword name s

/-- The keywords that a part makes. -/
def partKeywords (scope : Scope) (members : Json.Members) (parts : Parts) (keyword : String) :
    Part → List Keyword
  | .plain value => plainKeywords scope members keyword value
  | .schema value s => schemaKeywords scope.draft members parts keyword value s
  | .schemas list => listKeywords keyword list
  | .namedSchemas values list => namedKeywords parts keyword values list

/-- Puts the parts of a schema together.  Where references stand alone, one hides all other
keywords, and keywords of vocabularies that are not in use count for nothing. -/
def assemble (scope : Scope) (members : Json.Members) (parts : Parts) : List Keyword :=
  let visible := if scope.draft.referencesStandAlone && parts.has "$ref" then
      parts.filter fun (keyword, _) => keyword = "$ref"
    else parts.filter fun (keyword, _) => scope.draft.uses scope.root keyword
  visible.flatMap fun (keyword, part) => partKeywords scope members parts keyword part

/-! ## Reading -/

mutual

/-- Reads a schema that stands inside a scope. -/
def ofJson (scope : Scope) : Json → Schema
  | .bool b => .always b
  | .object members =>
    let inner := scope.enter members
    .keywords (assemble inner members (partsOf inner members))
  | v => .unusable v

/-- Reads the members of a schema by the roles of their keywords. -/
def partsOf (scope : Scope) : List (String × Json) → Parts
  | [] => []
  | (keyword, v) :: rest =>
    let part : Part := match scope.draft.role keyword with
      | .plain => .plain v
      | .schema => .schema v (ofJson scope v)
      | .schemas => match v with
        | .array items => .schemas (schemasOf scope items)
        | v => .plain v
      | .schemaOrSchemas => match v with
        | .array items => .schemas (schemasOf scope items)
        | v => .schema v (ofJson scope v)
      | .namedSchemas => match v with
        | .object members => .namedSchemas members (namedSchemasOf scope members)
        | v => .plain v
    (keyword, part) :: partsOf scope rest

/-- Reads a list of schemas. -/
def schemasOf (scope : Scope) : List Json → List Schema
  | [] => []
  | v :: rest => ofJson scope v :: schemasOf scope rest

/-- Reads schemas with names. -/
def namedSchemasOf (scope : Scope) : List (String × Json) → List (String × Schema)
  | [] => []
  | (name, v) :: rest => (name, ofJson scope v) :: namedSchemasOf scope rest

end

/-- Reads a schema whose scope is known, so that its own identifier changes nothing. -/
def ofContents (scope : Scope) : Json → Schema
  | .object members => .keywords (assemble scope members (partsOf scope members))
  | v => ofJson scope v

end ConfigCheck.Schema
