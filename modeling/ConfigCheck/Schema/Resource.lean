import ConfigCheck.Schema.Read

/-!
# Resources

The schemas that references can lead to without following a path: those with an identifier, and
those with a name of their own (an anchor).  All of them are collected from a document before any
reference is followed (`Registry.add`).  Collecting also finds the references that lead out of the
document.
-/

namespace ConfigCheck

/-- The number of values inside a value, itself among them. -/
def Json.nodes (value : Json) : Nat :=
  match value with
  | .array items => nodesOfItems items + 1
  | .object members => nodesOfMembers members + 1
  | _ => 1
where
  /-- The number of values in a list. -/
  nodesOfItems : List Json → Nat
    | [] => 0
    | v :: rest => v.nodes + nodesOfItems rest
  /-- The number of values in members. -/
  nodesOfMembers : List (String × Json) → Nat
    | [] => 0
    | (_, v) :: rest => v.nodes + nodesOfMembers rest

namespace Schema

/-! ## Schemas inside a schema -/

/-- What the value of a keyword holds, when schemas are looked for that can be referred to. -/
def Draft.holds (d : Draft) (keyword : String) : Role :=
  match keyword with
  | "not" | "additionalProperties" => .schema
  | "additionalItems" => if d.since .draft2020 then .plain else .schema
  | "items" => if d.since .draft2020 then .schema else .schemaOrSchemas
  | "contains" | "propertyNames" => if d.since .draft6 then .schema else .plain
  | "if" | "then" | "else" => if d.since .draft7 then .schema else .plain
  | "contentSchema" | "unevaluatedItems" | "unevaluatedProperties" =>
    if d.since .draft2019 then .schema else .plain
  | "allOf" | "anyOf" | "oneOf" => .schemas
  | "prefixItems" => if d.since .draft2020 then .schemas else .plain
  | "definitions" | "properties" | "patternProperties" => .namedSchemas
  | "$defs" | "dependentSchemas" => if d.since .draft2019 then .namedSchemas else .plain
  | "dependencies" => if d.since .draft2019 then .plain else .namedSchemas
  | _ => .plain

/-- The schemas directly inside a schema. -/
def Draft.subschemas (d : Draft) (contents : Json) : List Json :=
  (Json.members contents).flatMap fun (keyword, v) =>
    match d.holds keyword, v with
    | .schemas, .array items | .schemaOrSchemas, .array items => items
    | .schema, v | .schemaOrSchemas, v => [v]
    | .namedSchemas, .object members => members.map (·.2)
    | _, _ => []

/-- The names that a schema has, and whether a name can be taken over by schemas further out. -/
def Draft.anchors (d : Draft) (contents : Json) : List (String × Bool) :=
  let text (name : String) : Option String := textOf? (Json.members contents) name
  let anchor (name : String) (dynamic : Bool) : List (String × Bool) :=
    ((text name).map fun s => (s, dynamic)).toList
  match d with
  | .draft2020 => anchor "$anchor" false ++ anchor "$dynamicAnchor" true
  | .draft2019 => anchor "$anchor" false
  | d => ((text d.idKeyword).bind fun s =>
      match s.toList with
      | '#' :: rest => some (String.ofList rest, false)
      | _ => none).toList

/-! ## Registries -/

/-- A schema with the draft in which it is written. -/
structure Resource where
  /-- The schema. -/
  contents : Json
  /-- Its draft. -/
  draft : Draft
deriving Repr, Inhabited

/-- A schema with a name. -/
structure Anchor where
  /-- Whether schemas further out can take over the name. -/
  dynamic : Bool
  /-- The schema. -/
  resource : Resource
deriving Repr, Inhabited

/-- The schemas that can be referred to; of two entries the first one counts. -/
structure Registry where
  /-- The schemas by their identifiers. -/
  resources : List (String × Resource) := []
  /-- The schemas by their base and their name. -/
  anchors : List ((String × String) × Anchor) := []
deriving Repr, Inhabited

namespace Registry

/-- The schema with an identifier. -/
def find? (r : Registry) (uri : Uri) : Option Resource := r.resources.lookup uri.toString

/-- Puts in a schema with an identifier. -/
def insert (r : Registry) (uri : Uri) (resource : Resource) : Registry :=
  { r with resources := (uri.toString, resource) :: r.resources }

/-- Puts in a schema with a name. -/
def insertAnchor (r : Registry) (base : Uri) (name : String) (a : Anchor) : Registry :=
  { r with anchors := ((base.toString, name), a) :: r.anchors }

end Registry

/-! ## References that lead out -/

/-- What is collected from a document. -/
structure Collection where
  /-- The schemas found. -/
  registry : Registry
  /-- Where references lead that are not local. -/
  external : List Uri := []
  /-- The references looked at, with their bases. -/
  seen : List (String × String) := []
deriving Inhabited

/-- Why the schemas of a document cannot be collected. -/
inductive CollectFault where
  /-- An identifier or a reference cannot be resolved. -/
  | base (fault : BaseFault)
  /-- A schema names a draft that does not exist. -/
  | unknownDraft (name : String)
deriving DecidableEq, Repr, Inhabited

/-- The fault in words. -/
def CollectFault.message : CollectFault → String
  | base fault => fault.message
  | unknownDraft name => s!"Unknown specification: {name}"

/-- Resolves a text while schemas are collected. -/
def collectText (base : Uri) (text : String) : Except CollectFault Uri :=
  match resolveText base text with
  | .ok u => .ok u
  | .error fault => .error (.base fault)

/-- The base inside a schema, while schemas are collected. -/
def collectBase (base : Uri) (d : Draft) (members : Json.Members) : Except CollectFault Uri :=
  match baseWithin base d members with
  | .ok u => .ok u
  | .error fault => .error (.base fault)

/-- What the identifiers of the meta-schemas and of their vocabularies begin with. -/
def wellKnownPlaces : List String :=
  ["https://json-schema.org/draft/2020-12/", "https://json-schema.org/draft/2019-09/",
    "http://json-schema.org/draft-07/", "http://json-schema.org/draft-06/",
    "http://json-schema.org/draft-04/"]

/-- Whether a reference leads to a meta-schema, or stands in one. -/
def isWellKnown (base : Uri) (text : String) : Bool :=
  wellKnownPlaces.any fun place => text.startsWith place || base.toString.startsWith place

/-- The number that a token writes in its shortest form. -/
def shortestIndex? (token : String) : Option Nat :=
  match token.toList with
  | '+' :: _ => none
  | ['0'] => some 0
  | '0' :: _ => none
  | _ => Json.indexOfToken? token

/-- The value at a local pointer, which is not percent-encoded. -/
def localTarget? (root : Json) (text : String) : Option Json :=
  match text.toList.dropWhile (· == '#') with
  | [] => some root
  | '/' :: rest =>
    (Json.pointerTokens (String.ofList ('/' :: rest))).foldl (fun value token =>
      value.bind fun v =>
        match v with
        | .array items => (shortestIndex? token).bind fun i => items[i]?
        | v => v.get? token) (some root)
  | _ => none

/-- Looks at the references of one schema.  A local reference is looked up in the schema `root` and
followed to the references of its target.  The number bounds the length of such chains. -/
def collectReferences (base : Uri) (root : Json) :
    Nat → Json → Collection → Except CollectFault Collection
  | 0, _, c => .ok c
  | n + 1, contents, c =>
    let refer (text : String) (c : Collection) : Except CollectFault Collection :=
      if text = "#" || (base.toString, text) ∈ c.seen then .ok c
      else
        let c := { c with seen := (base.toString, text) :: c.seen }
        if text.toList.head? = some '#' then
          match localTarget? root text with
          | some target => collectReferences base root n target c
          | none => .ok c
        else (collectText base.withoutFragment text).map fun u =>
          { c with external := c.external ++ [u] }
    let members := Json.members contents
    if base.scheme = some "urn" then .ok c
    else
      match textOf? members "$ref" with
      | some text =>
        if isWellKnown base text then .ok c
        else do
          let c ← refer text c
          match textOf? members "$schema" with
          | some text => if isWellKnown base text then .ok c else refer text c
          | none => .ok c
      | none =>
        match textOf? members "$schema" with
        | some text => if isWellKnown base text then .ok c else refer text c
        | none => .ok c

/-- Looks at the references of a schema and at those that its local references lead to. -/
def Collection.addReferences (c : Collection) (base : Uri) (contents : Json) :
    Except CollectFault Collection :=
  collectReferences base contents (contents.nodes + 1) contents c

/-! ## Collecting -/

/-- A schema that waits to be looked at. -/
structure Pending where
  /-- The base around it. -/
  base : Uri
  /-- The schema. -/
  resource : Resource

/-- Looks at one schema: its identifier, its names, its references and the schemas inside it. -/
def Collection.visit (c : Collection) (p : Pending) :
    Except CollectFault (Collection × List Pending) := do
  let d := p.resource.draft
  let contents := p.resource.contents
  let named := (d.identifierOf? (Json.members contents)).isSome
  let base ← collectBase p.base d (Json.members contents)
  let registry := if named then c.registry.insert base p.resource else c.registry
  let registry := (d.anchors contents).foldl (fun r (name, dynamic) =>
    r.insertAnchor base name ⟨dynamic, p.resource⟩) registry
  let c ← { c with registry }.addReferences base contents
  (d.subschemas contents).foldlM (fun (c, pending) sub => do
    let inner ←
      match d.detect (Json.members sub) with
      | .ok inner => .ok inner
      | .error name => .error (.unknownDraft name)
    let subBase ← collectBase base inner (Json.members sub)
    let c ← c.addReferences subBase sub
    return (c, pending ++ [⟨base, ⟨sub, inner⟩⟩])) (c, [])

/-- Looks at all schemas of one level, then at those inside them; the number bounds the levels. -/
def Collection.visitAll :
    Nat → List Pending → Collection → Except CollectFault Collection
  | 0, _, c => .ok c
  | n + 1, pending, c =>
    if pending.isEmpty then .ok c
    else do
      let (c, next) ← pending.foldlM (fun (c, next) p => do
        let (c, more) ← c.visit p
        return (c, next ++ more)) (c, [])
      visitAll n next c

/-- Collects the schemas of a document that has a base. -/
def Registry.collect (r : Registry) (base : Uri) (resource : Resource) :
    Except CollectFault Collection :=
  Collection.visitAll (resource.contents.depth + 2) [⟨base, resource⟩]
    { registry := r.insert base resource }

/-- The schemas of a registry and of a document; a document at fault adds nothing. -/
def Registry.add (r : Registry) (base : Uri) (resource : Resource) : Registry :=
  match r.collect base resource with
  | .ok c => c.registry
  | .error _ => r

/-- The first identifier to which references lead outside and that no schema has. -/
def Collection.missing? (c : Collection) : Option Uri :=
  (c.external.map Uri.withoutFragment).find? fun u => (c.registry.find? u).isNone

end Schema

end ConfigCheck
