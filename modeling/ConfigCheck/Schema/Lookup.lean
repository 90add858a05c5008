import ConfigCheck.Schema.Resource
import ConfigCheck.Text.Utf8

/-!
# Following references

A reference leads to a resource by its identifier, and from there by a pointer or by a name.  The
base changes to that of the resource, and to that of each schema with an identifier on the way.
A name that can be taken over belongs to the outermost schema, among those through which references
led here, that has it.
-/

namespace ConfigCheck.Schema

/-- Why a reference leads nowhere. -/
inductive LookupFault where
  /-- The text cannot be resolved. -/
  | base (fault : BaseFault)
  /-- There is no such resource among those collected. -/
  | unknown (uri : Uri)
  /-- There is no such resource outside. -/
  | external (uri : Uri)
  /-- The pointer leads to nothing. -/
  | nowhere (pointer : String)
  /-- A token of the pointer is no index. -/
  | noIndex (token pointer : String)
  /-- The octets of the pointer are no text. -/
  | notText (pointer : String)
  /-- There is no such name. -/
  | noAnchor (name : String)
  /-- The name cannot be one. -/
  | badAnchor (name : String)
deriving DecidableEq, Repr, Inhabited

/-- What is said of a resource that cannot be had. -/
def unavailable (uri : Uri) (reason : String) : String :=
  s!"Resource '{uri}' is not present in a registry and retrieving it failed: {reason}"

/-- The fault in words. -/
def LookupFault.message : LookupFault → String
  | base fault => fault.message
  | unknown uri => unavailable uri
      "Retrieving external resources is not supported once the registry is populated"
  | external uri => unavailable uri s!"external schema references are not supported: {uri}"
  | nowhere pointer => s!"Pointer '{pointer}' does not exist"
  | noIndex token pointer => s!"Failed to parse array index '{token}' in pointer '{pointer}'"
  | notText pointer =>
    s!"Invalid percent encoding in pointer '{pointer}': " ++
      "the decoded bytes do not represent valid UTF-8"
  | noAnchor name => s!"Anchor '{name}' does not exist"
  | badAnchor name => s!"Anchor '{name}' is invalid"

/-- A schema to which a reference leads, and the scope in which it is read. -/
structure Target where
  /-- The schema. -/
  contents : Json
  /-- Its scope. -/
  scope : Scope
deriving Repr, Inhabited

/-- The scope after a reference to a resource: the base that is left is remembered if it changes,
or if none is remembered yet. -/
def Scope.evolve (scope : Scope) (base : Uri) : Scope :=
  if scope.outer.isEmpty || base != scope.base then
    { scope with base, outer := scope.base :: scope.outer }
  else scope

/-! ## Pointers -/

/-- The bytes for which a text with percent-encoded octets stands. -/
def percentDecode : List Char → List UInt8
  | '%' :: a :: b :: rest =>
    if Uri.isHex a && Uri.isHex b then
      UInt8.ofNat (Uri.hexDigit a * 16 + Uri.hexDigit b) :: percentDecode rest
    else Utf8.encode "%" ++ percentDecode (a :: b :: rest)
  | c :: rest => Utf8.encode (String.singleton c) ++ percentDecode rest
  | [] => []

/-- Whether a path of segments, from a resource or from the last schema with an identifier, leads
to a schema and not to some other value. -/
def Draft.leadsToSchema (d : Draft) : List Json.Segment → Bool
  | [] => true
  | .index _ :: rest => d.leadsToSchema rest
  | .key name :: rest =>
    match d.holds name with
    | .plain => false
    | .schema | .schemaOrSchemas => d.leadsToSchema rest
    | .schemas | .namedSchemas =>
      match rest with
      | [] => false
      | _ :: rest => d.leadsToSchema rest

/-- The scope of the schema at the end of a path, and the path from the last identifier. -/
def enterAlong (scope : Scope) (d : Draft) (path : List Json.Segment) (contents : Json) :
    Except LookupFault (Scope × List Json.Segment) :=
  if d.leadsToSchema path then
    match baseWithin scope.base (d.within contents.members) contents.members with
    | .error fault => .error (.base fault)
    | .ok base => .ok ({ scope with base }, if base = scope.base then path else [])
  else .ok (scope, path)

/-- Follows the parts of a pointer.  A part is a number of an item as it is written, and a name only
after its escapes are resolved. -/
def walkParts (d : Draft) (pointer : String) :
    List String → List Json.Segment → Scope → Json → Except LookupFault (Scope × Json)
  | [], _, scope, contents => .ok (scope, contents)
  | part :: rest, path, scope, contents => do
    let (segment, next) ←
      match contents with
      | .array items =>
        match Json.indexOfToken? part with
        | none => .error (.noIndex part pointer)
        | some i =>
          match items[i]? with
          | some v => .ok (Json.Segment.index i, v)
          | none => .error (.nowhere pointer)
      | contents =>
        match contents.get? (Json.unescapeToken part) with
        | some v => .ok (Json.Segment.key (Json.unescapeToken part), v)
        | none => .error (.nowhere pointer)
    let (scope, path) ← enterAlong scope d (path ++ [segment]) next
    walkParts d pointer rest path scope next

/-- The parts of a percent-encoded pointer. -/
def partsOfPointer (pointer : String) : Except LookupFault (List String) :=
  match Utf8.decode? (percentDecode pointer.toList) with
  | some text => .ok (Json.pointerParts text)
  | none => .error (.notText pointer)

/-! ## Names -/

namespace Registry

/-- The schema with a name in a resource. -/
def anchor (r : Registry) (uri : Uri) (name : String) : Except LookupFault Anchor :=
  let missing : LookupFault := if name.toList.contains '/' then .badAnchor name else .noAnchor name
  let under (uri : Uri) : Option Anchor := r.anchors.lookup (uri.toString, name)
  match under uri with
  | some a => .ok a
  | none =>
    match (r.find? uri).bind fun s => s.draft.identifierOf? s.contents.members with
    | none => .error missing
    | some id =>
      match resolveText Uri.unnamed id with
      | .error fault => .error (.base fault)
      | .ok uri =>
        match under uri with
        | some a => .ok a
        | none => .error missing

/-- The outermost schema that has a name which can be taken over. -/
def outermost (r : Registry) (name : String) (start : Resource) (outer : List Uri) :
    Except LookupFault Resource :=
  outer.foldlM (fun found uri =>
    match r.anchor uri name with
    | .ok a => .ok (if a.dynamic then a.resource else found)
    | .error (.noAnchor _) => .ok found
    | .error fault => .error fault) start

/-! ## References -/

/-- Splits a reference at its last number sign. -/
def splitFragment (text : String) : String × String :=
  let s := text.toList
  if s.contains '#' then
    let fragment := (s.reverse.takeWhile (· != '#')).reverse
    (String.ofList (s.take (s.length - fragment.length - 1)), String.ofList fragment)
  else (text, "")

/-- Follows a reference with a text. -/
def lookup (r : Registry) (scope : Scope) (text : String) : Except LookupFault Target := do
  let (uri, fragment) ←
    match text.toList with
    | '#' :: rest => pure (scope.base, String.ofList rest)
    | _ =>
      let (front, fragment) := splitFragment text
      match resolveText scope.base front with
      | .ok uri => pure (uri, fragment)
      | .error fault => .error (.base fault)
  let some resource := r.find? uri | .error (.unknown uri)
  let inner := scope.evolve uri
  let d := resource.draft
  let target (scope : Scope) (d : Draft) (contents : Json) : Target :=
    ⟨contents, { scope with draft := d.within contents.members }⟩
  if fragment.toList.head? = some '/' then
    let parts ← partsOfPointer fragment
    let (scope, contents) ← walkParts d fragment parts [] inner resource.contents
    return target scope d contents
  else if fragment != "" then
    let a ← r.anchor uri fragment
    if a.dynamic then
      let found ← r.outermost fragment a.resource inner.outer
      match baseWithin inner.base found.draft found.contents.members with
      | .ok base => return target { inner with base } found.draft found.contents
      | .error fault => .error (.base fault)
    else return target inner a.resource.draft a.resource.contents
  else return target inner d resource.contents

/-- Whether a schema can be taken over by roots further out. -/
def isRecursive (contents : Json) : Bool := isTrue contents.members "$recursiveAnchor"

/-- Follows a reference to the root: while the roots further out allow recursion, the outermost of
them is meant. -/
def lookupRecursive (r : Registry) (scope : Scope) : Except LookupFault Target := do
  let start ← r.lookup scope "#"
  if isRecursive start.contents then climb start scope.outer else return start
where
  /-- Goes outwards as long as recursion is allowed. -/
  climb (found : Target) : List Uri → Except LookupFault Target
    | [] => .ok found
    | uri :: outer => do
      let next ← r.lookup scope uri.toString
      if isRecursive next.contents then climb next outer else return found

/-- Follows a reference. -/
def follow (r : Registry) (reference : Reference) : Except LookupFault Target :=
  match reference.kind with
  | .named text => r.lookup reference.scope text
  | .recursive => r.lookupRecursive reference.scope

end Registry

end ConfigCheck.Schema
