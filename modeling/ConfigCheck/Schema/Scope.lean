import ConfigCheck.Schema.Basic

/-!
# Identifiers of schemas

A schema can name itself and thereby change the base for the references inside it, and it can name
a draft of its own.  How it names itself depends on the draft.
-/

namespace ConfigCheck.Schema

/-- The text of a member. -/
def textOf? (members : Json.Members) (name : String) : Option String :=
  (Json.Members.get? members name).bind Json.text?

/-- The draft that a schema names, or that of the schema around it; a name that no draft has is
the error. -/
def Draft.detect (d : Draft) (members : Json.Members) : Except String Draft :=
  match textOf? members "$schema" with
  | none => .ok d
  | some s =>
    match Draft.ofIdentifier? s with
    | some named => .ok named
    | none => .error (Draft.trimMarks s)

/-- The draft that a schema names, or that of the schema around it.  A name that no draft has
stands for the latest. -/
def Draft.within (d : Draft) (members : Json.Members) : Draft :=
  match d.detect members with
  | .ok named => named
  | .error _ => .latest

/-- The identifier by which a schema names itself, without number signs at its end.  Up to draft 7
a reference hides it, and a text that begins with a number sign is the name of a place and no
identifier. -/
def Draft.identifierOf? (d : Draft) (members : Json.Members) : Option String :=
  let id := textOf? members d.idKeyword
  let id := if d.referencesStandAlone then
      id.filter fun s => !Json.Members.has members "$ref" && s.toList.head? != some '#'
    else id
  id.map Draft.trimMarks

/-- Why a text cannot be resolved against a base. -/
inductive BaseFault where
  /-- The text is no identifier. -/
  | malformed (text : String) (fault : Uri.Fault)
  /-- The base does not admit it. -/
  | unresolvable (text : String) (base : Uri) (fault : Uri.ResolveFault)
deriving DecidableEq, Repr, Inhabited

/-- The fault in words. -/
def BaseFault.message : BaseFault → String
  | malformed text fault => s!"Invalid URI reference '{text}': {fault.message}"
  | unresolvable text base fault =>
    s!"Failed to resolve '{text}' against '{base}': {fault.message}"

/-- Resolves a text against a base.  A base that ends in the fragment that the text is stays as
it is. -/
def resolveText (base : Uri) (text : String) : Except BaseFault Uri :=
  if text.toList.head? = some '#' && base.toString.endsWith text then .ok base
  else
    match Uri.read text with
    | .error fault => .error (.malformed text fault)
    | .ok u =>
      match Uri.resolve base u with
      | .error fault => .error (.unresolvable text base fault)
      | .ok u => .ok u.normalize

/-- The base for the references inside a schema with these members. -/
def baseWithin (base : Uri) (draft : Draft) (members : Json.Members) : Except BaseFault Uri :=
  match draft.identifierOf? members with
  | none => .ok base
  | some id => resolveText base id

/-- The scope of a schema with these members. -/
def Scope.enter (scope : Scope) (members : Json.Members) : Scope :=
  let draft := scope.draft.within members
  match baseWithin scope.base draft members with
  | .ok base => { scope with base, draft }
  | .error _ => { scope with draft }

end ConfigCheck.Schema
