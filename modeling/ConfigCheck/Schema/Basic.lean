import ConfigCheck.Schema.Assertion
import ConfigCheck.Uri.Resolve

/-!
# Schemas

A schema is a verdict on all values, or a list of keywords that must all hold.  A keyword is an
assertion, or it applies schemas to the value itself, to its members or to its items.

References are not followed when a schema is read: a `Reference` holds what is needed to find its
target later, so a schema is a finite tree even where it refers to itself.
-/

namespace ConfigCheck

namespace Schema

/-- Where a schema stands: what its references are relative to. -/
structure Scope where
  /-- The base identifier. -/
  base : Uri
  /-- The bases of the schemas from which references led here, the latest first. -/
  outer : List Uri
  /-- The draft of the schema. -/
  draft : Draft
  /-- The draft of the document, which decides the vocabularies in use. -/
  root : Draft
deriving DecidableEq, Repr, Inhabited

/-- Whether a reference has a text or leads to the outermost schema that allows it. -/
inductive ReferenceKind where
  /-- A reference with a text. -/
  | named (text : String)
  /-- A reference to the root, or to a root further out that allows recursion. -/
  | recursive
deriving DecidableEq, Repr, Inhabited

/-- A reference and where it stands. -/
structure Reference where
  /-- What it refers to. -/
  kind : ReferenceKind
  /-- Where it stands. -/
  scope : Scope
deriving DecidableEq, Repr, Inhabited

end Schema

mutual

/-- A schema that has been read. -/
inductive Schema where
  /-- Allows all values or none. -/
  | always (verdict : Bool)
  /-- All keywords must hold. -/
  | keywords (list : List Schema.Keyword)
  /-- A value that is no schema. -/
  | unusable (value : Json)

/-- A keyword of a schema, with the schemas inside it. -/
inductive Schema.Keyword where
  /-- A rule without schemas. -/
  | assertion (keyword : String) (rule : Schema.Assertion)
  /-- A keyword that cannot be used, and what is wrong with it. -/
  | unusable (cause : Schema.Complaint)
  /-- All schemas hold. -/
  | allOf (branches : List Schema)
  /-- At least one schema holds. -/
  | anyOf (branches : List Schema)
  /-- Exactly one schema holds. -/
  | oneOf (branches : List Schema)
  /-- The schema, which is written as `source`, does not hold. -/
  | not (source : Json) (schema : Schema)
  /-- If the condition holds, so does the first branch, else the second. -/
  | conditional (condition then_ else_ : Schema)
  /-- A condition without branches.  It demands nothing, but it looks at parts of the value. -/
  | condition (schema : Schema)
  /-- Each listed member that is there is as its schema says. -/
  | properties (list : List (String × Schema))
  /-- Each member with a name that matches is as the schema says. -/
  | patternProperties (list : List (Regex.Pattern × Schema))
  /-- As the two before, and each other member is as `others` says. -/
  | members (list : List (String × Schema)) (patterns : List (Regex.Pattern × Schema))
      (others : Schema)
  /-- As the first two, and there are no other members. -/
  | closedMembers (list : List (String × Schema)) (patterns : List (Regex.Pattern × Schema))
  /-- There are no members at all. -/
  | noMembers
  /-- The names of members are as the schema says. -/
  | propertyNames (schema : Schema)
  /-- There are no names of members. -/
  | noPropertyNames
  /-- If a member is there, the value is as the schema says. -/
  | dependent (keyword name : String) (schema : Schema)
  /-- The items behind the first ones are as the schema says. -/
  | items (keyword : String) (skip : Nat) (schema : Schema)
  /-- The first items are as their schemas say. -/
  | itemList (keyword : String) (list : List Schema)
  /-- Some items are as the schema says, between `low` and `high` of them. -/
  | contains (low high : Option Nat) (schema : Schema)
  /-- Members that no other keyword has looked at are as the schema says. -/
  | unevaluatedProperties (schema : Schema)
  /-- Items that no other keyword has looked at are as the schema says. -/
  | unevaluatedItems (schema : Schema)
  /-- The value is as the schema says to which the reference leads. -/
  | reference (keyword : String) (target : Schema.Reference)

end

instance : Inhabited Schema := ⟨.always true⟩

instance : Inhabited Schema.Keyword := ⟨.allOf []⟩

namespace Schema

/-- How many branches of a choice hold. -/
inductive Tally where
  /-- None. -/
  | none
  /-- One. -/
  | one
  /-- More than one. -/
  | many
deriving DecidableEq, Repr, Inhabited

/-- The tally of a list of verdicts. -/
def Tally.ofVerdicts (verdicts : List Bool) : Tally :=
  match verdicts.count true with
  | 0 => .none
  | 1 => .one
  | _ => .many

end Schema

end ConfigCheck
