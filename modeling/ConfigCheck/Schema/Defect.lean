import ConfigCheck.Schema.Lookup

/-!
# Defects

A schema is unusable if a keyword inside it is, or if a reference leads nowhere.  The first defect
in the order of the keywords counts.  Every reference is followed once, so the search ends although
schemas may refer to themselves.
-/

namespace ConfigCheck.Schema

/-- What is wrong with a schema. -/
inductive Defect where
  /-- A keyword is unusable. -/
  | complaint (c : Complaint)
  /-- A reference leads nowhere. -/
  | lookup (fault : LookupFault)
deriving Repr, Inhabited

/-- The defect in words. -/
def Defect.message : Defect → String
  | complaint c => c.message
  | lookup fault => fault.message

/-- The references that have been followed, by what they resolve to. -/
abbrev Followed := List String

/-- What a value that is no schema is reported as. -/
def notASchema (value : Json) : Defect := .complaint (.types value [.boolean, .object])

/-- Whether there are keywords for what the others have not looked at. -/
def hasRest (list : List Keyword) : Bool :=
  list.any fun k => match k with
    | .unevaluatedProperties _ | .unevaluatedItems _ => true
    | _ => false

section

variable (visit : Reference → Followed → Except Defect Followed)

mutual

/-- Searches a schema; `visit` searches the target of a reference. -/
def searchSchema : Schema → Followed → Except Defect Followed
  | .always _, seen => .ok seen
  | .unusable v, _ => .error (notASchema v)
  | .keywords list, seen =>
    match searchKeywords list seen with
    | .error d => .error d
    | .ok seen => if hasRest list then searchConditions list seen else .ok seen

/-- Searches keywords in their order. -/
def searchKeywords : List Keyword → Followed → Except Defect Followed
  | [], seen => .ok seen
  | k :: rest, seen =>
    match searchKeyword k seen with
    | .ok seen => searchKeywords rest seen
    | .error d => .error d

/-- Searches the schemas inside a keyword. -/
def searchKeyword : Keyword → Followed → Except Defect Followed
  | .assertion _ _, seen => .ok seen
  | .unusable c, _ => .error (.complaint c)
  | .allOf branches, seen => searchAll branches seen
  | .anyOf branches, seen => searchAll branches seen
  | .oneOf branches, seen => searchAll branches seen
  | .not _ s, seen => searchSchema s seen
  | .conditional c t e, seen =>
    match searchSchema c seen with
    | .error d => .error d
    | .ok seen =>
      match searchSchema t seen with
      | .error d => .error d
      | .ok seen => searchSchema e seen
  | .condition _, seen => .ok seen
  | .properties list, seen => searchNamed list seen
  | .patternProperties list, seen => searchPatterns list seen
  | .members list patterns others, seen =>
    match searchPatterns patterns seen with
    | .error d => .error d
    | .ok seen =>
      if patterns.isEmpty then
        match searchNamed list seen with
        | .error d => .error d
        | .ok seen => searchSchema others seen
      else
        match searchSchema others seen with
        | .error d => .error d
        | .ok seen => searchNamed list seen
  | .closedMembers list patterns, seen =>
    match searchPatterns patterns seen with
    | .error d => .error d
    | .ok seen => searchNamed list seen
  | .noMembers, seen => .ok seen
  | .propertyNames s, seen => searchSchema s seen
  | .noPropertyNames, seen => .ok seen
  | .dependent _ _ s, seen => searchSchema s seen
  | .items _ _ s, seen => searchSchema s seen
  | .itemList _ list, seen => searchAll list seen
  | .contains _ _ s, seen => searchSchema s seen
  | .unevaluatedProperties s, seen => searchSchema s seen
  | .unevaluatedItems s, seen => searchSchema s seen
  | .reference _ r, seen => visit r seen

/-- Searches schemas in their order. -/
def searchAll : List Schema → Followed → Except Defect Followed
  | [], seen => .ok seen
  | s :: rest, seen =>
    match searchSchema s seen with
    | .ok seen => searchAll rest seen
    | .error d => .error d

/-- Searches schemas with names in their order. -/
def searchNamed : List (String × Schema) → Followed → Except Defect Followed
  | [], seen => .ok seen
  | (_, s) :: rest, seen =>
    match searchSchema s seen with
    | .ok seen => searchNamed rest seen
    | .error d => .error d

/-- Searches schemas of patterns in their order. -/
def searchPatterns : List (Regex.Pattern × Schema) → Followed → Except Defect Followed
  | [], seen => .ok seen
  | (_, s) :: rest, seen =>
    match searchSchema s seen with
    | .ok seen => searchPatterns rest seen
    | .error d => .error d

/-- Searches the conditions without branches among keywords and in the schemas that apply to the
same value.  They count where a keyword asks what the others have not looked at. -/
def searchConditions : List Keyword → Followed → Except Defect Followed
  | [], seen => .ok seen
  | k :: rest, seen =>
    match searchCondition k seen with
    | .ok seen => searchConditions rest seen
    | .error d => .error d

/-- Searches the conditions without branches in a keyword. -/
def searchCondition : Keyword → Followed → Except Defect Followed
  | .condition s, seen => searchLone s seen
  | .conditional c t e, seen =>
    match searchWithin c seen with
    | .error d => .error d
    | .ok seen =>
      match searchWithin t seen with
      | .error d => .error d
      | .ok seen => searchWithin e seen
  | .allOf branches, seen => searchBranches branches seen
  | .anyOf branches, seen => searchBranches branches seen
  | .oneOf branches, seen => searchBranches branches seen
  | .dependent _ _ s, seen => searchWithin s seen
  | _, seen => .ok seen

/-- Searches a condition without branches if it has keywords. -/
def searchLone : Schema → Followed → Except Defect Followed
  | .keywords list, seen =>
    match searchKeywords list seen with
    | .error d => .error d
    | .ok seen => searchConditions list seen
  | _, seen => .ok seen

/-- Searches the conditions without branches in a schema. -/
def searchWithin : Schema → Followed → Except Defect Followed
  | .keywords list, seen => searchConditions list seen
  | _, seen => .ok seen

/-- Searches the conditions without branches in schemas. -/
def searchBranches : List Schema → Followed → Except Defect Followed
  | [], seen => .ok seen
  | s :: rest, seen =>
    match searchWithin s seen with
    | .ok seen => searchBranches rest seen
    | .error d => .error d

end

end

/-- What a reference resolves to, as text. -/
def Reference.key (r : Reference) : Except Defect String :=
  let text := match r.kind with
    | .named text => text
    | .recursive => "#"
  match resolveText r.scope.base text with
  | .ok uri => .ok uri.toString
  | .error fault => .error (.lookup (.base fault))

/-- Searches the target of a reference unless it was searched before; the number bounds how many
references are followed one inside the other. -/
def visitReference (registry : Registry) : Nat → Reference → Followed → Except Defect Followed
  | 0, _, seen => .ok seen
  | n + 1, r, seen => do
    let key ← r.key
    if key ∈ seen then return seen
    match registry.follow r with
    | .error fault => throw (.lookup fault)
    | .ok target =>
      searchSchema (visitReference registry n) (ofContents target.scope target.contents)
        (key :: seen)

/-- The first defect of a schema, if there is one; `references` is at least the number of
references in reach. -/
def firstDefect? (registry : Registry) (references : Nat) (s : Schema) : Option Defect :=
  match searchSchema (visitReference registry references) s [] with
  | .ok _ => none
  | .error d => some d

end ConfigCheck.Schema
