/-!
# Resource identifiers

An identifier has up to five components, and the text of an identifier is their concatenation with
the signs between them (`Uri.toString`).  A component that is absent differs from one that is
empty.
-/

namespace ConfigCheck

/-- An identifier, or a reference that is relative to one. -/
structure Uri where
  /-- What stands before the first colon. -/
  scheme : Option String := none
  /-- What stands behind two slashes. -/
  authority : Option String := none
  /-- The path, which may be empty. -/
  path : String := ""
  /-- What stands behind a question mark. -/
  query : Option String := none
  /-- What stands behind a number sign. -/
  fragment : Option String := none
deriving DecidableEq, Repr, Inhabited

namespace Uri

/-- The text of the identifier. -/
def toString (u : Uri) : String :=
  u.scheme.elim "" (· ++ ":") ++ u.authority.elim "" ("//" ++ ·) ++ u.path ++
    u.query.elim "" ("?" ++ ·) ++ u.fragment.elim "" ("#" ++ ·)

instance : ToString Uri := ⟨toString⟩

/-- The identifier without its fragment. -/
def withoutFragment (u : Uri) : Uri := { u with fragment := none }

/-- The base of a document that has no identifier. -/
def unnamed : Uri := { scheme := some "json-schema", authority := some "", path := "/" }

end Uri

end ConfigCheck
