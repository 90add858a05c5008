/-!
# Characters of identifiers

Which characters can stand in which component of an identifier.  All of them are ASCII.
-/

namespace ConfigCheck.Uri

/-- Characters without a meaning of their own. -/
def isUnreserved (c : Char) : Bool := c.isAlphanum || c ∈ ['-', '.', '_', '~']

/-- Characters that separate parts inside a component. -/
def isSubDelim (c : Char) : Bool := c ∈ ['!', '$', '&', '\'', '(', ')', '*', '+', ',', ';', '=']

/-- Characters of a scheme behind its first letter. -/
def isSchemeChar (c : Char) : Bool := c.isAlphanum || c ∈ ['+', '-', '.']

/-- Characters of a registered name. -/
def isNameChar (c : Char) : Bool := isUnreserved c || isSubDelim c

/-- Characters of the part before the host, which are also those of a name and a port. -/
def isUserChar (c : Char) : Bool := isNameChar c || c = ':'

/-- Characters of a path. -/
def isPathChar (c : Char) : Bool := isNameChar c || c ∈ [':', '@', '/']

/-- Characters of the first segment of a path that has no scheme before it. -/
def isPlainSegmentChar (c : Char) : Bool := isNameChar c || c = '@'

/-- Characters of a query and of a fragment. -/
def isQueryChar (c : Char) : Bool := isPathChar c || c = '?'

/-- Whether the character is a hexadecimal digit. -/
def isHex (c : Char) : Bool := c.isDigit || ('a' ≤ c && c ≤ 'f') || ('A' ≤ c && c ≤ 'F')

/-- The value of a hexadecimal digit. -/
def hexDigit (c : Char) : Nat :=
  if c.isDigit then c.toNat - '0'.toNat
  else if 'a' ≤ c then c.toNat - 'a'.toNat + 10
  else c.toNat - 'A'.toNat + 10

end ConfigCheck.Uri
