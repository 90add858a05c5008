import ConfigCheck.Yaml.Document

/-!
# Reading YAML text

From characters to the tree of the one document of a text.  A byte order mark at the beginning is
dropped; control characters are refused wherever they stand.
-/

namespace ConfigCheck.Yaml

/-- The characters that may occur. -/
def isAllowed (c : Char) : Bool :=
  c = '\t' || c = '\n' || c = '\r' || (' ' ≤ c && c ≤ '~') || c = '\u0085' ||
    ('\u00a0' ≤ c && c != '\ufffe' && c != '\uffff')

/-- The number of bytes before the first character that may not occur. -/
def forbiddenOffset? (offset : Nat) : List Char → Option Nat
  | [] => none
  | c :: rest => if isAllowed c then forbiddenOffset? (offset + c.utf8Size) rest else some offset

/-- The text without a byte order mark, and the size of the mark. -/
def dropByteOrderMark : List Char → List Char × Nat
  | '\ufeff' :: rest => (rest, 3)
  | cs => (cs, 0)

/-- The tree of the one document of a text. -/
def read (text : String) : Except Error Node := do
  let (cs, offset) := dropByteOrderMark text.toList
  if let some offset := forbiddenOffset? offset cs then throw (.controlCharacter offset)
  let (document, more) := Document.ofEvents (.ofTokens (.ofText cs))
  let n ← document.toNode
  if more then throw .moreDocuments
  return n

end ConfigCheck.Yaml
