import ConfigCheck.Yaml.Node
import ConfigCheck.Yaml.Scalar
import ConfigCheck.Yaml.SyntaxError

/-!
# Why a text is not a YAML document

Besides syntax errors there are refusals of the content: characters that may not occur, limits on
depth and on aliases, keys that occur twice, scalars that are not what their tag says, and merge
keys that cannot be applied.
-/

namespace ConfigCheck.Yaml

/-- What is wrong with a node. -/
inductive NodeProblem where
  /-- A mapping has a key twice. -/
  | duplicateKey (key : Node)
  /-- A scalar has no meaning. -/
  | scalar (problem : ScalarProblem)
deriving Repr, Inhabited

/-- The text of a problem with a scalar. -/
def ScalarProblem.message : ScalarProblem → String
  | .notNull text => s!"invalid value: string {Text.quote text}, expected null"
  | .notBool text => s!"invalid value: string {Text.quote text}, expected a boolean"
  | .notInteger text => s!"invalid value: string {Text.quote text}, expected an integer"
  | .notFloat text => s!"invalid value: string {Text.quote text}, expected a float"
  | .wideUnsigned n => s!"invalid type: integer `{n}` as u128, expected any YAML value"
  | .wideSigned n => s!"invalid type: integer `{n}` as i128, expected any YAML value"

/-- The text of a problem with a node. -/
def NodeProblem.message : NodeProblem → String
  | .scalar problem => problem.message
  | .duplicateKey key =>
    match key with
    | .null => "duplicate entry with null key"
    | .bool b => s!"duplicate entry with key `{b}`"
    | .number n => s!"duplicate entry with key {writeNumber n}"
    | .string s => s!"duplicate entry with key {Text.quote s}"
    | _ => "duplicate entry in YAML map"

/-- Why a text is not a document. -/
inductive Error where
  /-- A character that may not occur, behind that many bytes. -/
  | controlCharacter (offset : Nat)
  /-- The text breaks the syntax. -/
  | badSyntax (error : SyntaxError)
  /-- An alias for an anchor that was not set before. -/
  | unknownAnchor (place : Mark)
  /-- There is no node. -/
  | endOfText
  /-- There is more than one document. -/
  | moreDocuments
  /-- Collections are nested too deeply. -/
  | tooDeep (place : Mark)
  /-- Aliases are used too often. -/
  | tooManyAliases
  /-- A node is refused; the path leads to it. -/
  | node (path : String) (problem : NodeProblem) (place : Mark)
deriving Repr, Inhabited

/-- The text of an error. -/
def Error.message : Error → String
  | .controlCharacter offset =>
    "control characters are not allowed" ++
      if offset = 0 then "" else s!" at position {offset}"
  | .badSyntax e => e.message
  | .unknownAnchor place => "unknown anchor" ++ SyntaxError.atPlace place
  | .endOfText => "EOF while parsing a value"
  | .moreDocuments =>
    "deserializing from YAML containing more than one document is not supported"
  | .tooDeep place => "recursion limit exceeded" ++ SyntaxError.atPlace place
  | .tooManyAliases => "repetition limit exceeded"
  | .node path problem place =>
    (if path = "." then "" else path ++ ": ") ++ problem.message ++ SyntaxError.atPlace place

/-- Why a merge key cannot be applied. -/
inductive MergeError where
  /-- Its value is a scalar. -/
  | scalar
  /-- Its value is tagged, or a member of its value is. -/
  | tagged
  /-- A member of its value is a scalar. -/
  | scalarMember
  /-- A member of its value is a sequence. -/
  | sequenceMember
deriving DecidableEq, Repr, Inhabited

/-- The text of a merge error. -/
def MergeError.message : MergeError → String
  | .scalar => "expected a mapping or list of mappings for merging, but found scalar"
  | .tagged => "unexpected tagged value in merge"
  | .scalarMember => "expected a mapping for merging, but found scalar"
  | .sequenceMember => "expected a mapping for merging, but found sequence"

end ConfigCheck.Yaml
