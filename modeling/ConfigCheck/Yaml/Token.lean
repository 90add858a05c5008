import ConfigCheck.Yaml.Cursor

/-!
# YAML tokens

The pieces that the characters of a YAML text form.  Besides the indicators and scalars that are
written, there are tokens for the beginning and the end of block collections, which only show in
the indentation.
-/

namespace ConfigCheck.Yaml

/-- How a scalar is written. -/
inductive ScalarStyle where
  /-- Without quotes. -/
  | plain
  /-- Between single quotes. -/
  | singleQuoted
  /-- Between double quotes. -/
  | doubleQuoted
  /-- A block whose line ends are kept. -/
  | literal
  /-- A block whose lines are folded. -/
  | folded
deriving DecidableEq, Repr, Inhabited

/-- The text of a tag, as bytes: percent escapes may spell any. -/
abbrev TagText := List UInt8

/-- What a token is. -/
inductive TokenKind where
  | streamStart
  | streamEnd
  | versionDirective (major minor : Nat)
  | tagDirective (handle : String) (replacement : TagText)
  | documentStart
  | documentEnd
  | blockSequenceStart
  | blockMappingStart
  | blockEnd
  | flowSequenceStart
  | flowSequenceEnd
  | flowMappingStart
  | flowMappingEnd
  | blockEntry
  | flowEntry
  | key
  | value
  | alias (name : String)
  | anchor (name : String)
  | tag (handle : String) (suffix : TagText)
  | scalar (text : String) (style : ScalarStyle)
deriving DecidableEq, Repr, Inhabited

/-- A token and the places where it begins and ends. -/
structure Token where
  /-- What it is. -/
  kind : TokenKind
  /-- The place of its first character. -/
  start : Mark
  /-- The place behind its last character. -/
  stop : Mark
deriving DecidableEq, Repr, Inhabited

end ConfigCheck.Yaml
