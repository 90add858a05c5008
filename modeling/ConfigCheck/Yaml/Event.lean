import ConfigCheck.Yaml.SyntaxError
import ConfigCheck.Yaml.Token

/-!
# YAML events

The structure of a YAML text as a sequence of events: nodes in the order in which they begin, with
the ends of collections and documents between them.  Tags are written out, aliases are names.
-/

namespace ConfigCheck.Yaml

/-- The anchor and the tag of a node. -/
structure Properties where
  /-- The name by which aliases refer to the node. -/
  anchor : Option String
  /-- The tag, with its handle replaced. -/
  tag : Option TagText
deriving DecidableEq, Repr, Inhabited

/-- A node without anchor and tag. -/
def Properties.none : Properties := ⟨.none, .none⟩

/-- One step through the structure of a text. -/
inductive Event where
  | streamStart
  | streamEnd
  | documentStart
  | documentEnd
  | alias (name : String)
  | scalar (properties : Properties) (text : String) (style : ScalarStyle)
  | sequenceStart (properties : Properties)
  | sequenceEnd
  | mappingStart (properties : Properties)
  | mappingEnd
deriving DecidableEq, Repr, Inhabited

/-- Events up to the end of the stream or up to an error, each with its place. -/
structure EventStream where
  /-- The events. -/
  events : List (Event × Mark)
  /-- What comes after them, unless the stream ends. -/
  failure : Option SyntaxError
deriving Repr, Inhabited

end ConfigCheck.Yaml
