import ConfigCheck.Text.Blank
import ConfigCheck.Text.CaseFold
import ConfigCheck.Text.Category
import ConfigCheck.Text.Property

/-!
# Character classes

What one position of a pattern can hold, as a set expression.  Membership is decided by recursion
on the expression, so the operations on classes need no normal form.
-/

namespace ConfigCheck.Regex

/-- A set of characters, as it is composed in a pattern. -/
inductive CharClass where
  /-- The characters of a table. -/
  | set (chars : CharSet)
  /-- The characters outside a class. -/
  | negate (k : CharClass)
  /-- The characters of either class. -/
  | union (k l : CharClass)
  /-- The characters of both classes. -/
  | inter (k l : CharClass)
  /-- The characters of the first class that are not in the second. -/
  | diff (k l : CharClass)
  /-- The characters that differ from one of the class in case alone. -/
  | folded (k : CharClass)
deriving Repr, Inhabited

namespace CharClass

/-- Whether a character is in the class. -/
def contains : CharClass → Char → Bool
  | set chars, c => chars.contains c
  | negate k, c => !k.contains c
  | union k l, c => k.contains c || l.contains c
  | inter k l, c => k.contains c && l.contains c
  | diff k l, c => k.contains c && !l.contains c
  | folded k, c => k.contains c || (Text.caseVariants c).any k.contains

/-- No character. -/
def empty : CharClass := set CharSet.empty

/-- One character. -/
def ofChar (c : Char) : CharClass := set (CharSet.singleton c)

/-- The characters from `a` to `b`. -/
def range (a b : Char) : CharClass := set (CharSet.range a b)

/-- The characters of any of the classes. -/
def unionAll (classes : List CharClass) : CharClass := classes.foldl union empty

/-- The class itself, or its complement. -/
def negateIf (negated : Bool) (k : CharClass) : CharClass := if negated then negate k else k

/-- The class itself, or with case ignored. -/
def foldIf (ignoreCase : Bool) (k : CharClass) : CharClass := if ignoreCase then folded k else k

/-! ## Digits, word characters and blanks -/

/-- Characters of which words are made. -/
def unicodeWord : CharClass :=
  set <| .unionAll [Text.Category.letter, Text.Category.mark, Text.Category.letterNumber,
    Text.Category.decimalNumber, Text.Category.connectorPunctuation, Text.Property.otherAlphabetic,
    Text.Property.joinControl]

/-- Decimal digits. -/
def unicodeDigit : CharClass := set Text.Category.decimalNumber

/-- White space. -/
def unicodeBlank : CharClass := set Text.blanks

/-- Hexadecimal digits. -/
def hexDigit : CharClass := unionAll [range '0' '9', range 'A' 'F', range 'a' 'f']

/-! ## Classes with a name -/

/-- The classes with a name in brackets and colons. -/
def ofAsciiName? (name : String) : Option CharClass :=
  match name with
  | "alnum" => some (unionAll [range '0' '9', range 'A' 'Z', range 'a' 'z'])
  | "alpha" => some (unionAll [range 'A' 'Z', range 'a' 'z'])
  | "ascii" => some (range '\x00' '\x7f')
  | "blank" => some (unionAll [ofChar '\t', ofChar ' '])
  | "cntrl" => some (unionAll [range '\x00' '\x1f', ofChar '\x7f'])
  | "digit" => some (range '0' '9')
  | "graph" => some (range '!' '~')
  | "lower" => some (range 'a' 'z')
  | "print" => some (range ' ' '~')
  | "punct" => some (unionAll [range '!' '/', range ':' '@', range '[' '\x60', range '\x7b' '~'])
  | "space" => some (unionAll [range '\t' '\r', ofChar ' '])
  | "upper" => some (range 'A' 'Z')
  | "word" => some (unionAll [range '0' '9', range 'A' 'Z', range 'a' 'z', ofChar '_'])
  | "xdigit" => some hexDigit
  | _ => none

end CharClass

end ConfigCheck.Regex
