/-!
# Pointers and templates

Pointers into a value, absolute and relative, and templates from which identifiers are made.
-/

namespace ConfigCheck.StringFormat

/-- Whether every tilde is followed by `0` or `1`. -/
def tildesEscape : List Char → Bool
  | [] => true
  | '~' :: '0' :: rest => tildesEscape rest
  | '~' :: '1' :: rest => tildesEscape rest
  | c :: rest => c ≠ '~' && tildesEscape rest

/-- Whether the text is a pointer: empty, or a slash before each token. -/
def isPointer (s : List Char) : Bool :=
  match s with
  | [] => true
  | '/' :: rest => tildesEscape rest
  | _ => false

/-- Whether the text is a relative pointer: a number without leading zeros, then a pointer or a
number sign. -/
def isRelativePointer (s : List Char) : Bool :=
  let digits := s.takeWhile Char.isDigit
  let rest := s.drop digits.length
  digits ≠ [] && (digits.length = 1 || digits.head? ≠ some '0') &&
    (rest = ['#'] || isPointer rest)

/-! ## Templates -/

/-- Whether the character is a digit of a percent-encoded octet; the letters are small ones. -/
def isSmallHex (c : Char) : Bool := c.isDigit || ('a' ≤ c && c ≤ 'f')

/-- Characters that a template has outside braces. -/
def isTemplateChar (c : Char) : Bool :=
  ' ' < c && !(c ∈ ['"', '<', '>', '%', '\\', '^', '\x60', '\x7b', '|', '\x7d', '\''])

/-- Characters of the name of a variable. -/
def isVariableChar (c : Char) : Bool := ('a' ≤ c && c ≤ 'z') || c.isDigit || c = '_'

/-- Drops the characters of the name of a variable. -/
def dropVariableName : List Char → List Char
  | '%' :: a :: b :: rest =>
    if isSmallHex a && isSmallHex b then dropVariableName rest else '%' :: a :: b :: rest
  | c :: rest => if isVariableChar c then dropVariableName rest else c :: rest
  | [] => []

/-- Drops what may follow the name of a variable: a star, or a colon and a length. -/
def dropModifier (s : List Char) : Option (List Char) :=
  match s with
  | '*' :: rest => some rest
  | ':' :: rest =>
    let digits := rest.takeWhile Char.isDigit
    if 1 ≤ digits.length && digits.length ≤ 4 && digits.head? ≠ some '0' then
      some (rest.drop digits.length)
    else none
  | _ => some s

/-- Whether the text is a variable with its modifier. -/
def isVariable (s : List Char) : Bool :=
  let rest := dropVariableName s
  rest.length < s.length && dropModifier rest = some []

/-- Whether the text can stand between braces. -/
def isTemplateExpression (s : List Char) : Bool :=
  let s := match s with
    | c :: rest =>
      if c ∈ ['+', '#', '.', '/', ';', '?', '&', '=', ',', '!', '@', '|'] then rest else s
    | [] => s
  (s.splitOn ',').all isVariable

/-- Whether the text is a template, read with a number that bounds the steps. -/
def isTemplateWithin : Nat → List Char → Bool
  | _, [] => true
  | 0, _ => false
  | n + 1, '%' :: a :: b :: rest => isSmallHex a && isSmallHex b && isTemplateWithin n rest
  | n + 1, '\x7b' :: rest =>
    let inside := rest.takeWhile (· != '\x7d')
    match rest.drop inside.length with
    | _ :: after => isTemplateExpression inside && isTemplateWithin n after
    | [] => false
  | n + 1, c :: rest => isTemplateChar c && isTemplateWithin n rest

/-- Whether the text is a template for identifiers. -/
def isTemplate (s : List Char) : Bool := isTemplateWithin s.length s

end ConfigCheck.StringFormat
