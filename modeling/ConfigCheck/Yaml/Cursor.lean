/-!
# A cursor over YAML text

A cursor is the rest of the text together with its place, counted in characters.  Five characters
end a line; a carriage return with a line feed behind it ends one line.  In content a line end
becomes a line feed, except for the two Unicode separators, which stay as they are.
-/

namespace ConfigCheck.Yaml

/-- A place in a text; all three numbers start at zero. -/
structure Mark where
  /-- Characters before the place. -/
  index : Nat
  /-- Line ends before the place. -/
  line : Nat
  /-- Characters of the line before the place. -/
  column : Nat
deriving DecidableEq, Repr, Inhabited

/-- The beginning of a text. -/
def Mark.start : Mark := ⟨0, 0, 0⟩

/-- Whether the place is on the first line at its first character. -/
def Mark.isOrigin (m : Mark) : Bool := m.line = 0 && m.column = 0

/-- The place in words, counted from one; the very beginning is given by its index. -/
def Mark.display (m : Mark) : String :=
  if m.isOrigin then s!"position {m.index}" else s!"line {m.line + 1} column {m.column + 1}"

/-- Space and tab. -/
def isBlank (c : Char) : Bool := c = ' ' || c = '\t'

/-- The characters that end a line. -/
def isBreak (c : Char) : Bool :=
  c = '\r' || c = '\n' || c = '\u0085' || c = '\u2028' || c = '\u2029'

/-- Blanks and line ends. -/
def isBlankOrBreak (c : Char) : Bool := isBlank c || isBreak c

/-- Whether the text is at a line end or at its own end. -/
def atBreak : List Char → Bool
  | [] => true
  | c :: _ => isBreak c

/-- Whether the text is at a blank, at a line end or at its own end. -/
def atSpace : List Char → Bool
  | [] => true
  | c :: _ => isBlankOrBreak c

/-- Letters, digits, dash and underscore of ASCII: the characters of names. -/
def isNameChar (c : Char) : Bool := c.isAlphanum || c = '_' || c = '-'

/-- Digits of ASCII. -/
def isDigit (c : Char) : Bool := '0' ≤ c && c ≤ '9'

/-- The value of a hexadecimal digit. -/
def hexValue? (c : Char) : Option Nat :=
  if isDigit c then some (c.toNat - '0'.toNat)
  else if 'a' ≤ c && c ≤ 'f' then some (c.toNat - 'a'.toNat + 10)
  else if 'A' ≤ c && c ≤ 'F' then some (c.toNat - 'A'.toNat + 10)
  else none

/-- The character that a line end becomes in content. -/
def breakChar (c : Char) : Char := if c = '\u2028' || c = '\u2029' then c else '\n'

/-- The rest of a text and its place. -/
structure Cursor where
  /-- The characters from the place on. -/
  rest : List Char
  /-- The place. -/
  mark : Mark
deriving Repr, Inhabited

namespace Cursor

/-- The cursor at the beginning of a text. -/
def ofText (cs : List Char) : Cursor := ⟨cs, .start⟩

/-- The column of the place. -/
def column (c : Cursor) : Nat := c.mark.column

/-- The next character. -/
def peek? (c : Cursor) : Option Char := c.rest.head?

/-- Whether the next character is the given one. -/
def at_ (c : Cursor) (char : Char) : Bool := c.rest.head? == some char

/-- The cursor behind `n` characters of the same line. -/
def skip (c : Cursor) (n : Nat) : Cursor where
  rest := c.rest.drop n
  mark := { c.mark with index := c.mark.index + n, column := c.mark.column + n }

/-- The characters up to the first one that fails the test, all on the same line, and the cursor
behind them. -/
def span (c : Cursor) (p : Char → Bool) : List Char × Cursor :=
  let taken := c.rest.takeWhile p
  (taken, c.skip taken.length)

/-- The cursor behind the characters that pass the test. -/
def skipWhile (c : Cursor) (p : Char → Bool) : Cursor := (c.span p).2

/-- The content of a line end, and the cursor at the next line; nothing happens elsewhere. -/
def takeBreak (c : Cursor) : List Char × Cursor :=
  match c.rest with
  | '\r' :: '\n' :: rest => (['\n'], ⟨rest, c.mark.index + 2, c.mark.line + 1, 0⟩)
  | b :: rest =>
    if isBreak b then ([breakChar b], ⟨rest, c.mark.index + 1, c.mark.line + 1, 0⟩) else ([], c)
  | [] => ([], c)

/-- The cursor at the next line. -/
def skipBreak (c : Cursor) : Cursor := c.takeBreak.2

/-- The cursor behind a comment, if one starts here; the line end stays. -/
def skipComment (c : Cursor) : Cursor :=
  if c.at_ '#' then c.skipWhile (!isBreak ·) else c

/-- Whether a line starts here with three dashes or three dots and nothing after them. -/
def atDocumentIndicator (c : Cursor) : Bool :=
  c.column = 0 &&
    match c.rest with
    | '-' :: '-' :: '-' :: rest => atSpace rest
    | '.' :: '.' :: '.' :: rest => atSpace rest
    | _ => false

end Cursor

end ConfigCheck.Yaml
