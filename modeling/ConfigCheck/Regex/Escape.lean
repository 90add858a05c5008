import ConfigCheck.Regex.Property

/-!
# Escapes

What stands behind a backslash, and what can be wrong with it.  A reader takes the rest of the
pattern and gives what it has read and what is left, or the fault that it has met.

Where blanks are left out, they are left out inside escapes too, and so are comments from a number
sign to the end of the line (`skipSpace`, `takeSpaced`).
-/

namespace ConfigCheck.Regex

/-- What stops a pattern from following the grammar. -/
inductive Fault where
  /-- The pattern is no regular expression. -/
  | malformed
  /-- The pattern looks around or refers back to a group. -/
  | beyond
  /-- A letter is escaped as a control character; the rest begins with the letter. -/
  | control (rest : List Char)
deriving DecidableEq, Repr, Inhabited

/-! ## Blanks and comments -/

/-- The rest of a pattern behind blanks and comments; `comment` says whether one has begun. -/
def dropSpace : (comment : Bool) → List Char → List Char
  | _, [] => []
  | true, c :: rest => dropSpace (c != '\n') rest
  | false, c :: rest =>
    if Text.isBlank c then dropSpace false rest
    else if c = '#' then dropSpace true rest
    else c :: rest

/-- The rest of a pattern behind blanks and comments, if they are left out. -/
def skipSpace (spaced : Bool) (s : List Char) : List Char :=
  if spaced then dropSpace false s else s

/-- At most `limit` characters with a property and the rest behind them.  Blanks and comments
between them are left out if `spaced` says so; `comment` says whether one has begun. -/
def takeSpaced (spaced : Bool) (p : Char → Bool) :
    (limit : Nat) → (comment : Bool) → List Char → List Char × List Char
  | _, _, [] => ([], [])
  | 0, _, s => ([], s)
  | n + 1, true, c :: rest => takeSpaced spaced p (n + 1) (c != '\n') rest
  | n + 1, false, c :: rest =>
    if spaced && Text.isBlank c then takeSpaced spaced p (n + 1) false rest
    else if spaced && c = '#' then takeSpaced spaced p (n + 1) true rest
    else if p c then
      let (found, rest) := takeSpaced spaced p n false rest
      (c :: found, rest)
    else ([], c :: rest)

/-- All characters with a property up to the first one without it, and the rest. -/
def takeAll (spaced : Bool) (p : Char → Bool) (s : List Char) : List Char × List Char :=
  takeSpaced spaced p (s.length + 1) false s

@[simp] theorem skipSpace_false (s : List Char) : skipSpace false s = s := rfl

@[simp] theorem skipSpace_nil (spaced : Bool) : skipSpace spaced [] = [] := by
  cases spaced <;> rfl

/-! ## Code points -/

/-- The value of a hexadecimal digit. -/
def hexValue? (c : Char) : Option Nat :=
  if c.isDigit then some (c.toNat - '0'.toNat)
  else if 'a' ≤ c && c ≤ 'f' then some (c.toNat - 'a'.toNat + 10)
  else if 'A' ≤ c && c ≤ 'F' then some (c.toNat - 'A'.toNat + 10)
  else none

/-- Whether the character is a hexadecimal digit. -/
def isHex (c : Char) : Bool := (hexValue? c).isSome

/-- The number that hexadecimal digits write. -/
def hexNumber? (digits : List Char) : Option Nat :=
  digits.foldl (fun n c => n.bind fun n => (hexValue? c).map fun d => n * 16 + d) (some 0)

/-- The character with a code point. -/
def charOfCode? (n : Nat) : Option Char := if n.isValidChar then some (Char.ofNat n) else none

/-- The character whose code point hexadecimal digits write. -/
def charOfHex? (digits : List Char) : Option Char :=
  if digits = [] then none else (hexNumber? digits).bind charOfCode?

/-- The number of digits that a code point has behind a letter. -/
def hexWidth (letter : Char) : Nat := if letter = 'x' then 2 else if letter = 'u' then 4 else 8

/-- Reads a character by its code point: as many digits as `width` says, or any number in braces. -/
def readHex (spaced : Bool) (width : Nat) (s : List Char) : Except Fault (Char × List Char) :=
  match skipSpace spaced s with
  | '\x7b' :: rest =>
    match takeAll spaced (· != '\x7d') rest with
    | (digits, _ :: after) =>
      match charOfHex? digits with
      | some c => .ok (c, after)
      | none => .error .malformed
    | (_, []) => .error .malformed
  | s =>
    let (digits, after) := takeSpaced spaced isHex width false s
    match if digits.length = width then charOfHex? digits else none with
    | some c => .ok (c, after)
    | none => .error .malformed

/-! ## Escapes -/

/-- What an escape stands for. -/
inductive Escape where
  /-- One character. -/
  | char (c : Char)
  /-- The bell, which can only be written inside brackets. -/
  | bell
  /-- The digits, the word characters or the blanks, or all others. -/
  | members (k : CharClass)
  /-- The characters with a property, or all others. -/
  | property (negated : Bool) (name : List Char)
  /-- A condition on a place. -/
  | boundary
deriving Repr, Inhabited

/-- The digits, word characters or blanks that a letter means. -/
def ofClassLetter? : Char → Option CharClass
  | 'd' => some .unicodeDigit
  | 'D' => some (.negate .unicodeDigit)
  | 'w' => some .unicodeWord
  | 'W' => some (.negate .unicodeWord)
  | 's' => some .unicodeBlank
  | 'S' => some (.negate .unicodeBlank)
  | _ => none

/-- The characters that may be escaped to stand for themselves: all of ASCII but letters, digits
and angle brackets. -/
def isEscapable (c : Char) : Bool :=
  c.toNat < 128 && !c.isAlphanum && c != '<' && c != '>'

/-- Reads the name of a property behind its letter: one character, or any number in braces. -/
def readPropertyName (spaced : Bool) (s : List Char) : Except Fault (List Char × List Char) :=
  match skipSpace spaced s with
  | '\x7b' :: rest =>
    match takeAll spaced (· != '\x7d') rest with
    | (name, _ :: after) => .ok (name, after)
    | (_, []) => .error .malformed
  | c :: rest => if c = '\\' then .error .malformed else .ok ([c], rest)
  | [] => .error .malformed

/-- The conditions on word edges that are written in braces. -/
def edgeNames : List String := ["start", "end", "start-half", "end-half"]

/-- Reads what follows the letter for a word edge: a name in braces, if there is one.  Braces that
do not begin with a letter or a dash are left to a count. -/
def readEdge (spaced : Bool) (s : List Char) : Except Fault (List Char) :=
  let inName (c : Char) : Bool := c.isAlpha || c = '-'
  match s with
  | '\x7b' :: rest =>
    match skipSpace spaced rest with
    | [] => .error .malformed
    | c :: after =>
      if inName c then
        match takeAll spaced inName (c :: after) with
        | (name, '\x7d' :: after) =>
          if String.ofList name ∈ edgeNames then .ok after else .error .malformed
        | _ => .error .malformed
      else .ok s
  | _ => .ok s

/-- Reads an escape after its backslash. -/
def readEscape (spaced : Bool) (s : List Char) : Except Fault (Escape × List Char) :=
  match s with
  | [] => .error .malformed
  | c :: rest =>
    if c.isDigit then .error .beyond
    else if isEscapable c then .ok (.char c, rest)
    else
      match c with
      | 'x' | 'u' | 'U' => (readHex spaced (hexWidth c) rest).map fun (c, after) => (.char c, after)
      | 'p' | 'P' =>
        (readPropertyName spaced rest).map fun (name, after) => (.property (c = 'P') name, after)
      | 'b' => (readEdge spaced rest).map fun after => (.boundary, after)
      | 'A' | 'z' | 'B' | '<' | '>' => .ok (.boundary, rest)
      | 'a' => .ok (.bell, rest)
      | 'f' => .ok (.char '\x0c', rest)
      | 't' => .ok (.char '\t', rest)
      | 'n' => .ok (.char '\n', rest)
      | 'r' => .ok (.char '\r', rest)
      | 'v' => .ok (.char '\x0b', rest)
      | 'c' =>
        match rest with
        | l :: _ => .error (if l.isAlpha then .control rest else .malformed)
        | [] => .error .malformed
      | c =>
        match ofClassLetter? c with
        | some k => .ok (.members k, rest)
        | none => .error .malformed

end ConfigCheck.Regex
