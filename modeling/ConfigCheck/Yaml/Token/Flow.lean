import ConfigCheck.Yaml.SyntaxError
import ConfigCheck.Yaml.Token

/-!
# Plain and quoted scalars

A scalar that is not a block consists of runs of visible characters with gaps of blanks and line
ends between them.  A gap without a line end is kept as it is; a gap with one is folded: a single
line feed becomes a space, and of several line feeds the first one is dropped (`Gap.text`).
-/

namespace ConfigCheck.Yaml

/-- The blanks and line ends between two runs. -/
structure Gap where
  /-- Whether a line end was met; the blanks around it are dropped. -/
  broken : Bool
  /-- The blanks before any line end. -/
  blanks : List Char
  /-- The first line end. -/
  first : List Char
  /-- The line ends behind the first one. -/
  more : List Char
deriving Repr, Inhabited

namespace Gap

/-- Nothing between two runs. -/
def none : Gap := ⟨false, [], [], []⟩

/-- What a gap contributes to the scalar. -/
def text (g : Gap) : List Char :=
  if !g.broken then g.blanks
  else if g.first.head? = some '\n' then if g.more = [] then [' '] else g.more
  else g.first ++ g.more

/-- The gap with one more blank. -/
def addBlank (g : Gap) (c : Char) : Gap :=
  if g.broken then g else { g with blanks := g.blanks ++ [c] }

/-- The gap with one more line end. -/
def addBreak (g : Gap) (c : Char) : Gap :=
  if g.broken then { g with more := g.more ++ [c] } else ⟨true, [], [c], g.more⟩

/-- Reads blanks and line ends.  A tab left of `indent` on a later line is refused. -/
def take (indent : Nat) (g : Gap) : List Char → Mark → Except Mark (Gap × Cursor)
  | [], m => .ok (g, ⟨[], m⟩)
  | '\r' :: '\n' :: rest, m =>
    take indent (g.addBreak '\n') rest ⟨m.index + 2, m.line + 1, 0⟩
  | c :: rest, m =>
    if isBlank c then
      if g.broken && m.column < indent && c = '\t' then .error m
      else take indent (g.addBlank c) rest { m with index := m.index + 1, column := m.column + 1 }
    else if isBreak c then
      take indent (g.addBreak (breakChar c)) rest ⟨m.index + 1, m.line + 1, 0⟩
    else .ok (g, ⟨c :: rest, m⟩)

end Gap

/-- What a scanned scalar leaves behind. -/
structure ScannedScalar where
  /-- The content. -/
  text : List Char
  /-- The place behind the content. -/
  stop : Mark
  /-- Whether a line end was read behind the content. -/
  broken : Bool
  /-- The rest of the text. -/
  cursor : Cursor
deriving Repr

/-! ## Plain scalars -/

/-- The characters that end a plain scalar inside brackets and braces. -/
def isFlowEnd (c : Char) : Bool := c = ',' || c = '[' || c = ']' || c = '\x7b' || c = '\x7d'

/-- A colon that would have to be an indicator but is not followed by space. -/
def atUnexpectedColon (inFlow : Bool) : List Char → Bool
  | ':' :: c :: _ => inFlow && (isFlowEnd c || c = '?')
  | _ => false

/-- The visible characters of a plain scalar up to the next gap or the end of the scalar. -/
def plainRun (inFlow : Bool) : List Char → List Char
  | [] => []
  | c :: rest =>
    if isBlankOrBreak c || (c = ':' && atSpace rest) || (inFlow && isFlowEnd c) ||
      atUnexpectedColon inFlow (c :: rest) then []
    else c :: plainRun inFlow rest

/-- Reads runs and gaps up to the end of a plain scalar.  It ends at a comment, at a document
indicator, at a colon before space, and on a line left of `indent`. -/
def scanPlainFrom (inFlow : Bool) (indent : Nat) (start : Mark) :
    (fuel : Nat) → (text : List Char) → Gap → (stop : Mark) → Cursor →
      Except SyntaxError ScannedScalar
  | 0, text, gap, stop, c => .ok ⟨text, stop, gap.broken, c⟩
  | fuel + 1, text, gap, stop, c =>
    if c.atDocumentIndicator || c.at_ '#' then .ok ⟨text, stop, gap.broken, c⟩
    else
      let run := plainRun inFlow c.rest
      let after := c.skip run.length
      if atUnexpectedColon inFlow after.rest then
        .error (.during .plainScalar start .unexpectedColon after.mark)
      else
        let (text, gap, stop) :=
          if run = [] then (text, gap, stop) else (text ++ gap.text ++ run, Gap.none, after.mark)
        if after.peek?.any isBlankOrBreak then
          match gap.take indent after.rest after.mark with
          | .error place => .error (.during .plainScalar start .tabViolatesIndentation place)
          | .ok (gap, c) =>
            if !inFlow && c.column < indent then .ok ⟨text, stop, gap.broken, c⟩
            else scanPlainFrom inFlow indent start fuel text gap stop c
        else .ok ⟨text, stop, gap.broken, after⟩

/-- Reads a plain scalar. -/
def scanPlain (inFlow : Bool) (indent : Nat) (c : Cursor) : Except SyntaxError ScannedScalar :=
  scanPlainFrom inFlow indent c.mark (c.rest.length + 1) [] .none c.mark c

/-! ## Quoted scalars -/

/-- The character of an escape of one letter. -/
def escapedChar? : Char → Option Char
  | '0' => some '\x00'
  | 'a' => some '\x07'
  | 'b' => some '\x08'
  | 't' => some '\t'
  | '\t' => some '\t'
  | 'n' => some '\n'
  | 'v' => some '\x0b'
  | 'f' => some '\x0c'
  | 'r' => some '\r'
  | 'e' => some '\x1b'
  | ' ' => some ' '
  | '"' => some '"'
  | '/' => some '/'
  | '\\' => some '\\'
  | 'N' => some '\u0085'
  | '_' => some '\u00a0'
  | 'L' => some '\u2028'
  | 'P' => some '\u2029'
  | _ => none

/-- The number of hexadecimal digits behind the letter of an escape. -/
def escapeLength? : Char → Option Nat
  | 'x' => some 2
  | 'u' => some 4
  | 'U' => some 8
  | _ => none

/-- The value of exactly `n` hexadecimal digits. -/
def hexDigits? (n : Nat) (cs : List Char) : Option Nat :=
  let digits := cs.take n
  if digits.length = n then
    digits.foldlM (fun value c => (hexValue? c).map (value * 16 + ·)) 0
  else none

/-- The character of the escape at the cursor, which is at its backslash. -/
def scanEscape (start : Mark) (c : Cursor) : Except SyntaxError (Char × Cursor) :=
  match c.rest with
  | _ :: letter :: digits =>
    match escapedChar? letter with
    | some char => .ok (char, c.skip 2)
    | none =>
      match escapeLength? letter with
      | none => .error (.during .parseQuoted start .unknownEscape c.mark)
      | some n =>
        match hexDigits? n digits with
        | none => .error (.during .parseQuoted start .missingHexDigits (c.skip 2).mark)
        | some value =>
          if (0xd800 ≤ value && value ≤ 0xdfff) || 0x10ffff < value then
            .error (.during .parseQuoted start .invalidCodePoint (c.skip 2).mark)
          else .ok (Char.ofNat value, c.skip (2 + n))
  | _ => .error (.during .parseQuoted start .unknownEscape c.mark)

/-- A run of a quoted scalar: its characters, and whether an escaped line end cut it short. -/
def quotedRun (single : Bool) (start : Mark) :
    (fuel : Nat) → (taken : List Char) → Cursor → Except SyntaxError (List Char × Bool × Cursor)
  | 0, taken, c => .ok (taken.reverse, false, c)
  | fuel + 1, taken, c =>
    match c.rest with
    | [] => .ok (taken.reverse, false, c)
    | char :: rest =>
      if isBlankOrBreak char then .ok (taken.reverse, false, c)
      else if single then
        if char = '\'' then
          if rest.head? = some '\'' then quotedRun single start fuel ('\'' :: taken) (c.skip 2)
          else .ok (taken.reverse, false, c)
        else quotedRun single start fuel (char :: taken) (c.skip 1)
      else if char = '"' then .ok (taken.reverse, false, c)
      else if char = '\\' then
        if rest.head?.any isBreak then
          .ok (taken.reverse, true, (c.skip 1).skipBreak)
        else
          match scanEscape start c with
          | .error e => .error e
          | .ok (escaped, c) => quotedRun single start fuel (escaped :: taken) c
      else quotedRun single start fuel (char :: taken) (c.skip 1)

/-- Reads runs and gaps up to the closing quote. -/
def scanQuotedFrom (single : Bool) (start : Mark) :
    (fuel : Nat) → (text : List Char) → Cursor → Except SyntaxError ScannedScalar
  | 0, _, c => .error (.during .scanQuoted start .unexpectedEnd c.mark)
  | fuel + 1, text, c =>
    if c.atDocumentIndicator then
      .error (.during .scanQuoted start .unexpectedDocumentIndicator c.mark)
    else if c.rest = [] then .error (.during .scanQuoted start .unexpectedEnd c.mark)
    else
      match quotedRun single start (c.rest.length + 1) [] c with
      | .error e => .error e
      | .ok (run, cut, after) =>
        if after.at_ (if single then '\'' else '"') then
          .ok ⟨text ++ run, (after.skip 1).mark, false, after.skip 1⟩
        else
          match ({ Gap.none with broken := cut }).take 0 after.rest after.mark with
          | .error place => .error (.during .scanQuoted start .tabViolatesIndentation place)
          | .ok (gap, c) => scanQuotedFrom single start fuel (text ++ run ++ gap.text) c

/-- Reads a quoted scalar from its opening quote on. -/
def scanQuoted (single : Bool) (c : Cursor) : Except SyntaxError ScannedScalar :=
  scanQuotedFrom single c.mark (c.rest.length + 1) [] (c.skip 1)

end ConfigCheck.Yaml
