import ConfigCheck.Yaml.Token.Block
import ConfigCheck.Yaml.Token.Property

/-!
# The token stream of a text

Tokens come in the order of the text with one exception: whether a scalar, an alias or a flow
collection is the key of a block mapping shows only at the colon behind it, and then the tokens
for the key, and perhaps for the beginning of the mapping, go in front of it.  So the scanner
remembers where such a simple key may have begun, at most one for each level of brackets, and
holds back the tokens from there on until the matter is settled: at the colon, at the end of the
line, or after 1024 characters.

`TokenStream.ofText` gives all tokens that can be handed over and, where the text is broken, the
error that comes after them.
-/

namespace ConfigCheck.Yaml

/-- A place where a simple key may have begun. -/
structure SimpleKey where
  /-- Whether only a key can stand here, because the indentation says so. -/
  required : Bool
  /-- The number of tokens before it. -/
  tokenNumber : Nat
  /-- The place. -/
  mark : Mark
deriving DecidableEq, Repr, Inhabited

/-- The state of the scanner. -/
structure Scanner where
  /-- The text that is left. -/
  cursor : Cursor
  /-- The column of the innermost block collection, `-1` outside of all. -/
  indent : Int
  /-- The columns of the block collections around it. -/
  indents : List Int
  /-- Whether a simple key may begin here. -/
  keyAllowed : Bool
  /-- The simple key of the innermost level. -/
  simpleKey : Option SimpleKey
  /-- The simple keys of the levels around it. -/
  outerKeys : List (Option SimpleKey)
  /-- The number of tokens that were handed over. -/
  delivered : Nat
  /-- The tokens that are held back. -/
  pending : List Token
  /-- Whether the end of the stream was reached. -/
  ended : Bool
deriving Repr, Inhabited

namespace Scanner

/-- The scanner at the beginning of a text. -/
def ofText (cs : List Char) : Scanner where
  cursor := .ofText cs
  indent := -1
  indents := []
  keyAllowed := true
  simpleKey := none
  outerKeys := []
  delivered := 0
  pending := [⟨.streamStart, .start, .start⟩]
  ended := false

/-- Whether the scanner is inside brackets or braces. -/
def inFlow (s : Scanner) : Bool := !s.outerKeys.isEmpty

/-- The place of the scanner. -/
def mark (s : Scanner) : Mark := s.cursor.mark

/-- Puts a token behind all others. -/
def push (s : Scanner) (t : Token) : Scanner := { s with pending := s.pending ++ [t] }

/-- Puts a token in front of the one with a number. -/
def insertAt (s : Scanner) (number : Nat) (t : Token) : Scanner :=
  let k := number - s.delivered
  { s with pending := s.pending.take k ++ t :: s.pending.drop k }

/-! ## Simple keys -/

/-- A simple key must be settled on its line and within 1024 characters. -/
def isStale (m : Mark) (k : SimpleKey) : Bool :=
  k.mark.line < m.line || k.mark.index + 1024 < m.index

/-- The simple key without its place in the text, once it can no longer be one. -/
def dropStale (m : Mark) : Option SimpleKey → Except SyntaxError (Option SimpleKey)
  | some k =>
    if isStale m k then
      if k.required then .error (.during .simpleKey k.mark .missingColon m) else .ok none
    else .ok (some k)
  | none => .ok none

/-- Gives up the simple keys that are no longer possible; outer levels first. -/
def dropStaleKeys (s : Scanner) : Except SyntaxError Scanner := do
  let outer ← s.outerKeys.reverse.mapM (dropStale s.mark)
  let innermost ← dropStale s.mark s.simpleKey
  return { s with outerKeys := outer.reverse, simpleKey := innermost }

/-- Gives up the simple key of the innermost level. -/
def removeKey (s : Scanner) : Except SyntaxError Scanner :=
  match s.simpleKey with
  | some k =>
    if k.required then .error (.during .simpleKey k.mark .missingColon s.mark)
    else .ok { s with simpleKey := none }
  | none => .ok s

/-- Remembers that a simple key may begin here. -/
def saveKey (s : Scanner) : Except SyntaxError Scanner :=
  if s.keyAllowed then do
    let k : SimpleKey :=
      { required := !s.inFlow && s.indent == (s.mark.column : Int)
        tokenNumber := s.delivered + s.pending.length
        mark := s.mark }
    return { ← s.removeKey with simpleKey := some k }
  else .ok s

/-! ## Indentation -/

/-- Begins a block collection if the column lies further right than the innermost one; its token
goes in front of token `number`, or behind all. -/
def rollIndent (s : Scanner) (column : Nat) (number : Option Nat) (kind : TokenKind) (m : Mark) :
    Scanner :=
  if !s.inFlow && s.indent < (column : Int) then
    let s := { s with indents := s.indent :: s.indents, indent := column }
    match number with
    | none => s.push ⟨kind, m, m⟩
    | some n => s.insertAt n ⟨kind, m, m⟩
  else s

/-- The columns that are left when all block collections right of `column` have ended, and how
many have. -/
def unroll (column : Int) : Int → List Int → Int × List Int × Nat
  | indent, [] => (indent, [], 0)
  | indent, outer :: indents =>
    if column < indent then
      let (indent, indents, ended) := unroll column outer indents
      (indent, indents, ended + 1)
    else (indent, outer :: indents, 0)

/-- Ends the block collections right of `column`. -/
def unrollIndent (s : Scanner) (column : Int) : Scanner :=
  if s.inFlow then s
  else
    let (indent, indents, ended) := unroll column s.indent s.indents
    { s with
      indent := indent
      indents := indents
      pending := s.pending ++ List.replicate ended ⟨.blockEnd, s.mark, s.mark⟩ }

/-! ## One token after the other -/

/-- The cursor behind a byte order mark at the beginning of a line. -/
def skipByteOrderMark (c : Cursor) : Cursor :=
  if c.column = 0 && c.at_ '\ufeff' then c.skip 1 else c

/-- Skips blanks, comments and line ends up to the next token.  A tab counts as a blank only where
no simple key may begin; a line end outside of brackets allows one. -/
def skipToToken : (fuel : Nat) → Scanner → Scanner
  | 0, s => s
  | fuel + 1, s =>
    let c := ((skipByteOrderMark s.cursor).skipWhile fun c =>
      c = ' ' || ((s.inFlow || !s.keyAllowed) && c = '\t')).skipComment
    match c.takeBreak with
    | ([], _) => { s with cursor := c }
    | (_, next) =>
      skipToToken fuel { s with cursor := next, keyAllowed := s.keyAllowed || !s.inFlow }

/-- Takes `n` characters as a token. -/
def take (s : Scanner) (n : Nat) (kind : TokenKind) : Scanner :=
  let next := s.cursor.skip n
  { s.push ⟨kind, s.mark, next.mark⟩ with cursor := next }

/-- The end of the stream: on a line of its own, outside of everything. -/
def fetchStreamEnd (s : Scanner) : Except SyntaxError Scanner := do
  let m := s.mark
  let m := if m.column = 0 then m else { m with line := m.line + 1, column := 0 }
  let s ← ({ s with cursor.mark := m }.unrollIndent (-1)).removeKey
  return { s.push ⟨.streamEnd, m, m⟩ with keyAllowed := false, ended := true }

/-- A directive. -/
def fetchDirective (s : Scanner) : Except SyntaxError Scanner := do
  let s ← (s.unrollIndent (-1)).removeKey
  let (kind, stop, next) ← scanDirective s.cursor
  return { s.push ⟨kind, s.mark, stop⟩ with keyAllowed := false, cursor := next }

/-- Three dashes or three dots. -/
def fetchDocumentIndicator (s : Scanner) (kind : TokenKind) : Except SyntaxError Scanner := do
  let s ← (s.unrollIndent (-1)).removeKey
  return { s.take 3 kind with keyAllowed := false }

/-- An opening bracket or brace. -/
def fetchFlowStart (s : Scanner) (kind : TokenKind) : Except SyntaxError Scanner := do
  let s ← s.saveKey
  let s := { s with outerKeys := s.simpleKey :: s.outerKeys, simpleKey := none, keyAllowed := true }
  return s.take 1 kind

/-- A closing bracket or brace. -/
def fetchFlowEnd (s : Scanner) (kind : TokenKind) : Except SyntaxError Scanner := do
  let s ← s.removeKey
  let s := match s.outerKeys with
    | [] => s
    | k :: outer => { s with simpleKey := k, outerKeys := outer }
  return { s.take 1 kind with keyAllowed := false }

/-- A comma. -/
def fetchFlowEntry (s : Scanner) : Except SyntaxError Scanner := do
  let s ← s.removeKey
  return { s.take 1 .flowEntry with keyAllowed := true }

/-- The dash of an item.  Inside brackets it is left to the grammar to refuse it. -/
def fetchBlockEntry (s : Scanner) : Except SyntaxError Scanner := do
  if !s.inFlow && !s.keyAllowed then throw ⟨.blockEntryNotAllowed, s.mark, none⟩
  let s ← (s.rollIndent s.mark.column none .blockSequenceStart s.mark).removeKey
  return { s.take 1 .blockEntry with keyAllowed := true }

/-- The question mark of a key. -/
def fetchKey (s : Scanner) : Except SyntaxError Scanner := do
  if !s.inFlow && !s.keyAllowed then throw ⟨.keyNotAllowed, s.mark, none⟩
  let s ← (s.rollIndent s.mark.column none .blockMappingStart s.mark).removeKey
  return { s.take 1 .key with keyAllowed := !s.inFlow }

/-- The colon of a value.  If a simple key began before it, its token goes there. -/
def fetchValue (s : Scanner) : Except SyntaxError Scanner := do
  match s.simpleKey with
  | some k =>
    let s := (s.insertAt k.tokenNumber ⟨.key, k.mark, k.mark⟩).rollIndent
      k.mark.column (some k.tokenNumber) .blockMappingStart k.mark
    return { s.take 1 .value with simpleKey := none, keyAllowed := false }
  | none =>
    if !s.inFlow && !s.keyAllowed then throw ⟨.valueNotAllowed, s.mark, none⟩
    let s := s.rollIndent s.mark.column none .blockMappingStart s.mark
    return { s.take 1 .value with keyAllowed := !s.inFlow }

/-- An alias or an anchor. -/
def fetchName (s : Scanner) (activity : Activity) (kind : String → TokenKind) :
    Except SyntaxError Scanner := do
  let s ← s.saveKey
  let (name, next) ← scanName activity s.cursor
  return { s.push ⟨kind name, s.mark, next.mark⟩ with keyAllowed := false, cursor := next }

/-- A tag. -/
def fetchTag (s : Scanner) : Except SyntaxError Scanner := do
  let s ← s.saveKey
  let (handle, suffix, next) ← scanTag s.inFlow s.cursor
  return { s.push ⟨.tag handle suffix, s.mark, next.mark⟩ with keyAllowed := false, cursor := next }

/-- Puts a scalar that was read behind all tokens. -/
def pushScalar (s : Scanner) (style : ScalarStyle) (r : ScannedScalar) (keyAllowed : Bool) :
    Scanner :=
  { s.push ⟨.scalar (String.ofList r.text) style, s.mark, r.stop⟩ with
    keyAllowed := keyAllowed, cursor := r.cursor }

/-- A block scalar. -/
def fetchBlock (s : Scanner) (style : ScalarStyle) : Except SyntaxError Scanner := do
  let s ← s.removeKey
  return s.pushScalar style (← scanBlock (style == .literal) s.indent s.cursor) true

/-- A scalar between quotes. -/
def fetchQuoted (s : Scanner) (style : ScalarStyle) : Except SyntaxError Scanner := do
  let s ← s.saveKey
  return s.pushScalar style (← scanQuoted (style == .singleQuoted) s.cursor) false

/-- A scalar without quotes. -/
def fetchPlain (s : Scanner) : Except SyntaxError Scanner := do
  let s ← s.saveKey
  let r ← scanPlain s.inFlow (s.indent + 1).toNat s.cursor
  return s.pushScalar .plain r r.broken

/-- The indicators that a plain scalar cannot start with. -/
def isIndicator (c : Char) : Bool :=
  c ∈ ['-', '?', ':', ',', '[', ']', '\x7b', '\x7d', '#', '&', '*', '!', '|', '>', '\'', '"', '%',
    '@', '`']

/-- Whether a plain scalar starts here: with a character that is no indicator, or with a dash, a
question mark or a colon before something visible. -/
def startsPlain (inFlow : Bool) (c : Char) (rest : List Char) : Bool :=
  !(isBlankOrBreak c || isIndicator c) ||
    (c = '-' && !rest.head?.any isBlank) ||
    (!inFlow && (c = '?' || c = ':') && !atSpace rest)

/-- Reads the token that starts with `c`. -/
def fetchToken (s : Scanner) (c : Char) (rest : List Char) : Except SyntaxError Scanner :=
  if c = '%' && s.mark.column = 0 then s.fetchDirective
  else if s.cursor.atDocumentIndicator then
    s.fetchDocumentIndicator (if c = '-' then .documentStart else .documentEnd)
  else if c = '[' then s.fetchFlowStart .flowSequenceStart
  else if c = '\x7b' then s.fetchFlowStart .flowMappingStart
  else if c = ']' then s.fetchFlowEnd .flowSequenceEnd
  else if c = '\x7d' then s.fetchFlowEnd .flowMappingEnd
  else if c = ',' then s.fetchFlowEntry
  else if c = '-' && atSpace rest then s.fetchBlockEntry
  else if c = '?' && (s.inFlow || atSpace rest) then s.fetchKey
  else if c = ':' && (s.inFlow || atSpace rest) then s.fetchValue
  else if c = '*' then s.fetchName .alias .alias
  else if c = '&' then s.fetchName .anchor .anchor
  else if c = '!' then s.fetchTag
  else if c = '|' && !s.inFlow then s.fetchBlock .literal
  else if c = '>' && !s.inFlow then s.fetchBlock .folded
  else if c = '\'' then s.fetchQuoted .singleQuoted
  else if c = '"' then s.fetchQuoted .doubleQuoted
  else if startsPlain s.inFlow c rest then s.fetchPlain
  else .error (.during .nextToken s.mark .cannotStartToken s.mark)

/-- Reads the next token, with the ends of block collections before it. -/
def fetchNext (s : Scanner) : Except SyntaxError Scanner := do
  let s ← (skipToToken (s.cursor.rest.length + 1) s).dropStaleKeys
  let s := s.unrollIndent s.mark.column
  match s.cursor.rest with
  | [] => s.fetchStreamEnd
  | c :: rest => s.fetchToken c rest

/-! ## Handing tokens over -/

/-- Whether a simple key may begin at the first token that is held back. -/
def isBlocked (s : Scanner) : Bool :=
  (s.simpleKey :: s.outerKeys).any fun
    | some k => k.tokenNumber == s.delivered
    | none => false

/-- Hands over the tokens that no simple key holds back. -/
def release : (fuel : Nat) → Scanner → Except SyntaxError (List Token × Scanner)
  | 0, s => .ok ([], s)
  | fuel + 1, s =>
    match s.pending with
    | [] => .ok ([], s)
    | t :: pending => do
      let s ← s.dropStaleKeys
      if s.isBlocked then return ([], s)
      let (tokens, s) ← release fuel { s with pending := pending, delivered := s.delivered + 1 }
      return (t :: tokens, s)

end Scanner

/-- The tokens of a text up to its end or up to an error. -/
structure TokenStream where
  /-- The tokens that can be handed over. -/
  tokens : List Token
  /-- What comes after them, unless the text ends. -/
  failure : Option SyntaxError
deriving Repr, Inhabited

namespace TokenStream

/-- Puts tokens in front of a stream. -/
def prepend (tokens : List Token) (s : TokenStream) : TokenStream :=
  { s with tokens := tokens ++ s.tokens }

/-- Reads on until the stream ends; every step but the last takes at least one character. -/
def ofScanner : (fuel : Nat) → Scanner → TokenStream
  | 0, _ => ⟨[], none⟩
  | fuel + 1, s =>
    match s.release (s.pending.length + 1) with
    | .error e => ⟨[], some e⟩
    | .ok (tokens, s) =>
      if s.ended then ⟨tokens, none⟩
      else
        match s.fetchNext with
        | .error e => ⟨tokens, some e⟩
        | .ok s => (ofScanner fuel s).prepend tokens

/-- All tokens of a text. -/
def ofText (cs : List Char) : TokenStream := ofScanner (cs.length + 2) (.ofText cs)

end TokenStream

end ConfigCheck.Yaml
