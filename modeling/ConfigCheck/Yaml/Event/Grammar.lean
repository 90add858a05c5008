import ConfigCheck.Yaml.Event
import ConfigCheck.Yaml.Token.Stream
import ConfigCheck.Text.Utf8

/-!
# The grammar of events

A pushdown automaton turns tokens into events.  An `Expectation` says what may come next; those on
the stack say what follows the node that is being read.  A collection that is open carries the
place where it began, for error messages.

Every step gives one event.  At most three events come between two tokens that are consumed, so a
number of steps in proportion to the number of tokens is enough (`EventStream.ofTokens`).
-/

namespace ConfigCheck.Yaml

/-- What may come next. -/
inductive Expectation where
  /-- The beginning of the stream. -/
  | streamStart
  /-- A first document, whose three dashes may be left out. -/
  | firstDocument
  /-- Another document, or the end of the stream. -/
  | document
  /-- The content behind three dashes. -/
  | documentContent
  /-- The end of a document. -/
  | documentEnd
  /-- A node in block style. -/
  | blockNode
  /-- An item of a block sequence, or its end. -/
  | blockEntry (start : Mark)
  /-- An item of a sequence that is not indented, or its end. -/
  | indentlessEntry
  /-- A key of a block mapping, or its end. -/
  | blockKey (start : Mark)
  /-- The value of the last key of a block mapping. -/
  | blockValue (start : Mark)
  /-- An item of a sequence in brackets, or its end. -/
  | flowEntry (first : Bool) (start : Mark)
  /-- The key of a mapping with one entry inside brackets. -/
  | pairKey (start : Mark)
  /-- The value of such a mapping. -/
  | pairValue (start : Mark)
  /-- The end of such a mapping. -/
  | pairEnd (start : Mark)
  /-- A key of a mapping in braces, or its end. -/
  | flowKey (first : Bool) (start : Mark)
  /-- The value of the last key of a mapping in braces. -/
  | flowValue (start : Mark)
  /-- The absent value of a key that stands alone in braces. -/
  | flowNoValue (start : Mark)
  /-- Nothing. -/
  | nothing
deriving DecidableEq, Repr, Inhabited

/-- The state of the automaton. -/
structure Grammar where
  /-- The tokens that are left. -/
  tokens : List Token
  /-- What comes behind the tokens. -/
  failure : Option SyntaxError
  /-- What may come next. -/
  expected : Expectation
  /-- What may come when that is done. -/
  stack : List Expectation
  /-- The tag handles of the document and their meanings. -/
  handles : List (String × TagText)
deriving Repr

namespace Grammar

/-- The automaton before the first token. -/
def ofTokens (s : TokenStream) : Grammar := ⟨s.tokens, s.failure, .streamStart, [], []⟩

/-- The next token. -/
def peek (g : Grammar) : Except SyntaxError Token :=
  match g.tokens with
  | t :: _ => .ok t
  | [] => .error (g.failure.getD ⟨.missingStreamStart, .start, none⟩)

/-- The state behind the next token. -/
def skip (g : Grammar) : Grammar := { g with tokens := g.tokens.tail }

/-- The state with another expectation. -/
def expect (g : Grammar) (e : Expectation) : Grammar := { g with expected := e }

/-- The state in which a node comes next and then something else. -/
def thenExpect (g : Grammar) (e : Expectation) : Grammar := { g with stack := e :: g.stack }

/-- The state when a node is done. -/
def done (g : Grammar) : Grammar :=
  match g.stack with
  | [] => { g with expected := .nothing }
  | e :: stack => { g with expected := e, stack := stack }

/-- What a step gives. -/
abbrev Result := Except SyntaxError ((Event × Mark) × Grammar)

/-- A scalar without text, which stands for a node that is left out. -/
def emptyScalar (g : Grammar) (m : Mark) : Result :=
  .ok ((.scalar .none "" .plain, m), g)

/-! ## Documents -/

/-- The handles that need no directive. -/
def defaultHandles : List (String × TagText) :=
  [("!", Utf8.encode "!"), ("!!", Utf8.encode "tag:yaml.org,2002:")]

/-- Adds the handles that are not there yet. -/
def addDefaults (handles : List (String × TagText)) : List (String × TagText) :=
  defaultHandles.foldl
    (fun hs h => if hs.any (·.1 == h.1) then hs else hs ++ [h]) handles

/-- Reads the directives before a document.  There may be one version, `1.1` or `1.2`, and one
meaning for each handle. -/
def directives (failure : Option SyntaxError) :
    (version : Bool) → List (String × TagText) → List Token →
      Except SyntaxError (List (String × TagText) × List Token)
  | version, handles, t :: rest =>
    match t.kind with
    | .versionDirective major minor =>
      if version then .error ⟨.duplicateVersion, t.start, none⟩
      else if major ≠ 1 || (minor ≠ 1 && minor ≠ 2) then
        .error ⟨.incompatibleVersion, t.start, none⟩
      else directives failure true handles rest
    | .tagDirective handle replacement =>
      if handles.any (·.1 == handle) then .error ⟨.duplicateTagHandle, t.start, none⟩
      else directives failure version (handles ++ [(handle, replacement)]) rest
    | _ => .ok (addDefaults handles, t :: rest)
  | _, _, [] => .error (failure.getD ⟨.missingStreamStart, .start, none⟩)

/-- Whether a token can only stand before the content of a document. -/
def startsDocument : TokenKind → Bool
  | .versionDirective .. | .tagDirective .. | .documentStart => true
  | _ => false

/-- A document with directives or three dashes, or the end of the stream. -/
def explicitDocument (g : Grammar) : Result := do
  let first ← g.peek
  if first.kind = .streamEnd then return ((.streamEnd, first.start), g.skip.expect .nothing)
  let (handles, tokens) ← directives g.failure false g.handles g.tokens
  let g := { g with handles := handles, tokens := tokens }
  let t ← g.peek
  if t.kind ≠ .documentStart then throw ⟨.missingDocumentStart, t.start, none⟩
  return ((.documentStart, first.start), (g.skip.thenExpect .documentEnd).expect .documentContent)

/-- A first document. -/
def firstDocument (g : Grammar) : Result := do
  let t ← g.peek
  if startsDocument t.kind || t.kind = .streamEnd then g.explicitDocument
  else
    return ((.documentStart, t.start),
      ({ g with handles := addDefaults g.handles }.thenExpect .documentEnd).expect .blockNode)

/-- A document behind another one, after any number of three-dot lines. -/
def nextDocument (g : Grammar) : Result :=
  { g with tokens := g.tokens.dropWhile (·.kind = TokenKind.documentEnd) }.explicitDocument

/-- The end of a document; its tag handles go with it. -/
def documentEnd (g : Grammar) : Result := do
  let t ← g.peek
  let g := if t.kind = .documentEnd then g.skip else g
  return ((.documentEnd, t.start), { g with handles := [], expected := .document })

/-! ## Nodes -/

/-- The anchor and the tag in front of a node, in either order. -/
structure Decoration where
  /-- The name of the anchor. -/
  anchor : Option String
  /-- The handle and the suffix of the tag, and its place. -/
  tag : Option (String × TagText × Mark)
  /-- The place of the first of them, or of the node. -/
  start : Mark
deriving Repr

/-- Reads the anchor and the tag in front of a node. -/
def decoration (g : Grammar) : Except SyntaxError (Decoration × Grammar) := do
  let first ← g.peek
  match first.kind with
  | .anchor name =>
    let second ← g.skip.peek
    match second.kind with
    | .tag handle suffix =>
      return (⟨some name, some (handle, suffix, second.start), first.start⟩, g.skip.skip)
    | _ => return (⟨some name, none, first.start⟩, g.skip)
  | .tag handle suffix =>
    let second ← g.skip.peek
    match second.kind with
    | .anchor name =>
      return (⟨some name, some (handle, suffix, first.start), first.start⟩, g.skip.skip)
    | _ => return (⟨none, some (handle, suffix, first.start), first.start⟩, g.skip)
  | _ => return (⟨none, none, first.start⟩, g)

/-- The tag with its handle replaced; a tag without handle stays as it is. -/
def resolveTag (g : Grammar) (p : Decoration) : Except SyntaxError (Option TagText) :=
  match p.tag with
  | none => .ok none
  | some (handle, suffix, place) =>
    if handle = "" then .ok (some suffix)
    else
      match g.handles.lookup handle with
      | some replacement => .ok (some (replacement ++ suffix))
      | none => .error (.during .node p.start .undefinedTagHandle place)

/-- A node.  Without content it is an empty scalar, if an anchor or a tag stands for it. -/
def node (g : Grammar) (block indentless : Bool) : Result := do
  let first ← g.peek
  match first.kind with
  | .alias name => return ((.alias name, first.start), g.skip.done)
  | _ =>
    let (p, g) ← g.decoration
    let tag ← g.resolveTag p
    let t ← g.peek
    let properties : Properties := ⟨p.anchor, tag⟩
    match t.kind with
    | .blockEntry =>
      if indentless then
        return ((.sequenceStart properties, p.start), g.expect .indentlessEntry)
      else noContent g p properties t
    | .scalar text style =>
      let tag := if tag = some (Utf8.encode "!") then none else tag
      return ((.scalar ⟨p.anchor, tag⟩ text style, p.start), g.skip.done)
    | .flowSequenceStart =>
      return ((.sequenceStart properties, p.start), g.skip.expect (.flowEntry true t.start))
    | .flowMappingStart =>
      return ((.mappingStart properties, p.start), g.skip.expect (.flowKey true t.start))
    | .blockSequenceStart =>
      if block then
        return ((.sequenceStart properties, p.start), g.skip.expect (.blockEntry t.start))
      else noContent g p properties t
    | .blockMappingStart =>
      if block then
        return ((.mappingStart properties, p.start), g.skip.expect (.blockKey t.start))
      else noContent g p properties t
    | _ => noContent g p properties t
where
  /-- A node without content. -/
  noContent (g : Grammar) (p : Decoration) (properties : Properties) (t : Token) : Result :=
    if properties.anchor.isSome || properties.tag.isSome then
      .ok ((.scalar properties "" .plain, p.start), g.done)
    else
      .error (.during (if block then .blockNode else .flowNode) p.start .missingNode t.start)

/-- The content behind three dashes, which may be missing. -/
def documentContent (g : Grammar) : Result := do
  let t ← g.peek
  if startsDocument t.kind || t.kind = .documentEnd || t.kind = .streamEnd then
    g.done.emptyScalar t.start
  else g.node true false

/-! ## Block collections -/

/-- A node in a block collection, unless one of the given tokens shows that it is missing. -/
def blockNodeUnless (g : Grammar) (missing : List TokenKind) (indentless : Bool)
    (place : Mark) (next : Expectation) : Result := do
  let t ← g.peek
  if t.kind ∈ missing then (g.expect next).emptyScalar place
  else (g.thenExpect next).node true indentless

/-- An item of a block sequence, or its end. -/
def blockEntry (g : Grammar) (start : Mark) : Result := do
  let t ← g.peek
  match t.kind with
  | .blockEntry =>
    g.skip.blockNodeUnless [.blockEntry, .blockEnd] false t.stop (.blockEntry start)
  | .blockEnd => return ((.sequenceEnd, t.start), g.skip.done)
  | _ => throw (.during .blockCollection start .missingBlockEntry t.start)

/-- An item of a sequence that is not indented, or its end. -/
def indentlessEntry (g : Grammar) : Result := do
  let t ← g.peek
  match t.kind with
  | .blockEntry =>
    g.skip.blockNodeUnless [.blockEntry, .key, .value, .blockEnd] false t.stop .indentlessEntry
  | _ => return ((.sequenceEnd, t.start), g.done)

/-- A key of a block mapping, or its end. -/
def blockKey (g : Grammar) (start : Mark) : Result := do
  let t ← g.peek
  match t.kind with
  | .key => g.skip.blockNodeUnless [.key, .value, .blockEnd] true t.stop (.blockValue start)
  | .blockEnd => return ((.mappingEnd, t.start), g.skip.done)
  | _ => throw (.during .blockMapping start .missingKey t.start)

/-- The value of the last key of a block mapping. -/
def blockValue (g : Grammar) (start : Mark) : Result := do
  let t ← g.peek
  match t.kind with
  | .value => g.skip.blockNodeUnless [.key, .value, .blockEnd] true t.stop (.blockKey start)
  | _ => (g.expect (.blockKey start)).emptyScalar t.start

/-! ## Flow collections -/

/-- A node in a flow collection, unless one of the given tokens shows that it is missing. -/
def flowNodeUnless (g : Grammar) (missing : List TokenKind) (next : Expectation) : Result := do
  let t ← g.peek
  if t.kind ∈ missing then (g.expect next).emptyScalar t.start
  else (g.thenExpect next).node false false

/-- The comma before an entry that is not the first one. -/
def skipComma (g : Grammar) (activity : Activity) (start : Mark) (problem : Problem) :
    Except SyntaxError Grammar := do
  let t ← g.peek
  if t.kind = .flowEntry then return g.skip
  else throw (.during activity start problem t.start)

/-- An item of a sequence in brackets, or its end.  A key begins a mapping with one entry. -/
def flowEntry (g : Grammar) (first : Bool) (start : Mark) : Result := do
  let t ← g.peek
  if t.kind = .flowSequenceEnd then return ((.sequenceEnd, t.start), g.skip.done)
  let g ← if first then pure g else g.skipComma .flowSequence start .missingFlowSequenceEnd
  let t ← g.peek
  match t.kind with
  | .flowSequenceEnd => return ((.sequenceEnd, t.start), g.skip.done)
  | .key => return ((.mappingStart .none, t.start), g.skip.expect (.pairKey start))
  | _ => (g.thenExpect (.flowEntry false start)).node false false

/-- The key of a mapping with one entry; the token that shows that it is missing goes with it. -/
def pairKey (g : Grammar) (start : Mark) : Result := do
  let t ← g.peek
  if t.kind ∈ [.value, .flowEntry, .flowSequenceEnd] then
    (g.skip.expect (.pairValue start)).emptyScalar t.stop
  else (g.thenExpect (.pairValue start)).node false false

/-- The value of a mapping with one entry. -/
def pairValue (g : Grammar) (start : Mark) : Result := do
  let t ← g.peek
  match t.kind with
  | .value => g.skip.flowNodeUnless [.flowEntry, .flowSequenceEnd] (.pairEnd start)
  | _ => (g.expect (.pairEnd start)).emptyScalar t.start

/-- A key of a mapping in braces, or its end. -/
def flowKey (g : Grammar) (first : Bool) (start : Mark) : Result := do
  let t ← g.peek
  if t.kind = .flowMappingEnd then return ((.mappingEnd, t.start), g.skip.done)
  let g ← if first then pure g else g.skipComma .flowMapping start .missingFlowMappingEnd
  let t ← g.peek
  match t.kind with
  | .flowMappingEnd => return ((.mappingEnd, t.start), g.skip.done)
  | .key => g.skip.flowNodeUnless [.value, .flowEntry, .flowMappingEnd] (.flowValue start)
  | _ => (g.thenExpect (.flowNoValue start)).node false false

/-- The value of the last key of a mapping in braces. -/
def flowValue (g : Grammar) (start : Mark) : Result := do
  let t ← g.peek
  match t.kind with
  | .value => g.skip.flowNodeUnless [.flowEntry, .flowMappingEnd] (.flowKey false start)
  | _ => (g.expect (.flowKey false start)).emptyScalar t.start

/-! ## Steps -/

/-- The next event. -/
def step (g : Grammar) : Result := do
  match g.expected with
  | .streamStart =>
    let t ← g.peek
    return ((.streamStart, t.start), g.skip.expect .firstDocument)
  | .firstDocument => g.firstDocument
  | .document => g.nextDocument
  | .documentContent => g.documentContent
  | .documentEnd => g.documentEnd
  | .blockNode => g.node true false
  | .blockEntry start => g.blockEntry start
  | .indentlessEntry => g.indentlessEntry
  | .blockKey start => g.blockKey start
  | .blockValue start => g.blockValue start
  | .flowEntry first start => g.flowEntry first start
  | .pairKey start => g.pairKey start
  | .pairValue start => g.pairValue start
  | .pairEnd start =>
    let t ← g.peek
    return ((.mappingEnd, t.start), g.expect (.flowEntry false start))
  | .flowKey first start => g.flowKey first start
  | .flowValue start => g.flowValue start
  | .flowNoValue start =>
    let t ← g.peek
    (g.expect (.flowKey false start)).emptyScalar t.start
  | .nothing => throw ⟨.missingStreamStart, .start, none⟩

/-- The events up to the end of the stream or up to an error. -/
def run : (fuel : Nat) → Grammar → EventStream
  | 0, _ => ⟨[], none⟩
  | fuel + 1, g =>
    if g.expected = .nothing then ⟨[], none⟩
    else
      match g.step with
      | .error e => ⟨[], some e⟩
      | .ok (event, g) =>
        let s := run fuel g
        { s with events := event :: s.events }

end Grammar

/-- The events of a token stream. -/
def EventStream.ofTokens (s : TokenStream) : EventStream :=
  (Grammar.ofTokens s).run (4 * s.tokens.length + 8)

end ConfigCheck.Yaml
