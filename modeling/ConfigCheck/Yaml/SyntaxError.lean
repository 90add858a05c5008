import ConfigCheck.Yaml.Cursor

/-!
# Syntax errors of YAML

A syntax error is a problem at a place, together with what was being read at the time and where
that began.
-/

namespace ConfigCheck.Yaml

/-- What is wrong. -/
inductive Problem where
  | blockEntryNotAllowed
  | keyNotAllowed
  | valueNotAllowed
  | cannotStartToken
  | missingColon
  | missingDirectiveName
  | directiveNameNotAlphabetical
  | unknownDirective
  | missingVersionDot
  | missingVersionNumber
  | longVersionNumber
  | missingDirectiveLineEnd
  | missingDirectiveBlank
  | missingBang
  | missingTagUri
  | missingTagEnd
  | missingTagBlank
  | missingVerbatimEnd
  | missingUriOctet
  | badLeadingOctet
  | badTrailingOctet
  | missingAnchorName
  | zeroIndentation
  | missingBlockLineEnd
  | tabInIndentation
  | unexpectedDocumentIndicator
  | unexpectedEnd
  | unknownEscape
  | missingHexDigits
  | invalidCodePoint
  | unexpectedColon
  | tabViolatesIndentation
  | missingStreamStart
  | missingDocumentStart
  | undefinedTagHandle
  | missingNode
  | missingBlockEntry
  | missingKey
  | missingFlowSequenceEnd
  | missingFlowMappingEnd
  | duplicateVersion
  | incompatibleVersion
  | duplicateTagHandle
deriving DecidableEq, Repr, Inhabited

/-- The text of a problem. -/
def Problem.message : Problem → String
  | .blockEntryNotAllowed => "block sequence entries are not allowed in this context"
  | .keyNotAllowed => "mapping keys are not allowed in this context"
  | .valueNotAllowed => "mapping values are not allowed in this context"
  | .cannotStartToken => "found character that cannot start any token"
  | .missingColon => "could not find expected ':'"
  | .missingDirectiveName => "could not find expected directive name"
  | .directiveNameNotAlphabetical => "found unexpected non-alphabetical character"
  | .unknownDirective => "found unknown directive name"
  | .missingVersionDot => "did not find expected digit or '.' character"
  | .missingVersionNumber => "did not find expected version number"
  | .longVersionNumber => "found extremely long version number"
  | .missingDirectiveLineEnd => "did not find expected comment or line break"
  | .missingDirectiveBlank => "did not find expected whitespace"
  | .missingBang => "did not find expected '!'"
  | .missingTagUri => "did not find expected tag URI"
  | .missingTagEnd => "did not find expected whitespace or line break"
  | .missingTagBlank => "did not find expected whitespace or line break"
  | .missingVerbatimEnd => "did not find the expected '>'"
  | .missingUriOctet => "did not find URI escaped octet"
  | .badLeadingOctet => "found an incorrect leading UTF-8 octet"
  | .badTrailingOctet => "found an incorrect trailing UTF-8 octet"
  | .missingAnchorName => "did not find expected alphabetic or numeric character"
  | .zeroIndentation => "found an indentation indicator equal to 0"
  | .missingBlockLineEnd => "did not find expected comment or line break"
  | .tabInIndentation => "found a tab character where an indentation space is expected"
  | .unexpectedDocumentIndicator => "found unexpected document indicator"
  | .unexpectedEnd => "found unexpected end of stream"
  | .unknownEscape => "found unknown escape character"
  | .missingHexDigits => "did not find expected hexdecimal number"
  | .invalidCodePoint => "found invalid Unicode character escape code"
  | .unexpectedColon => "found unexpected ':'"
  | .tabViolatesIndentation => "found a tab character that violates indentation"
  | .missingStreamStart => "did not find expected <stream-start>"
  | .missingDocumentStart => "did not find expected <document start>"
  | .undefinedTagHandle => "found undefined tag handle"
  | .missingNode => "did not find expected node content"
  | .missingBlockEntry => "did not find expected '-' indicator"
  | .missingKey => "did not find expected key"
  | .missingFlowSequenceEnd => "did not find expected ',' or ']'"
  | .missingFlowMappingEnd => "did not find expected ',' or '\x7d'"
  | .duplicateVersion => "found duplicate %YAML directive"
  | .incompatibleVersion => "found incompatible YAML document"
  | .duplicateTagHandle => "found duplicate %TAG directive"

/-- What was being read. -/
inductive Activity where
  | nextToken
  | simpleKey
  | directive
  | versionDirective
  | scanTagDirective
  | parseTagDirective
  | scanDirectiveHandle
  | parseDirectiveHandle
  | scanTag
  | parseTag
  | anchor
  | alias
  | blockScalar
  | scanQuoted
  | parseQuoted
  | plainScalar
  | node
  | blockNode
  | flowNode
  | blockCollection
  | blockMapping
  | flowSequence
  | flowMapping
deriving DecidableEq, Repr, Inhabited

/-- The text of an activity. -/
def Activity.message : Activity → String
  | .nextToken => "while scanning for the next token"
  | .simpleKey => "while scanning a simple key"
  | .directive => "while scanning a directive"
  | .versionDirective => "while scanning a %YAML directive"
  | .scanTagDirective => "while scanning a %TAG directive"
  | .parseTagDirective => "while parsing a %TAG directive"
  | .scanDirectiveHandle => "while scanning a tag directive"
  | .parseDirectiveHandle => "while parsing a tag directive"
  | .scanTag => "while scanning a tag"
  | .parseTag => "while parsing a tag"
  | .anchor => "while scanning an anchor"
  | .alias => "while scanning an alias"
  | .blockScalar => "while scanning a block scalar"
  | .scanQuoted => "while scanning a quoted scalar"
  | .parseQuoted => "while parsing a quoted scalar"
  | .plainScalar => "while scanning a plain scalar"
  | .node => "while parsing a node"
  | .blockNode => "while parsing a block node"
  | .flowNode => "while parsing a flow node"
  | .blockCollection => "while parsing a block collection"
  | .blockMapping => "while parsing a block mapping"
  | .flowSequence => "while parsing a flow sequence"
  | .flowMapping => "while parsing a flow mapping"

/-- A problem at a place. -/
structure SyntaxError where
  /-- What is wrong. -/
  problem : Problem
  /-- Where it is. -/
  place : Mark
  /-- What was being read, and where that began. -/
  context : Option (Activity × Mark)
deriving DecidableEq, Repr

namespace SyntaxError

/-- A problem met while something was being read. -/
def during (activity : Activity) (began : Mark) (problem : Problem) (place : Mark) : SyntaxError :=
  ⟨problem, place, some (activity, began)⟩

/-- The place in words, unless it is the very beginning. -/
def atPlace (m : Mark) : String := if m.isOrigin then "" else s!" at {m.display}"

/-- The text of a syntax error; the beginning is left out where it is the place itself. -/
def message (e : SyntaxError) : String :=
  e.problem.message ++ atPlace e.place ++
    match e.context with
    | none => ""
    | some (activity, began) =>
      ", " ++ activity.message ++
        if began.line = e.place.line && began.column = e.place.column then "" else atPlace began

end SyntaxError

end ConfigCheck.Yaml
