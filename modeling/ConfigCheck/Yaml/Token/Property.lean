import ConfigCheck.Yaml.SyntaxError
import ConfigCheck.Yaml.Token
import ConfigCheck.Text.Utf8

/-!
# Anchors, tags and directives

The tokens that describe a node or a document instead of being its content.
-/

namespace ConfigCheck.Yaml

/-! ## Anchors and aliases -/

/-- The indicators that may follow a name directly. -/
def mayFollowName (cs : List Char) : Bool :=
  atSpace cs || cs.head?.any fun c => c ∈ ['?', ':', ',', ']', '\x7d', '%', '@', '`']

/-- Reads the name of an anchor or of an alias from its indicator on. -/
def scanName (activity : Activity) (c : Cursor) : Except SyntaxError (String × Cursor) :=
  let (name, after) := (c.skip 1).span isNameChar
  if name = [] || !mayFollowName after.rest then
    .error (.during activity c.mark .missingAnchorName after.mark)
  else .ok (String.ofList name, after)

/-! ## Tags -/

/-- The number of bytes of a character whose first byte this is; zero for any other byte. -/
def octetCount (octet : Nat) : Nat :=
  if octet < 0x80 then 1
  else if octet / 0x20 = 6 then 2
  else if octet / 0x10 = 14 then 3
  else if octet / 8 = 30 then 4
  else 0

/-- The byte of a percent escape. -/
def percentOctet? : List Char → Option Nat
  | '%' :: a :: b :: _ => do return (← hexValue? a) * 16 + (← hexValue? b)
  | _ => none

/-- Reads the percent escapes of one character: `need` of them are left. -/
def scanTrailingOctets (activity : Activity) (start : Mark) :
    (need : Nat) → Cursor → Except SyntaxError (TagText × Cursor)
  | 0, c => .ok ([], c)
  | need + 1, c =>
    match percentOctet? c.rest with
    | none => .error (.during activity start .missingUriOctet c.mark)
    | some octet =>
      if octet / 0x40 ≠ 2 then .error (.during activity start .badTrailingOctet c.mark)
      else
        match scanTrailingOctets activity start need (c.skip 3) with
        | .error e => .error e
        | .ok (octets, c) => .ok (UInt8.ofNat octet :: octets, c)

/-- Reads the percent escapes of one character. -/
def scanOctets (activity : Activity) (start : Mark) (c : Cursor) :
    Except SyntaxError (TagText × Cursor) :=
  match percentOctet? c.rest with
  | none => .error (.during activity start .missingUriOctet c.mark)
  | some octet =>
    match octetCount octet with
    | 0 => .error (.during activity start .badLeadingOctet c.mark)
    | count + 1 => do
      let (octets, c) ← scanTrailingOctets activity start count (c.skip 3)
      return (UInt8.ofNat octet :: octets, c)

/-- The characters of a tag; commas and brackets only where nothing else could be meant. -/
def isTagChar (anywhere : Bool) (c : Char) : Bool :=
  isNameChar c ||
    c ∈ [';', '/', '?', ':', '@', '&', '=', '+', '$', '.', '%', '!', '~', '*', '\'', '(', ')'] ||
    (anywhere && c ∈ [',', '[', ']'])

/-- Reads the characters of a tag as bytes. -/
def scanTagText (anywhere : Bool) (activity : Activity) (start : Mark) :
    (fuel : Nat) → TagText → Cursor → Except SyntaxError (TagText × Cursor)
  | 0, text, c => .ok (text, c)
  | fuel + 1, text, c =>
    match c.rest with
    | [] => .ok (text, c)
    | char :: _ =>
      if !isTagChar anywhere char then .ok (text, c)
      else if char = '%' then
        match scanOctets activity start c with
        | .error e => .error e
        | .ok (octets, c) => scanTagText anywhere activity start fuel (text ++ octets) c
      else
        scanTagText anywhere activity start fuel (text ++ [UInt8.ofNat char.toNat]) (c.skip 1)

/-- Reads a tag whose first characters `head` were read before; the two together must not be
empty, and the first character of `head` is dropped.  The tag ends where its first byte zero is,
although all of it is read. -/
def scanTagUri (anywhere : Bool) (activity : Activity) (head : List Char) (start : Mark)
    (c : Cursor) : Except SyntaxError (TagText × Cursor) := do
  let (text, after) ←
    scanTagText anywhere activity start (c.rest.length + 1)
      (Utf8.encode (String.ofList head.tail)) c
  if head = [] && after.mark.index = c.mark.index then
    throw (.during activity start .missingTagUri after.mark)
  return (text.takeWhile (· != 0), after)

/-- Reads an exclamation mark, a name, and a second exclamation mark if there is one. -/
def scanHandle (c : Cursor) : List Char × Cursor :=
  let (name, after) := (c.skip 1).span isNameChar
  if after.at_ '!' then ('!' :: name ++ ['!'], after.skip 1) else ('!' :: name, after)

/-- Reads a tag from its exclamation mark on: its handle and its suffix.  A single mark is a
suffix without handle. -/
def scanTag (inFlow : Bool) (c : Cursor) : Except SyntaxError (String × TagText × Cursor) := do
  let start := c.mark
  let (handle, suffix, after) ←
    if (c.skip 1).at_ '<' then do
      let (suffix, after) ← scanTagUri true .parseTag [] start (c.skip 2)
      if !after.at_ '>' then throw (.during .scanTag start .missingVerbatimEnd after.mark)
      pure ("", suffix, after.skip 1)
    else do
      let (handle, after) := scanHandle c
      if 2 ≤ handle.length && handle.getLast? = some '!' then
        let (suffix, after) ← scanTagUri false .parseTag [] start after
        pure (String.ofList handle, suffix, after)
      else
        let (suffix, after) ← scanTagUri false .parseTag handle start after
        pure (if suffix = [] then ("", Utf8.encode "!", after) else ("!", suffix, after))
  if !(atSpace after.rest || (inFlow && after.at_ ',')) then
    throw (.during .scanTag start .missingTagEnd after.mark)
  return (handle, suffix, after)

/-! ## Directives -/

/-- Reads one of the two numbers of a version, of at most nine digits. -/
def scanVersionNumber (start : Mark) (c : Cursor) : Except SyntaxError (Nat × Cursor) :=
  let (digits, after) := c.span isDigit
  if digits = [] then .error (.during .versionDirective start .missingVersionNumber c.mark)
  else if 9 < digits.length then
    .error (.during .versionDirective start .longVersionNumber (c.skip 9).mark)
  else .ok (digits.foldl (fun n d => n * 10 + (d.toNat - '0'.toNat)) 0, after)

/-- Reads the version behind `%YAML`. -/
def scanVersion (start : Mark) (c : Cursor) : Except SyntaxError (TokenKind × Cursor) := do
  let (major, c) ← scanVersionNumber start (c.skipWhile isBlank)
  if !c.at_ '.' then throw (.during .versionDirective start .missingVersionDot c.mark)
  let (minor, c) ← scanVersionNumber start (c.skip 1)
  return (.versionDirective major minor, c)

/-- Reads the handle and its meaning behind `%TAG`. -/
def scanTagDirective (start : Mark) (c : Cursor) : Except SyntaxError (TokenKind × Cursor) := do
  let c := c.skipWhile isBlank
  if !c.at_ '!' then throw (.during .scanDirectiveHandle start .missingBang c.mark)
  let (handle, c) := scanHandle c
  if 2 ≤ handle.length && handle.getLast? ≠ some '!' then
    throw (.during .parseDirectiveHandle start .missingBang c.mark)
  if !c.peek?.any isBlank then
    throw (.during .scanTagDirective start .missingDirectiveBlank c.mark)
  let (replacement, c) ← scanTagUri true .parseTagDirective [] start (c.skipWhile isBlank)
  if !atSpace c.rest then throw (.during .scanTagDirective start .missingTagBlank c.mark)
  return (.tagDirective (String.ofList handle) replacement, c)

/-- Reads a directive from its percent sign up to the end of its line: what it says, the place
behind its value, and the rest of the text. -/
def scanDirective (c : Cursor) : Except SyntaxError (TokenKind × Mark × Cursor) := do
  let start := c.mark
  let (name, after) := (c.skip 1).span isNameChar
  if name = [] then throw (.during .directive start .missingDirectiveName after.mark)
  if !atSpace after.rest then
    throw (.during .directive start .directiveNameNotAlphabetical after.mark)
  let (kind, after) ←
    if name = "YAML".toList then scanVersion start after
    else if name = "TAG".toList then scanTagDirective start after
    else throw (.during .directive start .unknownDirective after.mark)
  let stop := after.mark
  let after := (after.skipWhile isBlank).skipComment
  if !atBreak after.rest then
    throw (.during .directive start .missingDirectiveLineEnd after.mark)
  return (kind, stop, after.skipBreak)

end ConfigCheck.Yaml
