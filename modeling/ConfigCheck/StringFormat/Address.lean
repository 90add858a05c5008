import ConfigCheck.StringFormat.Time
import ConfigCheck.Text.Blank
import ConfigCheck.Text.Newest
import ConfigCheck.Text.Utf8

/-!
# Addresses

Names of hosts, addresses of both versions of the internet protocol, and addresses of mail.
-/

namespace ConfigCheck.StringFormat

/-! ## Hosts -/

/-- Whether the text is one part of the name of a host. -/
def isHostLabel (s : List Char) : Bool :=
  s ≠ [] && s.length ≤ 63 && s.all (fun c => c.isAlphanum || c = '-') &&
    s.head? ≠ some '-' && s.getLast? ≠ some '-'

/-- Whether the text is the name of a host. -/
def isHostname (s : List Char) : Bool := s.length ≤ 253 && (s.splitOn '.').all isHostLabel

/-- Whether the text is a number below 256 without leading zeros. -/
def isOctet (s : List Char) : Bool :=
  match number? s with
  | some n => s.length ≤ 3 && n ≤ 255 && (s.length = 1 || s.head? ≠ some '0')
  | none => false

/-- Whether the text is an address of version 4. -/
def isIpv4 (s : List Char) : Bool :=
  let parts := s.splitOn '.'
  parts.length = 4 && parts.all isOctet

/-- Whether the text is one group of an address of version 6. -/
def isHexGroup (s : List Char) : Bool :=
  1 ≤ s.length && s.length ≤ 4 &&
    s.all fun c => c.isDigit || ('a' ≤ c && c ≤ 'f') || ('A' ≤ c && c ≤ 'F')

/-- How many groups the parts between colons make; an address of version 4 in the last place makes
two.  `none` if a part is no group. -/
def groupCount? (lastMayBeV4 : Bool) : List (List Char) → Option Nat
  | [] => some 0
  | [part] =>
    if isHexGroup part then some 1
    else if lastMayBeV4 && isIpv4 part then some 2
    else none
  | part :: rest =>
    if isHexGroup part then (groupCount? lastMayBeV4 rest).map (· + 1) else none

/-- The parts before and behind the first double colon. -/
def splitDoubleColon : List Char → Option (List Char × List Char)
  | ':' :: ':' :: rest => some ([], rest)
  | c :: rest => (splitDoubleColon rest).map fun (a, b) => (c :: a, b)
  | [] => none

/-- The parts between colons; the empty text has none. -/
def colonParts (s : List Char) : List (List Char) := if s = [] then [] else s.splitOn ':'

/-- Whether the text is an address of version 6: eight groups, or fewer with a double colon for
the groups that are left out. -/
def isIpv6 (s : List Char) : Bool :=
  match splitDoubleColon s with
  | none => groupCount? true (colonParts s) = some 8
  | some (front, back) =>
    match groupCount? false (colonParts front), groupCount? true (colonParts back) with
    | some m, some n => m + n ≤ 7
    | _, _ => false

/-! ## Mail -/

/-- Characters of a word in an address of mail. -/
def isMailWordChar (c : Char) : Bool :=
  Text.isAlphanumeric c ||
    c ∈ ['!', '#', '$', '%', '&', '\'', '*', '+', '-', '/', '=', '?', '^', '_', '\x60', '\x7b', '|',
      '\x7d', '~']

/-- Whether the text is words with full stops between them. -/
def isDottedWords (s : List Char) : Bool :=
  (s.splitOn '.').all fun part => part ≠ [] && part.all isMailWordChar

/-- Whether the text can stand between double quotes. -/
def isQuotedContent : List Char → Bool
  | [] => true
  | '\\' :: c :: rest => '\x21' ≤ c && c ≤ '\x7e' && isQuotedContent rest
  | ['\\'] => false
  | c :: rest =>
    (c = ' ' || c = '\t' || (('\x21' ≤ c && c ≤ '\x7e') && c ≠ '"') || 128 ≤ c.toNat) &&
      isQuotedContent rest

/-- The number of bytes of a text. -/
def byteLength (s : List Char) : Nat := (String.ofList s).utf8ByteSize

/-- Whether the text can stand before the at sign. -/
def isLocalPart (s : List Char) : Bool :=
  s ≠ [] && byteLength s ≤ 64 &&
    (if s.head? = some '"' && s.getLast? = some '"' then
      2 < s.length && isQuotedContent ((s.drop 1).dropLast)
    else isDottedWords s)

/-- Whether the text can stand behind the at sign: the name of a host, or an address in
brackets. -/
def isMailDomain (s : List Char) : Bool :=
  s ≠ [] && byteLength s ≤ 254 &&
    (if s.head? = some '[' && s.getLast? = some ']' then
      match (s.drop 1).dropLast with
      | 'I' :: 'P' :: 'v' :: '6' :: ':' :: address => isIpv6 address
      | address => isIpv4 address
    else isHostname s)

/-- The address of mail in a text that may have a name before it, with the address in angle
brackets. -/
def mailAddress? (s : List Char) : Option (List Char) :=
  match lastBracket s with
  | none => some s
  | some behind =>
    let behind := Text.trim behind
    if behind.getLast? = some '>' then some behind.dropLast else none
where
  /-- What follows the last angle bracket that has a blank before it. -/
  lastBracket : List Char → Option (List Char)
    | [] => none
    | c :: rest =>
      match lastBracket rest with
      | some found => some found
      | none =>
        match c, rest with
        | ' ', '<' :: behind => some behind
        | _, _ => none

/-- Whether the text is an address of mail. -/
def isEmail (s : List Char) : Bool :=
  match mailAddress? s with
  | none => false
  | some address =>
    if address.contains '@' then
      let domain := (address.reverse.takeWhile (· != '@')).reverse
      isLocalPart (address.take (address.length - domain.length - 1)) && isMailDomain domain
    else false

end ConfigCheck.StringFormat
