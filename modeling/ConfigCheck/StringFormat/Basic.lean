import ConfigCheck.Regex.Pattern
import ConfigCheck.Schema.Draft
import ConfigCheck.StringFormat.Address
import ConfigCheck.StringFormat.Pointer
import ConfigCheck.Uri.Reader

/-!
# Formats of strings

The formats that a schema can demand of a string, by the draft that knows them.
-/

namespace ConfigCheck

/-- A format of strings. -/
inductive StringFormat where
  /-- A day of the calendar. -/
  | date
  /-- A time of day. -/
  | time
  /-- A date and a time. -/
  | dateTime
  /-- An address of mail. -/
  | email
  /-- The name of a host. -/
  | hostname
  /-- An address of version 4. -/
  | ipv4
  /-- An address of version 6. -/
  | ipv6
  /-- A pointer into a value. -/
  | jsonPointer
  /-- A pointer that starts somewhere inside a value. -/
  | relativeJsonPointer
  /-- A regular expression. -/
  | regex
  /-- An identifier. -/
  | uri
  /-- An identifier or a reference relative to one. -/
  | uriReference
  /-- A template for identifiers. -/
  | uriTemplate
deriving DecidableEq, Repr, Inhabited

namespace StringFormat

/-- The name of the format. -/
def name : StringFormat → String
  | date => "date"
  | time => "time"
  | dateTime => "date-time"
  | email => "email"
  | hostname => "hostname"
  | ipv4 => "ipv4"
  | ipv6 => "ipv6"
  | jsonPointer => "json-pointer"
  | relativeJsonPointer => "relative-json-pointer"
  | regex => "regex"
  | uri => "uri"
  | uriReference => "uri-reference"
  | uriTemplate => "uri-template"

/-- All formats. -/
def all : List StringFormat :=
  [date, time, dateTime, email, hostname, ipv4, ipv6, jsonPointer, relativeJsonPointer, regex, uri,
    uriReference, uriTemplate]

/-- The first draft that knows the format. -/
def firstDraft : StringFormat → Schema.Draft
  | jsonPointer | uriReference | uriTemplate => .draft6
  | relativeJsonPointer => .draft7
  | _ => .draft4

/-- The format with a name, if the draft checks it. -/
def ofName? (draft : Schema.Draft) (name : String) : Option StringFormat :=
  if draft.assertsFormats then
    all.find? fun f => f.name = name && draft.since f.firstDraft
  else none

/-- Whether a string has the format. -/
def accepts (f : StringFormat) (text : String) : Bool :=
  let s := text.toList
  match f with
  | date => isDate s
  | time => isTime s
  | dateTime => isDateTime s
  | email => isEmail s
  | hostname => isHostname s
  | ipv4 => isIpv4 s
  | ipv6 => isIpv6 s
  | jsonPointer => isPointer s
  | relativeJsonPointer => isRelativePointer s
  | regex => Regex.Pattern.isReadable text
  | uri => match Uri.read text with
    | .ok u => u.scheme.isSome
    | .error _ => false
  | uriReference => match Uri.read text with
    | .ok _ => true
    | .error _ => false
  | uriTemplate => isTemplate s

end StringFormat

end ConfigCheck
