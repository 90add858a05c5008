import ConfigCheck.File.Path

/-!
# Flags

The flags of the command line: three take a value, the others do not.
-/

namespace ConfigCheck.CommandLine

/-- How a report is written. -/
inductive OutputFormat where
  /-- In lines for people. -/
  | text
  /-- As one JSON object. -/
  | json
deriving DecidableEq, Repr, Inhabited

namespace OutputFormat

/-- All output formats. -/
def all : List OutputFormat := [text, json]

/-- The name on the command line. -/
def name : OutputFormat → String
  | text => "text"
  | json => "json"

/-- What the format looks like. -/
def summary : OutputFormat → String
  | text => "Human-readable lines"
  | json => "One JSON report object"

/-- The format of a name. -/
def ofName? (name : String) : Option OutputFormat := all.find? fun f => f.name == name

end OutputFormat

/-- What a command line asks of a check. -/
structure Settings where
  /-- The path of the schema. -/
  schema : Path := Path.ofString "schema/config-schema.json"
  /-- The file or directory to check. -/
  target : Path := Path.ofString "config"
  /-- How the report is written. -/
  format : OutputFormat := .text
  /-- How much of the log is shown. -/
  verbosity : Nat := 0
deriving DecidableEq, Repr, Inhabited

/-- The number up to which a flag is counted that may stand any number of times. -/
def countLimit : Nat := 255

/-- The settings that show more of the log, up to the limit. -/
def Settings.louder (s : Settings) : Settings :=
  { s with verbosity := min countLimit (s.verbosity + 1) }

/-- A flag of the command line. -/
inductive Flag where
  /-- Shows more of the log each time it stands. -/
  | verbose
  /-- Gives the path of the schema. -/
  | schema
  /-- Gives the target. -/
  | target
  /-- Gives the output format. -/
  | format
  /-- Asks for help. -/
  | help
  /-- Asks for the version. -/
  | version
deriving DecidableEq, Repr, Inhabited

namespace Flag

/-- All flags, in the order of the help text. -/
def all : List Flag := [verbose, schema, target, format, help, version]

/-- The long name, without its dashes. -/
def long : Flag → String
  | verbose => "verbose"
  | schema => "schema"
  | target => "target"
  | format => "format"
  | help => "help"
  | version => "version"

/-- The letter, if the flag has one. -/
def short? : Flag → Option Char
  | verbose => some 'v'
  | schema => some 's'
  | target => some 't'
  | format => none
  | help => some 'h'
  | version => some 'V'

/-- The name of the value, if the flag takes one. -/
def valueName? : Flag → Option String
  | schema => some "SCHEMA"
  | target => some "TARGET"
  | format => some "FORMAT"
  | verbose | help | version => none

/-- The value that stands if the flag does not. -/
def default? : Flag → Option String
  | schema => ({} : Settings).schema.display
  | target => ({} : Settings).target.display
  | format => ({} : Settings).format.name
  | verbose | help | version => none

/-- The values that the flag takes, if they are known. -/
def values : Flag → List OutputFormat
  | format => OutputFormat.all
  | _ => []

/-- The flag as it is shown, with its value. -/
def label (f : Flag) : String :=
  "--" ++ f.long ++ match f.valueName? with
    | some name => " <" ++ name ++ ">"
    | none => if f = verbose then "..." else ""

/-- The flag with a long name. -/
def ofLong? (name : String) : Option Flag := all.find? fun f => f.long == name

/-- The flag with a letter. -/
def ofShort? (letter : Char) : Option Flag := all.find? fun f => f.short? == some letter

end Flag

/-- The settings with the value of a flag, unless the flag does not take it. -/
def Settings.assign? (s : Settings) (flag : Flag) (value : String) : Option Settings :=
  match flag with
  | .schema => if value = "" then none else some { s with schema := Path.ofString value }
  | .target => if value = "" then none else some { s with target := Path.ofString value }
  | .format => (OutputFormat.ofName? value).map fun f => { s with format := f }
  | .verbose | .help | .version => none

end ConfigCheck.CommandLine
