import ConfigCheck.CommandLine.Flag

/-!
# Help

The help text comes in two lengths.  The short one has one line for each flag; the long one has
paragraphs and explains the values.
-/

namespace ConfigCheck.CommandLine

/-- The name of the program. -/
def programName : String := "tora-check"

/-- The version of the program. -/
def versionText : String := programName ++ " 0.1.0\n"

/-- What the program is for. -/
def purpose : String :=
  "Command-line gate that checks configuration files against a JSON schema before deployment."

/-- How the program is called with these flags, or with any if there are none. -/
def usage (flags : List Flag) : String :=
  "Usage: " ++ programName ++ " " ++
    if flags = [] then "[OPTIONS]" else " ".intercalate (flags.map Flag.label)

/-- What a flag does. -/
def Flag.summary (long : Bool) : Flag → String
  | verbose => "Enable verbose logging on stderr. Repeat for more (-v, -vv, -vvv)"
  | schema => "Path to the JSON schema file"
  | target => "Config file, or directory of config files, to check"
  | format => "Output format for the report"
  | help => if long then "Print help (see a summary with '-h')"
    else "Print help (see more with '--help')"
  | version => "Print version"

/-- A flag with its letter. -/
def Flag.signature (f : Flag) : String :=
  match f.short? with
  | some letter => String.ofList ['-', letter, ','] ++ " " ++ f.label
  | none => "    " ++ f.label

/-- The value that stands if the flag does not, in brackets. -/
def Flag.defaultNote (f : Flag) : List String :=
  f.default?.toList.map fun value => "[default: " ++ value ++ "]"

/-- The values that a flag takes, in brackets. -/
def Flag.valuesNote (f : Flag) : List String :=
  if f.values = [] then []
  else ["[possible values: " ++ ", ".intercalate (f.values.map OutputFormat.name) ++ "]"]

/-- This many spaces. -/
def spaces (n : Nat) : String := String.ofList (List.replicate n ' ')

/-- The column in which the short texts start. -/
def summaryColumn : Nat := (Flag.all.map fun f => f.signature.length).foldl max 0 + 4

/-- The line of a flag in the short help. -/
def Flag.shortHelp (f : Flag) : String :=
  let signature := "  " ++ f.signature
  signature ++ spaces (summaryColumn - signature.length) ++
    " ".intercalate (f.summary false :: f.defaultNote ++ f.valuesNote) ++ "\n"

/-- The indentation of the paragraphs in the long help. -/
def paragraphIndent : Nat := 10

/-- The line of a value in the long help. -/
def OutputFormat.helpLine (f : OutputFormat) : String :=
  "\n" ++ spaces paragraphIndent ++ "- " ++ f.name ++ ": " ++ f.summary

/-- The paragraphs of a flag in the long help. -/
def Flag.longHelp (f : Flag) : String :=
  let indent := spaces paragraphIndent
  let values :=
    if f.values = [] then ""
    else "\n\n" ++ indent ++ "Possible values:" ++ String.join (f.values.map OutputFormat.helpLine)
  let default :=
    String.join (f.defaultNote.map fun note => "\n" ++ indent ++ "\n" ++ indent ++ note)
  "  " ++ f.signature ++ "\n" ++ indent ++ f.summary true ++ values ++ default ++ "\n"

/-- The help text. -/
def helpText (long : Bool) : String :=
  let flags :=
    if long then "\n".intercalate (Flag.all.map Flag.longHelp)
    else String.join (Flag.all.map Flag.shortHelp)
  purpose ++ "\n\n" ++ usage [] ++ "\n\nOptions:\n" ++ flags

end ConfigCheck.CommandLine
