import ConfigCheck.CommandLine.Help
import ConfigCheck.Text.Similarity

/-!
# Wrong command lines

Why a command line is refused.  The message names what is wrong, may suggest what was meant, and
shows how the program is called.
-/

namespace ConfigCheck.CommandLine

/-- Why a command line is refused. -/
inductive UsageError where
  /-- There is no such flag, or a word where none is expected.  A flag may be similar, and other
  flags may have been used before. -/
  | unknownArgument (text : String) (similar : Option Flag) (used : List Flag)
  /-- A flag lacks its value. -/
  | missingValue (flag : Flag)
  /-- A flag does not take this value. -/
  | invalidValue (flag : Flag) (value : String)
  /-- A flag that takes no value has one. -/
  | unexpectedValue (flag : Flag) (value : String) (used : List Flag)
  /-- A flag stands twice. -/
  | repeated (flag : Flag)
deriving DecidableEq, Repr, Inhabited

namespace UsageError

/-- What is wrong, in one line. -/
def summary : UsageError → String
  | unknownArgument text _ _ => s!"unexpected argument '{text}' found"
  | missingValue flag => s!"a value is required for '{flag.label}' but none was supplied"
  | invalidValue flag value => s!"invalid value '{value}' for '{flag.label}'"
  | unexpectedValue flag value _ =>
    s!"unexpected value '{value}' for '{flag.label}' found; no more were expected"
  | repeated flag => s!"the argument '{flag.label}' cannot be used multiple times"

/-- The values that would have been taken. -/
def valuesNote : UsageError → List String
  | missingValue flag | invalidValue flag _ => flag.valuesNote
  | _ => []

/-- What may have been meant. -/
def suggestion? : UsageError → Option String
  | unknownArgument _ (some flag) _ => some s!"a similar argument exists: '--{flag.long}'"
  | invalidValue flag value =>
    (Text.mostSimilar? OutputFormat.name value flag.values).map fun f =>
      s!"a similar value exists: '{f.name}'"
  | _ => none

/-- The flags in the line that shows how the program is called, if there is such a line. -/
def usage? : UsageError → Option (List Flag)
  | unknownArgument _ _ used => some used
  | unexpectedValue _ _ used => some used
  | repeated _ => some []
  | missingValue _ | invalidValue _ _ => none

/-- The message. -/
def message (e : UsageError) : String :=
  "error: " ++ e.summary ++ String.join (e.valuesNote.map ("\n  " ++ ·)) ++
    String.join (e.suggestion?.toList.map ("\n\n  tip: " ++ ·)) ++
    String.join (e.usage?.toList.map fun flags => "\n\n" ++ usage flags) ++
    "\n\nFor more information, try '--help'.\n"

end UsageError

end ConfigCheck.CommandLine
