import ConfigCheck.CommandLine.UsageError

/-!
# Reading the command line

Arguments are read one after the other.  A flag that takes a value has it behind an equals sign,
right behind its letter, or as the next argument that is no flag; a value from a following argument
is taken over only when the next flag or the end is reached (`Reading.settle`).  Letters may share
one dash.  Behind two dashes no flag is recognised.  The first thing that ends the reading counts,
be it an error or a flag that asks for help.
-/

namespace ConfigCheck.CommandLine

/-- What ends the reading of a command line before its end. -/
inductive Stop where
  /-- The command line is wrong. -/
  | wrong (error : UsageError)
  /-- Help is asked for. -/
  | help (long : Bool)
  /-- The version is asked for. -/
  | version
deriving DecidableEq, Repr, Inhabited

/-- What has been read of a command line. -/
structure Reading where
  /-- The settings so far. -/
  settings : Settings := {}
  /-- The flags so far, each once. -/
  used : List Flag := []
  /-- A flag that waits for its value, or whose value has not been taken over yet. -/
  pending : Option (Flag × Option String) := none
deriving DecidableEq, Repr, Inhabited

namespace Reading

/-- Takes over the value of a flag.  If this is an error, it may still show which flags have been
used. -/
def store (r : Reading) (flag : Flag) (value : String) : Reading × Option UsageError :=
  if flag ∈ r.used then ({ r with used := r.used.erase flag }, some (.repeated flag))
  else
    let r := { r with used := r.used ++ [flag] }
    match r.settings.assign? flag value with
    | some settings => ({ r with settings }, none)
    | none => (r, some (if value = "" then .missingValue flag else .invalidValue flag value))

/-- Takes over what is pending. -/
def settle (r : Reading) : Reading × Option UsageError :=
  let settled := { r with pending := none }
  match r.pending with
  | none => (settled, none)
  | some (flag, none) => (settled, some (.missingValue flag))
  | some (flag, some value) => settled.store flag value

/-- A reading goes on only without an error. -/
def orStop : Reading × Option UsageError → Except Stop Reading
  | (r, none) => .ok r
  | (_, some e) => .error (.wrong e)

/-- The flags used so far, if an error in what is pending does not matter any more. -/
def usedBefore (r : Reading) : List Flag := r.settle.1.used

/-- Reads a flag that takes no value. -/
def readPlain (r : Reading) (flag : Flag) (long : Bool) : Except Stop Reading := do
  let r ← orStop r.settle
  match flag with
  | .help => throw (.help long)
  | .version => throw .version
  | _ => return { r with settings := r.settings.louder, used := r.used.erase flag ++ [flag] }

/-- Reads a flag that takes a value, which may be attached to it. -/
def readValued (r : Reading) (flag : Flag) (attached : Option String) : Except Stop Reading := do
  let r ← orStop r.settle
  match attached with
  | some value => orStop (r.store flag value)
  | none => return { r with pending := some (flag, none) }

/-- These flags and one more, unless it is among them. -/
def withFlag (used : List Flag) (flag : Flag) : List Flag :=
  if flag ∈ used then used else used ++ [flag]

/-- Reads what stands behind two dashes. -/
def readLong (r : Reading) (body : List Char) : Except Stop Reading :=
  let name := String.ofList (body.takeWhile (· != '='))
  let attached := match body.dropWhile (· != '=') with
    | [] => none
    | _ :: value => some (String.ofList value)
  match Flag.ofLong? name with
  | some flag =>
    if flag.valueName?.isSome then r.readValued flag attached
    else
      match attached with
      | none => r.readPlain flag true
      | some value => .error (.wrong (.unexpectedValue flag value (withFlag r.used flag)))
  | none =>
    let similar := Text.mostSimilar? Flag.long name Flag.all
    let used := similar.toList.foldl withFlag r.usedBefore
    .error (.wrong (.unknownArgument ("--" ++ name) similar used))

/-- Reads the letters behind one dash. -/
def readShort (r : Reading) : List Char → Except Stop Reading
  | [] => .ok r
  | letter :: rest =>
    match Flag.ofShort? letter with
    | none => .error (.wrong (.unknownArgument (String.ofList ['-', letter]) none []))
    | some flag =>
      if flag.valueName?.isSome then
        match rest with
        | [] => r.readValued flag none
        | '=' :: value => r.readValued flag (some (String.ofList value))
        | value => r.readValued flag (some (String.ofList value))
      else do readShort (← r.readPlain flag false) rest

/-- Reads a word that is no flag: a value, if a flag waits for one. -/
def readWord (r : Reading) (word : String) : Except Stop Reading :=
  match r.pending with
  | some (flag, none) => .ok { r with pending := some (flag, some word) }
  | _ => .error (.wrong (.unknownArgument word none []))

/-- Reads one argument. -/
def readArgument (r : Reading) (argument : String) : Except Stop Reading :=
  match argument.toList with
  | '-' :: '-' :: body => r.readLong body
  | ['-'] => r.readWord argument
  | '-' :: letters => r.readShort letters
  | _ => r.readWord argument

/-- Reads all arguments. -/
def readAll (r : Reading) : List String → Except Stop Reading
  | [] => orStop r.settle
  | argument :: rest =>
    if argument = "--" then
      match rest with
      | [] => orStop r.settle
      | word :: _ => .error (.wrong (.unknownArgument word none []))
    else do readAll (← r.readArgument argument) rest

end Reading

/-- The settings of a command line, or what ends its reading. -/
def readArguments (arguments : List String) : Except Stop Settings := do
  return (← Reading.readAll {} arguments).settings

end ConfigCheck.CommandLine
