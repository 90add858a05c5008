import ConfigCheck.Report.Violation

/-!
# Diagnostics

A diagnostic is a violation as users see it: a location that starts at `$` and has a dot before
each segment, and a message of one line that begins with the location in quotes and ends in one
full stop.  Segments are joined as they are, so a name that contains a dot looks like two.
-/

namespace ConfigCheck

/-- The location of a node: `$`, then a dot and the text of each segment. -/
def renderLocation (path : List Json.Segment) : String :=
  path.foldl (fun s segment => s ++ "." ++ segment.text) "$"

/-- A violation as it is reported. -/
structure Diagnostic where
  /-- The rendered location. -/
  path : String
  /-- The same location, as segments. -/
  segments : List Json.Segment
  /-- The category of the violation. -/
  category : Category
  /-- The message of one line. -/
  message : String
  /-- The name of the missing property, if that is what is wrong. -/
  missingProperty : Option String
deriving DecidableEq, Repr, Inhabited

namespace Violation

/-- The place that the violation is about; a missing property counts as a segment. -/
def segments (v : Violation) : List Json.Segment :=
  v.instancePath ++ (v.missingProperty.map Json.Segment.key).toList

/-- The rendered location of the violation. -/
def location (v : Violation) : String := renderLocation v.segments

/-- The segments that are reported: those of the instance, and behind them the name of a missing
property. -/
def reportedSegments (v : Violation) : List Json.Segment :=
  match v.missingProperty with
  | some name => v.instancePath.concat (.key name)
  | none => v.instancePath

/-- The reported segments are those of the place that the violation is about. -/
theorem reportedSegments_eq (v : Violation) : v.reportedSegments = v.segments := by
  unfold reportedSegments segments
  cases v.missingProperty <;> simp

/-- A text without full stops at its end. -/
def dropStops (s : String) : String :=
  String.ofList (s.toList.reverse.dropWhile (· == '.')).reverse

/-- The message of one line. -/
def line (v : Violation) : String :=
  if v.missingProperty.isSome then s!"\"{v.location}\" is missing."
  else s!"\"{v.location}\" {dropStops v.message}."

/-- The violation as it is reported. -/
def toDiagnostic (v : Violation) : Diagnostic where
  path := v.location
  segments := v.reportedSegments
  category := v.category
  message := v.line
  missingProperty := v.missingProperty

end Violation

/-- All violations as they are reported, in order. -/
def diagnostics (vs : List Violation) : List Diagnostic := vs.map Violation.toDiagnostic

namespace Diagnostic

/-- The members of an absent or present text. -/
def optionalMember (name : String) : Option String → List (String × Json)
  | none => []
  | some value => [(name, .string value)]

/-- The diagnostic in a report. -/
def toJson (d : Diagnostic) : Json :=
  .object <|
    [("path", .string d.path),
     ("segments", .array (d.segments.map Json.Segment.toJson)),
     ("kind", .string d.category.name),
     ("message", .string d.message)] ++
    optionalMember "missing_property" d.missingProperty

end Diagnostic

end ConfigCheck
