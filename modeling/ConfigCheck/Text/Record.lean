import ConfigCheck.Text.Quoted

/-!
# Records on one line

A record is written as its name and, in braces, its fields; a list as its items in brackets.  Log
lines show errors in this way.
-/

namespace ConfigCheck.Text

/-- A field of a record. -/
def field (name value : String) : String := name ++ ": " ++ value

/-- A record. -/
def record (name : String) (fields : List (String × String)) : String :=
  name ++ " \x7b " ++ ", ".intercalate (fields.map fun (n, v) => field n v) ++ " \x7d"

/-- A record that has more fields than are shown. -/
def openRecord (name : String) (fields : List (String × String)) : String :=
  name ++ " \x7b " ++ ", ".intercalate (fields.map (fun (n, v) => field n v) ++ [".."]) ++ " \x7d"

/-- A list. -/
def list (items : List String) : String := "[" ++ ", ".intercalate items ++ "]"

/-- A value inside a named wrapper. -/
def wrap (name value : String) : String := name ++ "(" ++ value ++ ")"

end ConfigCheck.Text
