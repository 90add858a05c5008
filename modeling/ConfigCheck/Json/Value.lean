import ConfigCheck.Decimal.Number

/-!
# JSON values

The value type that every document and every schema is read into.  The members of an object are a
list in ascending order of their names with no name twice; `Members.insert` keeps that order and
lets a later member replace an earlier one with the same name.

Code points in ascending order are also UTF-8 bytes in ascending order, so the order of `String`
is the order of the written text.
-/

namespace ConfigCheck

/-- A JSON value. -/
inductive Json where
  /-- The value `null`. -/
  | null
  /-- `true` or `false`. -/
  | bool (value : Bool)
  /-- A number; a floating-point one is finite. -/
  | number (value : Number)
  /-- A string. -/
  | string (value : String)
  /-- A list of values. -/
  | array (items : List Json)
  /-- Members in ascending order of their names. -/
  | object (members : List (String × Json))
deriving Repr, Inhabited, BEq

namespace Json

/-- The names and values of an object. -/
abbrev Members := List (String × Json)

namespace Members

/-- Puts a member in its place; it replaces one of the same name. -/
def insert (members : Members) (name : String) (value : Json) : Members :=
  match members with
  | [] => [(name, value)]
  | (n, v) :: rest =>
    if name < n then (name, value) :: (n, v) :: rest
    else if name = n then (name, value) :: rest
    else (n, v) :: Members.insert rest name value

/-- Collects members in the order in which they come; the last one of a name stays. -/
def ofList (entries : List (String × Json)) : Members :=
  entries.foldl (fun members (name, value) => members.insert name value) []

/-- The value of a member. -/
def get? (members : Members) (name : String) : Option Json := members.lookup name

/-- Whether there is a member of that name. -/
def has (members : Members) (name : String) : Bool := (members.lookup name).isSome

@[simp] theorem get?_nil (name : String) : get? [] name = none := rfl

@[simp] theorem ofList_nil : ofList [] = [] := rfl

/-- The value that was put in is found. -/
@[simp] theorem get?_insert_self (members : Members) (name : String) (value : Json) :
    (members.insert name value).get? name = some value := by
  induction members with
  | nil => simp [insert, get?]
  | cons m rest ih =>
    obtain ⟨n, v⟩ := m
    simp only [insert]
    split
    · simp [get?]
    · split
      · simp [get?]
      · rename_i hne
        simpa [get?, List.lookup_cons, beq_false_of_ne hne] using ih

end Members

/-- The member of an object; other values have none. -/
def get? (value : Json) (name : String) : Option Json :=
  match value with
  | .object members => Members.get? members name
  | _ => none

/-- The members of an object; other values have none. -/
def members : Json → Members
  | .object members => members
  | _ => []

/-- The text of a string; other values have none. -/
def text? : Json → Option String
  | .string s => some s
  | _ => none

/-- The number of values nested inside each other, zero for a value that holds no other. -/
def depth (value : Json) : Nat :=
  match value with
  | .array items => depthItems items + 1
  | .object members => depthMembers members + 1
  | _ => 0
where
  /-- The depth of the deepest item. -/
  depthItems : List Json → Nat
    | [] => 0
    | v :: rest => max v.depth (depthItems rest)
  /-- The depth of the deepest member. -/
  depthMembers : List (String × Json) → Nat
    | [] => 0
    | (_, v) :: rest => max v.depth (depthMembers rest)

end Json

end ConfigCheck
