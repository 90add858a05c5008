import ConfigCheck.Proofs.Schema.Structure
import Mathlib.Data.Int.Notation
import Mathlib.Logic.ExistsUnique

/-!
# Shapes

A shape says what a value looks like: it allows all values or none, or it has clauses that must all
hold.  The clauses are about the type of a value, about its members and items, and about whether
other shapes fit (`Clause`).  When a value fits a shape is defined on the shape alone
(`Shape.Fits`), with no evaluation, outcome or failure in it.

A shape is written as a schema (`Shape.toJson`): one member for each clause, under the keyword of
the clause.
-/

namespace ConfigCheck

open Schema (ValueType)

/-! ## Types -/

/-- A number has an integer for its value, however it is written. -/
def Number.IsInteger : Number → Prop
  | .int _ => True
  | .float x => x.isFinite = true ∧ ∃ k : ℤ, x.signedUnits = k * 2 ^ 1074

/-- A value is of a type. -/
def Schema.ValueType.Includes : ValueType → Json → Prop
  | .array, v => ∃ items, v = .array items
  | .boolean, v => ∃ b, v = .bool b
  | .integer, v => ∃ n : Number, v = .number n ∧ n.IsInteger
  | .null, v => v = .null
  | .number, v => ∃ n, v = .number n
  | .object, v => ∃ members, v = .object members
  | .string, v => ∃ s, v = .string s

/-! ## Shapes and clauses -/

mutual

/-- What a value looks like. -/
inductive Shape where
  /-- Allows all values or none. -/
  | always (verdict : Bool)
  /-- All clauses hold. -/
  | clauses (list : List Clause)

/-- A demand on a value. -/
inductive Clause where
  /-- The value is of the type. -/
  | type (t : ValueType)
  /-- The value is of one of the types. -/
  | types (list : List ValueType)
  /-- An object has the members. -/
  | required (names : List String)
  /-- Those members of an object that are listed fit their shapes. -/
  | properties (list : List (String × Shape))
  /-- The items of a list fit the shape. -/
  | items (s : Shape)
  /-- All shapes fit. -/
  | allOf (branches : List Shape)
  /-- At least one shape fits. -/
  | anyOf (branches : List Shape)
  /-- Exactly one shape fits. -/
  | oneOf (branches : List Shape)
  /-- The shape does not fit. -/
  | not (s : Shape)

end

namespace Clause

/-- The keyword of a clause. -/
def keyword : Clause → String
  | type _ | types _ => "type"
  | required _ => "required"
  | properties _ => "properties"
  | items _ => "items"
  | allOf _ => "allOf"
  | anyOf _ => "anyOf"
  | oneOf _ => "oneOf"
  | not _ => "not"

/-- The keywords of clauses. -/
def keywords : List String :=
  ["allOf", "anyOf", "items", "not", "oneOf", "properties", "required", "type"]

lemma keyword_mem_keywords (k : Clause) : k.keyword ∈ keywords := by
  cases k <;> simp [keyword, keywords]

/-- The shapes directly inside a clause. -/
def shapes : Clause → List Shape
  | type _ | types _ | required _ => []
  | properties list => list.map (·.2)
  | items s | not s => [s]
  | allOf branches | anyOf branches | oneOf branches => branches

/-- A clause can be used, whatever the shapes inside it are: lists of branches and of types are not
empty, and no type or name comes twice. -/
def IsProper : Clause → Prop
  | type _ | items _ | not _ => True
  | types list => list ≠ [] ∧ list.Nodup
  | required names => names.Nodup
  | properties list => (list.map Prod.fst).Nodup
  | allOf branches | anyOf branches | oneOf branches => branches ≠ []

end Clause

/-- A shape can be used: at any depth, its clauses can be used and no keyword comes twice. -/
inductive Shape.WellFormed : Shape → Prop where
  /-- A verdict can be used. -/
  | always (verdict : Bool) : WellFormed (.always verdict)
  /-- Clauses can be used if those inside them can. -/
  | clauses {list : List Clause} : (list.map Clause.keyword).Nodup → (∀ k ∈ list, k.IsProper) →
    (∀ k ∈ list, ∀ s ∈ k.shapes, WellFormed s) → WellFormed (.clauses list)

/-- The shape that is just a type can be used. -/
lemma Shape.WellFormed.type (t : ValueType) : (Shape.clauses [.type t]).WellFormed := by
  refine .clauses (by simp) (fun k hk => ?_) fun k hk s hs => ?_
  · cases List.mem_singleton.mp hk
    exact trivial
  · cases List.mem_singleton.mp hk
    cases hs

/-! ## When a value fits -/

mutual

/-- A value fits a shape. -/
def Shape.Fits : Shape → Json → Prop
  | .always verdict, _ => verdict = true
  | .clauses list, v => ∀ k ∈ list, k.Holds v
termination_by s => sizeOf s

/-- A clause holds of a value. -/
def Clause.Holds : Clause → Json → Prop
  | .type t, v => t.Includes v
  | .types list, v => ∃ t ∈ list, t.Includes v
  | .required names, v => ∀ members, v = .object members →
    ∀ name ∈ names, name ∈ members.map Prod.fst
  | .properties list, v => ∀ m ∈ list, ∀ w, v.get? m.1 = some w → m.2.Fits w
  | .items s, v => ∀ list, v = .array list → ∀ w ∈ list, s.Fits w
  | .allOf branches, v => ∀ s ∈ branches, s.Fits v
  | .anyOf branches, v => ∃ s, ∃ _ : s ∈ branches, s.Fits v
  | .oneOf branches, v => ∃! i : Fin branches.length, branches[i].Fits v
  | .not s, v => ¬ s.Fits v
termination_by k => sizeOf k
decreasing_by
  any_goals decreasing_tactic
  · have hlt := Schema.sizeOf_lt_of_mem_map_snd (List.mem_map.mpr ⟨m, ‹m ∈ list›, rfl⟩)
    rw [Clause.properties.sizeOf_spec]
    omega
  · have hlt := List.sizeOf_lt_of_mem (List.getElem_mem i.isLt)
    rw [Clause.oneOf.sizeOf_spec]
    change sizeOf branches[i.val] < 1 + sizeOf branches
    omega

end

/-! ## Shapes as schemas -/

mutual

/-- The schema that is written for a shape. -/
def Shape.toJson : Shape → Json
  | .always verdict => .bool verdict
  | .clauses list => .object (Shape.membersOf list)

/-- The value under the keyword of a clause. -/
def Clause.toJson : Clause → Json
  | .type t => .string t.name
  | .types list => .array (list.map fun t => .string t.name)
  | .required names => .array (names.map .string)
  | .properties list => .object (Shape.namedOf list)
  | .items s | .not s => s.toJson
  | .allOf branches | .anyOf branches | .oneOf branches => .array (Shape.listOf branches)

/-- The members that are written for clauses. -/
def Shape.membersOf : List Clause → Json.Members
  | [] => []
  | k :: rest => (k.keyword, k.toJson) :: Shape.membersOf rest

/-- The schemas that are written for named shapes. -/
def Shape.namedOf : List (String × Shape) → Json.Members
  | [] => []
  | (name, s) :: rest => (name, s.toJson) :: Shape.namedOf rest

/-- The schemas that are written for a list of shapes. -/
def Shape.listOf : List Shape → List Json
  | [] => []
  | s :: rest => s.toJson :: Shape.listOf rest

end

namespace Shape

lemma membersOf_eq_map (list : List Clause) :
    membersOf list = list.map fun k => (k.keyword, k.toJson) := by
  induction list with
  | nil => rw [membersOf, List.map_nil]
  | cons k rest ih => rw [membersOf, List.map_cons, ih]

lemma namedOf_eq_map (list : List (String × Shape)) :
    namedOf list = list.map fun m => (m.1, m.2.toJson) := by
  induction list with
  | nil => rw [namedOf, List.map_nil]
  | cons m rest ih => rw [namedOf, List.map_cons, ih]

lemma listOf_eq_map (list : List Shape) : listOf list = list.map toJson := by
  induction list with
  | nil => rw [listOf, List.map_nil]
  | cons s rest ih => rw [listOf, List.map_cons, ih]

end Shape

end ConfigCheck
