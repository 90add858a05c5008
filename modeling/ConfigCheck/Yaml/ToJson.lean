import ConfigCheck.Json.Value
import ConfigCheck.Yaml.Node

/-!
# From YAML to JSON

Trees lose their tags and their mappings become objects, so keys become strings: a scalar key is
written as text, null as `null`.  Two things have no counterpart and are refused: numbers that are
not finite, and keys that are collections.  The first of them in the order of the text is
reported.
-/

namespace ConfigCheck.Yaml

/-- Why a tree has no JSON counterpart. -/
inductive ConversionError where
  /-- A number that is not finite. -/
  | notFinite (number : Number)
  /-- A key that is a collection. -/
  | collectionKey (key : Node)
deriving Repr, Inhabited

/-- The text of a conversion error. -/
def ConversionError.message : ConversionError → String
  | .notFinite n => s!"cannot represent number {writeNumber n} in JSON"
  | .collectionKey key => s!"unsupported YAML mapping key: {key.describe}"

/-- Whether JSON has the number: an integer of at most 64 bits, or a finite floating-point
number. -/
def isRepresentable : Number → Bool
  | .int i => -2 ^ 63 ≤ i && i < 2 ^ 64
  | .float x => x.isFinite

namespace Node

/-- The member name that a key becomes. -/
def keyText : Node → Except ConversionError String
  | .string s => .ok s
  | .number n => .ok (writeNumber n)
  | .bool b => .ok (toString b)
  | .null => .ok "null"
  | .tagged _ n => n.keyText
  | .sequence items => .error (.collectionKey (.sequence items))
  | .mapping entries => .error (.collectionKey (.mapping entries))

/-- The JSON number of a number: an integer if it fits into 64 bits with or without a sign, else
the nearest floating-point number, which has to be finite. -/
def finite (n : Number) : Except ConversionError Json :=
  match n.signed?, n.unsigned? with
  | some i, _ => .ok (.number (.int i))
  | none, some i => .ok (.number (.int i))
  | none, none =>
    let x := n.toBinary64
    if x.isFinite then .ok (.number (.float x)) else .error (.notFinite n)

/-- A number that JSON has stays as it is: an integer stays an integer and keeps its value. -/
theorem finite_of_isRepresentable {n : Number} (h : isRepresentable n = true) :
    finite n = .ok (.number n) := by
  cases n with
  | float x =>
    have hx : x.isFinite = true := h
    simp [finite, Number.signed?, Number.unsigned?, Number.toBinary64, hx]
  | int i =>
    obtain ⟨hlow, hhigh⟩ : -2 ^ 63 ≤ i ∧ i < 2 ^ 64 := by
      rw [isRepresentable, Bool.and_eq_true, decide_eq_true_iff, decide_eq_true_iff] at h
      exact h
    by_cases hsigned : i < 2 ^ 63
    · have hs : (Number.int i).signed? = some i := by
        simp only [Number.signed?, hlow, hsigned, decide_true, Bool.and_self, if_true]
      simp only [finite, hs]
    · have hs : (Number.int i).signed? = none := by
        simp only [Number.signed?, hsigned, decide_false, Bool.and_false, Bool.false_eq_true,
          if_false]
      have hnonneg : 0 ≤ i := by omega
      have hu : (Number.int i).unsigned? = some i.toNat := by
        simp only [Number.unsigned?, hnonneg, hhigh, decide_true, Bool.and_self, if_true]
      simp only [finite, hs, hu, Int.toNat_of_nonneg hnonneg]

/-- The JSON value of a tree. -/
def toJson (n : Node) : Except ConversionError Json :=
  match n with
  | .null => .ok .null
  | .bool b => .ok (.bool b)
  | .number n => finite n
  | .string s => .ok (.string s)
  | .sequence items => do return .array (← toJsonItems items)
  | .mapping entries => do return .object (Json.Members.ofList (← toJsonEntries entries))
  | .tagged _ node => node.toJson
where
  /-- The values of items. -/
  toJsonItems : List Node → Except ConversionError (List Json)
    | [] => .ok []
    | n :: rest => do
      let v ← n.toJson
      return v :: (← toJsonItems rest)
  /-- The members of entries, each key before its value. -/
  toJsonEntries : List (Node × Node) → Except ConversionError (List (String × Json))
    | [] => .ok []
    | (k, v) :: rest => do
      let name ← k.keyText
      let v ← v.toJson
      return (name, v) :: (← toJsonEntries rest)

end Node

end ConfigCheck.Yaml
