import ConfigCheck.Json.Value
import Mathlib.Tactic.Lemma

/-!
# Tests on all values inside a value

A test on values, made on a value and on all values nested inside it (`Json.everywhere`).
-/

namespace ConfigCheck.Json

/-- Whether a value and all values inside it pass a test. -/
def everywhere (test : Json → Bool) (value : Json) : Bool :=
  match value with
  | .array items => test (.array items) && everywhereItems items
  | .object members => test (.object members) && everywhereMembers members
  | v => test v
where
  /-- Whether all values in a list pass. -/
  everywhereItems : List Json → Bool
    | [] => true
    | v :: rest => v.everywhere test && everywhereItems rest
  /-- Whether all values in members pass. -/
  everywhereMembers : List (String × Json) → Bool
    | [] => true
    | (_, v) :: rest => v.everywhere test && everywhereMembers rest

section

attribute [local simp] everywhere everywhere.everywhereItems everywhere.everywhereMembers

variable {test : Json → Bool}

lemma everywhereItems_iff {items : List Json} :
    everywhere.everywhereItems test items = true ↔ ∀ v ∈ items, v.everywhere test = true := by
  induction items with
  | nil => simp
  | cons v rest ih => simp [ih]

lemma everywhereMembers_iff {members : Members} :
    everywhere.everywhereMembers test members = true ↔
      ∀ m ∈ members, m.2.everywhere test = true := by
  induction members with
  | nil => simp
  | cons m rest ih =>
    obtain ⟨name, v⟩ := m
    simp [ih]

/-- An array passes everywhere if it passes and its items do everywhere. -/
theorem everywhere_array {items : List Json} :
    (array items).everywhere test = true ↔
      test (array items) = true ∧ ∀ v ∈ items, v.everywhere test = true := by
  rw [everywhere, Bool.and_eq_true, everywhereItems_iff]

/-- An object passes everywhere if it passes and the values of its members do everywhere. -/
theorem everywhere_object {members : Members} :
    (object members).everywhere test = true ↔
      test (object members) = true ∧ ∀ m ∈ members, m.2.everywhere test = true := by
  rw [everywhere, Bool.and_eq_true, everywhereMembers_iff]

/-- A value that passes everywhere passes itself. -/
lemma test_of_everywhere {v : Json} (h : v.everywhere test = true) : test v = true := by
  cases v with
  | array items => exact (everywhere_array.mp h).1
  | object members => exact (everywhere_object.mp h).1
  | _ => exact h

end

end ConfigCheck.Json
