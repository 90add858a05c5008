import ConfigCheck.Proofs.Schema.Admits
import ConfigCheck.Proofs.Shape.Read

/-!
# Verdicts on shapes

The schema that a shape is read into admits a value exactly if the value fits the shape
(`Shape.admits_toSchema_iff`).  This holds wherever references lead, since a shape has none.
-/

namespace ConfigCheck

open Schema (ValueType Outcome Assertion)

/-! ## Types -/

/-- A magnitude is a multiple of a power of two if the number is one. -/
lemma Binary64.units_mod_eq_zero_iff (x : Binary64) (n : ℕ) :
    x.units % 2 ^ n = 0 ↔ ∃ k : ℤ, x.signedUnits = k * 2 ^ n := by
  have hcast : ((2 ^ n : ℕ) : ℤ) = (2 : ℤ) ^ n := Int.natCast_pow 2 n
  have hdvd : x.units % 2 ^ n = 0 ↔ (2 : ℤ) ^ n ∣ x.signedUnits := by
    unfold signedUnits
    split
    · rw [Int.dvd_neg, ← hcast, Int.natCast_dvd_natCast, Nat.dvd_iff_mod_eq_zero]
    · rw [← hcast, Int.natCast_dvd_natCast, Nat.dvd_iff_mod_eq_zero]
  rw [hdvd]
  constructor
  · rintro ⟨k, hk⟩
    exact ⟨k, by rw [hk, Int.mul_comm]⟩
  · rintro ⟨k, hk⟩
    exact ⟨k, by rw [hk, Int.mul_comm]⟩

/-- A number is taken for an integer if its value is one. -/
lemma Number.isIntegral_iff {n : Number} : n.isIntegral = true ↔ n.IsInteger := by
  cases n with
  | int i => exact ⟨fun _ => trivial, fun _ => rfl⟩
  | float x =>
    unfold isIntegral Binary64.isIntegral IsInteger
    rw [Bool.and_eq_true, beq_iff_eq]
    exact and_congr_right fun _ => x.units_mod_eq_zero_iff 1074

/-- A value is accepted as being of a type if it is. -/
lemma Schema.ValueType.accepts_iff {t : ValueType} {v : Json} :
    t.accepts false v = true ↔ t.Includes v := by
  cases t with
  | integer =>
    unfold Includes
    cases v with
    | number n =>
      have haccepts : integer.accepts false (.number n) = n.isIntegral := by
        cases n <;> rfl
      rw [haccepts, Number.isIntegral_iff]
      constructor
      · intro h
        exact ⟨n, rfl, h⟩
      · rintro ⟨m, hm, h⟩
        cases hm
        exact h
    | _ => simp [accepts]
  | _ => cases v <;> simp [accepts, Includes]

/-! ## Clauses -/

variable {follow : Schema.Reference → Json → Outcome} {marks : Outcome} {v : Json}

namespace Clause

/-- Several types in any order are the same demand as in the order of all types. -/
lemma failures_types_eq_nil_iff {list : List ValueType} :
    (Assertion.types false (ValueType.all.filter (· ∈ list))).failures "type" v = [] ↔
      ∃ t ∈ list, t.Includes v := by
  have hall : ∀ t, t ∈ ValueType.all := by
    intro t
    cases t <;> decide
  rw [Assertion.failures_types_eq_nil_iff]
  refine exists_congr fun t => ?_
  rw [List.mem_filter, decide_eq_true_iff, ValueType.accepts_iff, and_iff_right (hall t)]

/-- The keyword of a clause admits a value exactly if the clause holds, once that is known of the
shapes inside it. -/
theorem admits_toKeyword_iff {k : Clause}
    (hshapes : ∀ s ∈ k.shapes, ∀ w, Schema.Admits follow s.toSchema w ↔ s.Fits w) :
    k.toKeyword.Admits follow marks v ↔ k.Holds v := by
  cases k with
  | type t =>
    rw [toKeyword, Schema.Keyword.admits_assertion, Assertion.failures_type_eq_nil_iff, Holds,
      ValueType.accepts_iff]
  | types list =>
    rw [Holds]
    rcases list with _ | ⟨t, _ | ⟨u, rest⟩⟩
    · exact Schema.Keyword.admits_assertion.trans failures_types_eq_nil_iff
    · rw [toKeyword, Schema.Keyword.admits_assertion, Assertion.failures_type_eq_nil_iff,
        ValueType.accepts_iff]
      simp
    · exact Schema.Keyword.admits_assertion.trans failures_types_eq_nil_iff
  | required names =>
    rw [toKeyword, Schema.Keyword.admits_assertion, Assertion.failures_required_eq_nil_iff, Holds]
  | properties list =>
    rw [toKeyword, Schema.Keyword.admits_properties, Shape.namedSchemasOf_eq_map,
      List.forall_mem_map, Holds]
    exact forall₂_congr fun m hm => forall₂_congr fun w _ =>
      hshapes m.2 (List.mem_map_of_mem hm) w
  | items s =>
    have hs := hshapes s (List.mem_singleton_self s)
    rw [toKeyword, Schema.Keyword.admits_items, Holds]
    exact forall₂_congr fun list _ => forall₂_congr fun w _ => hs w
  | allOf branches =>
    rw [toKeyword, Schema.Keyword.admits_allOf, Shape.schemasOf_eq_map, List.forall_mem_map, Holds]
    exact forall₂_congr fun s hs => hshapes s hs v
  | anyOf branches =>
    rw [toKeyword, Schema.Keyword.admits_anyOf, Shape.schemasOf_eq_map, Holds]
    constructor
    · rintro ⟨t, ht, hadmits⟩
      obtain ⟨s, hs, rfl⟩ := List.mem_map.mp ht
      exact ⟨s, hs, (hshapes s hs v).mp hadmits⟩
    · rintro ⟨s, hs, hfits⟩
      exact ⟨s.toSchema, List.mem_map_of_mem hs, (hshapes s hs v).mpr hfits⟩
  | oneOf branches =>
    rw [toKeyword, Schema.Keyword.admits_oneOf, Shape.schemasOf_eq_map,
      Schema.existsUnique_map_iff Shape.toSchema (Schema.Admits follow · v), Holds]
    exact existsUnique_congr fun i => hshapes branches[i] (List.getElem_mem i.isLt) v
  | not s =>
    rw [toKeyword, Schema.Keyword.admits_not, Holds, hshapes s (List.mem_singleton_self s)]

end Clause

/-- The schema that a shape is read into admits a value exactly if the value fits. -/
theorem Shape.admits_toSchema_iff {s : Shape} (hs : s.WellFormed) (v : Json) :
    Schema.Admits follow s.toSchema v ↔ s.Fits v := by
  induction hs generalizing v with
  | always verdict => rw [toSchema, Fits, Schema.admits_always]
  | @clauses list _ _ _ ih =>
    rw [toSchema, Fits, Schema.admits_keywords, keywordsOf_eq_map, List.forall_mem_map]
    exact forall₂_congr fun k hk => Clause.admits_toKeyword_iff (ih k hk)

end ConfigCheck
