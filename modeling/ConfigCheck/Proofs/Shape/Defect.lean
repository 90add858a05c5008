import ConfigCheck.Proofs.Schema.Structure
import ConfigCheck.Proofs.Shape.Read
import ConfigCheck.Schema.Defect

/-!
# Shapes without defects

The search for defects passes a list of schemas or of keywords if it passes each of them
(`Schema.searchAll_eq_ok`, `Schema.searchNamed_eq_ok`, `Schema.searchKeywords_eq_ok`).  No keyword
of a shape is unusable, and a shape has no references, so that the search passes it.
-/

namespace ConfigCheck

namespace Schema

variable {visit : Reference → Followed → Except Defect Followed}

/-- The search finds no defect in a schema, and follows no reference. -/
def Passes (visit : Reference → Followed → Except Defect Followed) (s : Schema) : Prop :=
  ∀ seen, searchSchema visit s seen = .ok seen

lemma searchAll_eq_ok {list : List Schema} (h : ∀ s ∈ list, Passes visit s) (seen : Followed) :
    searchAll visit list seen = .ok seen := by
  induction list with
  | nil => rw [searchAll]
  | cons s rest ih =>
    rw [List.forall_mem_cons] at h
    rw [searchAll, h.1 seen]
    exact ih h.2

lemma searchNamed_eq_ok {list : List (String × Schema)}
    (h : ∀ s ∈ list.map (·.2), Passes visit s) (seen : Followed) :
    searchNamed visit list seen = .ok seen := by
  induction list with
  | nil => rw [searchNamed]
  | cons m rest ih =>
    rw [List.map_cons, List.forall_mem_cons] at h
    rw [searchNamed, h.1 seen]
    exact ih h.2

lemma searchKeywords_eq_ok {list : List Keyword}
    (h : ∀ k ∈ list, ∀ seen, searchKeyword visit k seen = .ok seen) (seen : Followed) :
    searchKeywords visit list seen = .ok seen := by
  induction list with
  | nil => rw [searchKeywords]
  | cons k rest ih =>
    rw [List.forall_mem_cons] at h
    rw [searchKeywords, h.1 seen]
    exact ih h.2

/-- The search of keywords is that of the schema if none is for what the others have not looked
at. -/
lemma searchSchema_eq_ok {list : List Keyword} {seen after : Followed}
    (hsearch : searchKeywords visit list seen = .ok after) (hrest : hasRest list = false) :
    searchSchema visit (.keywords list) seen = .ok after := by
  rw [searchSchema, hsearch]
  dsimp only
  rw [hrest, if_neg Bool.false_ne_true]

/-- Keywords pass if each of them does and none is for what the others have not looked at. -/
theorem passes_keywords {list : List Keyword}
    (h : ∀ k ∈ list, ∀ seen, searchKeyword visit k seen = .ok seen)
    (hrest : hasRest list = false) : Passes visit (.keywords list) := by
  intro seen
  exact searchSchema_eq_ok (searchKeywords_eq_ok h seen) hrest

/-- A schema has no defect if the search comes to its end. -/
theorem firstDefect?_eq_none {registry : Registry} {references : Nat} {s : Schema} {seen : Followed}
    (h : searchSchema (visitReference registry references) s [] = .ok seen) :
    firstDefect? registry references s = none := by
  unfold firstDefect?
  rw [h]

end Schema

variable {visit : Schema.Reference → Schema.Followed → Except Schema.Defect Schema.Followed}

/-- The search passes the keyword of a clause if it passes the shapes inside it. -/
lemma Clause.searchKeyword_eq_ok {k : Clause}
    (h : ∀ s ∈ k.shapes, Schema.Passes visit s.toSchema) (seen : Schema.Followed) :
    Schema.searchKeyword visit k.toKeyword seen = .ok seen := by
  have hlist : ∀ list : List Shape, (∀ s ∈ list, Schema.Passes visit s.toSchema) →
      ∀ t ∈ Shape.schemasOf list, Schema.Passes visit t := by
    intro list hlist
    rw [Shape.schemasOf_eq_map, List.forall_mem_map]
    exact hlist
  cases k with
  | type t => rw [toKeyword, Schema.searchKeyword]
  | types list =>
    obtain ⟨rule, hrule⟩ := exists_toKeyword_types list
    rw [hrule, Schema.searchKeyword]
  | required names => rw [toKeyword, Schema.searchKeyword]
  | properties list =>
    rw [toKeyword, Schema.searchKeyword]
    refine Schema.searchNamed_eq_ok ?_ seen
    rw [Shape.namedSchemasOf_eq_map, List.map_map, List.forall_mem_map]
    exact fun m hm => h m.2 (List.mem_map_of_mem hm)
  | items s | not s =>
    rw [toKeyword, Schema.searchKeyword]
    exact h s (List.mem_singleton_self s) seen
  | allOf branches | anyOf branches | oneOf branches =>
    rw [toKeyword, Schema.searchKeyword]
    exact Schema.searchAll_eq_ok (hlist branches h) seen

/-- The search for defects passes the schema of a shape. -/
theorem Shape.passes_toSchema {s : Shape} (hs : s.WellFormed) :
    Schema.Passes visit s.toSchema := by
  induction hs with
  | always verdict =>
    intro seen
    rw [toSchema, Schema.searchSchema]
  | @clauses list _ _ _ ih =>
    rw [toSchema, keywordsOf_eq_map]
    refine Schema.passes_keywords ?_ ?_
    · rw [List.forall_mem_map]
      exact fun k hk => Clause.searchKeyword_eq_ok (ih k hk)
    · unfold Schema.hasRest
      rw [List.any_map, List.any_eq_false]
      intro k _
      cases k with
      | types list =>
        obtain ⟨rule, hrule⟩ := Clause.exists_toKeyword_types list
        simp [hrule]
      | _ => simp [Clause.toKeyword]

end ConfigCheck
