import ConfigCheck.Proofs.Schema.Origin
import ConfigCheck.Schema.Validator

/-!
# Laws of failures

A failure begins as a complaint about one value and is handed outwards: past the schemas around the
rule (`Failure.below`), and out of the members and items around the value (`Failure.inside`,
`Failure.ofName`).  A property of failures that holds of every complaint and is kept on the way out
is a `FailureLaw`; it holds of all failures of a validator (`FailureLaw.of_mem_failures`).

The complaints of rules without schemas are left to the law, which can ask for a condition on
keywords; that the condition holds of every keyword at hand is then asked of the schema.
-/

namespace ConfigCheck.Schema

/-- A property of failures in values that holds of all complaints and is kept on the way out.  The
condition `K` restricts the keywords. -/
structure FailureLaw (K : Keyword → Prop) (P : Json → Failure → Prop) : Prop where
  /-- It holds of the complaint of a schema that allows nothing. -/
  falseSchema : ∀ v, P v ⟨[], [], .falseSchema v⟩
  /-- It holds of the complaints of rules without schemas. -/
  assertion : ∀ {keyword rule v f}, K (.assertion keyword rule) →
    f ∈ rule.failures keyword v → P v f
  /-- It holds of the complaints of keywords with schemas. -/
  own : ∀ {v keyword c}, Complaint.IsOwn v keyword c → P v ⟨[], [keyword], c⟩
  /-- It is kept past the schemas around the rule. -/
  below : ∀ {v f} (tokens), P v f → P v (f.below tokens)
  /-- It is kept out of a member. -/
  member : ∀ {members name w f}, (name, w) ∈ members → P w f →
    P (.object members) (f.inside name)
  /-- It is kept out of an item. -/
  item : ∀ {items : List Json} {i : Nat} {w f}, items[i]? = some w → P w f →
    P (.array items) (f.inside (toString i))
  /-- It is kept from the name of a member to the object. -/
  name : ∀ {members name w f}, (name, w) ∈ members → P (.string name) f →
    P (.object members) f.ofName

/-- All failures of an outcome for a value have a property. -/
def Outcome.Meets (P : Json → Failure → Prop) (v : Json) (o : Outcome) : Prop :=
  ∀ f ∈ o.failures, P v f

namespace FailureLaw

variable {K : Keyword → Prop} {P : Json → Failure → Prop} {follow : Reference → Json → Outcome}
  (law : FailureLaw K P)

include law

/-- What a keyword finds meets the law if the schemas inside it do, and so do the targets of
references. -/
theorem meets_finding {k : Keyword} (hk : K k)
    (hsub : ∀ s ∈ k.subschemas, ∀ w, (evaluate follow s w).Meets P w)
    (hfollow : ∀ r w, (follow r w).Meets P w) (v : Json) (marks : Outcome) :
    ((finding follow k v).settle v marks).Meets P v := by
  intro f hf
  have hplace : ∀ {tokens s}, (tokens, s) ∈ k.places → ∀ w, (evaluate follow s w).Meets P w := by
    intro tokens s hmem
    exact hsub s (Keyword.mem_subschemas_of_mem_places hmem)
  cases Keyword.finds_of_mem hf with
  | rule hf => exact law.assertion hk hf
  | own _ hc => exact law.own hc
  | @branch _ _ tokens s g hmem hg => exact law.below tokens (hplace hmem v g hg)
  | @member _ members name w tokens s g hname hmem hg =>
    exact law.member hname (law.below tokens (hplace hmem w g hg))
  | @item _ items i w tokens s g hitem hmem hg =>
    exact law.item hitem (law.below tokens (hplace hmem w g hg))
  | @name members name w s g hname hg =>
    exact law.name hname (hsub s (List.mem_singleton_self s) (.string name) g hg)
  | @reference keyword r _ g hg => exact law.below [keyword] (hfollow r v g hg)

/-- What a schema finds meets the law if its keywords satisfy the condition and the targets of
references meet the law. -/
theorem meets_evaluate {s : Schema} (hs : ∀ k, Occurs k s → K k)
    (hfollow : ∀ r w, (follow r w).Meets P w) (v : Json) : (evaluate follow s v).Meets P v := by
  induction s using Schema.tree_induction generalizing v with
  | always verdict =>
    cases verdict with
    | true =>
      rw [evaluate]
      exact fun f hf => by cases hf
    | false =>
      rw [evaluate]
      intro f hf
      cases List.mem_singleton.mp hf
      exact law.falseSchema v
  | unusable value =>
    rw [evaluate]
    exact fun f hf => by cases hf
  | keywords list ih =>
    rw [evaluate]
    intro f hf
    rw [Outcome.failures_ofFindings, findings_eq_map] at hf
    obtain ⟨finding, hfinding, hf⟩ := List.mem_flatMap.mp hf
    obtain ⟨k, hk, rfl⟩ := List.mem_map.mp hfinding
    refine law.meets_finding (hs k (.here hk)) (fun t ht w => ?_) hfollow v _ f hf
    exact ih k hk t ht (fun l hl => hs l (.inside hk ht hl)) w

/-- What a schema finds meets the law however many references are followed. -/
theorem meets_outcomeWithin {registry : Registry}
    (hread : ∀ scope contents, ∀ k, Occurs k (ofContents scope contents) → K k) (n : Nat)
    {s : Schema} (hs : ∀ k, Occurs k s → K k) (v : Json) :
    (outcomeWithin registry n s v).Meets P v := by
  induction n generalizing s v with
  | zero =>
    rw [outcomeWithin]
    exact law.meets_evaluate hs (fun r w f hf => by cases hf) v
  | succ n ih =>
    rw [outcomeWithin]
    refine law.meets_evaluate hs (fun r w => ?_) v
    split
    · exact ih (hread _ _) w
    · exact fun f hf => by cases hf

end FailureLaw

/-- A law without a condition on keywords holds of all failures of a validator. -/
theorem FailureLaw.of_mem_failures {P : Json → Failure → Prop}
    (law : FailureLaw (fun _ => True) P) {v : Validator} {document : Json} {f : Failure}
    (hf : f ∈ v.failures document) : P document f :=
  law.meets_outcomeWithin (fun _ _ _ _ => trivial) _ (fun _ _ => trivial) document f hf

end ConfigCheck.Schema
