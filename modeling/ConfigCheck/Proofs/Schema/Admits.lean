import ConfigCheck.Proofs.Schema.Outcome
import ConfigCheck.Proofs.Schema.Structure
import Mathlib.Data.Fin.Basic
import Mathlib.Data.Fin.Tuple.Basic

/-!
# What schemas admit

A schema admits a value if it has nothing against it (`Admits`), and it does if all of its keywords
do (`admits_keywords`).  When a keyword with schemas inside it admits a value depends only on what
these admit: a list of failures becomes a truth value here, and each connective becomes the one it
stands for (`Keyword.admits_allOf`, `Keyword.admits_oneOf` and their like).
-/

namespace ConfigCheck.Schema

/-- A schema has nothing against a value. -/
def Admits (follow : Reference → Json → Outcome) (s : Schema) (v : Json) : Prop :=
  (evaluate follow s v).failures = []

/-- A keyword has nothing against a value, of which `marks` counts as looked at. -/
def Keyword.Admits (follow : Reference → Json → Outcome) (marks : Outcome) (k : Keyword)
    (v : Json) : Prop :=
  ((finding follow k v).settle v marks).failures = []

variable {follow : Reference → Json → Outcome} {marks : Outcome} {v : Json}

lemma isValid_iff_admits {s : Schema} :
    (evaluate follow s v).isValid = true ↔ Admits follow s v :=
  Outcome.isValid_iff

lemma admits_always {verdict : Bool} : Admits follow (.always verdict) v ↔ verdict = true := by
  unfold Admits
  cases verdict <;> simp [evaluate]

/-- A schema admits a value exactly if all of its keywords do. -/
theorem admits_keywords {list : List Keyword} :
    Admits follow (.keywords list) v ↔
      ∀ k ∈ list,
        k.Admits follow (Outcome.join ((findings follow list v).map Finding.outcome)) v := by
  unfold Admits Keyword.Admits
  rw [evaluate, Outcome.failures_ofFindings, List.flatMap_eq_nil_iff, findings_eq_map,
    List.forall_mem_map]

/-! ## Choices of positions -/

/-- None of several verdicts holds exactly if no position has one. -/
lemma count_true_eq_zero_iff {α : Type} (p : α → Bool) (list : List α) :
    (list.map p).count true = 0 ↔ ∀ i : Fin list.length, p list[i] = false := by
  rw [List.count_eq_zero, List.mem_map]
  constructor
  · intro h i
    by_contra hp
    exact h ⟨list[i], List.getElem_mem i.isLt, by simpa using hp⟩
  · rintro h ⟨a, ha, hp⟩
    obtain ⟨n, hn, rfl⟩ := List.mem_iff_getElem.mp ha
    have hfalse : p list[n] = false := h ⟨n, hn⟩
    exact absurd (hfalse.symm.trans hp) Bool.false_ne_true

/-- One of several verdicts holds exactly if one position has it. -/
lemma count_true_eq_one_iff {α : Type} (p : α → Bool) (list : List α) :
    (list.map p).count true = 1 ↔ ∃! i : Fin list.length, p list[i] = true := by
  induction list with
  | nil =>
    constructor
    · intro h
      cases h
    · rintro ⟨i, -⟩
      exact i.elim0
  | cons a rest ih =>
    rw [List.map_cons]
    cases hp : p a with
    | true =>
      rw [List.count_cons_self, Nat.add_eq_right, count_true_eq_zero_iff]
      constructor
      · intro h
        refine ⟨0, hp, ?_⟩
        intro i hi
        cases i using Fin.cases with
        | zero => rfl
        | succ i =>
          have hfalse : p rest[i] = false := h i
          exact absurd (hfalse.symm.trans hi) Bool.false_ne_true
      · rintro ⟨j, -, hj⟩ i
        by_contra hi
        have hzero := hj 0 hp
        have hsucc := hj i.succ (by simpa using hi)
        exact Fin.succ_ne_zero i (hsucc.trans hzero.symm)
    | false =>
      rw [List.count_cons_of_ne Bool.false_ne_true, ih]
      constructor
      · rintro ⟨i, hi, hunique⟩
        refine ⟨i.succ, hi, ?_⟩
        intro j hj
        cases j using Fin.cases with
        | zero => exact absurd (hp.symm.trans hj) Bool.false_ne_true
        | succ j => rw [hunique j hj]
      · rintro ⟨i, hi, hunique⟩
        cases i using Fin.cases with
        | zero => exact absurd (hp.symm.trans hi) Bool.false_ne_true
        | succ i => exact ⟨i, hi, fun j hj => Fin.succ_injective _ (hunique j.succ hj)⟩

/-- One position of a list has a property exactly if one position does of the list that it is made
from. -/
lemma existsUnique_map_iff {α β : Type} (f : α → β) (p : β → Prop) (list : List α) :
    (∃! i : Fin (list.map f).length, p (list.map f)[i]) ↔
      ∃! i : Fin list.length, p (f list[i]) := by
  have hlength : (list.map f).length = list.length := List.length_map f
  have hget : ∀ i : Fin (list.map f).length,
      (list.map f)[i] = f list[i.cast hlength] := fun i => List.getElem_map f
  simp only [hget]
  constructor
  · rintro ⟨i, hi, hunique⟩
    refine ⟨i.cast hlength, hi, fun j hj => ?_⟩
    rw [← hunique (j.cast hlength.symm) hj]
    rfl
  · rintro ⟨i, hi, hunique⟩
    refine ⟨i.cast hlength.symm, hi, fun j hj => ?_⟩
    rw [← hunique (j.cast hlength) hj]
    rfl

/-! ## Keywords -/

namespace Keyword

lemma admits_assertion {keyword : String} {rule : Assertion} :
    (assertion keyword rule).Admits follow marks v ↔ rule.failures keyword v = [] := by
  unfold Keyword.Admits
  rw [finding]
  rfl

lemma admits_allOf {branches : List Schema} :
    (allOf branches).Admits follow marks v ↔ ∀ s ∈ branches, Schema.Admits follow s v := by
  unfold Keyword.Admits
  rw [finding, Finding.failures_settle_settled, Outcome.failures_allOf_eq_nil_iff,
    branchesOf_eq_map, List.forall_mem_map]
  rfl

lemma admits_anyOf {branches : List Schema} :
    (anyOf branches).Admits follow marks v ↔ ∃ s ∈ branches, Schema.Admits follow s v := by
  have hany : ((branchesOf follow branches v).any fun b => b.outcome.isValid) = true ↔
      ∃ s ∈ branches, Schema.Admits follow s v := by
    rw [branchesOf_eq_map, List.any_map, List.any_eq_true]
    exact exists_congr fun s => and_congr_right fun _ => isValid_iff_admits
  unfold Keyword.Admits
  rw [finding, Finding.failures_settle_settled, ← hany]
  change (Outcome.demand _ "anyOf" (.anyOf v)).failures = [] ↔ _
  rw [Outcome.failures_demand, ite_eq_left_iff]
  simp

lemma admits_oneOf {branches : List Schema} :
    (oneOf branches).Admits follow marks v ↔
      ∃! i : Fin branches.length, Schema.Admits follow branches[i] v := by
  unfold Keyword.Admits
  rw [finding, Finding.failures_settle_settled, Outcome.failures_oneOf_eq_nil_iff,
    branchesOf_eq_map, List.map_map]
  refine (count_true_eq_one_iff _ branches).trans (existsUnique_congr fun i => ?_)
  exact isValid_iff_admits

lemma admits_not {source : Json} {s : Schema} :
    (Keyword.not source s).Admits follow marks v ↔ ¬ Schema.Admits follow s v := by
  unfold Keyword.Admits
  rw [finding, Finding.failures_settle_settled, Outcome.failures_demand, ite_eq_left_iff,
    ← isValid_iff_admits]
  simp

/-- A member has no failures, seen from the object, exactly if it has none itself. -/
lemma failures_memberOutcome_eq_nil_iff {name : String} {s : Schema} {w : Json} :
    (memberOutcome follow name s w).2.failures = [] ↔ Schema.Admits follow s w := by
  unfold memberOutcome Outcome.ofMember
  rw [Outcome.failures_inside, Outcome.failures_below, List.map_eq_nil_iff, List.map_eq_nil_iff]
  rfl

lemma get?_members (v : Json) (name : String) :
    Json.Members.get? v.members name = v.get? name := by
  cases v <;> rfl

lemma admits_properties {list : List (String × Schema)} :
    (properties list).Admits follow marks v ↔
      ∀ m ∈ list, ∀ w, v.get? m.1 = some w → Schema.Admits follow m.2 w := by
  unfold Keyword.Admits
  rw [finding, Finding.failures_settle_settled, Outcome.failures_ofMembers, ofNames_eq_filterMap,
    List.flatMap_eq_nil_iff]
  constructor
  · intro h m hm w hw
    have hget : (Json.Members.get? v.members m.1).map (memberOutcome follow m.1 m.2) =
        some (memberOutcome follow m.1 m.2 w) := by
      rw [get?_members, hw, Option.map_some]
    exact failures_memberOutcome_eq_nil_iff.mp (h _ (List.mem_filterMap.mpr ⟨m, hm, hget⟩))
  · intro h o ho
    obtain ⟨m, hm, ho⟩ := List.mem_filterMap.mp ho
    obtain ⟨w, hw, rfl⟩ := Option.map_eq_some_iff.mp ho
    rw [get?_members] at hw
    exact failures_memberOutcome_eq_nil_iff.mpr (h m hm w hw)

lemma admits_items {keyword : String} {s : Schema} :
    (items keyword 0 s).Admits follow marks v ↔
      ∀ list, v = .array list → ∀ w ∈ list, Schema.Admits follow s w := by
  have hitem : ∀ p : ℕ × Json, (((evaluate follow s p.2).below [keyword]).inside
      (toString p.1)).failures = [] ↔ Schema.Admits follow s p.2 := by
    intro p
    rw [Outcome.failures_inside, Outcome.failures_below, List.map_eq_nil_iff,
      List.map_eq_nil_iff]
    rfl
  unfold Keyword.Admits
  rw [finding, Finding.failures_settle_settled, Outcome.failures_withPositions,
    Outcome.failures_join, List.flatMap_map, List.flatMap_eq_nil_iff]
  unfold itemsFrom
  rw [List.drop_zero]
  constructor
  · rintro h list rfl w hw
    rw [← Finding.map_snd_itemsOf list] at hw
    obtain ⟨p, hp, rfl⟩ := List.mem_map.mp hw
    exact (hitem p).mp (h p hp)
  · intro h p hp
    obtain ⟨list, rfl, hget⟩ := Finding.mem_itemsOf hp
    exact (hitem p).mpr (h list rfl p.2 (List.mem_of_getElem? hget))

/-- Members without a list and without patterns are all as the schema for the others says. -/
lemma admits_members {others : Schema} :
    (members [] [] others).Admits follow marks v ↔
      ∀ m ∈ v.members, Schema.Admits follow others m.2 := by
  unfold Keyword.Admits
  rw [finding, Finding.failures_settle_settled, Outcome.failures_withNames, Outcome.failures_join,
    List.map_map, List.flatMap_map, List.flatMap_eq_nil_iff]
  refine forall₂_congr fun m _ => ?_
  change (((evaluate follow others m.2).below ["additionalProperties"]).inside m.1).failures = [] ↔
    _
  rw [Outcome.failures_inside, Outcome.failures_below, List.map_eq_nil_iff, List.map_eq_nil_iff]
  rfl

lemma admits_reference {keyword : String} {r : Reference} :
    (reference keyword r).Admits follow marks v ↔ (follow r v).failures = [] := by
  unfold Keyword.Admits
  rw [finding, Finding.failures_settle_settled, Outcome.failures_below, List.map_eq_nil_iff]

end Keyword

/-! ## Rules -/

namespace Assertion

/-- A demand gives no failures exactly if it holds. -/
lemma map_demand_eq_nil_iff {α : Type} {holds : Bool} {c : Complaint} {f : Complaint → α} :
    (demand holds c).map f = [] ↔ holds = true := by
  cases holds <;> simp [demand]

lemma failures_type_eq_nil_iff {strict : Bool} {keyword : String} {t : ValueType} :
    (type strict t).failures keyword v = [] ↔ t.accepts strict v = true :=
  map_demand_eq_nil_iff

lemma failures_types_eq_nil_iff {strict : Bool} {keyword : String} {ts : List ValueType} :
    (types strict ts).failures keyword v = [] ↔ ∃ t ∈ ts, t.accepts strict v = true :=
  map_demand_eq_nil_iff.trans List.any_eq_true

lemma failures_enum_eq_nil_iff {keyword : String} {options : List Json} :
    (enum options).failures keyword v = [] ↔ ∃ option ∈ options, option.same v = true :=
  map_demand_eq_nil_iff.trans List.any_eq_true

lemma failures_minItems_eq_nil_iff {keyword : String} {n : ℕ} {items : List Json} :
    (minItems n).failures keyword (.array items) = [] ↔ n ≤ items.length :=
  map_demand_eq_nil_iff.trans decide_eq_true_iff

lemma failures_uniqueItems_eq_nil_iff {keyword : String} {items : List Json} :
    uniqueItems.failures keyword (.array items) = [] ↔ Json.allDistinct items = true :=
  map_demand_eq_nil_iff

/-- A member is there exactly if its name is among the names. -/
lemma has_iff {members : Json.Members} {name : String} :
    Json.Members.has members name = true ↔ name ∈ members.map Prod.fst := by
  unfold Json.Members.has
  rw [← not_iff_not, Bool.not_eq_true, Option.isSome_eq_false_iff, Option.isNone_iff_eq_none,
    List.lookup_eq_none_iff, List.mem_map, not_exists]
  simp only [bne_iff_ne, not_and]
  exact forall₂_congr fun m _ => ne_comm

lemma failures_required_eq_nil_iff {keyword : String} {names : List String} :
    (required names).failures keyword v = [] ↔
      ∀ members, v = .object members → ∀ name ∈ names, name ∈ members.map Prod.fst := by
  cases v with
  | object members =>
    change List.map _ (List.map _ (missing names members)) = [] ↔ _
    rw [List.map_eq_nil_iff, List.map_eq_nil_iff]
    unfold missing
    rw [List.filter_eq_nil_iff]
    simp [has_iff]
  | _ => simp [failures]

end Assertion

end ConfigCheck.Schema
