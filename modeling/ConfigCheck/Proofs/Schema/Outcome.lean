import ConfigCheck.Schema.Evaluate
import Mathlib.Data.Nat.Notation
import Mathlib.Tactic.Lemma

/-!
# Failures of outcomes

What a rule without schemas has against a value is about the value itself
(`Assertion.exists_complaint_of_mem_failures`).  Then come the ways of putting outcomes together,
each by the failures that it gives.  What counts as looked at matters to the keywords for the rest
only, so it is left out: `Outcome.failures_ofFindings` is where the two meet.
-/

namespace ConfigCheck.Schema

namespace Assertion

/-- Whether all complaints of a rule are about its keyword.  Those about encoded content are about
the keywords for content, or about none. -/
def isNamed : Assertion → Bool
  | encodedJson => false
  | _ => true

/-- The names under which a rule complains that stands under a keyword. -/
def ownNames (keyword : String) : Assertion → List String
  | encodedJson => ["contentEncoding", "contentMediaType"]
  | _ => [keyword]

/-- A rule whose complaints are all about its keyword complains under no other name. -/
lemma ownNames_of_isNamed {a : Assertion} (h : a.isNamed = true) (keyword : String) :
    a.ownNames keyword = [keyword] := by
  cases a with
  | encodedJson => cases h
  | _ => rfl

variable {rule : Assertion} {keyword : String} {v : Json} {f : Failure}

/-- A demand has at most its complaint. -/
lemma eq_of_mem_demand {holds : Bool} {c complaint : Complaint} (h : c ∈ demand holds complaint) :
    c = complaint := by
  unfold demand at h
  split at h
  · cases h
  · exact List.mem_singleton.mp h

/-- What a rule has against a value is about the value itself and the keyword of the rule, and says
so. -/
theorem exists_complaint_of_mem_failures (hrule : rule.isNamed = true)
    (hf : f ∈ rule.failures keyword v) :
    ∃ c : Complaint, c.isTraced = true ∧ f = ⟨[], [keyword], c⟩ := by
  have hhere : ∀ complaints : List Complaint, (∀ c ∈ complaints, c.isTraced = true) →
      f ∈ complaints.map (fun c => (⟨[], [keyword], c⟩ : Failure)) →
        ∃ c : Complaint, c.isTraced = true ∧ f = ⟨[], [keyword], c⟩ := by
    intro complaints htraced hmem
    obtain ⟨c, hc, rfl⟩ := List.mem_map.mp hmem
    exact ⟨c, htraced c hc, rfl⟩
  have hmissing : ∀ names : List String, ∀ c ∈ names.map Complaint.required,
      c.isTraced = true := by
    intro names c hc
    obtain ⟨name, -, rfl⟩ := List.mem_map.mp hc
    rfl
  unfold failures at hf
  dsimp only at hf
  split at hf
  case h_1 => exact hhere _ (List.forall_mem_singleton.mpr rfl) hf
  case h_13 =>
    split at hf
    · exact hhere _ (fun c hc => eq_of_mem_demand hc ▸ rfl) hf
    · exact hhere _ (List.forall_mem_singleton.mpr rfl) hf
  case h_19 => exact hhere _ (hmissing _) hf
  case h_20 =>
    split at hf
    · exact hhere _ (hmissing _) hf
    · cases hf
  case h_25 => cases hrule
  case h_26 => cases hf
  all_goals exact hhere _ (fun c hc => eq_of_mem_demand hc ▸ rfl) hf

/-- What a rule has against a value stands at the value itself. -/
theorem place_of_mem_failures (hf : f ∈ rule.failures keyword v) : f.place = [] := by
  cases hrule : rule.isNamed with
  | true =>
    obtain ⟨c, -, rfl⟩ := exists_complaint_of_mem_failures hrule hf
    rfl
  | false =>
    cases rule with
    | encodedJson =>
      cases v with
      | string s =>
        unfold failures at hf
        dsimp only at hf
        split at hf
        · rw [List.mem_singleton.mp hf]
        · split at hf
          · rw [List.mem_singleton.mp hf]
          · rw [List.mem_singleton.mp (List.mem_filter.mp hf).1]
      | _ => cases hf
    | _ => cases hrule

end Assertion

namespace Outcome

@[simp] theorem failures_ofFailures (fs : List Failure) : (ofFailures fs).failures = fs := rfl

@[simp] theorem failures_demand (holds : Bool) (keyword : String) (c : Complaint) :
    (demand holds keyword c).failures = if holds then [] else [⟨[], [keyword], c⟩] := by
  unfold demand
  split <;> rfl

@[simp] theorem failures_append (o p : Outcome) :
    (o.append p).failures = o.failures ++ p.failures := rfl

@[simp] theorem failures_join (os : List Outcome) :
    (join os).failures = os.flatMap failures := rfl

@[simp] theorem failures_below (o : Outcome) (tokens : List String) :
    (o.below tokens).failures = o.failures.map (Failure.below tokens) := rfl

@[simp] theorem failures_inside (o : Outcome) (token : String) :
    (o.inside token).failures = o.failures.map (Failure.inside token) := rfl

@[simp] theorem failures_unmarked (o : Outcome) : o.unmarked.failures = o.failures := rfl

@[simp] theorem failures_withNames (o : Outcome) (names : List String) :
    (o.withNames names).failures = o.failures := rfl

@[simp] theorem failures_withPositions (o : Outcome) (positions : List Nat) :
    (o.withPositions positions).failures = o.failures := rfl

@[simp] theorem failures_marked (b : Branch) : b.marked.failures = b.outcome.failures := by
  unfold Branch.marked
  split <;> rfl

/-- A condition alone demands nothing. -/
@[simp] theorem failures_condition (b : Branch) : (condition b).failures = [] := by
  unfold condition
  split <;> rfl

/-- A condition hands on the failures of the branch that it selects. -/
theorem failures_conditional (c t e : Branch) :
    (conditional c t e).failures =
      if c.outcome.isValid then t.outcome.failures.map (Failure.below ["then"])
      else e.outcome.failures.map (Failure.below ["else"]) := by
  unfold conditional
  cases c.hasKeywords <;> cases c.outcome.isValid <;> simp

@[simp] theorem failures_ofMembers (os : List (String × Outcome)) :
    (ofMembers os).failures = os.flatMap fun o => o.2.failures := by
  unfold ofMembers
  rw [failures_withNames, failures_join, List.flatMap_map]

/-- Outcomes are numbered by their positions. -/
lemma getElem?_of_mem_numbered {os : List Outcome} {start i : Nat} {o : Outcome}
    (h : (i, o) ∈ numbered start os) : ∃ j, i = start + j ∧ os[j]? = some o := by
  induction os generalizing start with
  | nil => cases h
  | cons first rest ih =>
    rw [numbered] at h
    rcases List.mem_cons.mp h with heq | hrest
    · cases heq
      exact ⟨0, rfl, rfl⟩
    · obtain ⟨j, hj, hget⟩ := ih hrest
      refine ⟨j + 1, ?_, hget⟩
      omega

/-- Numbered outcomes have no failures exactly if none of them has. -/
lemma flatMap_numbered_eq_nil_iff {os : List Outcome} {start : ℕ} :
    ((numbered start os).flatMap fun (i, o) => (o.below ["allOf", toString i]).failures) = [] ↔
      ∀ o ∈ os, o.failures = [] := by
  induction os generalizing start with
  | nil => simp [numbered]
  | cons o rest ih =>
    rw [numbered, List.flatMap_cons, List.append_eq_nil_iff, ih, List.forall_mem_cons]
    dsimp only
    rw [failures_below, List.map_eq_nil_iff]

/-- All branches of a choice hold exactly if none has failures. -/
lemma failures_allOf_eq_nil_iff {bs : List Branch} :
    (allOf bs).failures = [] ↔ ∀ b ∈ bs, b.outcome.failures = [] := by
  refine flatMap_numbered_eq_nil_iff.trans ?_
  rw [List.forall_mem_map]

/-- Exactly one branch is asked for: there is a failure if none holds, and if several do. -/
theorem failures_oneOf (v : Json) (bs : List Branch) :
    (oneOf v bs).failures = match Tally.ofVerdicts (bs.map (·.outcome.isValid)) with
      | .none => [⟨[], ["oneOf"], .oneOfNone v⟩]
      | .one => []
      | .many => [⟨[], ["oneOf"], .oneOfMany v⟩] := rfl

/-- There are no failures exactly if one branch holds. -/
lemma failures_oneOf_eq_nil_iff {v : Json} {bs : List Branch} :
    (oneOf v bs).failures = [] ↔ (bs.map (·.outcome.isValid)).count true = 1 := by
  rw [failures_oneOf]
  unfold Tally.ofVerdicts
  generalize (bs.map (·.outcome.isValid)).count true = count
  rcases count with _ | _ | count <;> simp

/-- A value is valid if nothing is wrong. -/
theorem isValid_iff {o : Outcome} : o.isValid = true ↔ o.failures = [] := by
  unfold isValid
  exact List.isEmpty_iff

/-- The failures of a schema are those of its keywords, in order, once all are settled. -/
theorem failures_ofFindings (value : Json) (list : List Finding) :
    (ofFindings value list).failures = list.flatMap fun f =>
      (f.settle value (join (list.map Finding.outcome))).failures := by
  unfold ofFindings
  rw [failures_join, List.flatMap_map]

end Outcome

namespace Finding

@[simp] theorem failures_settle_settled (value : Json) (marks o : Outcome) :
    ((settled o).settle value marks).failures = o.failures := rfl

/-- The items of an array are numbered from zero on. -/
lemma itemsOf_array (items : List Json) :
    itemsOf (.array items) = items.zipIdx.map Prod.swap := by
  refine List.ext_getElem (by simp [itemsOf]) fun i hi hi' => ?_
  simp [itemsOf]

/-- The items of an array are those that are numbered. -/
lemma map_snd_itemsOf (items : List Json) : (itemsOf (.array items)).map Prod.snd = items := by
  unfold itemsOf
  exact List.map_snd_zip (Nat.le_of_eq List.length_range.symm)

/-- The items of an array, each at its position. -/
theorem mem_itemsOf {value v : Json} {i : Nat} (h : (i, v) ∈ itemsOf value) :
    ∃ items, value = .array items ∧ items[i]? = some v := by
  unfold itemsOf at h
  split at h
  · rename_i items
    refine ⟨items, rfl, ?_⟩
    obtain ⟨n, hn, heq⟩ := List.mem_iff_getElem.mp h
    rw [List.getElem_zip, List.getElem_range] at heq
    cases heq
    exact List.getElem?_eq_getElem _
  · cases h

end Finding

end ConfigCheck.Schema
