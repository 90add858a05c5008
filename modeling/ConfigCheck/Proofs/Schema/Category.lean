import ConfigCheck.Proofs.Schema.Composition
import ConfigCheck.Proofs.Shape.Around

/-!
# Categories

A violation gets its category from what is wrong (`Complaint.category?`) or, where that leaves it
open, from the last name on the way to the rule (`Category.ofKeyword`).  Here the two are held
against the keyword that has raised the failure (`Failure.RaisedBy`), wherever it stands in the
schema and whatever the names around it are.

The category is that of the keyword with two exceptions (`Validator.category_of_mem_violations`).
Items that no schema has looked at break a rule on items, but the keyword about them is in no
category of its own.  And a complaint about content that is no text does not say where it was found,
so that there is no name to ask.
-/

namespace ConfigCheck

namespace Schema

/-! ## Keywords that raise failures -/

/-- Whether the complaint is that a schema allows nothing. -/
def Complaint.isFalse : Complaint → Bool
  | falseSchema _ => true
  | _ => false

/-- A failure was raised by a keyword, unless a schema allows nothing: by a rule, by a keyword with
schemas inside it, or by the keyword for names, whatever is wrong with a name. -/
inductive Failure.RaisedBy : String → Failure → Prop where
  /-- By a rule that stands under the keyword.  Where two keywords make one rule, the failure tells
  them apart. -/
  | rule {keyword : String} {a : Assertion} {v : Json} {f : Failure} : keyword ∈ a.keywords →
    f ∈ a.failures keyword v → f.complaint.isFalse = false →
      RaisedBy (f.rule.getLast?.getD keyword) f
  /-- By a keyword with schemas inside it, about the value itself. -/
  | own {keyword : String} {v : Json} {c : Complaint} : c.IsOwn v keyword → c.isFalse = false →
    RaisedBy keyword ⟨[], [keyword], c⟩
  /-- It was raised inside another schema. -/
  | inSchema {w : String} {f : Failure} (tokens : List String) : RaisedBy w f →
    RaisedBy w (f.below tokens)
  /-- It was raised about a member or an item. -/
  | inValue {w : String} {f : Failure} (token : String) : RaisedBy w f →
    RaisedBy w (f.inside token)
  /-- It was raised about the name of a member. -/
  | ofName (f : Failure) : RaisedBy "propertyNames" f.ofName

/-- Every failure was raised by a keyword, or a schema allows nothing. -/
theorem raised_law : FailureLaw (fun k => k.isProper = true)
    fun _ f => f.complaint.isFalse = true ∨ ∃ w, f.RaisedBy w where
  falseSchema _ := .inl rfl
  assertion := by
    intro keyword a v f hproper hf
    cases hfalse : f.complaint.isFalse with
    | true => exact .inl rfl
    | false => exact .inr ⟨_, .rule (of_decide_eq_true hproper) hf hfalse⟩
  own := by
    intro v keyword c hc
    cases hfalse : c.isFalse with
    | true => exact .inl rfl
    | false => exact .inr ⟨keyword, .own hc hfalse⟩
  below tokens h := h.imp_right fun ⟨w, hw⟩ => ⟨w, hw.inSchema tokens⟩
  member _ h := h.imp_right fun ⟨w, hw⟩ => ⟨w, hw.inValue _⟩
  item _ h := h.imp_right fun ⟨w, hw⟩ => ⟨w, hw.inValue _⟩
  name _ _ := .inr ⟨"propertyNames", .ofName _⟩

/-! ## Categories of failures -/

/-- The keywords that give the category of a failure where what is wrong does not. -/
def decidingKeywords : List String := ["pattern", "contentEncoding", "contentMediaType"]

/-- How a failure that keyword `w` has raised comes to its category. -/
inductive Failure.Classified (w : String) (f : Failure) : Prop where
  /-- What is wrong is in the category of the keyword. -/
  | byComplaint : f.complaint.category? = some (.ofKeyword w) → w ≠ "unevaluatedItems" →
    Classified w f
  /-- Items that no schema has looked at break a rule on items. -/
  | asItems : f.complaint.category? = some .arrayConstraint → w = "unevaluatedItems" →
    Classified w f
  /-- The keyword decides, if the complaint says where it was found. -/
  | byKeyword : f.complaint.category? = none → w ∈ decidingKeywords →
    (f.complaint.isPlaced = true → f.rule.getLast? = some w) → Classified w f

namespace Failure

variable {f : Failure} {w keyword : String} {c : Complaint}

/-- A complaint about the value itself is classified if it is in the category of its keyword. -/
lemma classified_of_category {category : Category} (hcomplaint : c.category? = some category)
    (hkeyword : Category.ofKeyword keyword = category) (hne : keyword ≠ "unevaluatedItems") :
    Classified keyword ⟨[], [keyword], c⟩ := by
  refine .byComplaint ?_ hne
  rw [hkeyword]
  exact hcomplaint

/-- A complaint about the value itself is classified if its keyword decides. -/
lemma classified_of_deciding (hcomplaint : c.category? = none)
    (hkeyword : keyword ∈ decidingKeywords) : Classified keyword ⟨[], [keyword], c⟩ :=
  .byKeyword hcomplaint hkeyword fun _ => rfl

/-- What rules have against a value is classified. -/
lemma classified_of_mem_failures {rule : Assertion} {v : Json} (hkeyword : keyword ∈ rule.keywords)
    (hf : f ∈ rule.failures keyword v) (htrue : f.complaint.isFalse = false) :
    f.Classified (f.rule.getLast?.getD keyword) := by
  have hhere : ∀ complaints : List Complaint,
      (∀ c ∈ complaints, Classified keyword ⟨[], [keyword], c⟩) →
        f ∈ complaints.map (fun c => (⟨[], [keyword], c⟩ : Failure)) →
          f.Classified (f.rule.getLast?.getD keyword) := by
    intro complaints hcomplaints hmem
    obtain ⟨c, hc, rfl⟩ := List.mem_map.mp hmem
    exact hcomplaints c hc
  have hdemand : ∀ {holds : Bool} {c : Complaint}, Classified keyword ⟨[], [keyword], c⟩ →
      f ∈ (Assertion.demand holds c).map (fun c => (⟨[], [keyword], c⟩ : Failure)) →
        f.Classified (f.rule.getLast?.getD keyword) := fun h hmem =>
    hhere _ (fun c hc => Assertion.eq_of_mem_demand hc ▸ h) hmem
  have hown : ∀ {own : String} {c : Complaint} {category : Category}, keyword ∈ [own] →
      c.category? = some category → Category.ofKeyword own = category →
        own ≠ "unevaluatedItems" → Classified keyword ⟨[], [keyword], c⟩ := by
    intro own c category hmem hcomplaint hcategory hne
    cases List.mem_singleton.mp hmem
    exact classified_of_category hcomplaint hcategory hne
  have hdecides : ∀ {own : String} {c : Complaint}, keyword ∈ [own] → c.category? = none →
      own ∈ decidingKeywords → Classified keyword ⟨[], [keyword], c⟩ := by
    intro own c hmem hcomplaint hdeciding
    cases List.mem_singleton.mp hmem
    exact classified_of_deciding hcomplaint hdeciding
  have hmissing : ∀ names : List String, keyword ∈ ["required", "dependentRequired",
      "dependencies"] →
        f ∈ (names.map Complaint.required).map (fun c => (⟨[], [keyword], c⟩ : Failure)) →
          f.Classified (f.rule.getLast?.getD keyword) := by
    intro names hmem
    refine hhere _ fun c hc => ?_
    obtain ⟨name, -, rfl⟩ := List.mem_map.mp hc
    simp only [List.mem_cons, List.not_mem_nil, or_false] at hmem
    rcases hmem with rfl | rfl | rfl <;>
      exact classified_of_category rfl (by decide) (by decide)
  unfold Assertion.failures at hf
  dsimp only at hf
  split at hf
  case h_1 =>
    cases List.mem_singleton.mp hf
    cases htrue
  case h_13 =>
    split at hf
    · exact hdemand (hown hkeyword rfl (by decide) (by decide)) hf
    · exact hhere _ (List.forall_mem_singleton.mpr (hdecides hkeyword rfl (by decide))) hf
  case h_19 => exact hmissing _ (List.mem_cons.mpr (.inl (List.mem_singleton.mp hkeyword))) hf
  case h_20 =>
    split at hf
    · exact hmissing _ (List.mem_cons_of_mem _ hkeyword) hf
    · cases hf
  case h_23 | h_24 => exact hdemand (hdecides hkeyword rfl (by decide)) hf
  case h_25 =>
    have hencoding : "contentEncoding" ∈ decidingKeywords := by decide
    have hmedia : "contentMediaType" ∈ decidingKeywords := by decide
    split at hf
    · cases List.mem_singleton.mp hf
      exact classified_of_deciding rfl hencoding
    · split at hf
      · cases List.mem_singleton.mp hf
        cases List.mem_singleton.mp hkeyword
        exact .byKeyword rfl hmedia fun hplaced => by cases hplaced
      · cases List.mem_singleton.mp (List.mem_filter.mp hf).1
        exact classified_of_deciding rfl hmedia
  case h_26 => cases hf
  all_goals exact hdemand (hown hkeyword rfl (by decide) (by decide)) hf

/-- What keywords with schemas inside them have against a value is classified. -/
lemma classified_of_isOwn {v : Json} (hc : c.IsOwn v keyword) (htrue : c.isFalse = false) :
    Classified keyword ⟨[], [keyword], c⟩ := by
  cases hc with
  | firstMember | propertyNames => cases htrue
  | unevaluatedItems => exact .asItems rfl rfl
  | _ => exact classified_of_category rfl (by decide) (by decide)

/-- Every failure is classified by the keyword that has raised it. -/
theorem RaisedBy.classified (h : f.RaisedBy w) : f.Classified w := by
  induction h with
  | rule hkeyword hf htrue => exact classified_of_mem_failures hkeyword hf htrue
  | own hc htrue => exact classified_of_isOwn hc htrue
  | @inSchema w f tokens _ ih =>
    cases ih with
    | byComplaint hcategory hne => exact .byComplaint hcategory hne
    | asItems hcategory hw => exact .asItems hcategory hw
    | byKeyword hcategory hw hlast =>
      refine .byKeyword hcategory hw fun hplaced => ?_
      rw [Failure.below, List.getLast?_append, hlast hplaced]
      rfl
  | inValue token _ ih =>
    cases ih with
    | byComplaint hcategory hne => exact .byComplaint hcategory hne
    | asItems hcategory hw => exact .asItems hcategory hw
    | byKeyword hcategory hw hlast => exact .byKeyword hcategory hw hlast
  | ofName f =>
    have hcategory : Category.ofKeyword "propertyNames" = .unexpectedProperty := by decide
    refine .byComplaint ?_ (by decide)
    rw [hcategory]
    rfl

/-! ## Categories as reported -/

/-- A complaint that decides its category says where it was found. -/
lemma isPlaced_of_category? {category : Category} (h : c.category? = some category) :
    c.isPlaced = true := by
  cases c with
  | notText reason => cases h
  | _ => rfl

/-- A complaint that does not say where it was found is in no category, whatever has raised it. -/
lemma category_reported_of_not_isPlaced (h : f.complaint.isPlaced = false) :
    f.reported.category = .other "" := by
  cases hc : f.complaint with
  | notText reason =>
    unfold category reported
    dsimp only
    rw [hc]
    rfl
  | _ =>
    rw [hc] at h
    cases h

/-- The category in which a failure is reported is that of the keyword that has raised it, but for
items that no schema has looked at, and for complaints that do not say where they were found. -/
theorem Classified.category_reported_iff (h : f.Classified w) :
    (f.reported.category = .ofKeyword w ↔ w ≠ "unevaluatedItems" ∧ f.complaint.isPlaced = true) ∧
      (w = "unevaluatedItems" → f.reported.category = .arrayConstraint) := by
  have hplace : ∀ {category}, f.complaint.category? = some category →
      f.reported.category = category := by
    intro category hcategory
    rw [Failure.category_reported (isPlaced_of_category? hcategory), Failure.category, hcategory,
      Option.getD_some]
  cases h with
  | byComplaint hcategory hne =>
    have hplaced := isPlaced_of_category? hcategory
    exact ⟨iff_of_true (hplace hcategory) ⟨hne, hplaced⟩, fun hw => absurd hw hne⟩
  | asItems hcategory hw =>
    have hother : Category.arrayConstraint ≠ .ofKeyword "unevaluatedItems" := by decide
    refine ⟨iff_of_false ?_ fun hne => hne.1 hw, fun _ => hplace hcategory⟩
    rw [hplace hcategory, hw]
    exact hother
  | byKeyword hcategory hw hlast =>
    have hne : w ≠ "unevaluatedItems" := by
      rintro rfl
      exact absurd hw (by decide)
    refine ⟨?_, fun heq => absurd heq hne⟩
    cases hplaced : f.complaint.isPlaced with
    | true =>
      refine iff_of_true ?_ ⟨hne, rfl⟩
      rw [Failure.category_reported hplaced, Failure.category, hcategory, hlast hplaced]
      rfl
    | false =>
      refine iff_of_false ?_ fun hboth => by cases hboth.2
      rw [category_reported_of_not_isPlaced hplaced]
      simp only [decidingKeywords, List.mem_cons, List.not_mem_nil, or_false] at hw
      rcases hw with rfl | rfl | rfl <;> decide

end Failure

end Schema

namespace Validator

/-- A validator has the schema that a document is read into. -/
lemma isRead_schema {document : Json} {v : Validator} (hv : ofJson document = .ok v) :
    Schema.IsRead v.schema := by
  obtain ⟨draft, base, collection, -, rfl⟩ := ofJson_eq_ok_iff.mp hv
  exact Schema.isRead_ofJson _ _

/-- Every failure that a schema in use finds was raised by a keyword, or a schema allows nothing. -/
lemma raised_of_mem_failures {schema document : Json} {v : Validator} {f : Schema.Failure}
    (hv : ofJson schema = .ok v) (hf : f ∈ v.failures document) :
    f.complaint.isFalse = true ∨ ∃ w, f.RaisedBy w := by
  have hproper : ∀ scope contents k, Schema.Occurs k (Schema.ofContents scope contents) →
      k.isProper = true := fun scope contents k hk =>
    Schema.isProper_of_occurs ⟨scope, contents, .inr rfl⟩ hk
  exact Schema.raised_law.meets_outcomeWithin hproper _
    (fun k hk => Schema.isProper_of_occurs (isRead_schema hv) hk) document f hf

/-- A violation of a schema that allows nothing is in the category of combinations.  Every other
violation was raised by a keyword, and is in the category of that keyword if and only if the keyword
is not the one about items that no schema has looked at, and the complaint says where it was found.
Of the two exceptions, the first is in the category of rules on items, and the second in none. -/
theorem category_of_mem_violations {schema document : Json} {v : Validator}
    {violation : Violation} (hv : ofJson schema = .ok v)
    (h : violation ∈ v.violations document) :
    ∃ f ∈ v.failures document, violation = f.toViolation document ∧
      (f.complaint.isFalse = true ∧ violation.category = .composition ∨
        (∃ w, f.RaisedBy w) ∧ ∀ w, f.RaisedBy w →
          (violation.category = .ofKeyword w ↔
            w ≠ "unevaluatedItems" ∧ f.complaint.isPlaced = true) ∧
          (w = "unevaluatedItems" → violation.category = .arrayConstraint) ∧
          (f.complaint.isPlaced = false → violation.category = .other "")) := by
  obtain ⟨f, hf, rfl⟩ := List.mem_map.mp h
  refine ⟨f, hf, rfl, ?_⟩
  rcases raised_of_mem_failures hv hf with hfalse | hraised
  · left
    refine ⟨hfalse, ?_⟩
    cases hc : f.complaint with
    | falseSchema value =>
      have hplaced : f.complaint.isPlaced = true := by
        rw [hc]
        rfl
      change f.reported.category = .composition
      rw [Schema.Failure.category_reported hplaced, Schema.Failure.category, hc]
      rfl
    | _ =>
      rw [hc] at hfalse
      cases hfalse
  · right
    refine ⟨hraised, fun w hw => ?_⟩
    obtain ⟨hiff, hitems⟩ := hw.classified.category_reported_iff
    exact ⟨hiff, hitems, Schema.Failure.category_reported_of_not_isPlaced⟩

end Validator

namespace Component

/-- The component for objects in which the member `minItems` is a text. -/
def textAtKeyword : Component where
  source := (Shape.clauses [.properties [("minItems", .clauses [.type .string])]]).toJson
  validator := (Shape.clauses [.properties [("minItems", .clauses [.type .string])]]).validator
  compiles := by
    have htext : (Shape.clauses [.type .string]).WellFormed := .type .string
    exact Shape.ofJson_toJson_eq_ok
      (.clauses (by decide) (by simp [Clause.IsProper]) (by simp [Clause.shapes, htext]))
  isUnmarked := by decide

/-- The name of the member is on the way to the rule, and the category is that of the rule. -/
theorem category_textAtKeyword :
    Validator.ofJson textAtKeyword.source = .ok textAtKeyword.validator ∧
      ∃ violation ∈ textAtKeyword.validator.violations (.object [("minItems", .number (.int 1))]),
        violation.schemaPath = "/properties/minItems/type" ∧
          ∃ f ∈ textAtKeyword.validator.failures (.object [("minItems", .number (.int 1))]),
            violation = f.toViolation (.object [("minItems", .number (.int 1))]) ∧
              ∃ w, f.RaisedBy w ∧ violation.category = .ofKeyword w := by
  have hfound : (textAtKeyword.validator.violations
      (.object [("minItems", .number (.int 1))])).map (fun v => (v.schemaPath, v.category)) =
        [("/properties/minItems/type", .typeMismatch)] := by
    rw [violations_eq_map]
    decide
  obtain ⟨violation, hmem, heq⟩ := List.mem_map.mp (hfound ▸ List.mem_singleton_self _)
  obtain ⟨hpath, hcategory⟩ := Prod.mk.inj heq
  obtain ⟨f, hf, hviolation, hcase⟩ :=
    Validator.category_of_mem_violations textAtKeyword.compiles hmem
  refine ⟨textAtKeyword.compiles, violation, hmem, hpath, f, hf, hviolation, ?_⟩
  rw [hcategory] at hcase ⊢
  rcases hcase with ⟨-, hcomposition⟩ | ⟨⟨w, hw⟩, hall⟩
  · cases hcomposition
  · obtain ⟨hiff, hitems, hunplaced⟩ := hall w hw
    have hplaced : f.complaint.isPlaced = true := by
      cases h : f.complaint.isPlaced with
      | true => rfl
      | false => cases hunplaced h
    have hne : w ≠ "unevaluatedItems" := fun heq => by cases hitems heq
    exact ⟨w, hw, hiff.mpr ⟨hne, hplaced⟩⟩

/-- The component for arrays of texts, in which the items are those that nothing else has looked
at. -/
def textRest : Component where
  source := .object [("unevaluatedItems", (Shape.clauses [.type .string]).toJson)]
  validator :=
    ⟨.keywords [.unevaluatedItems (Shape.clauses [.type .string]).toSchema],
      Schema.MetaSchema.registry.insert Uri.unnamed
        ⟨.object [("unevaluatedItems", (Shape.clauses [.type .string]).toJson)], .latest⟩⟩
  compiles := by
    have hsurrounds : ∀ m ∈ [("unevaluatedItems", (Shape.clauses [.type .string]).toJson)],
        Shape.Surrounds m.1 m.2 :=
      List.forall_mem_singleton.mpr (.rest (.type .string))
    apply Shape.ofJson_object_eq_ok hsurrounds (by simp)
    intro visit
    have htext : Schema.Passes visit (Shape.clauses [.type .string]).toSchema :=
      Shape.passes_toSchema (.type .string)
    change Schema.Passes visit
      (.keywords [.unevaluatedItems (Shape.clauses [.type .string]).toSchema])
    intro seen
    simp only [Schema.searchSchema, Schema.searchKeywords, Schema.searchKeyword, htext seen,
      Schema.searchConditions, Schema.searchCondition, ite_self]
  isUnmarked := by decide

/-- A number among the texts is raised by the keyword about items that no schema has looked at, and
is not in the category of that keyword. -/
theorem category_textRest :
    Validator.ofJson textRest.source = .ok textRest.validator ∧
      ∃ violation ∈ textRest.validator.violations (.array [.number (.int 1)]),
        violation.schemaPath = "/unevaluatedItems" ∧
          violation.category = .arrayConstraint ∧
          Category.ofKeyword "unevaluatedItems" = .other "unevaluatedItems" ∧
          ∃ f ∈ textRest.validator.failures (.array [.number (.int 1)]),
            violation = f.toViolation (.array [.number (.int 1)]) ∧
              f.RaisedBy "unevaluatedItems" := by
  have hfailures : textRest.validator.failures (.array [.number (.int 1)]) =
      [⟨[], ["unevaluatedItems"], .unevaluatedItems [.number (.int 1)]⟩] := by
    rw [failures_eq]
    rfl
  have hmem : (⟨[], ["unevaluatedItems"], .unevaluatedItems [.number (.int 1)]⟩ : Schema.Failure) ∈
      textRest.validator.failures (.array [.number (.int 1)]) := by
    rw [hfailures]
    exact List.mem_singleton_self _
  refine ⟨textRest.compiles, _, List.mem_map_of_mem hmem, by decide, rfl, by decide, _,
    hmem, rfl, ?_⟩
  exact .own (v := .array [.number (.int 1)]) (.unevaluatedItems _) rfl

end Component

end ConfigCheck
