import ConfigCheck.Proofs.Schema.Category
import ConfigCheck.Proofs.Schema.Location
import ConfigCheck.Report.Diagnostic

/-!
# Missing members

A violation names a missing member exactly if it is in the category of missing members, and then the
object that it is about has no member of that name (`Validator.isMissing_of_mem_violations`).

The category comes from what is wrong, or else from the keyword of the rule.  Only three keywords
are ever asked (`Failure.RaisedBy.classified`), and none of them stands for missing members
(`Failure.IsCategorised`).
-/

namespace ConfigCheck

namespace Schema

/-! ## Categories -/

/-- The category of a failure comes from what is wrong, or from one of a few keywords, unless the
failure does not say where it was found. -/
def Failure.IsCategorised (f : Failure) : Prop :=
  f.complaint.category?.isSome = true ∨ f.complaint.isPlaced = false ∨
    ∃ keyword ∈ decidingKeywords, f.rule.getLast? = some keyword

/-- What a keyword has raised is categorised. -/
lemma Failure.Classified.isCategorised {w : String} {f : Failure} (h : f.Classified w) :
    f.IsCategorised := by
  cases h with
  | byComplaint hcategory _ | asItems hcategory _ => exact .inl (by rw [hcategory]; rfl)
  | byKeyword _ hw hlast =>
    cases hplaced : f.complaint.isPlaced with
    | true => exact .inr (.inr ⟨w, hw, hlast hplaced⟩)
    | false => exact .inr (.inl hplaced)

/-- No deciding keyword stands for missing members. -/
lemma ofKeyword_ne_missingProperty {keyword : String} (h : keyword ∈ decidingKeywords) :
    Category.ofKeyword keyword ≠ .missingProperty := by
  simp only [decidingKeywords, List.mem_cons, List.not_mem_nil, or_false] at h
  rcases h with rfl | rfl | rfl <;> decide

/-- A failure is reported in the category of missing members exactly if a member is missing. -/
theorem Failure.IsCategorised.category_reported_iff {f : Failure} (hf : f.IsCategorised) :
    f.complaint.missing?.isSome = true ↔ f.reported.category = .missingProperty := by
  rw [Complaint.missing?_isSome, beq_iff_eq]
  cases hplaced : f.complaint.isPlaced with
  | false =>
    rw [category_reported_of_not_isPlaced hplaced]
    cases hc : f.complaint with
    | notText reason => exact iff_of_false (fun h => by cases h) fun h => by cases h
    | _ => simp [hc, Complaint.isPlaced] at hplaced
  | true =>
    rw [category_reported hplaced, category]
    rcases hf with hsome | hunplaced | ⟨keyword, hkeyword, hlast⟩
    · obtain ⟨category, hcategory⟩ := Option.isSome_iff_exists.mp hsome
      rw [hcategory, Option.some.injEq, Option.getD_some]
    · rw [hplaced] at hunplaced
      cases hunplaced
    · cases hcategory : f.complaint.category? with
      | some category => rw [Option.some.injEq, Option.getD_some]
      | none =>
        rw [hlast, Option.getD_none, Option.getD_some]
        exact iff_of_false (fun h => by cases h) (ofKeyword_ne_missingProperty hkeyword)

/-! ## Missing members -/

/-- A member is reported missing where the complaint is that it is required. -/
lemma Complaint.missing?_eq_some_iff {c : Complaint} {name : String} :
    c.missing? = some name ↔ c = .required name := by
  cases c <;> simp [missing?]

/-- Where a failure says that a member is missing, its tokens lead to an object without it. -/
def Failure.IsTruthful (value : Json) (f : Failure) : Prop :=
  ∀ name, f.complaint = .required name → value.isWellFormed = true →
    ∃ members, value.walk? (Json.typeTokens (some value) f.place) = some (.object members) ∧
      name ∉ members.map Prod.fst

/-- A member that is not found is not there. -/
lemma notMem_of_has_eq_false {members : Json.Members} {name : String}
    (h : Json.Members.has members name = false) : name ∉ members.map Prod.fst := by
  intro hmem
  obtain ⟨m, hm, rfl⟩ := List.mem_map.mp hmem
  rw [Json.Members.has, Option.isSome_eq_false_iff, Option.isNone_iff_eq_none,
    List.lookup_eq_none_iff] at h
  exact absurd (h m hm) (by simp)

namespace Assertion

variable {rule : Assertion} {keyword : String} {v : Json} {f : Failure}

/-- A rule that says that a member is missing looks at an object without it. -/
lemma exists_object_of_required_mem_failures {name : String}
    (hf : f ∈ rule.failures keyword v) (hname : f.complaint = .required name) :
    ∃ members, v = .object members ∧ name ∉ members.map Prod.fst := by
  have hdemand : ∀ {holds : Bool} {complaint : Complaint}, complaint ≠ .required name →
      f ∉ (demand holds complaint).map (fun c => (⟨[], [keyword], c⟩ : Failure)) := by
    intro holds complaint hne hmem
    obtain ⟨c, hc, rfl⟩ := List.mem_map.mp hmem
    cases eq_of_mem_demand hc
    exact hne hname
  have hmissing : ∀ {names : List String} {members : Json.Members},
      f ∈ ((missing names members).map Complaint.required).map
          (fun c => (⟨[], [keyword], c⟩ : Failure)) → name ∉ members.map Prod.fst := by
    intro names members hmem
    rw [List.map_map] at hmem
    obtain ⟨other, hother, rfl⟩ := List.mem_map.mp hmem
    cases hname
    exact notMem_of_has_eq_false (by simpa using (List.mem_filter.mp hother).2)
  unfold failures at hf
  dsimp only at hf
  split at hf
  case h_1 =>
    cases List.mem_singleton.mp hf
    cases hname
  case h_13 =>
    split at hf
    · exact absurd hf (hdemand (by simp))
    · cases List.mem_singleton.mp hf
      cases hname
  case h_19 => exact ⟨_, rfl, hmissing hf⟩
  case h_20 =>
    split at hf
    · exact ⟨_, rfl, hmissing hf⟩
    · cases hf
  case h_25 =>
    split at hf
    · cases List.mem_singleton.mp hf
      cases hname
    · split at hf
      · cases List.mem_singleton.mp hf
        cases hname
      · cases List.mem_singleton.mp (List.mem_filter.mp hf).1
        cases hname
  case h_26 => cases hf
  all_goals exact absurd hf (hdemand (by simp))

end Assertion

/-- No keyword with schemas says that a member is missing. -/
lemma Complaint.IsOwn.ne_required {v : Json} {keyword name : String} {c : Complaint}
    (hc : c.IsOwn v keyword) : c ≠ .required name := by
  rintro rfl
  cases hc

/-- A member that is reported missing is not there. -/
theorem truthful_law : FailureLaw (fun _ => True) fun v f => f.IsTruthful v where
  falseSchema _ := by
    rintro name ⟨⟩
  assertion _ hf := by
    intro name hname _
    obtain ⟨members, rfl, hmissing⟩ :=
      Assertion.exists_object_of_required_mem_failures hf hname
    refine ⟨members, ?_, hmissing⟩
    rw [Assertion.place_of_mem_failures hf]
    rfl
  own hc := fun name hname => absurd hname hc.ne_required
  below _ h := h
  member := by
    intro members name w f hmem h missing hmissing hformed
    obtain ⟨inner, hwalk, hnot⟩ :=
      h missing hmissing ((Json.isWellFormed_object.mp hformed).2 (name, w) hmem)
    exact ⟨inner, Json.walk?_typeTokens_member hformed hmem hwalk, hnot⟩
  item := by
    intro items i w f hitem h missing hmissing hformed
    obtain ⟨inner, hwalk, hnot⟩ :=
      h missing hmissing ((Json.isWellFormed_array.mp hformed).2 w (List.mem_of_getElem? hitem))
    exact ⟨inner, Json.walk?_typeTokens_item hformed hitem hwalk, hnot⟩
  name _ _ := by
    rintro name ⟨⟩

end Schema

namespace Validator

/-- Every failure that a schema in use finds is categorised. -/
lemma isCategorised_of_mem_failures {schema document : Json} {v : Validator}
    {f : Schema.Failure} (hv : ofJson schema = .ok v) (hf : f ∈ v.failures document) :
    f.IsCategorised := by
  rcases raised_of_mem_failures hv hf with hfalse | ⟨w, hw⟩
  · left
    cases hc : f.complaint with
    | falseSchema value => rfl
    | _ =>
      rw [hc] at hfalse
      cases hfalse
  · exact hw.classified.isCategorised

/-- A violation names a missing member exactly if it is in the category of missing members.  Then
its location leads to an object without a member of that name, the name is the last segment of the
diagnostic, and the message says that what stands there is missing. -/
theorem isMissing_of_mem_violations {schema document : Json} {v : Validator}
    {violation : Violation} (hv : ofJson schema = .ok v)
    (hdocument : document.isWellFormed = true) (h : violation ∈ v.violations document) :
    (violation.missingProperty.isSome = true ↔ violation.category = .missingProperty) ∧
      ∀ name, violation.missingProperty = some name →
        (∃ members, document.walk? violation.instancePath = some (.object members) ∧
          name ∉ members.map Prod.fst) ∧
        violation.toDiagnostic.segments = violation.instancePath ++ [.key name] ∧
        violation.line =
          "\"" ++ renderLocation (violation.instancePath ++ [.key name]) ++ "\" is missing." := by
  obtain ⟨f, hf, rfl⟩ := List.mem_map.mp h
  refine ⟨(isCategorised_of_mem_failures hv hf).category_reported_iff, fun name hname => ?_⟩
  have hcomplaint : f.complaint = .required name := Schema.Complaint.missing?_eq_some_iff.mp hname
  have hreported : f.reported = f := Schema.Failure.reported_eq_self (by rw [hcomplaint]; rfl)
  have hsegments : (f.toViolation document).segments =
      (f.toViolation document).instancePath ++ [.key name] := by
    rw [Violation.segments, hname]
    rfl
  refine ⟨?_, (Violation.reportedSegments_eq _).trans hsegments, ?_⟩
  · obtain ⟨members, hwalk, hnot⟩ :=
      Schema.truthful_law.of_mem_failures hf name hcomplaint hdocument
    refine ⟨members, ?_, hnot⟩
    rw [Schema.Failure.toViolation, hreported, Json.resolvePointer_pointerText]
    exact hwalk
  · rw [Violation.line, hname, Violation.location, hsegments]
    rfl

end Validator

/-- The component for objects whose servers all have a port. -/
def Component.serverPorts : Component where
  source := (Shape.clauses [.properties
    [("servers", .clauses [.items (.clauses [.required ["port"]])])]]).toJson
  validator := (Shape.clauses [.properties
    [("servers", .clauses [.items (.clauses [.required ["port"]])])]]).validator
  compiles := by
    have hport : (Shape.clauses [.required ["port"]]).WellFormed :=
      .clauses (by decide) (by simp [Clause.IsProper]) (by simp [Clause.shapes])
    have hitems : (Shape.clauses [.items (.clauses [.required ["port"]])]).WellFormed :=
      .clauses (by decide) (by simp [Clause.IsProper]) (by simp [Clause.shapes, hport])
    exact Shape.ofJson_toJson_eq_ok
      (.clauses (by decide) (by simp [Clause.IsProper]) (by simp [Clause.shapes, hitems]))
  isUnmarked := by decide

/-- The port of the only server is missing, and the message says where. -/
theorem Component.isMissing_serverPorts :
    Validator.ofJson serverPorts.source = .ok serverPorts.validator ∧
      (Json.object [("servers", .array [.object []])]).isWellFormed = true ∧
      ∃ violation ∈ serverPorts.validator.violations (.object [("servers", .array [.object []])]),
        violation.missingProperty = some "port" ∧ violation.category = .missingProperty ∧
        violation.line = "\"" ++ renderLocation [.key "servers", .index 0, .key "port"] ++
          "\" is missing." := by
  have hdocument : (Json.object [("servers", .array [.object []])]).isWellFormed = true := by
    decide
  have hfound : (serverPorts.validator.violations
      (.object [("servers", .array [.object []])])).map
        (fun v => (v.instancePath, v.missingProperty)) =
      [([.key "servers", .index 0], some "port")] := by
    rw [violations_eq_map]
    decide
  obtain ⟨violation, hmem, heq⟩ := List.mem_map.mp (hfound ▸ List.mem_singleton_self _)
  obtain ⟨hpath, hname⟩ := Prod.mk.inj heq
  obtain ⟨hcategory, hmissing⟩ :=
    Validator.isMissing_of_mem_violations serverPorts.compiles hdocument hmem
  refine ⟨serverPorts.compiles, hdocument, violation, hmem, hname,
    hcategory.mp (by rw [hname]; rfl), ?_⟩
  rw [(hmissing "port" hname).2.2, hpath]
  rfl

end ConfigCheck
