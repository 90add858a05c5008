import ConfigCheck.Proofs.Schema.Law
import ConfigCheck.Proofs.Schema.Local
import ConfigCheck.Proofs.Shape.Compile

/-!
# Composing schemas

A schema for the members of objects, or for the items of arrays, finds what the schemas inside it
find, each in its own part of the document, and nothing else but the required members that are
missing (`Component.violations_compose`).  No violation is lost, comes twice, or hides another one.

The schemas inside are used on their own as well: in them no name begins with a dollar sign, so what
they find does not depend on what stands around them (`Component.failures_eq`).
-/

namespace ConfigCheck

/-! ## Pointers -/

/-- A pointer is written token by token. -/
lemma Json.pointerText_append (tokens rest : List String) :
    Json.pointerText (tokens ++ rest) = Json.pointerText tokens ++ Json.pointerText rest := by
  unfold Json.pointerText
  rw [List.flatMap_append, String.ofList_append]

/-- A violation of a part of a document, as one of the whole document: `segment` leads to the part,
and `pointer` to the schema of the part. -/
def Violation.within (segment : Json.Segment) (pointer : String) (v : Violation) : Violation :=
  { v with instancePath := segment :: v.instancePath, schemaPath := pointer ++ v.schemaPath }

/-- The violation of an object in which a required member is missing. -/
def Violation.ofMissing (name : String) : Violation where
  instancePath := []
  category := .missingProperty
  message := (Schema.Complaint.required name).message
  missingProperty := some name
  schemaPath := "/required"

namespace Schema

/-! ## Categories -/

/-- A failure is decided inside the schema: it says where the rule stands, and its category is that
of what is wrong, or of a keyword. -/
structure Failure.IsDecided (f : Failure) : Prop where
  /-- It says where the rule stands. -/
  isTraced : f.complaint.isTraced = true
  /-- Its category is that of what is wrong, or of a keyword. -/
  hasCategory : f.complaint.category?.isSome = true ∨ f.rule ≠ []

/-- A complaint about a keyword is decided. -/
lemma Failure.isDecided_of_keyword {c : Complaint} (keyword : String) (hc : c.isTraced = true) :
    Failure.IsDecided ⟨[], [keyword], c⟩ :=
  ⟨hc, .inr (List.cons_ne_nil _ _)⟩

/-- Where keywords lead nowhere else, all failures are decided. -/
theorem decided_law : FailureLaw (fun k => k.isLocal = true) fun _ f => f.IsDecided where
  falseSchema _ := ⟨rfl, .inl rfl⟩
  assertion hrule hf := by
    obtain ⟨c, hc, rfl⟩ := Assertion.exists_complaint_of_mem_failures hrule hf
    exact Failure.isDecided_of_keyword _ hc
  own hc := Failure.isDecided_of_keyword _ (by cases hc <;> rfl)
  below tokens h :=
    ⟨h.isTraced, h.hasCategory.imp_right fun hne => List.append_ne_nil_of_right_ne_nil tokens hne⟩
  member _ h := ⟨h.isTraced, h.hasCategory⟩
  item _ h := ⟨h.isTraced, h.hasCategory⟩
  name _ h := ⟨h.isTraced, .inl rfl⟩

namespace Failure

variable {f : Failure} {tokens : List String}

/-- What stands around the schema does not change a category that is decided inside it. -/
lemma category_below (hf : f.IsDecided) : (f.below tokens).category = f.category := by
  unfold category below
  rcases hf.hasCategory with hsome | hne
  · obtain ⟨category, hcategory⟩ := Option.isSome_iff_exists.mp hsome
    rw [hcategory]
    rfl
  · rw [List.getLast?_append_of_ne_nil _ hne]

/-- A complaint that says where the rule stands says where it was found. -/
lemma isPlaced_of_isTraced {c : Complaint} (h : c.isTraced = true) : c.isPlaced = true := by
  cases c with
  | notText reason => cases h
  | _ => rfl

/-- A failure that says where the rule stands is reported as it is. -/
lemma reported_eq_self (hf : f.complaint.isTraced = true) : f.reported = f := by
  unfold reported
  rw [if_pos hf, if_pos (isPlaced_of_isTraced hf)]

/-- A failure that says where it was found is reported in its category. -/
lemma category_reported (hf : f.complaint.isPlaced = true) : f.reported.category = f.category := by
  cases hc : f.complaint with
  | propertyName inner =>
    unfold category reported
    dsimp only
    rw [hc]
    rfl
  | notText reason =>
    rw [hc] at hf
    cases hf
  | _ =>
    rw [reported_eq_self]
    rw [hc]
    rfl

/-- A failure in a part of a value is the violation of the part, seen from the value. -/
lemma toViolation_within {value part : Json} {token : String} {segment : Json.Segment}
    (hpart : ∀ rest, Json.typeTokens (some value) (token :: rest) =
      segment :: Json.typeTokens (some part) rest) (hf : f.IsDecided) :
    ((f.below tokens).inside token).toViolation value =
      (f.toViolation part).within segment (Json.pointerText tokens) := by
  have hpath : Json.resolvePointer (Json.pointerText (token :: f.place)) value =
      segment :: Json.resolvePointer (Json.pointerText f.place) part := by
    rw [Json.resolvePointer_pointerText, Json.resolvePointer_pointerText, hpart]
  have hcategory : ((f.below tokens).inside token).category = f.category := category_below hf
  have hrule : Json.pointerText (tokens ++ f.rule) =
      Json.pointerText tokens ++ Json.pointerText f.rule := Json.pointerText_append tokens f.rule
  have hreported : ((f.below tokens).inside token).reported = (f.below tokens).inside token :=
    reported_eq_self hf.isTraced
  unfold toViolation
  rw [hreported, reported_eq_self hf.isTraced, hcategory]
  unfold inside below Violation.within
  dsimp only
  rw [hpath, hrule]

end Failure

/-! ## Documents without identifiers -/

/-- The scope of a document of the latest draft that has no identifier. -/
def Scope.ofDocument : Scope := ⟨Uri.unnamed, [], .latest, .latest⟩

lemma Scope.isLatest_ofDocument : Scope.ofDocument.IsLatest := ⟨rfl, rfl⟩

/-- A document that names neither itself nor a draft is read in the scope for such documents. -/
lemma schema_of_ofJson {document : Json} {v : Validator} (h : Validator.ofJson document = .ok v)
    (hschema : textOf? document.members "$schema" = none)
    (hid : textOf? document.members "$id" = none) :
    v.schema = ofJson Scope.ofDocument document := by
  obtain ⟨draft, base, collection, husable, rfl⟩ := Validator.ofJson_eq_ok_iff.mp h
  have hdraft : draftOf document = .ok .latest := by
    unfold draftOf
    rw [Draft.detect_eq_ok hschema]
  cases hdraft.symm.trans husable.drafted
  have hbase : documentBase .latest document = .ok Uri.unnamed := by
    unfold documentBase
    rw [Draft.identifierOf?_eq_none hid]
  cases hbase.symm.trans husable.based
  rfl

/-- Only verdicts and objects are taken for schemas. -/
lemma isVerdictOrObject_of_ofJson {document : Json} {v : Validator}
    (h : Validator.ofJson document = .ok v) : IsVerdictOrObject document := by
  obtain ⟨draft, base, collection, husable, -⟩ := Validator.ofJson_eq_ok_iff.mp h
  cases document with
  | bool verdict => exact .inl ⟨verdict, rfl⟩
  | object members => exact .inr ⟨members, rfl⟩
  | _ => cases husable.withoutDefect

end Schema

/-! ## Components -/

/-- A schema in use in which no name begins with a dollar sign, at any depth. -/
structure Component where
  /-- The schema. -/
  source : Json
  /-- Its validator. -/
  validator : Validator
  /-- The schema is taken for one. -/
  compiles : Validator.ofJson source = .ok validator
  /-- No name in it begins with a dollar sign. -/
  isUnmarked : source.isUnmarked = true

namespace Component

open Schema (Scope)

variable (c : Component)

/-- What the schema of a component finds, wherever it stands. -/
def outcome (part : Json) : Schema.Outcome :=
  Schema.evaluate (fun _ _ => {}) (Schema.ofJson Scope.ofDocument c.source) part

lemma isLocal_of_occurs {k : Schema.Keyword}
    (hk : Schema.Occurs k (Schema.ofJson Scope.ofDocument c.source)) : k.isLocal = true :=
  Schema.isLocal_of_occurs Scope.isLatest_ofDocument ⟨c.source, c.isUnmarked, rfl⟩ hk

/-- A component finds the same wherever references lead. -/
lemma evaluate_eq (follow : Schema.Reference → Json → Schema.Outcome) (part : Json) :
    Schema.evaluate follow (Schema.ofJson Scope.ofDocument c.source) part = c.outcome part := by
  unfold outcome
  rw [Schema.evaluate_congr fun k hk => c.isLocal_of_occurs hk]

/-- On its own a component finds what it finds anywhere. -/
theorem failures_eq (part : Json) : c.validator.failures part = (c.outcome part).failures := by
  have hschema : c.validator.schema = Schema.ofJson Scope.ofDocument c.source :=
    Schema.schema_of_ofJson c.compiles
      (Schema.textOf?_eq_none_of_isUnmarked c.isUnmarked (by decide))
      (Schema.textOf?_eq_none_of_isUnmarked c.isUnmarked (by decide))
  rw [Validator.failures_eq_evaluate, hschema, evaluate_eq]

/-- On its own a component has the violations of what it finds anywhere. -/
lemma violations_eq_map (part : Json) : c.validator.violations part =
    (c.outcome part).failures.map (Schema.Failure.toViolation part) := by
  unfold Validator.violations
  rw [failures_eq]

/-- What a component finds is decided inside it. -/
lemma isDecided_of_mem {part : Json} {f : Schema.Failure} (hf : f ∈ (c.outcome part).failures) :
    f.IsDecided :=
  Schema.decided_law.meets_evaluate (fun _ hk => c.isLocal_of_occurs hk)
    (fun _ _ _ h => by cases h) part f hf

/-! ## Schemas made of components -/

/-- What is demanded of objects with required members, in which members are as components say. -/
def objectMembers (names : List String) (list : List (String × Component)) : Json.Members :=
  [("properties", .object (list.map fun m => (m.1, m.2.source))),
    ("required", .array (names.map .string)), ("type", .string "object")]

/-- The schema of objects with required members, in which members are as components say. -/
def objectSource (names : List String) (list : List (String × Component)) : Json :=
  .object (objectMembers names list)

/-- The schema of arrays in which all items are as a component says. -/
def itemsSource : Json := .object [("items", c.source)]

lemma ofJson_objectSource (names : List String) (list : List (String × Component)) :
    Schema.ofJson Scope.ofDocument (objectSource names list) = .keywords
      [.properties (list.map fun m => (m.1, Schema.ofJson Scope.ofDocument m.2.source)),
        .assertion "required" (.required names), .assertion "type" (.type false .object)] := by
  have hnamed : Schema.namedSchemasOf Scope.ofDocument (list.map fun m => (m.1, m.2.source)) =
      list.map fun m => (m.1, Schema.ofJson Scope.ofDocument m.2.source) := by
    rw [Schema.namedSchemasOf_eq_map, List.map_map]
    rfl
  unfold objectSource
  rw [Schema.ofJson, Scope.enter_eq_self rfl rfl,
    Schema.assemble_eq_flatMap Scope.isLatest_ofDocument]
  change Schema.keywords ([.properties (Schema.namedSchemasOf Scope.ofDocument _)] ++
    (Schema.plainKeywords Scope.ofDocument (objectMembers names list) "required"
      (.array (names.map .string)) ++ [.assertion "type" (.type false .object)])) = _
  rw [hnamed, Schema.plainKeywords_required]
  rfl

lemma ofJson_itemsSource :
    Schema.ofJson Scope.ofDocument c.itemsSource =
      .keywords [.items "items" 0 (Schema.ofJson Scope.ofDocument c.source)] := by
  have hsource := Schema.isVerdictOrObject_of_ofJson c.compiles
  unfold itemsSource
  rw [Schema.ofJson, Scope.enter_eq_self rfl rfl,
    Schema.assemble_eq_flatMap Scope.isLatest_ofDocument]
  change Schema.keywords (Schema.partKeywords _ _ _ "items" (Schema.partOf _ "items" c.source) ++
    []) = _
  rw [Scope.ofDocument, Schema.partOf_items hsource, Schema.partKeywords,
    Schema.schemaKeywords_items hsource rfl]
  rfl

/-- What a component finds in its member of an object, seen from the object. -/
def memberFailures (members : Json.Members) (name : String) : List Schema.Failure :=
  match Json.Members.get? members name with
  | some w => (c.outcome w).failures.map fun f => (f.below ["properties", name]).inside name
  | none => []

/-- Wherever references lead, the schemas of listed members find what the components find. -/
lemma failures_ofNames (follow : Schema.Reference → Json → Schema.Outcome)
    (list : List (String × Component)) (members : Json.Members) :
    ((Schema.ofNames follow (list.map fun m => (m.1, Schema.ofJson Scope.ofDocument m.2.source))
      members).flatMap fun o => o.2.failures) =
        list.flatMap fun m => m.2.memberFailures members m.1 := by
  induction list with
  | nil =>
    rw [List.map_nil, Schema.ofNames]
    rfl
  | cons m rest ih =>
    rw [List.map_cons, Schema.ofNames, List.flatMap_cons, ← ih, memberFailures]
    cases Json.Members.get? members m.1 with
    | none => rfl
    | some w =>
      dsimp only
      rw [List.flatMap_cons, evaluate_eq, Schema.Outcome.ofMember, Schema.Outcome.failures_inside,
        Schema.Outcome.failures_below, List.map_map]
      rfl

/-- The failures of an object are those of its members, and then the missing members. -/
lemma failures_objectSource {names : List String} {list : List (String × Component)}
    {v : Validator} (hv : Validator.ofJson (objectSource names list) = .ok v)
    (members : Json.Members) :
    v.failures (.object members) =
      (list.flatMap fun m => m.2.memberFailures members m.1) ++
        (Schema.Assertion.missing names members).map fun name =>
          ⟨[], ["required"], .required name⟩ := by
  have hrequired : (Schema.Assertion.required names).failures "required" (.object members) =
      (Schema.Assertion.missing names members).map fun name =>
        ⟨[], ["required"], .required name⟩ := by
    unfold Schema.Assertion.failures
    dsimp only
    rw [List.map_map]
    rfl
  have htype : (Schema.Assertion.type false .object).failures "type" (.object members) = [] := rfl
  rw [Validator.failures_eq_evaluate, Schema.schema_of_ofJson hv rfl rfl, ofJson_objectSource,
    Schema.evaluate, Schema.Outcome.failures_ofFindings, Schema.findings_eq_map]
  simp only [List.map_cons, List.map_nil, List.flatMap_cons, List.flatMap_nil, Schema.finding,
    Schema.Finding.failures_settle_settled, Schema.Outcome.failures_ofMembers,
    Schema.Outcome.failures_ofFailures, hrequired, htype, List.append_nil]
  exact congrArg (· ++ _) (failures_ofNames _ list members)

/-- The failures of an array are those of its items, each seen from the array. -/
lemma failures_itemsSource {v : Validator} (hv : Validator.ofJson c.itemsSource = .ok v)
    (items : List Json) :
    v.failures (.array items) = items.zipIdx.flatMap fun (w, i) =>
      (c.outcome w).failures.map fun f => (f.below ["items"]).inside (toString i) := by
  rw [Validator.failures_eq_evaluate, Schema.schema_of_ofJson hv rfl rfl, ofJson_itemsSource,
    Schema.evaluate, Schema.Outcome.failures_ofFindings, Schema.findings_eq_map]
  simp only [List.map_cons, List.map_nil, List.flatMap_cons, List.flatMap_nil, Schema.finding,
    Schema.Finding.failures_settle_settled, Schema.Outcome.failures_withPositions,
    Schema.Outcome.failures_join, List.append_nil, evaluate_eq, Schema.itemsFrom, List.drop_zero,
    Schema.Finding.itemsOf_array, List.flatMap_map]
  exact List.flatMap_congr fun item _ => List.map_map

/-! ## Violations -/

/-- The violations that a component finds in its member of an object, seen from the object. -/
lemma map_memberFailures (members : Json.Members) (name : String) :
    (c.memberFailures members name).map (Schema.Failure.toViolation (.object members)) =
      match Json.Members.get? members name with
      | some w => (c.validator.violations w).map <|
          Violation.within (.key name) ("/properties/" ++ String.ofList (Json.escapeToken name))
      | none => [] := by
  have hpointer : Json.pointerText ["properties", name] =
      "/properties/" ++ String.ofList (Json.escapeToken name) := by
    have hchars : (["properties", name].flatMap fun t => '/' :: Json.escapeToken t) =
        "/properties/".toList ++ Json.escapeToken name := by
      rw [List.flatMap_cons, List.flatMap_singleton]
      rfl
    rw [Json.pointerText, hchars, String.ofList_append, String.ofList_toList]
  unfold memberFailures
  split
  · rename_i w hw
    rw [violations_eq_map, List.map_map, List.map_map]
    refine List.map_congr_left fun f hf => ?_
    rw [← hpointer]
    exact Schema.Failure.toViolation_within (fun rest => Json.typeTokens_member hw rest)
      (c.isDecided_of_mem hf)
  · rfl

/-- The violations of an object are those that the components find in its members, each seen from
the object, and one for each required member that is missing.  The violations of an array, which
has no more items than there are indices, are those that a component finds in its items, each seen
from the array. -/
theorem violations_compose :
    (∀ (names : List String) (list : List (String × Component)) (v : Validator),
      Validator.ofJson (objectSource names list) = .ok v → ∀ members : Json.Members,
        v.violations (.object members) =
          (list.flatMap fun (name, c) =>
            match Json.Members.get? members name with
            | some w => (c.validator.violations w).map <|
                Violation.within (.key name)
                  ("/properties/" ++ String.ofList (Json.escapeToken name))
            | none => []) ++
          (names.filter fun name => !Json.Members.has members name).map Violation.ofMissing) ∧
    ∀ (c : Component) (v : Validator), Validator.ofJson c.itemsSource = .ok v →
      ∀ items : List Json, items.length ≤ Json.indexLimit →
        v.violations (.array items) = items.zipIdx.flatMap fun (w, i) =>
          (c.validator.violations w).map (Violation.within (.index i) "/items") := by
  constructor
  · intro names list v hv members
    rw [Validator.violations, failures_objectSource hv, List.map_append, List.map_flatMap,
      List.map_map]
    refine congrArg₂ (· ++ ·) ?_ ?_
    · exact List.flatMap_congr fun m _ => m.2.map_memberFailures members m.1
    · exact List.map_congr_left fun name _ => rfl
  · intro c v hv items hlength
    rw [Validator.violations, failures_itemsSource c hv, List.map_flatMap]
    refine List.flatMap_congr fun item hitem => ?_
    obtain ⟨w, i⟩ := item
    have hget : items[i]? = some w := List.mem_zipIdx_iff_getElem?.mp hitem
    obtain ⟨hi, -⟩ := List.getElem?_eq_some_iff.mp hget
    dsimp only
    rw [violations_eq_map, List.map_map, List.map_map]
    refine List.map_congr_left fun f hf => ?_
    exact Schema.Failure.toViolation_within
      (fun rest => Json.typeTokens_item hget (Nat.lt_of_lt_of_le hi hlength) rest)
      (c.isDecided_of_mem hf)

/-- The component for integers. -/
def integers : Component where
  source := (Shape.clauses [.type .integer]).toJson
  validator := (Shape.clauses [.type .integer]).validator
  compiles := Shape.ofJson_toJson_eq_ok (.type .integer)
  isUnmarked := by decide

/-- Integers in a member and in an array: the member that is none comes before the one that is
missing, and an item that is none is found at its index. -/
theorem violations_integers :
    (∃ v, Validator.ofJson (objectSource ["host"] [("port", integers)]) = .ok v ∧
      (v.violations (.object [("port", .null)])).map (fun w => (w.instancePath, w.schemaPath)) =
        [([.key "port"], "/properties/port/type"), ([], "/required")]) ∧
    ∃ v, Validator.ofJson integers.itemsSource = .ok v ∧
      (v.violations (.array [.number (.int 1), .null])).map
        (fun w => (w.instancePath, w.schemaPath)) = [([.index 1], "/items/type")] := by
  have hintegers : (Shape.clauses [.type .integer]).WellFormed := .type .integer
  have hmembers : (Shape.clauses [.properties [("port", .clauses [.type .integer])],
      .required ["host"], .type .object]).WellFormed := by
    refine .clauses (by decide) (by simp [Clause.IsProper]) ?_
    simp [Clause.shapes, hintegers]
  have hlist : (Shape.clauses [.items (.clauses [.type .integer])]).WellFormed := by
    refine .clauses (by decide) (by simp [Clause.IsProper]) ?_
    simp [Clause.shapes, hintegers]
  have hobject : Validator.ofJson (objectSource ["host"] [("port", integers)]) = .ok _ :=
    Shape.ofJson_toJson_eq_ok hmembers
  have hitems : Validator.ofJson integers.itemsSource = .ok _ := Shape.ofJson_toJson_eq_ok hlist
  refine ⟨⟨_, hobject, ?_⟩, _, hitems, ?_⟩
  · rw [violations_compose.1 _ _ _ hobject]
    simp only [violations_eq_map, List.flatMap_cons]
    decide
  · rw [violations_compose.2 _ _ hitems _ (by decide)]
    simp only [violations_eq_map]
    decide

end Component

end ConfigCheck
