import ConfigCheck.Proofs.Json.OneLine
import ConfigCheck.Proofs.Report.Diagnostic
import ConfigCheck.Proofs.Schema.Composition
import ConfigCheck.Proofs.Schema.Location
import ConfigCheck.Proofs.Shape.Around

/-!
# Diagnostics of one line

The message of a diagnostic is one line exactly if the texts in it are that are shown as they are:
the segments of the location, the pattern that a string does not match, and the names of members
that should not be there (`Failure.isOneLine_line`).  All else is written as a value, in which line
ends are escaped.  So only a name in the document, the name of a missing member, or a pattern of the
schema can break the line (`Validator.isOneLine_line_iff`).
-/

namespace ConfigCheck

namespace Schema

/-! ## Messages -/

namespace Complaint

/-- The texts that a complaint shows as they are, and not as values. -/
def bareTexts : Complaint → List String
  | pattern _ p => [p]
  | format _ f => [f]
  | additionalProperties names | unevaluatedProperties names => names
  | propertyName inner => inner.bareTexts
  | contentEncoding _ text | contentMediaType _ text | notText text => [text]
  | _ => []

lemma toString_text (s : String) : toString s = s := rfl

lemma isOneLine_plural (count : ℕ) {one many : String} (hone : isOneLine one = true)
    (hmany : isOneLine many = true) : isOneLine (plural count one many) = true := by
  unfold plural
  split
  · exact hone
  · exact hmany

/-- A count with its noun is one line. -/
lemma isOneLine_counted (count : ℕ) {one many : String} (hone : isOneLine one = true)
    (hmany : isOneLine many = true) : isOneLine (counted count one many) = true := by
  have hblank : isOneLine " " = true := isOneLine_of_all rfl
  unfold counted
  rw [isOneLine_append, isOneLine_append, isOneLine_plural count hone hmany, toString_text,
    isOneLine_toString, hblank]
  rfl

/-- A list in words is one line exactly if its parts are. -/
lemma isOneLine_wasUnexpected (parts : List String) :
    isOneLine (wasUnexpected parts) = parts.all isOneLine := by
  have hcomma : isOneLine ", " = true := isOneLine_of_all rfl
  have hverb : isOneLine (plural parts.length " was" " were") = true :=
    isOneLine_plural _ (by decide) (by decide)
  have hunexpected : isOneLine " unexpected" = true := isOneLine_of_all rfl
  unfold wasUnexpected
  rw [isOneLine_append, isOneLine_append, isOneLine_intercalate hcomma, hverb, hunexpected,
    Bool.and_true, Bool.and_true]

lemma isOneLine_singleQuoted (s : String) : isOneLine (singleQuoted s) = isOneLine s := by
  have hquote : isOneLine "'" = true := isOneLine_of_all rfl
  unfold singleQuoted
  rw [isOneLine_append, isOneLine_append, hquote, Bool.true_and, Bool.and_true]

lemma isOneLine_name (t : ValueType) : isOneLine t.name = true := by
  cases t <;> decide

/-- Members and items that should not be there are named in one line exactly if each of them is. -/
lemma isOneLine_unexpected {front : String} (hfront : isOneLine front = true)
    (parts : List String) : isOneLine (front ++ wasUnexpected parts ++ ")") =
      parts.all isOneLine := by
  have hbracket : isOneLine ")" = true := isOneLine_of_all rfl
  rw [isOneLine_append, isOneLine_append, isOneLine_wasUnexpected, hfront, hbracket, Bool.true_and,
    Bool.and_true]

/-- A message with a text between double quotes is one line exactly if the text is. -/
lemma isOneLine_quoting (v : Json) {front behind : String} (hfront : isOneLine front = true)
    (hbehind : isOneLine behind = true) (text : String) :
    isOneLine (v.compact ++ front ++ text ++ behind) = isOneLine text := by
  rw [isOneLine_append, isOneLine_append, isOneLine_append, Json.isOneLine_compact, hfront, hbehind,
    Bool.true_and, Bool.true_and, Bool.and_true]

section

attribute [local simp] toString_text isOneLine_append Json.isOneLine_compact Number.isOneLine_write
  Notation.isOneLine_write isOneLine_name

/-- A message is one line exactly if the texts are that it shows as they are. -/
theorem isOneLine_message (c : Complaint) :
    isOneLine c.message = c.bareTexts.all isOneLine := by
  induction c with
  | falseSchema v | const v | type v t | uniqueItems v | contains v | anyOf v | oneOfNone v
  | oneOfMany v | enum v options | minimum v n | maximum v n | exclusiveMinimum v n
  | exclusiveMaximum v n | multipleOf v n | not v s | required name =>
    unfold message bareTexts
    simp
    and_intros <;> exact isOneLine_of_all rfl
  | types v ts =>
    have hnames : isOneLine (", ".intercalate (ts.map fun t => "\"" ++ t.name ++ "\"")) = true := by
      rw [isOneLine_intercalate (by decide), List.all_map, List.all_eq_true]
      intro t _
      simp
      exact isOneLine_of_all rfl
    unfold message bareTexts
    simp [hnames]
    exact isOneLine_of_all rfl
  | minLength v n | maxLength v n =>
    have hcount : isOneLine (counted n "character" "characters") = true :=
      isOneLine_counted n (by decide) (by decide)
    unfold message bareTexts
    simp [hcount]
    exact isOneLine_of_all rfl
  | minItems v n | maxItems v n =>
    have hcount : isOneLine (counted n "item" "items") = true :=
      isOneLine_counted n (by decide) (by decide)
    unfold message bareTexts
    simp [hcount]
    exact isOneLine_of_all rfl
  | minProperties v n | maxProperties v n =>
    have hcount : isOneLine (counted n "property" "properties") = true :=
      isOneLine_counted n (by decide) (by decide)
    unfold message bareTexts
    simp [hcount]
    exact isOneLine_of_all rfl
  | pattern v text | format v text | contentEncoding v text | contentMediaType v text =>
    unfold message bareTexts
    rw [List.all_cons, List.all_nil, Bool.and_true]
    exact isOneLine_quoting v (isOneLine_of_all rfl) (isOneLine_of_all rfl) text
  | additionalItems items =>
    have hitems : (items.map Json.compact).all isOneLine = true := by
      simp
    unfold message bareTexts
    exact (isOneLine_unexpected (isOneLine_of_all rfl) _).trans hitems
  | unevaluatedItems items =>
    have hitems : (items.map fun v => singleQuoted v.compact).all isOneLine = true := by
      simp [isOneLine_singleQuoted]
    unfold message bareTexts
    exact (isOneLine_unexpected (isOneLine_of_all rfl) _).trans hitems
  | additionalProperties names | unevaluatedProperties names =>
    have hnames : (names.map singleQuoted).all isOneLine = names.all isOneLine := by
      rw [List.all_map]
      exact congrArg names.all (funext isOneLine_singleQuoted)
    unfold message bareTexts
    exact (isOneLine_unexpected (isOneLine_of_all rfl) _).trans hnames
  | propertyName inner ih => exact ih
  | patternLimit cause => cases cause <;> exact isOneLine_of_all rfl
  | notText reason => exact (Bool.and_true _).symm
  | unknownType => exact isOneLine_of_all rfl

end

/-- The pattern that a string does not match. -/
def pattern? : Complaint → Option String
  | pattern _ p => some p
  | propertyName inner => inner.pattern?
  | _ => none

/-- If a text breaks the message, then as a pattern. -/
def BreaksByPattern (c : Complaint) : Prop :=
  ∀ text ∈ c.bareTexts, isOneLine text = false → c.pattern? = some text

/-- A complaint that shows one text, which is one line, breaks no message. -/
lemma breaksByPattern_of_singleton {c : Complaint} {text : String} (hc : c.bareTexts = [text])
    (htext : isOneLine text = true) : c.BreaksByPattern := by
  intro shown hshown hbroken
  rw [hc] at hshown
  cases List.mem_singleton.mp hshown
  rw [htext] at hbroken
  cases hbroken

end Complaint

/-! ## Rules -/

lemma isOneLine_faultMessage (bytes : List UInt8) : isOneLine (Utf8.faultMessage bytes) = true := by
  unfold Utf8.faultMessage
  split
  · simp only [isOneLine_append, Complaint.toString_text, isOneLine_toString, Bool.and_true]
    exact isOneLine_of_all rfl
  · simp only [isOneLine_append, Complaint.toString_text, isOneLine_toString, Bool.and_true]
    exact isOneLine_of_all rfl
  · rfl

/-- Only the pattern of a rule breaks a message about it. -/
lemma Assertion.breaksByPattern_of_mem_failures {rule : Assertion} {keyword : String} {v : Json}
    {f : Failure} (hf : f ∈ rule.failures keyword v) : f.complaint.BreaksByPattern := by
  have hsilent : ∀ {c : Complaint}, c.bareTexts = [] → c.BreaksByPattern := by
    intro c hc text htext
    rw [hc] at htext
    cases htext
  have hdemand : ∀ {holds : Bool} {c : Complaint}, c.BreaksByPattern →
      f ∈ (demand holds c).map (fun c => (⟨[], [keyword], c⟩ : Failure)) →
        f.complaint.BreaksByPattern := by
    intro holds c hc hmem
    obtain ⟨other, hother, rfl⟩ := List.mem_map.mp hmem
    rw [eq_of_mem_demand hother]
    exact hc
  have hmissing : ∀ names : List String,
      f ∈ (names.map Complaint.required).map (fun c => (⟨[], [keyword], c⟩ : Failure)) →
        f.complaint.BreaksByPattern := by
    intro names hmem
    rw [List.map_map] at hmem
    obtain ⟨name, -, rfl⟩ := List.mem_map.mp hmem
    exact hsilent rfl
  have hencoding : ∀ w, (Complaint.contentEncoding w knownEncoding).BreaksByPattern := fun w =>
    Complaint.breaksByPattern_of_singleton rfl (by decide)
  have hmedia : ∀ w, (Complaint.contentMediaType w knownMediaType).BreaksByPattern := fun w =>
    Complaint.breaksByPattern_of_singleton rfl (by decide)
  unfold failures at hf
  dsimp only at hf
  split at hf
  case h_1 =>
    cases List.mem_singleton.mp hf
    exact hsilent rfl
  case h_13 =>
    split at hf
    · refine hdemand (fun text htext _ => ?_) hf
      cases List.mem_singleton.mp htext
      rfl
    · cases List.mem_singleton.mp hf
      exact hsilent rfl
  case h_14 format s =>
    refine hdemand (Complaint.breaksByPattern_of_singleton rfl ?_) hf
    cases format <;> decide
  case h_19 => exact hmissing _ hf
  case h_20 =>
    split at hf
    · exact hmissing _ hf
    · cases hf
  case h_23 => exact hdemand (hencoding _) hf
  case h_24 => exact hdemand (hmedia _) hf
  case h_25 =>
    split at hf
    · cases List.mem_singleton.mp hf
      exact hencoding _
    · split at hf
      · cases List.mem_singleton.mp hf
        exact Complaint.breaksByPattern_of_singleton rfl (isOneLine_faultMessage _)
      · cases List.mem_singleton.mp (List.mem_filter.mp hf).1
        exact hmedia _
  case h_26 => cases hf
  all_goals exact hdemand (hsilent rfl) hf

/-! ## Failures -/

/-- If a text breaks the message of a failure, then as a pattern or as the name of a member of the
object that it is about. -/
def Failure.BreaksByName (value : Json) (f : Failure) : Prop :=
  ∀ text ∈ f.complaint.bareTexts, isOneLine text = false → f.complaint.pattern? = some text ∨
    ∃ members, value.walk? (Json.typeTokens (some value) f.place) = some (.object members) ∧
      text ∈ members.map Prod.fst

/-- Tokens lead from a text to no object. -/
lemma walk?_string_ne (s : String) (tokens : List String) (members : Json.Members) :
    (Json.string s).walk? (Json.typeTokens (some (.string s)) tokens) ≠
      some (.object members) := by
  cases tokens with
  | nil =>
    intro h
    cases h
  | cons token rest =>
    intro h
    cases h

/-- Only patterns and names of members break messages. -/
theorem breaksByName_law : FailureLaw (fun _ => True)
    fun v f => v.isWellFormed = true → f.BreaksByName v where
  falseSchema v _ := fun text htext => by cases htext
  assertion _ hf _ := fun text htext hbroken =>
    .inl (Assertion.breaksByPattern_of_mem_failures hf text htext hbroken)
  own := by
    intro v keyword c hc _ text htext _
    have hname : ∀ names : List String, names ⊆ v.members.map Prod.fst → text ∈ names →
        ∃ members, v.walk? (Json.typeTokens (some v) []) = some (.object members) ∧
          text ∈ members.map Prod.fst := by
      intro names hnames hmem
      obtain ⟨⟨name, w⟩, hm, rfl⟩ := List.mem_map.mp (hnames hmem)
      obtain ⟨members, rfl, hm⟩ := mem_members hm
      exact ⟨members, rfl, List.mem_map_of_mem hm⟩
    cases hc with
    | additionalProperties hnames | unevaluatedProperties hnames =>
      exact .inr (hname _ hnames htext)
    | _ => cases htext
  below _ h := h
  member := by
    intro members name w f hmem h hformed text htext hbroken
    have hw := (Json.isWellFormed_object.mp hformed).2 (name, w) hmem
    rcases h hw text htext hbroken with hpattern | ⟨inner, hwalk, hname⟩
    · exact .inl hpattern
    · exact .inr ⟨inner, Json.walk?_typeTokens_member hformed hmem hwalk, hname⟩
  item := by
    intro items i w f hitem h hformed text htext hbroken
    have hw := (Json.isWellFormed_array.mp hformed).2 w (List.mem_of_getElem? hitem)
    rcases h hw text htext hbroken with hpattern | ⟨inner, hwalk, hname⟩
    · exact .inl hpattern
    · exact .inr ⟨inner, Json.walk?_typeTokens_item hformed hitem hwalk, hname⟩
  name := by
    intro members name w f _ h _ text htext hbroken
    rcases h rfl text htext hbroken with hpattern | ⟨inner, hwalk, -⟩
    · exact .inl hpattern
    · exact absurd hwalk (walk?_string_ne name f.place inner)

end Schema

/-! ## Lines -/

/-- A location is one line exactly if the texts of its segments are. -/
lemma isOneLine_renderLocation (path : List Json.Segment) :
    isOneLine (renderLocation path) = (path.map Json.Segment.text).all isOneLine := by
  rw [renderLocation_eq, isOneLine_intercalate (by decide)]
  rfl

/-- Full stops do not end a line. -/
lemma isOneLine_dropStops (s : String) : isOneLine (Violation.dropStops s) = isOneLine s := by
  obtain ⟨n, hs⟩ := Violation.exists_eq_dropStops_append s
  have hstops : isOneLine (stops n) = true := by
    rw [stops, isOneLine_ofList, List.all_eq_true]
    intro c hc
    rw [List.eq_of_mem_replicate hc]
    rfl
  calc
    isOneLine (Violation.dropStops s) = isOneLine (Violation.dropStops s ++ stops n) := by
      rw [isOneLine_append, hstops, Bool.and_true]
    _ = isOneLine s := by rw [← hs]

namespace Schema

/-- The texts that a diagnostic shows as they are: those of the segments of its location, and those
in its complaint. -/
def Failure.shownTexts (document : Json) (f : Failure) : List String :=
  (f.toViolation document).segments.map Json.Segment.text ++ f.complaint.bareTexts

/-- The message of a diagnostic is one line exactly if the texts are that it shows as they are. -/
theorem Failure.isOneLine_line (document : Json) (f : Failure) :
    isOneLine (f.toViolation document).line = (f.shownTexts document).all isOneLine := by
  have hquote : isOneLine "\"" = true := isOneLine_of_all rfl
  have hlocation : isOneLine (f.toViolation document).location =
      ((f.toViolation document).segments.map Json.Segment.text).all isOneLine :=
    isOneLine_renderLocation _
  have hmessage : isOneLine (Violation.dropStops (f.toViolation document).message) =
      f.complaint.bareTexts.all isOneLine := by
    rw [isOneLine_dropStops]
    exact f.complaint.isOneLine_message
  rw [shownTexts, List.all_append, ← hlocation]
  unfold Violation.line
  split
  · -- What is missing is shown as a segment, and the complaint shows nothing.
    rename_i hmissing
    obtain ⟨name, hname⟩ := Option.isSome_iff_exists.mp hmissing
    have hnothing : f.complaint.bareTexts = [] := by
      cases hc : f.complaint with
      | required other => rfl
      | _ =>
        change f.complaint.missing? = some name at hname
        rw [hc] at hname
        cases hname
    have hbehind : isOneLine "\" is missing." = true := isOneLine_of_all rfl
    simp only [isOneLine_append, Complaint.toString_text, hquote, hbehind, hnothing, List.all_nil,
      Bool.true_and]
  · have hbetween : isOneLine "\" " = true := isOneLine_of_all rfl
    have hbehind : isOneLine "." = true := isOneLine_of_all rfl
    simp only [isOneLine_append, Complaint.toString_text, hquote, hbetween, hbehind, hmessage,
      Bool.true_and, Bool.and_true]

end Schema

/-- A text is the name of a member of some object inside a value. -/
def Json.HasName (value : Json) (text : String) : Prop :=
  ∃ path members, value.walk? path = some (.object members) ∧ text ∈ members.map Prod.fst

/-- A segment that is not one line is a name on the path, or that of the missing member: indices are
written in digits. -/
lemma Violation.hasName_of_mem_segments {violation : Violation} {document last : Json}
    (hwalk : document.walk? violation.instancePath = some last) {segment : Json.Segment}
    (hsegment : segment ∈ violation.segments) (hbroken : isOneLine segment.text = false) :
    document.HasName segment.text ∨ violation.missingProperty = some segment.text := by
  rw [segments, List.mem_append] at hsegment
  rcases hsegment with hpath | hmissing
  · obtain ⟨before, after, hsplit⟩ := List.append_of_mem hpath
    rw [hsplit] at hwalk
    obtain ⟨node, hnode, htaken⟩ := Json.takenAt_of_walk? hwalk
    cases segment with
    | key name =>
      obtain ⟨members, rfl, hname⟩ := htaken
      exact .inl ⟨before, members, hnode, hname⟩
    | index i =>
      rw [Json.Segment.text, isOneLine_toString] at hbroken
      cases hbroken
  · obtain ⟨name, hname, rfl⟩ := Option.map_eq_some_iff.mp (Option.mem_toList.mp hmissing)
    exact .inr hname

/-- The message of a diagnostic is one line exactly if the texts are that it shows as they are, and
a text that is not is the name of a member in the document, the name of the missing member, or the
pattern that a string does not match. -/
theorem Validator.isOneLine_line_iff {v : Validator} {document : Json} {violation : Violation}
    (hdocument : document.isWellFormed = true) (h : violation ∈ v.violations document) :
    ∃ f ∈ v.failures document, violation = f.toViolation document ∧
      (isOneLine violation.line = true ↔
        ∀ text ∈ f.shownTexts document, isOneLine text = true) ∧
      ∀ text ∈ f.shownTexts document, isOneLine text = false →
        document.HasName text ∨ violation.missingProperty = some text ∨
          f.complaint.pattern? = some text := by
  obtain ⟨last, hlast⟩ := walk?_instancePath_isSome hdocument h
  obtain ⟨f, hf, rfl⟩ := List.mem_map.mp h
  refine ⟨f, hf, rfl, ?_, ?_⟩
  · rw [f.isOneLine_line, List.all_eq_true]
  · intro text htext hbroken
    rw [Schema.Failure.shownTexts, List.mem_append] at htext
    rcases htext with hsegment | hbare
    · obtain ⟨segment, hmem, rfl⟩ := List.mem_map.mp hsegment
      have hsource := Violation.hasName_of_mem_segments hlast hmem hbroken
      exact hsource.imp_right .inl
    · have hlaw := Schema.breaksByName_law.of_mem_failures hf hdocument text hbare hbroken
      rcases hlaw with hpattern | ⟨members, hwalk, hname⟩
      · exact .inr (.inr hpattern)
      · exact .inl ⟨_, members, hwalk, hname⟩

/-- The component for objects of texts. -/
def Component.textMembers : Component where
  source := .object [("additionalProperties", (Shape.clauses [.type .string]).toJson)]
  validator :=
    ⟨.keywords [.members [] [] (Shape.clauses [.type .string]).toSchema],
      Schema.MetaSchema.registry.insert Uri.unnamed
        ⟨.object [("additionalProperties", (Shape.clauses [.type .string]).toJson)], .latest⟩⟩
  compiles := by
    have hsurrounds : ∀ m ∈ [("additionalProperties", (Shape.clauses [.type .string]).toJson)],
        Shape.Surrounds m.1 m.2 :=
      List.forall_mem_singleton.mpr (.others (.type .string))
    apply Shape.ofJson_object_eq_ok hsurrounds (by simp)
    intro visit
    have htext : Schema.Passes visit (Shape.clauses [.type .string]).toSchema :=
      Shape.passes_toSchema (.type .string)
    change Schema.Passes visit (.keywords [.members [] [] (Shape.clauses [.type .string]).toSchema])
    refine Schema.passes_keywords (List.forall_mem_singleton.mpr fun seen => ?_) rfl
    simp only [Schema.searchKeyword, Schema.searchPatterns, Schema.searchNamed]
    exact htext seen
  isUnmarked := by decide

/-- A value with a name of three lines. -/
def Json.withLongName : Json := .object [("a\nOK: b.json\n", .number (.int 1))]

namespace Component

/-- There is one violation in the value with the long name, and the name stands in its line. -/
lemma lines_withLongName :
    (textMembers.validator.violations .withLongName).map Violation.line =
      ["\"$.a\nOK: b.json\n\" 1 is not of type \"string\"."] := by
  rw [violations_eq_map]
  decide +kernel

/-- The line about the member with the long name is broken by a name in the value. -/
theorem hasName_withLongName :
    Json.withLongName.isWellFormed = true ∧
      ∃ violation ∈ textMembers.validator.violations .withLongName,
        ∃ f ∈ textMembers.validator.failures .withLongName,
          violation = f.toViolation .withLongName ∧
            ∃ text ∈ f.shownTexts .withLongName, isOneLine text = false ∧
              (Json.withLongName.HasName text ∨ violation.missingProperty = some text ∨
                f.complaint.pattern? = some text) := by
  have hdocument : Json.withLongName.isWellFormed = true := by decide +kernel
  obtain ⟨violation, hmem, hline⟩ :=
    List.mem_map.mp (lines_withLongName ▸ List.mem_singleton_self _)
  obtain ⟨f, hf, hviolation, hiff, hsource⟩ := Validator.isOneLine_line_iff hdocument hmem
  have hbroken : ¬ isOneLine violation.line = true := by
    rw [hline]
    decide +kernel
  rw [hiff] at hbroken
  push Not at hbroken
  obtain ⟨text, htext, hbreaks⟩ := hbroken
  rw [ne_eq, Bool.not_eq_true] at hbreaks
  exact ⟨hdocument, violation, hmem, f, hf, hviolation, text, htext, hbreaks,
    hsource text htext hbreaks⟩

/-- The long name breaks the message about it into three lines, one of which looks as if a file had
passed. -/
theorem not_isOneLine_line :
    Validator.ofJson textMembers.source = .ok textMembers.validator ∧
      ∃ violation ∈ textMembers.validator.violations .withLongName,
        violation.line = "\"$.a\nOK: b.json\n\" 1 is not of type \"string\"." ∧
          isOneLine violation.line = false := by
  obtain ⟨violation, hmem, hline⟩ :=
    List.mem_map.mp (lines_withLongName ▸ List.mem_singleton_self _)
  refine ⟨textMembers.compiles, violation, hmem, hline, ?_⟩
  rw [hline]
  decide +kernel

end Component

end ConfigCheck
