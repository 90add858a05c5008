import ConfigCheck.Proofs.Report.Location
import Mathlib.Data.List.DropRight

/-!
# Diagnostics

The parts of a diagnostic agree with each other and with the violation that it is made from: its
location is that of its segments, and its message begins with the location in quotes and ends in one
full stop, whatever full stops there are at the end of the text of the violation
(`Violation.toDiagnostic_agrees`).
-/

namespace ConfigCheck

/-- A text of full stops. -/
def stops (n : ℕ) : String := String.ofList (List.replicate n '.')

/-- A text has one full stop at its end, and no other one before it. -/
def EndsInOneStop (s : String) : Prop :=
  ∃ start : String, s = start ++ "." ∧ start.toList.getLast? ≠ some '.'

namespace Violation

/-- Full stops are dropped from the end of a text. -/
lemma toList_dropStops (s : String) : (dropStops s).toList = s.toList.rdropWhile (· == '.') := by
  rw [dropStops, String.toList_ofList]
  rfl

/-- Nothing but full stops is dropped. -/
lemma exists_eq_dropStops_append (s : String) : ∃ n, s = dropStops s ++ stops n := by
  have hdropped : s.toList.rtakeWhile (· == '.') =
      List.replicate (s.toList.rtakeWhile (· == '.')).length '.' := by
    rw [List.eq_replicate_iff]
    refine ⟨rfl, ?_⟩
    intro c hc
    exact beq_iff_eq.mp (List.mem_rtakeWhile_imp (p := fun c : Char => c == '.') hc)
  refine ⟨(s.toList.rtakeWhile (· == '.')).length, String.toList_injective ?_⟩
  rw [String.toList_append, toList_dropStops, stops, String.toList_ofList, ← hdropped,
    List.rdropWhile_append_rtakeWhile]

/-- No full stop is left at the end. -/
lemma getLast?_dropStops (s : String) : (dropStops s).toList.getLast? ≠ some '.' := by
  intro h
  rw [toList_dropStops] at h
  have hne : s.toList.rdropWhile (· == '.') ≠ [] := by
    intro hempty
    rw [hempty] at h
    cases h
  have hlast := List.rdropWhile_last_not (fun c : Char => c == '.') s.toList hne
  rw [List.getLast?_eq_some_getLast hne, Option.some.injEq] at h
  rw [h] at hlast
  exact hlast rfl

/-- How many full stops there are at the end does not matter. -/
lemma dropStops_append_stops (s : String) (n : ℕ) : dropStops (s ++ stops n) = dropStops s := by
  apply String.toList_injective
  rw [toList_dropStops, toList_dropStops, String.toList_append, stops, String.toList_ofList]
  induction n with
  | zero => rw [List.replicate_zero, List.append_nil]
  | succ n ih =>
    rw [List.replicate_succ', ← List.append_assoc, List.rdropWhile_concat_pos _ _ _ rfl, ih]

/-- What a message says between the location and the full stop. -/
def remark (v : Violation) : String :=
  if v.missingProperty.isSome then "is missing" else dropStops v.message

/-- A message is the location in quotes, the remark and a full stop. -/
lemma line_eq (v : Violation) : v.line = "\"" ++ v.location ++ "\" " ++ v.remark ++ "." := by
  unfold line remark
  cases v.missingProperty with
  | none => rfl
  | some name =>
    apply String.toList_injective
    simp [toString]

/-- A remark does not end in a full stop. -/
lemma getLast?_remark (v : Violation) : v.remark.toList.getLast? ≠ some '.' := by
  unfold remark
  split
  · decide
  · exact getLast?_dropStops v.message

/-- A message has one full stop at its end, also if the remark is empty. -/
lemma endsInOneStop_line (v : Violation) : EndsInOneStop v.line := by
  refine ⟨"\"" ++ v.location ++ "\" " ++ v.remark, line_eq v, ?_⟩
  rw [String.toList_append, List.getLast?_append]
  intro h
  rcases Option.or_eq_some_iff.mp h with hremark | ⟨-, hspace⟩
  · exact getLast?_remark v hremark
  · rw [String.toList_append, List.getLast?_append] at hspace
    cases hspace

/-- Full stops at the end of its text do not change how a violation is reported. -/
lemma toDiagnostic_append_stops (v : Violation) (n : ℕ) :
    toDiagnostic { v with message := v.message ++ stops n } = v.toDiagnostic := by
  have hline : line { v with message := v.message ++ stops n } = v.line := by
    rw [line_eq, line_eq, remark, remark, dropStops_append_stops]
    rfl
  unfold toDiagnostic
  rw [hline]
  rfl

/-- The parts of a diagnostic agree.  Its location is that of its segments and that of the
violation: a dollar sign and the segments, the name of a missing property among them, with dots
between.  Its message is the line of the violation, which is the location in quotes, a space, a
remark and one full stop; the remark is the text of the violation without the full stops at its end,
unless a property is missing.  More full stops change nothing.  Violations are reported one by one,
in order. -/
theorem toDiagnostic_agrees (v : Violation) (vs : List Violation) :
    v.toDiagnostic.path = renderLocation v.toDiagnostic.segments ∧
    v.toDiagnostic.path = v.location ∧
    v.toDiagnostic.path =
      ".".intercalate ("$" :: v.toDiagnostic.segments.map Json.Segment.text) ∧
    v.toDiagnostic.message = v.line ∧
    EndsInOneStop v.toDiagnostic.message ∧
    (∃ remark, v.toDiagnostic.message =
        "\"" ++ v.toDiagnostic.path ++ "\" " ++ remark ++ "." ∧
      (v.missingProperty = none →
        v.toDiagnostic.segments = v.instancePath ∧ ∃ n, v.message = remark ++ stops n) ∧
      ∀ name, v.missingProperty = some name →
        v.toDiagnostic.segments = v.instancePath ++ [.key name] ∧ remark = "is missing") ∧
    (∀ n, toDiagnostic { v with message := v.message ++ stops n } = v.toDiagnostic) ∧
    (diagnostics vs).length = vs.length ∧
    ∀ i : ℕ, (diagnostics vs)[i]? = vs[i]?.map toDiagnostic := by
  have hmissing : v.missingProperty = none →
      v.toDiagnostic.segments = v.instancePath ∧ ∃ n, v.message = v.remark ++ stops n := by
    intro h
    unfold toDiagnostic reportedSegments remark
    rw [h]
    exact ⟨rfl, exists_eq_dropStops_append v.message⟩
  have hname : ∀ name, v.missingProperty = some name →
      v.toDiagnostic.segments = v.instancePath ++ [.key name] ∧ v.remark = "is missing" := by
    intro name h
    unfold toDiagnostic reportedSegments remark
    rw [h]
    exact ⟨List.concat_eq_append, rfl⟩
  have hpath : v.toDiagnostic.path = renderLocation v.toDiagnostic.segments :=
    congrArg renderLocation v.reportedSegments_eq.symm
  refine ⟨hpath, rfl, hpath.trans (renderLocation_eq _), rfl, endsInOneStop_line v,
    ⟨v.remark, line_eq v, hmissing, hname⟩, toDiagnostic_append_stops v, List.length_map _, ?_⟩
  intro i
  exact List.getElem?_map

/-- A violation of an item, with nothing but full stops for its text. -/
def withStops : Violation where
  instancePath := [.key "a.b", .index 0]
  category := .composition
  message := "..."
  missingProperty := none
  schemaPath := "/not"

/-- A violation of the same item, which lacks a member. -/
def withoutMember : Violation :=
  { withStops with category := .missingProperty, missingProperty := some "" }

/-- What is left of nothing but full stops is one of them, and a name without characters counts as a
segment. -/
theorem toDiagnostic_withStops :
    withStops.missingProperty = none ∧
      withStops.toDiagnostic.segments = withStops.instancePath ∧
      (∃ remark, withStops.toDiagnostic.message = "\"$.a.b.0\" " ++ remark ++ "." ∧
        ∃ n, "..." = remark ++ stops n) ∧
      EndsInOneStop withStops.toDiagnostic.message ∧
      withoutMember.missingProperty = some "" ∧
      withoutMember.toDiagnostic.message = "\"$.a.b.0.\" is missing." ∧
      (diagnostics [withStops, withoutMember])[1]? = some withoutMember.toDiagnostic := by
  obtain ⟨-, -, hpath, -, hstop, ⟨remark, hmessage, hnone, -⟩, -⟩ :=
    toDiagnostic_agrees withStops []
  obtain ⟨-, -, hpath', -, -, ⟨remark', hmessage', -, hsome'⟩, -, -, hitems⟩ :=
    toDiagnostic_agrees withoutMember [withStops, withoutMember]
  obtain ⟨hsegments, hremark⟩ := hnone rfl
  obtain ⟨hsegments', rfl⟩ := hsome' "" rfl
  rw [hpath, hsegments] at hmessage
  rw [hpath', hsegments'] at hmessage'
  exact ⟨rfl, hsegments, ⟨remark, hmessage, hremark⟩, hstop, rfl, hmessage', hitems 1⟩

end Violation

end ConfigCheck
