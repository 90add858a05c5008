import ConfigCheck.CommandLine.Run
import ConfigCheck.Proofs.Check.FailFast
import ConfigCheck.Proofs.Json.RoundTrip
import ConfigCheck.Proofs.Text.Utf8

/-!
# Accounts of reports

What a report says, without what it keeps to itself (`ReportAccount`), and how it is read from a
value (`ReportAccount.ofJson?`).  The value of a report gives its account
(`ReportAccount.ofJson?_toJson`), so the text that is written of a report of a run is read back into
its account (`CheckReport.account_of_renderJson`): a segment of a location keeps its kind, because a
name is written in quotes and an index is not, and an empty name is not taken for an absent one,
because nothing is written for the latter.
-/

namespace ConfigCheck

/-! ## Accounts -/

/-- What a report says about a violation. -/
structure DiagnosticAccount where
  /-- The rendered location. -/
  path : String
  /-- The same location, as segments. -/
  segments : List Json.Segment
  /-- The name of the category. -/
  kind : String
  /-- The message of one line. -/
  message : String
  /-- The name of the missing property, if that is what is wrong. -/
  missingProperty : Option String
deriving DecidableEq, Repr

/-- What a report says about a file. -/
structure FileAccount where
  /-- The path. -/
  path : Path
  /-- The format. -/
  format : Format
  /-- The state of the file in words. -/
  status : String
  /-- The violations. -/
  diagnostics : List DiagnosticAccount
deriving DecidableEq, Repr

/-- What a report says. -/
structure ReportAccount where
  /-- The path of the schema. -/
  schema : Path
  /-- The target. -/
  target : Path
  /-- The files. -/
  files : List FileAccount
  /-- Whether all files have passed. -/
  passed : Bool
deriving DecidableEq, Repr

/-- What is said about a violation. -/
def Diagnostic.account (d : Diagnostic) : DiagnosticAccount :=
  ⟨d.path, d.segments, d.category.name, d.message, d.missingProperty⟩

/-- What is said about a file. -/
def FileReport.account (r : FileReport) : FileAccount :=
  ⟨r.path, r.format, r.status, r.diagnostics.map Diagnostic.account⟩

/-- What a report says. -/
def CheckReport.account (r : CheckReport) : ReportAccount :=
  ⟨r.schema, r.target, r.files.map FileReport.account, r.passed⟩

/-! ## Reading accounts -/

namespace Json

variable {α : Type}

/-- What is read from the member of a name, which has to be there. -/
def field? (value : Json) (name : String) (readOne : Json → Option α) : Option α :=
  (value.get? name).bind readOne

/-- What is read from the member of a name, if it is there. -/
def optionalField? (value : Json) (name : String) (readOne : Json → Option α) :
    Option (Option α) :=
  match value.get? name with
  | none => some none
  | some v => (readOne v).map some

/-- What is read from the items of an array. -/
def list? (readOne : Json → Option α) : Json → Option (List α)
  | .array items => items.mapM readOne
  | _ => none

/-- A truth value. -/
def truth? : Json → Option Bool
  | .bool b => some b
  | _ => none

/-- A segment: a name is a string, an index is a number. -/
def Segment.ofJson? : Json → Option Segment
  | .string name => some (.key name)
  | .number (.int i) => if 0 ≤ i then some (.index i.toNat) else none
  | _ => none

end Json

/-- The format that a value stands for. -/
def Format.ofJson? (value : Json) : Option Format :=
  match value with
  | .string name => if name = "json" then some .json else if name = "yaml" then some .yaml else none
  | value => (value.field? "unsupported" Json.text?).map .unsupported

/-- What a value says about a violation. -/
def DiagnosticAccount.ofJson? (value : Json) : Option DiagnosticAccount := do
  let path ← value.field? "path" Json.text?
  let segments ← value.field? "segments" (Json.list? Json.Segment.ofJson?)
  let kind ← value.field? "kind" Json.text?
  let message ← value.field? "message" Json.text?
  let missingProperty ← value.optionalField? "missing_property" Json.text?
  return { path, segments, kind, message, missingProperty }

/-- What a value says about a file. -/
def FileAccount.ofJson? (value : Json) : Option FileAccount := do
  let path ← value.field? "path" Json.text?
  let format ← value.field? "format" Format.ofJson?
  let status ← value.field? "status" Json.text?
  let diagnostics ← value.field? "diagnostics" (Json.list? DiagnosticAccount.ofJson?)
  return { path := .ofString path, format, status, diagnostics }

/-- What a value says as a report. -/
def ReportAccount.ofJson? (value : Json) : Option ReportAccount := do
  let schema ← value.field? "schema" Json.text?
  let target ← value.field? "target" Json.text?
  let files ← value.field? "files" (Json.list? FileAccount.ofJson?)
  let passed ← value.field? "passed" Json.truth?
  return { schema := .ofString schema, target := .ofString target, files, passed }

/-! ## From a report to its account -/

namespace Json

variable {α β : Type} {readOne : Json → Option β}

/-- What is read from a member is read from the value that was written under its name. -/
lemma field?_ordered {value : Json} (hnames : (value.members.map Prod.fst).Nodup) {name : String}
    {v : Json} (hmember : value.members.lookup name = some v) :
    value.ordered.field? name readOne = readOne v.ordered := by
  cases value with
  | object members =>
    have hnames' : (members.map Prod.fst).Nodup := hnames
    rw [field?, get?_ordered hnames']
    exact congrArg (fun found => (found.map ordered).bind readOne) hmember
  | _ => cases hmember

/-- A list is read from the items that were written for it. -/
lemma list?_ordered {write : α → Json} {f : α → β} {as : List α}
    (hitems : ∀ a ∈ as, readOne (write a).ordered = some (f a)) :
    list? readOne (array (as.map write)).ordered = some (as.map f) := by
  rw [ordered_array, list?, List.map_map]
  induction as with
  | nil => rfl
  | cons a rest ih =>
    have hrest := ih fun b hb => hitems b (List.mem_cons_of_mem _ hb)
    have ha : readOne ((ordered ∘ write) a) = some (f a) := hitems a List.mem_cons_self
    rw [List.map_cons, List.mapM_cons, ha, hrest]
    rfl

/-- A segment keeps its kind. -/
lemma Segment.ofJson?_toJson (segment : Segment) :
    Segment.ofJson? segment.toJson.ordered = some segment := by
  cases segment with
  | key name => rfl
  | index i => rfl

end Json

lemma Format.ofJson?_toJson (format : Format) :
    Format.ofJson? format.toJson.ordered = some format := by
  cases format with
  | json => decide
  | yaml => decide
  | unsupported extension => rfl

/-- What is said about a violation is read from its value. -/
theorem DiagnosticAccount.ofJson?_toJson (d : Diagnostic) :
    DiagnosticAccount.ofJson? d.toJson.ordered = some d.account := by
  have hnames : (d.toJson.members.map Prod.fst).Nodup := by
    have hoptional : ∀ missing : Option String, (["path", "segments", "kind", "message"] ++
        (Diagnostic.optionalMember "missing_property" missing).map Prod.fst).Nodup := by
      intro missing
      cases missing with
      | none => decide
      | some name =>
        show ["path", "segments", "kind", "message", "missing_property"].Nodup
        decide
    exact hoptional d.missingProperty
  have hpath : d.toJson.ordered.field? "path" Json.text? = some d.path :=
    Json.field?_ordered (v := .string d.path) hnames rfl
  have hsegments : d.toJson.ordered.field? "segments" (Json.list? Json.Segment.ofJson?) =
      some d.segments := by
    rw [Json.field?_ordered (v := .array (d.segments.map Json.Segment.toJson)) hnames rfl,
      Json.list?_ordered (f := id) fun segment _ => segment.ofJson?_toJson, List.map_id]
  have hkind : d.toJson.ordered.field? "kind" Json.text? = some d.category.name :=
    Json.field?_ordered (v := .string d.category.name) hnames rfl
  have hmessage : d.toJson.ordered.field? "message" Json.text? = some d.message :=
    Json.field?_ordered (v := .string d.message) hnames rfl
  have hmissing : d.toJson.ordered.optionalField? "missing_property" Json.text? =
      some d.missingProperty := by
    have hget : d.toJson.ordered.get? "missing_property" =
        (d.toJson.members.lookup "missing_property").map Json.ordered := Json.get?_ordered hnames _
    have hlookup : ∀ missing : Option String, (Diagnostic.optionalMember "missing_property"
        missing).lookup "missing_property" = missing.map Json.string := by
      intro missing
      cases missing <;> rfl
    have hmember : d.toJson.members.lookup "missing_property" =
        d.missingProperty.map Json.string := hlookup d.missingProperty
    rw [Json.optionalField?, hget, hmember]
    cases d.missingProperty <;> rfl
  rw [DiagnosticAccount.ofJson?, hpath, hsegments, hkind, hmessage, hmissing]
  rfl

/-- What is said about a file is read from the value of its report, if its path is UTF-8. -/
theorem FileAccount.ofJson?_toJson {r : FileReport} (htext : r.path.text?.isSome = true) :
    FileAccount.ofJson? r.toJson.ordered = some r.account := by
  have hnames : (r.toJson.members.map Prod.fst).Nodup := by
    show ["path", "format", "status", "diagnostics"].Nodup
    decide
  have hpath : r.toJson.ordered.field? "path" Json.text? = some r.path.display :=
    Json.field?_ordered (v := .string r.path.display) hnames rfl
  have hformat : r.toJson.ordered.field? "format" Format.ofJson? = some r.format := by
    rw [Json.field?_ordered (v := r.format.toJson) hnames rfl, r.format.ofJson?_toJson]
  have hstatus : r.toJson.ordered.field? "status" Json.text? = some r.status :=
    Json.field?_ordered (v := .string r.status) hnames rfl
  have hdiagnostics : r.toJson.ordered.field? "diagnostics"
      (Json.list? DiagnosticAccount.ofJson?) = some (r.diagnostics.map Diagnostic.account) := by
    rw [Json.field?_ordered (v := .array (r.diagnostics.map Diagnostic.toJson)) hnames rfl,
      Json.list?_ordered fun d _ => DiagnosticAccount.ofJson?_toJson d]
  have hself := Path.ofString_display htext
  rw [FileAccount.ofJson?, hpath, hformat, hstatus, hdiagnostics]
  dsimp only [bind, Option.bind]
  rw [hself]
  rfl

/-- The paths of a report are UTF-8. -/
structure CheckReport.HasTextPaths (r : CheckReport) : Prop where
  /-- The path of the schema is. -/
  schema : r.schema.text?.isSome = true
  /-- The target is. -/
  target : r.target.text?.isSome = true
  /-- The path of each file is. -/
  files : ∀ file ∈ r.files, file.path.text?.isSome = true

/-- What a report says is read from its value, if its paths are UTF-8. -/
theorem ReportAccount.ofJson?_toJson {r : CheckReport} (htext : r.HasTextPaths) :
    ReportAccount.ofJson? r.toJson.ordered = some r.account := by
  have hnames : (r.toJson.members.map Prod.fst).Nodup := by
    show ["schema", "target", "files", "passed"].Nodup
    decide
  have hschema : r.toJson.ordered.field? "schema" Json.text? = some r.schema.display :=
    Json.field?_ordered (v := .string r.schema.display) hnames rfl
  have htarget : r.toJson.ordered.field? "target" Json.text? = some r.target.display :=
    Json.field?_ordered (v := .string r.target.display) hnames rfl
  have hfiles : r.toJson.ordered.field? "files" (Json.list? FileAccount.ofJson?) =
      some (r.files.map FileReport.account) := by
    rw [Json.field?_ordered (v := .array (r.files.map FileReport.toJson)) hnames rfl,
      Json.list?_ordered fun file hfile => FileAccount.ofJson?_toJson (htext.files file hfile)]
  have hpassed : r.toJson.ordered.field? "passed" Json.truth? = some r.passed :=
    Json.field?_ordered (v := .bool r.passed) hnames rfl
  rw [ReportAccount.ofJson?, hschema, htarget, hfiles, hpassed]
  dsimp only [bind, Option.bind]
  rw [Path.ofString_display htext.schema, Path.ofString_display htext.target]
  rfl

/-! ## Values of reports -/

namespace Json

/-- A value can be written and read back: its numbers are exact, and it is nested at most `n`
times. -/
def IsWritable (n : Nat) (value : Json) : Prop := value.isExact = true ∧ value.depth ≤ n

lemma IsWritable.string (n : Nat) (s : String) : (Json.string s).IsWritable n :=
  ⟨rfl, Nat.zero_le n⟩

lemma IsWritable.bool (n : Nat) (b : Bool) : (Json.bool b).IsWritable n := ⟨rfl, Nat.zero_le n⟩

lemma IsWritable.array {n : Nat} {items : List Json} (h : ∀ v ∈ items, v.IsWritable n) :
    (Json.array items).IsWritable (n + 1) :=
  ⟨everywhere_array.mpr ⟨rfl, fun v hv => (h v hv).1⟩, depth_array_le fun v hv => (h v hv).2⟩

lemma IsWritable.object {n : Nat} {members : List (String × Json)}
    (h : ∀ m ∈ members, m.2.IsWritable n) : (Json.object members).IsWritable (n + 1) :=
  ⟨everywhere_object.mpr ⟨rfl, fun m hm => (h m hm).1⟩, depth_object_le fun m hm => (h m hm).2⟩

lemma IsWritable.segment {segment : Segment} (h : ∀ i, segment = .index i → i < indexLimit)
    (n : Nat) : segment.toJson.IsWritable n := by
  cases segment with
  | key name => exact .string n name
  | index i =>
    have hi : (i : Int) < 2 ^ 64 := Int.ofNat_lt.mpr (h i rfl)
    have hbounds : (-2 ^ 63 ≤ (i : Int) && (i : Int) < 2 ^ 64) = true := by
      rw [Bool.and_eq_true, decide_eq_true_eq, decide_eq_true_eq]
      omega
    exact ⟨hbounds, Nat.zero_le n⟩

end Json

/-- The indices in the location of a diagnostic are not larger than indices can be. -/
def Diagnostic.IsBounded (d : Diagnostic) : Prop :=
  ∀ i, Json.Segment.index i ∈ d.segments → i < Json.indexLimit

/-- The value of a diagnostic can be written and read back. -/
lemma Diagnostic.isWritable_toJson {d : Diagnostic} (hd : d.IsBounded) : d.toJson.IsWritable 2 := by
  have hsegments : (Json.array (d.segments.map Json.Segment.toJson)).IsWritable 1 := by
    refine .array fun v hv => ?_
    obtain ⟨segment, hsegment, rfl⟩ := List.mem_map.mp hv
    exact .segment (fun i hi => hd i (hi ▸ hsegment)) 0
  have hoptional : ∀ m ∈ optionalMember "missing_property" d.missingProperty,
      m.2.IsWritable 1 := by
    intro m hm
    cases hmissing : d.missingProperty with
    | none =>
      rw [hmissing] at hm
      cases hm
    | some name =>
      rw [hmissing] at hm
      rw [List.mem_singleton.mp hm]
      exact .string 1 name
  refine .object fun m hm => ?_
  rcases List.mem_append.mp hm with hm | hm
  · simp only [List.mem_cons, List.not_mem_nil, or_false] at hm
    rcases hm with rfl | rfl | rfl | rfl
    · exact .string 1 _
    · exact hsegments
    · exact .string 1 _
    · exact .string 1 _
  · exact hoptional m hm

/-- The value of a format can be written and read back. -/
lemma Format.isWritable_toJson (format : Format) : format.toJson.IsWritable 1 := by
  cases format with
  | json => exact .string 1 _
  | yaml => exact .string 1 _
  | unsupported extension =>
    refine .object fun m hm => ?_
    rw [List.mem_singleton.mp hm]
    exact .string 0 _

/-- The value of the report on a file can be written and read back. -/
lemma FileReport.isWritable_toJson {r : FileReport} (hr : ∀ d ∈ r.diagnostics, d.IsBounded) :
    r.toJson.IsWritable 4 := by
  have hdiagnostics : (Json.array (r.diagnostics.map Diagnostic.toJson)).IsWritable 3 := by
    refine .array fun v hv => ?_
    obtain ⟨d, hd, rfl⟩ := List.mem_map.mp hv
    exact Diagnostic.isWritable_toJson (hr d hd)
  have hformat : r.format.toJson.IsWritable 3 :=
    ⟨r.format.isWritable_toJson.1, Nat.le_trans r.format.isWritable_toJson.2 (by decide)⟩
  refine .object fun m hm => ?_
  simp only [List.mem_cons, List.not_mem_nil, or_false] at hm
  rcases hm with rfl | rfl | rfl | rfl
  · exact .string 3 _
  · exact hformat
  · exact .string 3 _
  · exact hdiagnostics

/-- The value of a report can be written and read back. -/
lemma CheckReport.isWritable_toJson {r : CheckReport}
    (hr : ∀ file ∈ r.files, ∀ d ∈ file.diagnostics, d.IsBounded) : r.toJson.IsWritable 6 := by
  have hfiles : (Json.array (r.files.map FileReport.toJson)).IsWritable 5 := by
    refine .array fun v hv => ?_
    obtain ⟨file, hfile, rfl⟩ := List.mem_map.mp hv
    exact FileReport.isWritable_toJson (hr file hfile)
  refine .object fun m hm => ?_
  simp only [List.mem_cons, List.not_mem_nil, or_false] at hm
  rcases hm with rfl | rfl | rfl | rfl
  · exact .string 5 _
  · exact .string 5 _
  · exact hfiles
  · exact .bool 5 _

/-! ## Reports of runs -/

/-- The indices in what is reported of a document are not larger than indices can be. -/
lemma Checker.isBounded_of_report {c : Checker} {document : Document} {d : Diagnostic}
    (h : d ∈ (c.report document).diagnostics) : d.IsBounded := by
  obtain ⟨violation, hviolation, rfl⟩ := List.mem_map.mp h
  obtain ⟨failure, -, rfl⟩ := List.mem_map.mp hviolation
  intro i hi
  change _ ∈ Violation.reportedSegments _ at hi
  rw [Violation.reportedSegments_eq] at hi
  rcases List.mem_append.mp hi with hi | hi
  · exact Json.lt_of_index_mem_typeTokens hi
  · cases hmissing : (failure.toViolation document.value).missingProperty with
    | none =>
      rw [hmissing] at hi
      cases hi
    | some name =>
      rw [hmissing] at hi
      cases List.mem_singleton.mp hi

/-- The reports on files are those on documents in them. -/
lemma Checker.exists_document_of_mem {c : Checker} {fs : FileSystem} {paths : List Path}
    {reports : List FileReport} (h : (c.checkFiles fs paths).outcome = .ok reports) :
    ∀ report ∈ reports, ∃ document, c.report document = report := by
  induction paths generalizing reports with
  | nil =>
    rw [outcome_checkFiles_nil] at h
    cases h
    intro report hreport
    cases hreport
  | cons path rest ih =>
    rw [outcome_checkFiles_cons] at h
    obtain ⟨first, hfirst, hrest⟩ := bind_eq_ok_iff.mp h
    rw [outcome_checkFile] at hfirst
    obtain ⟨document, -, hdocument⟩ := bind_eq_ok_iff.mp hfirst
    have hself : ∃ document, c.report document = first := ⟨document, Except.ok.inj hdocument⟩
    split at hrest
    · obtain ⟨others, hothers, hreports⟩ := bind_eq_ok_iff.mp hrest
      cases hreports
      exact List.forall_mem_cons.mpr ⟨hself, ih hothers⟩
    · cases hrest
      exact List.forall_mem_cons.mpr ⟨hself, fun _ hmem => by cases hmem⟩

namespace CheckReport

/-- The value of a report of a run can be written and read back. -/
lemma isWritable_of_runCheck {fs : FileSystem} {schema target : Path} {report : CheckReport}
    (hrun : (runCheck fs schema target).outcome = .ok report) : report.toJson.IsWritable 6 := by
  obtain ⟨c, files, reports, -, -, hreports, rfl⟩ := runCheck_eq_ok_iff.mp hrun
  refine isWritable_toJson fun file hfile d hd => ?_
  obtain ⟨document, rfl⟩ := Checker.exists_document_of_mem hreports file hfile
  exact Checker.isBounded_of_report hd

/-- The text of a report of a run is read back into its value, also with spaces behind it. -/
lemma read_pretty_append {fs : FileSystem} {schema target : Path} {report : CheckReport}
    (hrun : (runCheck fs schema target).outcome = .ok report) (spaces : String)
    (hspaces : spaces.toList.all Json.isSpace = true) :
    Json.read (report.toJson.pretty ++ spaces) = .ok report.toJson.ordered := by
  have hwritable := isWritable_of_runCheck hrun
  exact Json.read_pretty_append hwritable.1 (Nat.le_trans hwritable.2 (by decide)) spaces hspaces

/-- The text of a report of a run is read back into its value. -/
lemma read_pretty {fs : FileSystem} {schema target : Path} {report : CheckReport}
    (hrun : (runCheck fs schema target).outcome = .ok report) :
    Json.read report.toJson.pretty = .ok report.toJson.ordered := by
  have hwritable := isWritable_of_runCheck hrun
  exact Json.read_pretty hwritable.1 (Nat.le_trans hwritable.2 (by decide))

/-- The paths of a report are those that are written into it. -/
lemma hasTextPaths_iff {r : CheckReport} :
    r.HasTextPaths ↔ ∀ entry ∈ r.paths, entry.2.text?.isSome = true := by
  constructor
  · intro htext entry hentry
    rcases List.mem_append.mp hentry with hentry | hentry
    · simp only [List.mem_cons, List.not_mem_nil, or_false] at hentry
      rcases hentry with rfl | rfl
      · exact htext.schema
      · exact htext.target
    · obtain ⟨⟨file, i⟩, hfile, rfl⟩ := List.mem_map.mp hentry
      exact htext.files file (List.fst_mem_of_mem_zipIdx hfile)
  · intro hpaths
    refine ⟨hpaths ([.key "schema"], r.schema) ?_, hpaths ([.key "target"], r.target) ?_, ?_⟩
    · exact List.mem_append_left _ List.mem_cons_self
    · exact List.mem_append_left _ (List.mem_cons_of_mem _ List.mem_cons_self)
    · intro file hfile
      obtain ⟨i, hi, hget⟩ := List.mem_iff_getElem.mp hfile
      have hmem : (file, i) ∈ r.files.zipIdx :=
        List.mk_mem_zipIdx_iff_getElem?.mpr (List.getElem?_eq_some_iff.mpr ⟨hi, hget⟩)
      exact hpaths ([.key "files", .index i, .key "path"], file.path)
        (List.mem_append_right _ (List.mem_map.mpr ⟨(file, i), hmem, rfl⟩))

/-- A report is written to its end exactly if its paths are UTF-8. -/
lemma renderJson_eq_ok_iff {r : CheckReport} {text : String} :
    CommandLine.renderJson r = .ok text ↔ r.HasTextPaths ∧ text = r.toJson.pretty ++ "\n" := by
  have hnone : (r.paths.find? fun entry => entry.2.text?.isNone) = none ↔ r.HasTextPaths := by
    rw [hasTextPaths_iff, List.find?_eq_none]
    refine forall₂_congr fun entry _ => ?_
    show ¬ entry.2.text?.isNone = true ↔ _
    rw [Option.isNone_iff_eq_none, Option.isSome_iff_ne_none]
  unfold CommandLine.renderJson
  split
  · rename_i heq
    rw [Except.ok.injEq]
    exact ⟨fun h => ⟨hnone.mp heq, h.symm⟩, fun h => h.2.symm⟩
  · rename_i heq
    simp only [reduceCtorEq, false_iff, not_and]
    intro htext
    rw [hnone.mpr htext] at heq
    cases heq

/-- The text of a report of a run whose paths are UTF-8 is one JSON text on lines of its own.  It is
read back into an object that gives all that the report says. -/
theorem renderJson_readBack {fs : FileSystem} {schema target : Path} {report : CheckReport}
    (hrun : (runCheck fs schema target).outcome = .ok report) (htext : report.HasTextPaths) :
    ∃ text members, CommandLine.renderJson report = .ok (text ++ "\n") ∧
      Json.read text = .ok (.object members) ∧ Json.read (text ++ "\n") = .ok (.object members) ∧
      ReportAccount.ofJson? (.object members) = some report.account := by
  have hline := read_pretty_append hrun "\n" (by decide)
  have haccount := ReportAccount.ofJson?_toJson htext
  exact ⟨_, _, renderJson_eq_ok_iff.mpr ⟨htext, rfl⟩, read_pretty hrun, hline, haccount⟩

end CheckReport

namespace Tree

/-- The list and the number have reports, of which the second one fails. -/
lemma exists_report_withThreeFiles :
    ∃ report, (runCheck (withThreeFiles false).fileSystem ⟨[0x73]⟩ ⟨[0x2e]⟩).outcome = .ok report ∧
      report.HasTextPaths ∧ report.files.map FileReport.passed = [true, false] := by
  let shape : Shape := .clauses [.type .array]
  let c : Checker := ⟨⟨[0x73]⟩, shape.validator⟩
  have hchecker : (Checker.load (withThreeFiles false).fileSystem ⟨[0x73]⟩).outcome = .ok c := by
    have hfile : (SchemaFile.load (withThreeFiles false).fileSystem ⟨[0x73]⟩).outcome =
        .ok ⟨⟨[0x73]⟩, shape.toJson⟩ := rfl
    exact Checker.outcome_load hfile (Shape.ofJson_toJson_eq_ok (.type .array))
  have hlists : ∀ v, c.validator.violations v = [] ↔ ∃ items, v = .array items := by
    intro v
    rw [Validator.violations_eq_nil_iff_admits]
    refine (Shape.admits_toSchema_iff (.type .array) v).trans ?_
    rw [Shape.Fits, List.forall_mem_singleton, Clause.Holds]
    rfl
  obtain ⟨hstops, document, hload⟩ := findIdx?_stops_withThreeFiles hlists
  obtain ⟨reports, last, hreports, -, hpasses, hfile, hlast, -⟩ :=
    (c.failsFast (withThreeFiles false).fileSystem threePaths).failed 1 _ document hstops rfl hload
  obtain ⟨first, rest, hfirst, hrest, rfl⟩ := List.forall₂_cons_left_iff.mp hpasses
  obtain rfl := List.forall₂_nil_left_iff.mp hrest
  have hschema : (⟨[0x73]⟩ : Path).text?.isSome = true := by decide
  have htarget : (⟨[0x2e]⟩ : Path).text?.isSome = true := by decide
  have hpaths : ∀ path ∈ threePaths, path.text?.isSome = true := by decide
  refine ⟨⟨⟨[0x73]⟩, ⟨[0x2e]⟩, [first, last]⟩, ?_, ⟨hschema, htarget, ?_⟩, ?_⟩
  · rw [runCheck_of_files hchecker (files_withThreeFiles false), hreports]
    rfl
  · refine List.forall_mem_cons.mpr ⟨?_, List.forall_mem_singleton.mpr ?_⟩
    · rw [Checker.path_of_checkFile hfirst.1]
      exact hpaths _ (by simp [threePaths])
    · rw [Checker.path_of_checkFile hfile]
      exact hpaths _ (by simp [threePaths])
  · rw [List.map_cons, List.map_singleton, Checker.status_eq_passed_iff.mp hfirst.2,
      Checker.status_eq_failed_iff.mp hlast]

/-- The report on the list and the number is read back from its text. -/
theorem renderJson_withThreeFiles :
    ∃ report, (runCheck (withThreeFiles false).fileSystem ⟨[0x73]⟩ ⟨[0x2e]⟩).outcome = .ok report ∧
      report.HasTextPaths ∧ ∃ text members, CommandLine.renderJson report = .ok (text ++ "\n") ∧
        Json.read text = .ok (.object members) ∧
        ReportAccount.ofJson? (.object members) = some report.account := by
  obtain ⟨report, hrun, htext, -⟩ := exists_report_withThreeFiles
  obtain ⟨text, members, hrender, hread, -, haccount⟩ := CheckReport.renderJson_readBack hrun htext
  exact ⟨report, hrun, htext, text, members, hrender, hread, haccount⟩

end Tree

end ConfigCheck
