import ConfigCheck.Proofs.Check.Classification
import ConfigCheck.Proofs.CommandLine.Verbosity

/-!
# Paths in messages

A check that is given up says why in one message, which names the path of the error.  Whether this
path is shown from the root or as given depends on the error alone (`CommandLine.shownPath`).  An
error comes with a certain kind of thing at its path (`CheckError.Arises`), so it can be told which
paths are shown in which form (`CommandLine.complaint_of_runCheck`): what leads nowhere is shown as
given, and a file from the root, unless the error is about the content of the schema.  A schema that
is read but cannot be used is shown as given, although it is a file
(`Tree.complaint_bracketAsSchema`).
-/

namespace ConfigCheck

namespace FileSystem

/-- A file system resolves paths as a tree does, as far as they may be looked at. -/
structure Resolves (fs : FileSystem) (t : Tree) : Prop where
  /-- The canonical path is that of the tree. -/
  inspected : ∀ p, fs.Inspects t p → fs.canonical p = t.canonical p
  /-- What may not be looked at cannot be resolved. -/
  hidden : ∀ p, ¬ fs.Inspects t p → ∃ e, fs.canonical p = .error e

variable {fs : FileSystem} {t : Tree} {p : Path}

/-- A tree resolves paths as it does. -/
lemma resolves_fileSystem (t : Tree) : t.fileSystem.Resolves t where
  inspected _ _ := rfl
  hidden _ h := absurd rfl h

/-- What cannot be resolved is shown as given. -/
lemma resolved_of_error {e : FileError} (h : fs.canonical p = .error e) : fs.resolved p = p := by
  unfold resolved
  rw [h]

/-- What leads nowhere cannot be resolved. -/
lemma Resolves.resolved_of_not_exists (h : fs.Resolves t) (hnone : ¬ t.Exists p) :
    fs.resolved p = p := by
  by_cases hinspects : fs.Inspects t p
  · cases hcanonical : t.canonical p with
    | error e => exact resolved_of_error ((h.inspected p hinspects).trans hcanonical)
    | ok q =>
      obtain ⟨place, -, harrives, -⟩ := Tree.canonical_eq_ok_iff.mp hcanonical
      exact absurd ⟨_, place, harrives⟩ hnone
  · obtain ⟨e, he⟩ := h.hidden p hinspects
    exact resolved_of_error he

/-- What may be looked at is resolved to the place to which it leads. -/
lemma Resolves.exists_place (h : fs.Resolves t) (hinspects : fs.Inspects t p) {node : Node}
    (hholds : t.Holds p node) :
    ∃ place, t.Arrives Tree.linkLimit p place ∧ t.root.at? place = some node ∧
      fs.resolved p = Path.ofNames place := by
  obtain ⟨hlength, place, harrives, hat⟩ := hholds
  have hcanonical : t.canonical p = .ok (Path.ofNames place) :=
    Tree.canonical_eq_ok_iff.mpr ⟨place, hlength, harrives, rfl⟩
  refine ⟨place, harrives, hat, ?_⟩
  unfold resolved
  rw [h.inspected p hinspects, hcanonical]

end FileSystem

/-! ## What stands at the path of an error -/

/-- An error is about the content of the schema. -/
def CheckError.IsAboutSchema : CheckError → Prop
  | schemaParseError _ _ | schemaCompileError _ _ => True
  | _ => False

/-- Why a check is given up, with the kind of what stands at the path of the error. -/
inductive CheckError.Arises (fs : FileSystem) (schema target : Path) : CheckError → Prop
  | noSchema (hkind : fs.kind schema ≠ .ok .regular) :
      Arises fs schema target (.schemaNotFound schema)
  | unreadSchema {cause : FileError} (hkind : fs.kind schema = .ok .regular) :
      Arises fs schema target (.io schema cause)
  | schemaText {cause : SchemaTextError} (hkind : fs.kind schema = .ok .regular) :
      Arises fs schema target (.schemaParseError schema cause)
  | schemaValue {cause : Schema.CompileError} (hkind : fs.kind schema = .ok .regular) :
      Arises fs schema target (.schemaCompileError schema cause)
  | target {e : CheckError} (hsettles : Target.Settles fs target (.error e)) :
      Arises fs schema target e
  | unreadFile {path : Path} {cause : FileError} (hkind : fs.kind path = .ok .regular) :
      Arises fs schema target (.io path cause)
  | content {path : Path} {cause : ContentError} (hkind : fs.kind path = .ok .regular) :
      Arises fs schema target (.parseError path cause)
  | empty {path : Path} (hkind : fs.kind path = .ok .regular) :
      Arises fs schema target (.emptyDocument path)

variable {fs : FileSystem} {schema target path : Path} {e : CheckError}

/-- There is no checker for one of these reasons. -/
lemma Checker.arises_of_load (h : (load fs schema).outcome = .error e) :
    e.Arises fs schema target := by
  obtain ⟨hkind, rfl⟩ | ⟨hkind, ⟨cause, rfl⟩ | ⟨cause, rfl⟩ | ⟨cause, rfl⟩⟩ :=
    Checker.error_of_load h
  · exact .noSchema hkind
  · exact .unreadSchema hkind
  · exact .schemaText hkind
  · exact .schemaValue hkind

/-- A check is given up for one of these reasons. -/
lemma arises_of_runCheck (h : (runCheck fs schema target).outcome = .error e) :
    e.Arises fs schema target := by
  rw [outcome_runCheck] at h
  rcases bind_eq_error_iff.mp h with h | ⟨c, -, h⟩
  · exact Checker.arises_of_load h
  rcases bind_eq_error_iff.mp h with h | ⟨list, hlist, h⟩
  · exact .target (h ▸ Target.settles_files fs target)
  rcases bind_eq_error_iff.mp h with h | ⟨reports, -, h⟩
  · obtain ⟨before, path, after, rfl, -, hload⟩ := Checker.exists_of_checkFiles h
    have hmem : path ∈ before ++ path :: after := List.mem_append_right _ (.head _)
    have hsettles : Target.Settles fs target (.ok (before ++ path :: after)) :=
      hlist ▸ Target.settles_files fs target
    obtain ⟨hkind, hformat⟩ := hsettles.of_mem hmem
    obtain ⟨cause, rfl⟩ | ⟨cause, rfl⟩ | rfl := Document.error_of_load hformat hload
    · exact .unreadFile hkind
    · exact .content hkind
    · exact .empty hkind
  · cases h

/-! ## What a message shows -/

namespace CommandLine

/-- The path that the message about an error shows. -/
def shownPath (fs : FileSystem) : CheckError → Path
  | .parseError path _ | .emptyDocument path | .unsupportedFormat path _ | .io path _ =>
    fs.resolved path
  | e => e.path

/-- A message is the text of the error with the path that is shown. -/
lemma describe_eq (fs : FileSystem) (e : CheckError) :
    describe fs e = e.messageAt (shownPath fs e).display := by
  cases e <;> rfl

/-- What cannot be resolved is shown as given. -/
lemma shownPath_of_resolved (h : fs.resolved e.path = e.path) : shownPath fs e = e.path := by
  cases e with
  | parseError path cause => exact h
  | emptyDocument path => exact h
  | unsupportedFormat path extension => exact h
  | io path cause => exact h
  | _ => rfl

/-- A file is resolved, unless the error is about the content of the schema. -/
lemma shownPath_of_regular (h : e.Arises fs schema target) (hkind : fs.kind e.path = .ok .regular)
    (habout : ¬ e.IsAboutSchema) : shownPath fs e = fs.resolved e.path := by
  cases h with
  | noSchema hnone => exact absurd hkind hnone
  | schemaText _ => exact absurd trivial habout
  | schemaValue _ => exact absurd trivial habout
  | unreadSchema _ | unreadFile _ | content _ | empty _ => rfl
  | target hsettles =>
    cases hsettles with
    | unreadable _ _ | otherExtension _ _ | unlisted _ _ => rfl
    | missing hother => cases hkind.symm.trans hother
    | special hother => cases hkind.symm.trans hother
    | noFiles hother _ _ => cases hkind.symm.trans hother

/-- A device is shown as given. -/
lemma shownPath_of_special (h : e.Arises fs schema target) (hkind : fs.kind e.path = .ok .special) :
    shownPath fs e = e.path := by
  cases h with
  | noSchema _ | schemaText _ | schemaValue _ => rfl
  | unreadSchema hother => cases hkind.symm.trans hother
  | unreadFile hother => cases hkind.symm.trans hother
  | content hother => cases hkind.symm.trans hother
  | empty hother => cases hkind.symm.trans hother
  | target hsettles =>
    cases hsettles with
    | missing _ | special _ | noFiles _ _ _ => rfl
    | unreadable hother _ => cases hkind.symm.trans hother
    | otherExtension hother _ => cases hkind.symm.trans hother
    | unlisted hother _ => cases hkind.symm.trans hother

/-- An error about the content of the schema is about a file, and shows it as given. -/
lemma shownPath_of_isAboutSchema (h : e.Arises fs schema target) (habout : e.IsAboutSchema) :
    e.path = schema ∧ fs.kind e.path = .ok .regular ∧ shownPath fs e = e.path := by
  cases h with
  | schemaText hkind => exact ⟨rfl, hkind, rfl⟩
  | schemaValue hkind => exact ⟨rfl, hkind, rfl⟩
  | noSchema _ | unreadSchema _ | unreadFile _ | content _ | empty _ => exact habout.elim
  | target hsettles => cases hsettles <;> exact habout.elim

/-- The message of a check that is given up, for a file system that shows a tree.  The path of the
error is shown as given if there is nothing at it, or only a device.  If it leads to a file, and the
error is not about the content of the schema, it is shown as the path from the root to the place of
this file, with no links left in it.  An error about the content of the schema shows the path of the
schema as given, although it always leads to a file. -/
theorem complaint_of_runCheck {t : Tree} {s : Settings} (hshows : fs.Shows t)
    (hresolves : fs.Resolves t) (h : (runCheck fs s.schema s.target).outcome = .error e) :
    (check fs s).complaint = "ERROR: " ++ e.messageAt (shownPath fs e).display ++ "\n" ∧
    (¬ t.Exists e.path → shownPath fs e = e.path) ∧
    (∀ content, fs.Inspects t e.path → t.Holds e.path (.regular content) → ¬ e.IsAboutSchema →
      ∃ place, t.Arrives Tree.linkLimit e.path place ∧
        t.root.at? place = some (.regular content) ∧ shownPath fs e = Path.ofNames place) ∧
    (∀ content, fs.Inspects t e.path → t.Holds e.path (.special content) →
      shownPath fs e = e.path) ∧
    (e.IsAboutSchema → shownPath fs e = e.path ∧ e.path = s.schema ∧
      ∃ content, t.Holds e.path (.regular content)) := by
  have harises := arises_of_runCheck h
  refine ⟨?_, ?_, ?_, ?_, ?_⟩
  · rw [complaint_of_error h, describe_eq]
  · intro hnone
    exact shownPath_of_resolved (hresolves.resolved_of_not_exists hnone)
  · intro content hinspects hholds habout
    have hkind := hshows.kind_eq_regular_iff.mpr ⟨hinspects, content, hholds⟩
    rw [shownPath_of_regular harises hkind habout]
    exact hresolves.exists_place hinspects hholds
  · intro content hinspects hholds
    have hkind := hshows.kind_eq_special_iff.mpr ⟨hinspects, content, hholds⟩
    exact shownPath_of_special harises hkind
  · intro habout
    obtain ⟨hschema, hkind, hshown⟩ := shownPath_of_isAboutSchema harises habout
    exact ⟨hshown, hschema, (hshows.kind_eq_regular_iff.mp hkind).2⟩

end CommandLine

namespace Tree

open CommandLine FileSystem

/-- The bracket in the directory is shown from the root, although the directory is given as a
relative path, and a schema that is missing is shown as given. -/
theorem complaint_withOpenBracket :
    (check withOpenBracket.fileSystem ⟨⟨[0x73]⟩, ⟨[0x2e]⟩, .text, 0⟩).complaint =
      "ERROR: failed to parse config file /b.json: invalid JSON: " ++
        "EOF while parsing a list at line 1 column 1\n" ∧
    (∃ place, withOpenBracket.Arrives linkLimit
        ⟨[0x2e, 0x2f, 0x62, 0x2e, 0x6a, 0x73, 0x6f, 0x6e]⟩ place ∧
      withOpenBracket.root.at? place = some (.regular (.ok [0x5b])) ∧
      Path.ofNames place = ⟨[0x2f, 0x62, 0x2e, 0x6a, 0x73, 0x6f, 0x6e]⟩) ∧
    (check withOpenBracket.fileSystem ⟨⟨[0x6e]⟩, ⟨[0x2e]⟩, .text, 0⟩).complaint =
      "ERROR: schema file n does not exist\n" ∧ ¬ withOpenBracket.Exists ⟨[0x6e]⟩ := by
  let fs := withOpenBracket.fileSystem
  have hshows : fs.Shows withOpenBracket := shows_fileSystem _
  have hresolves : fs.Resolves withOpenBracket := resolves_fileSystem _
  obtain ⟨hbracket, -, hfile, -⟩ := complaint_of_runCheck
    (s := ⟨⟨[0x73]⟩, ⟨[0x2e]⟩, .text, 0⟩) hshows hresolves outcome_withOpenBracket
  have hmissing : (runCheck fs ⟨[0x6e]⟩ ⟨[0x2e]⟩).outcome = .error (.schemaNotFound ⟨[0x6e]⟩) := rfl
  obtain ⟨hschema, hnothing, -⟩ := complaint_of_runCheck
    (s := ⟨⟨[0x6e]⟩, ⟨[0x2e]⟩, .text, 0⟩) hshows hresolves hmissing
  have hstops : withOpenBracket.Stops ⟨[0x6e]⟩ .missing := kind_eq_error_iff.mp (by decide)
  have hnone : ¬ withOpenBracket.Exists ⟨[0x6e]⟩ := hstops.not_exists (.inl rfl)
  have hholds : withOpenBracket.Holds ⟨[0x2e, 0x2f, 0x62, 0x2e, 0x6a, 0x73, 0x6f, 0x6e]⟩
      (.regular (.ok [0x5b])) := node_eq_ok_iff.mp rfl
  obtain ⟨place, harrives, hat, hshown⟩ := hfile _ rfl hholds id
  have hroot : shownPath fs (.parseError ⟨[0x2e, 0x2f, 0x62, 0x2e, 0x6a, 0x73, 0x6f, 0x6e]⟩
      (.json ⟨.endInArray, ⟨1, 1⟩⟩)) = ⟨[0x2f, 0x62, 0x2e, 0x6a, 0x73, 0x6f, 0x6e]⟩ := by
    decide
  refine ⟨?_, ⟨place, harrives, hat, hshown.symm.trans hroot⟩, ?_, hnone⟩
  · rw [hbracket, hroot]
    decide
  · rw [hschema, hnothing hnone]
    decide

/-- The bracket is a file, but as a schema it is shown as given. -/
theorem complaint_bracketAsSchema :
    withOpenBracket.Holds ⟨[0x62, 0x2e, 0x6a, 0x73, 0x6f, 0x6e]⟩ (.regular (.ok [0x5b])) ∧
    withOpenBracket.canonical ⟨[0x62, 0x2e, 0x6a, 0x73, 0x6f, 0x6e]⟩ =
      .ok ⟨[0x2f, 0x62, 0x2e, 0x6a, 0x73, 0x6f, 0x6e]⟩ ∧
    (check withOpenBracket.fileSystem
        ⟨⟨[0x62, 0x2e, 0x6a, 0x73, 0x6f, 0x6e]⟩, ⟨[0x2e]⟩, .text, 0⟩).complaint =
      "ERROR: failed to parse schema file b.json: " ++
        "EOF while parsing a list at line 1 column 1\n" := by
  let schema : Path := ⟨[0x62, 0x2e, 0x6a, 0x73, 0x6f, 0x6e]⟩
  have houtcome : (runCheck withOpenBracket.fileSystem schema ⟨[0x2e]⟩).outcome =
      .error (.schemaParseError schema (.json ⟨.endInArray, ⟨1, 1⟩⟩)) := rfl
  refine ⟨node_eq_ok_iff.mp rfl, rfl, ?_⟩
  rw [complaint_of_error houtcome]
  decide

end Tree

end ConfigCheck
