import ConfigCheck.Proofs.Check.FailFast
import ConfigCheck.Proofs.Document.Load

/-!
# Where errors come from

A check that is given up says why, and about which path.  An error about the schema has the path of
the schema, an error about the target has the target, and an error about a document has the path of
a file of the target before which all files have passed (`CheckError.ComesFrom`,
`runCheck_comesFrom`).

The extension of a file is looked at twice, when the target is resolved and when the file is loaded.
The two agree: what counts as a file of a target is never refused for its format
(`Target.isSupported_of_mem_files`).
-/

namespace ConfigCheck

/-- A check ends at a file of its target with the error of this file: the schema is usable, and each
file before this one holds a document without violations. -/
def EndsAt (fs : FileSystem) (schema target path : Path) (e : CheckError) : Prop :=
  ∃ c before after, (Checker.load fs schema).outcome = .ok c ∧
    (Target.files fs target).outcome = .ok (before ++ path :: after) ∧
    (∀ p ∈ before, ∃ document, (Document.load fs p).outcome = .ok document ∧
      c.validator.violations document.value = []) ∧
    (Document.load fs path).outcome = .error e

/-- An error is about the part of a check that it comes from. -/
def CheckError.ComesFrom (fs : FileSystem) (schema target : Path) (e : CheckError) : Prop :=
  match e with
  | .schemaNotFound path | .schemaParseError path _ | .schemaCompileError path _ => path = schema
  | .targetNotFound path | .invalidTargetType path | .noEligibleFiles path => path = target
  | .unsupportedFormat path extension =>
    path = target ∧ fs.kind target = .ok .regular ∧
      Format.ofPath target = .unsupported extension
  | .parseError path _ | .emptyDocument path => EndsAt fs schema target path e
  | .validationFailed _ _ => False
  | .io path _ => path = schema ∨ path = target ∨ EndsAt fs schema target path e

variable {fs : FileSystem} {schema target path : Path} {e : CheckError}

/-! ## The schema -/

/-- A path is regular if it leads to a file with content. -/
lemma FileSystem.isRegular_iff : fs.isRegular path = true ↔ fs.kind path = .ok .regular := by
  unfold isRegular
  split
  · rename_i hkind
    exact ⟨fun _ => hkind, fun _ => rfl⟩
  · rename_i hkind
    exact ⟨nofun, fun h => absurd h hkind⟩

/-- A schema is read from a file, and keeps its path. -/
lemma SchemaFile.of_load {file : SchemaFile} (h : (load fs path).outcome = .ok file) :
    file.path = path ∧ fs.kind path = .ok .regular := by
  unfold load at h
  split at h
  · cases h
  · rename_i hregular
    rw [Bool.not_eq_true, Bool.not_eq_false'] at hregular
    refine ⟨?_, FileSystem.isRegular_iff.mp hregular⟩
    split at h
    · cases h
    · split at h
      · cases h
      · cases h
        rfl

/-- Reading a schema fails if it is no file, cannot be read, or is not JSON. -/
lemma SchemaFile.error_of_load (h : (load fs schema).outcome = .error e) :
    fs.kind schema ≠ .ok .regular ∧ e = .schemaNotFound schema ∨
      fs.kind schema = .ok .regular ∧
        ((∃ cause, e = .io schema cause) ∨ ∃ cause, e = .schemaParseError schema cause) := by
  unfold load at h
  by_cases hregular : fs.isRegular schema = true
  · refine .inr ⟨FileSystem.isRegular_iff.mp hregular, ?_⟩
    rw [hregular, Bool.not_true, if_neg Bool.false_ne_true] at h
    split at h
    · cases h
      exact .inl ⟨_, rfl⟩
    · split at h
      · cases h
        exact .inr ⟨_, rfl⟩
      · cases h
  · refine .inl ⟨mt FileSystem.isRegular_iff.mpr hregular, ?_⟩
    rw [Bool.eq_false_iff.mpr hregular] at h
    cases h
    rfl

/-- There is no checker if the schema cannot be read as JSON or cannot be used. -/
lemma Checker.error_of_load (h : (load fs schema).outcome = .error e) :
    fs.kind schema ≠ .ok .regular ∧ e = .schemaNotFound schema ∨
      fs.kind schema = .ok .regular ∧
        ((∃ cause, e = .io schema cause) ∨ (∃ cause, e = .schemaParseError schema cause) ∨
          ∃ cause, e = .schemaCompileError schema cause) := by
  unfold load at h
  rw [Logged.outcome_bind, bind_eq_error_iff] at h
  rcases h with h | ⟨file, hfile, h⟩
  · rcases SchemaFile.error_of_load h with hnone | ⟨hkind, hcause | hcause⟩
    · exact .inl hnone
    · exact .inr ⟨hkind, .inl hcause⟩
    · exact .inr ⟨hkind, .inr (.inl hcause)⟩
  · rw [Logged.outcome_bind, bind_eq_error_iff] at h
    obtain ⟨hpath, hkind⟩ := SchemaFile.of_load hfile
    rcases h with h | ⟨validator, -, h⟩
    · unfold SchemaFile.compile at h
      split at h
      · cases h
        rw [hpath]
        exact .inr ⟨hkind, .inr (.inr ⟨_, rfl⟩)⟩
      · cases h
    · cases h

/-- There is no checker only for a reason that lies in the schema. -/
lemma Checker.comesFrom_of_load (h : (load fs schema).outcome = .error e) :
    e.ComesFrom fs schema target := by
  obtain ⟨-, rfl⟩ | ⟨-, ⟨cause, rfl⟩ | ⟨cause, rfl⟩ | ⟨cause, rfl⟩⟩ := Checker.error_of_load h
  · exact rfl
  · exact .inl rfl
  · exact rfl
  · exact rfl

/-! ## The target -/

/-- A target names no files only for a reason that lies in the target. -/
lemma Target.comesFrom_of_files (h : (files fs target).outcome = .error e) :
    e.ComesFrom fs schema target := by
  have hsettles : Settles fs target (.error e) := h ▸ settles_files fs target
  cases hsettles with
  | missing _ => exact rfl
  | unreadable _ _ => exact .inr (.inl rfl)
  | special _ => exact rfl
  | otherExtension hkind hformat => exact ⟨rfl, hkind, hformat⟩
  | unlisted _ _ => exact .inr (.inl rfl)
  | noFiles _ _ _ => exact rfl

/-- The files of a target have the extension of a format. -/
lemma Target.isSupported_of_mem_files {list : List Path}
    (h : (files fs target).outcome = .ok list) (hpath : path ∈ list) :
    (Format.ofPath path).isSupported = true := by
  have hsettles : Settles fs target (.ok list) := h ▸ settles_files fs target
  exact (hsettles.of_mem hpath).2

/-! ## The files -/

/-- A check of files is given up at the first file that holds no document, if all files before it
have passed. -/
lemma Checker.exists_of_checkFiles {c : Checker} {paths : List Path}
    (h : (c.checkFiles fs paths).outcome = .error e) :
    ∃ before path after, paths = before ++ path :: after ∧
      (∀ p ∈ before, ∃ document, (Document.load fs p).outcome = .ok document ∧
        c.validator.violations document.value = []) ∧
      (Document.load fs path).outcome = .error e := by
  cases hk : paths.findIdx? (c.stops fs) with
  | none =>
    obtain ⟨reports, hreports, -⟩ := outcome_checkFiles_of_findIdx?_eq_none hk
    rw [hreports] at h
    cases h
  | some k =>
    obtain ⟨path, reports, hpath, -, houtcome⟩ := outcome_checkFiles_of_findIdx? hk
    obtain ⟨hlt, hget⟩ := List.getElem?_eq_some_iff.mp hpath
    refine ⟨paths.take k, path, paths.drop (k + 1), ?_, fun p hp => ?_, ?_⟩
    · rw [← hget, ← List.drop_eq_getElem_cons hlt, List.take_append_drop]
    · obtain ⟨i, hi, rfl⟩ := List.mem_take_iff_getElem.mp hp
      have hstops := (List.findIdx?_eq_some_iff_getElem.mp hk).2.2 i (by omega)
      obtain ⟨report, hfile, hpassed⟩ := stops_eq_false_iff.mp (Bool.eq_false_iff.mpr hstops)
      obtain ⟨document, hload, -, hvalid⟩ := checkFile_passed_iff.mp ⟨hfile, hpassed⟩
      exact ⟨document, hload, hvalid⟩
    · rw [houtcome] at h
      cases hload : (Document.load fs path).outcome with
      | ok document =>
        rw [hload] at h
        cases h
      | error e' =>
        rw [hload] at h
        cases h
        rfl

/-- A check that is given up says why, with the path of the part that is to blame; it is never given
up because of violations.  No file of the target is refused for its format, as this has been looked
at before. -/
theorem runCheck_comesFrom (fs : FileSystem) (schema target : Path) :
    (∀ e, (runCheck fs schema target).outcome = .error e → e.ComesFrom fs schema target) ∧
      ∀ list, (Target.files fs target).outcome = .ok list → ∀ path ∈ list,
        ∀ fs' p extension,
          (Document.load fs' path).outcome ≠ .error (.unsupportedFormat p extension) := by
  refine ⟨fun e h => ?_, fun list hlist path hpath fs' p extension h => ?_⟩
  · rw [outcome_runCheck] at h
    rcases bind_eq_error_iff.mp h with h | ⟨c, hc, h⟩
    · exact Checker.comesFrom_of_load h
    rcases bind_eq_error_iff.mp h with h | ⟨list, hlist, h⟩
    · exact Target.comesFrom_of_files h
    rcases bind_eq_error_iff.mp h with h | ⟨reports, -, h⟩
    · obtain ⟨before, path, after, rfl, hbefore, hload⟩ := Checker.exists_of_checkFiles h
      have hends : EndsAt fs schema target path e := ⟨c, before, after, hc, hlist, hbefore, hload⟩
      have hformat := Target.isSupported_of_mem_files hlist (List.mem_append_right _ (.head _))
      obtain ⟨cause, rfl⟩ | ⟨cause, rfl⟩ | rfl := Document.error_of_load hformat hload
      · exact .inr (.inr hends)
      · exact hends
      · exact hends
    · cases h
  · have hformat := Target.isSupported_of_mem_files hlist hpath
    obtain ⟨cause, h⟩ | ⟨cause, h⟩ | h := Document.error_of_load hformat h <;> cases h

namespace Tree

/-- A directory with the schema `true` in the file `s`, an empty list in `a.json`, and a bracket
that is not closed in `b.json`. -/
def withOpenBracket : Tree where
  root := .directory
    [(⟨[0x61, 0x2e, 0x6a, 0x73, 0x6f, 0x6e], .refl true⟩, .regular (.ok [0x5b, 0x5d])),
      (⟨[0x62, 0x2e, 0x6a, 0x73, 0x6f, 0x6e], .refl true⟩, .regular (.ok [0x5b])),
      (⟨[0x73], .refl true⟩, .regular (.ok [0x74, 0x72, 0x75, 0x65]))]
  here := []

/-- The files of the directory are the list and the bracket. -/
lemma files_withOpenBracket : (Target.files withOpenBracket.fileSystem ⟨[0x2e]⟩).outcome =
    .ok [⟨[0x2e, 0x2f, 0x61, 0x2e, 0x6a, 0x73, 0x6f, 0x6e]⟩,
      ⟨[0x2e, 0x2f, 0x62, 0x2e, 0x6a, 0x73, 0x6f, 0x6e]⟩] := by
  let fs := withOpenBracket.fileSystem
  let listed : List Name := [⟨[0x61, 0x2e, 0x6a, 0x73, 0x6f, 0x6e], by decide⟩,
    ⟨[0x62, 0x2e, 0x6a, 0x73, 0x6f, 0x6e], by decide⟩]
  let names : List Name := listed ++ [⟨[0x73], by decide⟩]
  have hentries : fs.entries ⟨[0x2e]⟩ = .ok names := rfl
  have hfilter : names.filter (fun n =>
      Target.verdict fs (Path.join ⟨[0x2e]⟩ n) = .eligible) = listed := by decide +kernel
  exact Target.files_of_listed rfl hentries hfilter (by decide) (List.cons_ne_nil _ _)

/-- The list passes, then the bracket ends the check. -/
lemma outcome_withOpenBracket :
    (runCheck withOpenBracket.fileSystem ⟨[0x73]⟩ ⟨[0x2e]⟩).outcome =
      .error (.parseError ⟨[0x2e, 0x2f, 0x62, 0x2e, 0x6a, 0x73, 0x6f, 0x6e]⟩
        (.json ⟨.endInArray, ⟨1, 1⟩⟩)) := by
  let fs := withOpenBracket.fileSystem
  let a : Path := ⟨[0x2e, 0x2f, 0x61, 0x2e, 0x6a, 0x73, 0x6f, 0x6e]⟩
  let b : Path := ⟨[0x2e, 0x2f, 0x62, 0x2e, 0x6a, 0x73, 0x6f, 0x6e]⟩
  let c : Checker := ⟨⟨[0x73]⟩, (Shape.always true).validator⟩
  have hchecker : (Checker.load fs ⟨[0x73]⟩).outcome = .ok c := by
    have hfile : (SchemaFile.load fs ⟨[0x73]⟩).outcome = .ok ⟨⟨[0x73]⟩, .bool true⟩ := rfl
    exact Checker.outcome_load hfile (Shape.ofJson_toJson_eq_ok (.always true))
  have hformat : Format.ofPath a = .json ∧ Format.ofPath b = .json :=
    ⟨Format.ofPath_eq_json (by decide), Format.ofPath_eq_json (by decide)⟩
  have hlist : (Document.load fs a).outcome = .ok ⟨a, .json, .array []⟩ := by
    unfold Document.load
    rw [hformat.1]
    rfl
  have hbracket : (Document.load fs b).outcome =
      .error (.parseError b (.json ⟨.endInArray, ⟨1, 1⟩⟩)) := by
    unfold Document.load
    rw [hformat.2]
    rfl
  have hvalid : c.validator.violations (.array []) = [] :=
    Validator.violations_eq_nil_iff_admits.mpr (Schema.admits_always.mpr rfl)
  have hstops : c.stops fs b = true := by
    unfold Checker.stops
    rw [hbracket]
  obtain ⟨hfile, hpassed⟩ := Checker.checkFile_passed_iff.mpr ⟨_, hlist, rfl, hvalid⟩
  rw [runCheck_of_files hchecker files_withOpenBracket,
    Checker.outcome_checkFiles_of_passed hfile hpassed,
    Checker.outcome_checkFiles_of_stops hstops, hbracket]
  rfl

/-- The end of the check comes from the bracket, and no file is refused for its format. -/
theorem runCheck_withOpenBracket :
    (∃ e, (runCheck withOpenBracket.fileSystem ⟨[0x73]⟩ ⟨[0x2e]⟩).outcome = .error e ∧
      e.path = ⟨[0x2e, 0x2f, 0x62, 0x2e, 0x6a, 0x73, 0x6f, 0x6e]⟩ ∧
      e.ComesFrom withOpenBracket.fileSystem ⟨[0x73]⟩ ⟨[0x2e]⟩) ∧
    ∃ list, (Target.files withOpenBracket.fileSystem ⟨[0x2e]⟩).outcome = .ok list ∧
      ∀ path ∈ list, ∀ p extension, (Document.load withOpenBracket.fileSystem path).outcome ≠
        .error (.unsupportedFormat p extension) := by
  obtain ⟨herror, hload⟩ := runCheck_comesFrom withOpenBracket.fileSystem ⟨[0x73]⟩ ⟨[0x2e]⟩
  exact ⟨⟨_, outcome_withOpenBracket, rfl, herror _ outcome_withOpenBracket⟩,
    _, files_withOpenBracket, fun path hpath =>
      hload _ files_withOpenBracket path hpath withOpenBracket.fileSystem⟩

end Tree

end ConfigCheck
