import ConfigCheck.Proofs.Check.Gate
import ConfigCheck.Proofs.Schema.Fault
import ConfigCheck.Proofs.Text.Utf8

/-!
# Failing closed

A schema that cannot be used at some place in it cannot be used at all: wherever in the document the
fault is hidden, every check with it ends there, with nothing but the reading of the schema in its
log (`runCheck_failsClosed`).
-/

namespace ConfigCheck

/-- A schema that cannot be used gives no checker, and nothing is recorded behind its reading. -/
lemma Checker.load_of_ofJson_eq_error {fs : FileSystem} {path : Path} {file : SchemaFile}
    (hfile : (SchemaFile.load fs path).outcome = .ok file) {cause : Schema.CompileError}
    (hcause : Validator.ofJson file.value = .error cause) :
    (load fs path).outcome = .error (.schemaCompileError file.path cause) ∧
      (load fs path).log = (SchemaFile.load fs path).log := by
  have hcompile : file.compile = .fail (.schemaCompileError file.path cause) := by
    unfold SchemaFile.compile
    rw [hcause]
  unfold load
  refine ⟨?_, ?_⟩
  · rw [Logged.outcome_bind, hfile]
    change (file.compile >>= _).outcome = _
    rw [hcompile]
    rfl
  · rw [Logged.log_bind_ok hfile, hcompile]
    exact List.append_nil _

/-- A check ends with the error of the schema, and nothing is recorded behind it. -/
lemma runCheck_of_load_eq_error {fs : FileSystem} {schema : Path} {e : CheckError}
    (h : (Checker.load fs schema).outcome = .error e) (target : Path) :
    (runCheck fs schema target).outcome = .error e ∧
      (runCheck fs schema target).log = (Checker.load fs schema).log := by
  refine ⟨?_, ?_⟩
  · rw [outcome_runCheck, h]
    rfl
  · unfold runCheck
    exact Logged.log_bind_error h _

/-- A regular file with the text of a value is read as a schema. -/
lemma SchemaFile.load_eq {fs : FileSystem} {path : Path} {bytes : List UInt8} {text : String}
    {value : Json} (hregular : fs.isRegular path = true) (hbytes : fs.read path = .ok bytes)
    (htext : Utf8.decode? bytes = some text) (hvalue : Json.read text = .ok value) :
    load fs path =
      ⟨.ok ⟨path, value⟩, [⟨.debug, "loaded schema", [("path", path.display)]⟩]⟩ := by
  have hread : readValue bytes = .ok value := by
    unfold readValue
    rw [htext]
    dsimp only
    rw [hvalue]
    rfl
  unfold load
  rw [hregular, hbytes]
  dsimp only
  rw [hread]
  rfl

/-- A document with a fault in it is refused as a schema, with the path of its file.  So no checker
comes from the file, and no check with it gets further than reading it, whatever the target. -/
theorem runCheck_failsClosed {document : Json} (h : Schema.HidesFault document) :
    ∃ cause, ∀ path,
      (SchemaFile.compile ⟨path, document⟩).outcome = .error (.schemaCompileError path cause) ∧
      ∀ fs, (SchemaFile.load fs path).outcome = .ok ⟨path, document⟩ →
        (Checker.load fs path).outcome = .error (.schemaCompileError path cause) ∧
        ∀ target, (runCheck fs path target).outcome = .error (.schemaCompileError path cause) ∧
          (runCheck fs path target).log = (SchemaFile.load fs path).log := by
  obtain ⟨cause, hcause⟩ := h.ofJson_eq_error
  refine ⟨cause, fun path => ⟨?_, fun fs hload => ?_⟩⟩
  · unfold SchemaFile.compile
    rw [hcause]
    rfl
  · obtain ⟨hchecker, hlog⟩ := Checker.load_of_ofJson_eq_error hload hcause
    refine ⟨hchecker, fun target => ?_⟩
    obtain ⟨hrun, hrunLog⟩ := runCheck_of_load_eq_error hchecker target
    exact ⟨hrun, hrunLog.trans hlog⟩

namespace Tree

/-- A schema with a pattern that is none. -/
def withPattern : Json := .object [("not", .object [("items", .object [("pattern", .string "(")])])]

/-- The text of the schema with the pattern. -/
def patternText : String := "\x7b\"not\": \x7b\"items\": \x7b\"pattern\": \"(\"\x7d\x7d\x7d"

/-- A schema with a reference to another site, behind one to the schema itself. -/
def withReference : Json :=
  .object [("anyOf", .array [.object [("$ref", .string "#")],
    .object [("properties", .object [("a", .object [("$ref", .string "http://a.example/s")])])]])]

/-- The text of the schema with the reference. -/
def referenceText : String :=
  "\x7b\"anyOf\": [\x7b\"$ref\": \"#\"\x7d, " ++
    "\x7b\"properties\": \x7b\"a\": \x7b\"$ref\": \"http://a.example/s\"\x7d\x7d\x7d]\x7d"

/-- A directory with the two schemas in the files `s` and `t`. -/
def withFaultySchemas : Tree where
  root := .directory [(⟨[0x73], .refl true⟩, .regular (.ok (Utf8.encode patternText))),
    (⟨[0x74], .refl true⟩, .regular (.ok (Utf8.encode referenceText)))]
  here := []

lemma hidesFault_withPattern : Schema.HidesFault withPattern where
  plain := Schema.isPlain_of_everywhere (by decide)
  fault := by
    have hitems : Schema.IsNested (.object [("pattern", .string "(")])
        (.object [("items", .object [("pattern", .string "(")])]) :=
      .single (by decide : "items" ∈ ["not", "items"]) rfl
    have hnot : Schema.IsNested _ withPattern := .single (by decide : "not" ∈ ["not", "items"]) rfl
    exact ⟨_, .tail (.single hitems) hnot, .inl ⟨"(", rfl, by decide⟩⟩

lemma hidesFault_withReference : Schema.HidesFault withReference where
  plain := Schema.isPlain_of_everywhere (by decide)
  fault := by
    have hmember : Schema.IsNested (.object [("$ref", .string "http://a.example/s")])
        (.object [("properties",
          .object [("a", .object [("$ref", .string "http://a.example/s")])])]) :=
      .named rfl (List.mem_singleton_self _)
    have hbranch : Schema.IsNested _ withReference :=
      .listed (by decide : "anyOf" ∈ ["items", "allOf", "anyOf", "oneOf"]) rfl
        (List.mem_cons_of_mem _ (List.mem_singleton_self _))
    have hpage : Uri.IsPlainPage "http" "a.example" "/s" :=
      ⟨by decide, by decide, by decide, by decide, by decide, by decide⟩
    have htext : (Uri.page "http" "a.example" "/s").toString = "http://a.example/s" := by decide
    have hresolve : Schema.resolveText Uri.unnamed "http://a.example/s" =
        .ok (Uri.page "http" "a.example" "/s") :=
      htext ▸ Schema.resolveText_of_isPlainPage hpage rfl
    have hremote := Schema.isRemote_of_site hresolve (by decide) (by decide)
    exact ⟨_, .tail (.single hmember) hbranch, .inr ⟨_, rfl, hremote⟩⟩

/-- Both schemas stop a check before it is seen that there is no target of this name. -/
theorem runCheck_withFaultySchemas :
    (∃ cause, (runCheck withFaultySchemas.fileSystem ⟨[0x73]⟩ ⟨[0x75]⟩).outcome =
        .error (.schemaCompileError ⟨[0x73]⟩ cause) ∧
      (runCheck withFaultySchemas.fileSystem ⟨[0x73]⟩ ⟨[0x75]⟩).log =
        [⟨.debug, "loaded schema", [("path", "s")]⟩]) ∧
    ∃ cause, (runCheck withFaultySchemas.fileSystem ⟨[0x74]⟩ ⟨[0x75]⟩).outcome =
        .error (.schemaCompileError ⟨[0x74]⟩ cause) ∧
      (runCheck withFaultySchemas.fileSystem ⟨[0x74]⟩ ⟨[0x75]⟩).log =
        [⟨.debug, "loaded schema", [("path", "t")]⟩] := by
  have hstops : ∀ {schema : Path} {name : String} {value : Json}, schema.display = name →
      Schema.HidesFault value →
      SchemaFile.load withFaultySchemas.fileSystem schema =
        ⟨.ok ⟨schema, value⟩, [⟨.debug, "loaded schema", [("path", schema.display)]⟩]⟩ →
      ∃ cause, (runCheck withFaultySchemas.fileSystem schema ⟨[0x75]⟩).outcome =
          .error (.schemaCompileError schema cause) ∧
        (runCheck withFaultySchemas.fileSystem schema ⟨[0x75]⟩).log =
          [⟨.debug, "loaded schema", [("path", name)]⟩] := by
    rintro schema name value rfl hfault hload
    obtain ⟨cause, hcause⟩ := runCheck_failsClosed hfault
    obtain ⟨-, hrun⟩ := (hcause schema).2 withFaultySchemas.fileSystem (by rw [hload])
    rw [hload] at hrun
    exact ⟨cause, hrun ⟨[0x75]⟩⟩
  refine ⟨?_, ?_⟩
  · exact hstops rfl hidesFault_withPattern (SchemaFile.load_eq rfl rfl (Utf8.decode?_encode _) rfl)
  · exact hstops rfl hidesFault_withReference
      (SchemaFile.load_eq rfl rfl (Utf8.decode?_encode _) rfl)

end Tree

end ConfigCheck
