import ConfigCheck.Check.Document
import ConfigCheck.File.Tree
import ConfigCheck.Proofs.Outcome
import ConfigCheck.Proofs.Text.Utf8

/-!
# How a document is loaded

Once a file is read and its bytes are a text, what is loaded depends on the text and its format only
(`Document.outcome_load_of_text`).  A YAML text that is not blank is converted when its merge keys
are applied (`Document.outcome_load_of_tree`).
-/

namespace ConfigCheck

/-! ## The format of a file -/

namespace Format

lemma encode_json : Utf8.encode "json" = [0x6a, 0x73, 0x6f, 0x6e] :=
  (Utf8.encode_ofList _).trans rfl

lemma encode_yaml : Utf8.encode "yaml" = [0x79, 0x61, 0x6d, 0x6c] :=
  (Utf8.encode_ofList _).trans rfl

lemma encode_yml : Utf8.encode "yml" = [0x79, 0x6d, 0x6c] :=
  (Utf8.encode_ofList _).trans rfl

/-- A path with the extension `json` is one of JSON. -/
lemma ofPath_eq_json {p : Path} (h : p.extension? = some [0x6a, 0x73, 0x6f, 0x6e]) :
    ofPath p = .json := by
  unfold ofPath ofExtension
  rw [h, encode_json]
  rfl

/-- A path with the extension `yaml` or `yml` is one of YAML. -/
lemma ofPath_eq_yaml {p : Path}
    (h : p.extension? = some [0x79, 0x61, 0x6d, 0x6c] ∨ p.extension? = some [0x79, 0x6d, 0x6c]) :
    ofPath p = .yaml := by
  unfold ofPath ofExtension
  rw [encode_json, encode_yaml, encode_yml]
  rcases h with h | h <;> rw [h] <;> rfl

end Format

/-! ## What is loaded -/

namespace Document

variable {fs : FileSystem} {path : Path} {bytes : List UInt8} {text : String}

/-- A text in a format that can be loaded decides about the document. -/
theorem outcome_load_of_text (hformat : (Format.ofPath path).isSupported = true)
    (hread : fs.read path = .ok bytes) (htext : Utf8.decode? bytes = some text) :
    (load fs path).outcome = match (Format.ofPath path).read text with
      | .error e => .error (.parseError path e)
      | .ok content => ofContent path (Format.ofPath path) content := by
  have hload : load fs path = ofBytes path (Format.ofPath path) bytes := by
    unfold load
    rw [hread]
    split
    · rename_i extension hunsupported
      rw [hunsupported] at hformat
      cases hformat
    · rfl
  rw [hload]
  unfold ofBytes
  rw [htext]
  simp only [Logged.outcome_bind, Logged.outcome_record]
  cases (Format.ofPath path).read text with
  | error e => rfl
  | ok content => rfl

/-- A file with the extension of a format cannot be read, is refused, or is empty. -/
lemma error_of_load {e : CheckError} (hformat : (Format.ofPath path).isSupported = true)
    (h : (load fs path).outcome = .error e) :
    (∃ cause, e = .io path cause) ∨ (∃ cause, e = .parseError path cause) ∨
      e = .emptyDocument path := by
  unfold load at h
  split at h
  · rename_i heq
    rw [heq] at hformat
    cases hformat
  · split at h
    · cases h
      exact .inl ⟨_, rfl⟩
    · unfold ofBytes at h
      split at h
      · cases h
        exact .inr (.inl ⟨_, rfl⟩)
      · rw [Logged.outcome_bind, Logged.outcome_record] at h
        simp only [bind, Except.bind] at h
        split at h
        · cases h
          exact .inr (.inl ⟨_, rfl⟩)
        · rw [Logged.outcome_ofExcept] at h
          unfold ofContent at h
          split at h
          · cases h
            exact .inr (.inr rfl)
          · cases h
            exact .inr (.inr rfl)
          · cases h

/-- Content that makes a document is its value. -/
lemma eq_of_ofContent {format : Format} {content : Option Json} {d : Document}
    (h : ofContent path format content = .ok d) : content = some d.value := by
  unfold ofContent at h
  split at h
  · cases h
  · cases h
  · cases h
    rfl

/-- What is loaded is the value of the text in the format of its file. -/
lemma read_of_load {d : Document} (hread : fs.read path = .ok bytes)
    (htext : Utf8.decode? bytes = some text) (h : (load fs path).outcome = .ok d) :
    (Format.ofPath path).read text = .ok (some d.value) := by
  have hsupported : (Format.ofPath path).isSupported = true := by
    cases hformat : Format.ofPath path with
    | json => rfl
    | yaml => rfl
    | unsupported extension =>
      unfold load at h
      rw [hformat] at h
      cases h
  rw [outcome_load_of_text hsupported hread htext] at h
  split at h
  · cases h
  · rename_i content hcontent
    rw [hcontent, eq_of_ofContent h]

/-- A YAML text that is not blank is converted when its merge keys are applied. -/
theorem outcome_load_of_tree {raw n : Yaml.Node} (hformat : Format.ofPath path = .yaml)
    (hread : fs.read path = .ok bytes) (htext : Utf8.decode? bytes = some text)
    (hblank : isBlankYaml text = false) (hraw : Yaml.read text = .ok raw)
    (hmerge : raw.merge = .ok n) :
    (load fs path).outcome = match n.toJson with
      | .error e => .error (.parseError path (.conversion e))
      | .ok value => ofContent path .yaml (some value) := by
  have hsupported : (Format.ofPath path).isSupported = true := by
    rw [hformat]
    rfl
  have hcontent : Format.yaml.read text = (n.toJson.mapError .conversion).map some := by
    simp only [Format.read, hblank, Bool.false_eq_true, if_false, readYaml, hraw, hmerge,
      Except.mapError, bind, Except.bind]
  rw [outcome_load_of_text hsupported hread htext, hformat, hcontent]
  cases n.toJson with
  | error e => rfl
  | ok value => rfl

/-- A YAML document that is loaded is converted from its tree when the merge keys are applied. -/
theorem exists_tree_of_load {d : Document} (hformat : Format.ofPath path = .yaml)
    (hread : fs.read path = .ok bytes) (htext : Utf8.decode? bytes = some text)
    (h : (load fs path).outcome = .ok d) :
    ∃ raw n, Yaml.read text = .ok raw ∧ raw.merge = .ok n ∧ n.toJson = .ok d.value := by
  have hcontent := read_of_load hread htext h
  rw [hformat, Format.read] at hcontent
  split at hcontent
  · cases hcontent
  · obtain ⟨value, hvalue, heq⟩ := map_eq_ok_iff.mp hcontent
    cases heq
    obtain ⟨raw, hraw, hvalue⟩ := bind_eq_ok_iff.mp hvalue
    obtain ⟨n, hmerge, hvalue⟩ := bind_eq_ok_iff.mp hvalue
    rw [mapError_eq_ok_iff] at hraw hmerge hvalue
    exact ⟨raw, n, hraw, hmerge, hvalue⟩

end Document

/-! ## A single file -/

namespace Tree

/-- The path of a YAML file. -/
def configPath : Path := ⟨[0x61, 0x2e, 0x79, 0x61, 0x6d, 0x6c]⟩

/-- A directory with one file, `a.yaml`, that holds a text. -/
def withText (text : String) : Tree where
  root := .directory
    [(⟨[0x61, 0x2e, 0x79, 0x61, 0x6d, 0x6c], .refl true⟩, .regular (.ok (Utf8.encode text)))]
  here := []

/-- The file is there. -/
lemma read_withText (text : String) :
    (withText text).fileSystem.read configPath = .ok (Utf8.encode text) := by
  rfl

/-- The file is a YAML file. -/
lemma ofPath_configPath : Format.ofPath configPath = .yaml :=
  Format.ofPath_eq_yaml (by decide)

/-- The file is loaded if its text is a tree in which merge keys can be applied, and the tree is
converted to an object that has members. -/
theorem outcome_load_withText {text : String} {raw n : Yaml.Node} {value : Json}
    (hblank : isBlankYaml text = false) (hraw : Yaml.read text = .ok raw)
    (hmerge : raw.merge = .ok n) (hvalue : n.toJson = .ok value) (hmembers : value.members ≠ []) :
    (Document.load (withText text).fileSystem configPath).outcome =
      .ok ⟨configPath, .yaml, value⟩ := by
  rw [Document.outcome_load_of_tree ofPath_configPath (read_withText text)
    (Utf8.decode?_encode text) hblank hraw hmerge, hvalue]
  cases value with
  | null => exact absurd rfl hmembers
  | _ => rfl

end Tree

end ConfigCheck
