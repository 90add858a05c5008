import ConfigCheck.Proofs.Document.Load
import ConfigCheck.Proofs.File.Path
import Mathlib.Data.List.Forall2

/-!
# The format of a path

The format of a document is settled by the extension of the name that its path ends in, up to the
case of ASCII letters (`Format.ofPath_hasExtension`).  The directories on the way do not count, and
nothing is read before the format is known.
-/

namespace ConfigCheck

open ConfigCheck.Path (slash dot)

namespace Format

/-- Two bytes are the same, or one is a capital ASCII letter and the other one its small form. -/
def SameLetter (a b : UInt8) : Prop :=
  a = b ∨ (0x41 ≤ a ∧ a ≤ 0x5a ∧ b = a + 0x20) ∨ (0x41 ≤ b ∧ b ≤ 0x5a ∧ a = b + 0x20)

/-- Bytes are the same up to the case of ASCII letters. -/
def SameLetters (a b : List UInt8) : Prop := List.Forall₂ SameLetter a b

/-- An extension is the name of a format up to the case of ASCII letters. -/
def IsKnown (ext : List UInt8) : Prop :=
  SameLetters ext (Utf8.encode "json") ∨ SameLetters ext (Utf8.encode "yaml") ∨
    SameLetters ext (Utf8.encode "yml")

/-- A text is what is shown of an extension: its text, and nothing if it is not UTF-8. -/
def IsShownFor (text : String) (ext : List UInt8) : Prop :=
  Utf8.decode? ext = some text ∨ Utf8.decode? ext = none ∧ text = ""

/-- Small forms are compared without regard to case. -/
lemma lowerByte_eq_iff {a b : UInt8} : lowerByte a = lowerByte b ↔ SameLetter a b := by
  unfold lowerByte SameLetter
  grind

/-- Small forms are compared without regard to case. -/
lemma map_lowerByte_eq_iff {a b : List UInt8} :
    a.map lowerByte = b.map lowerByte ↔ SameLetters a b := by
  rw [← List.forall₂_eq_eq_eq, List.forall₂_map_left_iff, List.forall₂_map_right_iff]
  simp only [lowerByte_eq_iff]
  rfl

/-- No capital letter has a slash for its small form. -/
lemma lowerByte_eq_slash_iff (b : UInt8) : lowerByte b = slash ↔ b = slash := by
  unfold lowerByte slash
  grind

/-- No capital letter has a dot for its small form. -/
lemma lowerByte_eq_dot_iff (b : UInt8) : lowerByte b = dot ↔ b = dot := by
  unfold lowerByte dot
  grind

variable {ext other : List UInt8} {p q : Path}

/-- The format of an extension is JSON if this is its name. -/
lemma ofExtension_eq_json_iff :
    ofExtension ext = .json ↔ SameLetters ext (Utf8.encode "json") := by
  have hword : (Utf8.encode "json").map lowerByte = Utf8.encode "json" := by
    rw [encode_json]
    rfl
  rw [← map_lowerByte_eq_iff, hword]
  unfold ofExtension
  grind

/-- The format of an extension is YAML if this is its name, in full or without the `a`. -/
lemma ofExtension_eq_yaml_iff :
    ofExtension ext = .yaml ↔
      SameLetters ext (Utf8.encode "yaml") ∨ SameLetters ext (Utf8.encode "yml") := by
  have hword : (Utf8.encode "yaml").map lowerByte = Utf8.encode "yaml" := by
    rw [encode_yaml]
    rfl
  have hshort : (Utf8.encode "yml").map lowerByte = Utf8.encode "yml" := by
    rw [encode_yml]
    rfl
  have hjson : Utf8.encode "json" ≠ Utf8.encode "yaml" := by
    rw [encode_json, encode_yaml]
    decide
  have hjson' : Utf8.encode "json" ≠ Utf8.encode "yml" := by
    rw [encode_json, encode_yml]
    decide
  rw [← map_lowerByte_eq_iff, ← map_lowerByte_eq_iff, hword, hshort]
  unfold ofExtension
  grind

/-- Any other extension is kept as it is, if it is a text. -/
lemma ofExtension_eq_unsupported_iff {text : String} :
    ofExtension ext = .unsupported text ↔ ¬ IsKnown ext ∧ IsShownFor text ext := by
  have hshown : (Utf8.decode? ext).getD "" = text ↔ IsShownFor text ext := by
    unfold IsShownFor
    cases Utf8.decode? ext with
    | none => simp [eq_comm]
    | some s => simp
  constructor
  · intro h
    have hknown : ¬ IsKnown ext := by
      intro hknown
      rcases hknown with hjson | hyaml
      · cases h.symm.trans (ofExtension_eq_json_iff.mpr hjson)
      · cases h.symm.trans (ofExtension_eq_yaml_iff.mpr hyaml)
    refine ⟨hknown, hshown.mp ?_⟩
    unfold ofExtension at h
    grind
  · rintro ⟨hknown, htext⟩
    have hjson : ofExtension ext ≠ .json := fun h => hknown (.inl (ofExtension_eq_json_iff.mp h))
    have hyaml : ofExtension ext ≠ .yaml := fun h => hknown (.inr (ofExtension_eq_yaml_iff.mp h))
    rw [← hshown.mpr htext]
    unfold ofExtension at hjson hyaml ⊢
    grind

/-- The case of letters in an extension does not matter, if it names a format. -/
lemma ofExtension_congr (h : SameLetters ext other) (hsupported : (ofExtension ext).isSupported) :
    ofExtension other = ofExtension ext := by
  have hlower : ext.map lowerByte = other.map lowerByte := map_lowerByte_eq_iff.mpr h
  unfold ofExtension at hsupported ⊢
  dsimp only at hsupported ⊢
  rw [← hlower]
  split
  · rfl
  · rename_i hjson
    split
    · rfl
    · rename_i hyaml
      rw [if_neg hjson, if_neg hyaml] at hsupported
      cases hsupported

/-- The format of a path is that of its extension; without one it is none. -/
lemma ofPath_eq_iff {format : Format} :
    ofPath p = format ↔ (∃ stem ext, p.HasExtension stem ext ∧ ofExtension ext = format) ∨
      (∀ stem ext, ¬ p.HasExtension stem ext) ∧ .unsupported "" = format := by
  unfold ofPath
  cases hext : p.extension? with
  | none =>
    have hnone := Path.extension?_eq_none_iff.mp hext
    have hempty : ofExtension [] = .unsupported "" := by
      unfold ofExtension
      rw [encode_json, encode_yaml, encode_yml]
      rfl
    simp only [Option.getD_none, hempty, hnone, false_and, exists_false, false_or,
      not_false_eq_true, implies_true, true_and]
  | some ext =>
    obtain ⟨stem, hstem⟩ := Path.extension?_eq_some_iff.mp hext
    rw [Option.getD_some]
    constructor
    · intro h
      exact .inl ⟨stem, ext, hstem, h⟩
    · rintro (⟨stem', ext', hstem', h⟩ | ⟨hnone, -⟩)
      · cases hext.symm.trans (Path.extension?_eq_some_iff.mpr ⟨stem', hstem'⟩)
        exact h
      · exact absurd hstem (hnone stem ext)

/-- A path whose format can be loaded has an extension. -/
lemma exists_hasExtension (h : (ofPath p).isSupported) :
    ∃ stem ext, p.HasExtension stem ext ∧ ofExtension ext = ofPath p := by
  rcases ofPath_eq_iff.mp (Eq.refl (ofPath p)) with hext | ⟨-, hnone⟩
  · exact hext
  · rw [← hnone] at h
    cases h

/-- The directories in front of a path that ends in a name do not matter. -/
lemma ofPath_below {name : List UInt8} (h : p.EndsIn name) (dir : List UInt8) :
    ofPath ⟨dir ++ slash :: p.bytes⟩ = ofPath p := by
  have hname := Path.endsIn_iff.mp h
  have hbelow := Path.endsIn_iff.mp (h.below dir)
  unfold ofPath Path.extension? Path.fileName?
  rw [hname, hbelow]

/-- The case of letters does not matter for a path whose format can be loaded. -/
lemma ofPath_congr (h : SameLetters p.bytes q.bytes) (hsupported : (ofPath p).isSupported) :
    ofPath q = ofPath p := by
  have hlower := map_lowerByte_eq_iff.mpr h
  have hext := Path.extension?_map lowerByte_eq_slash_iff lowerByte_eq_dot_iff p
  have hext' := Path.extension?_map lowerByte_eq_slash_iff lowerByte_eq_dot_iff q
  rw [← hlower, hext] at hext'
  unfold ofPath at hsupported ⊢
  cases hp : p.extension? with
  | none =>
    rw [hp] at hext' hsupported
    rw [Option.map_eq_none_iff.mp hext'.symm]
  | some ext =>
    rw [hp] at hext' hsupported
    obtain ⟨other, hq, hsame⟩ := Option.map_eq_some_iff.mp hext'.symm
    rw [hq]
    exact ofExtension_congr (map_lowerByte_eq_iff.mp hsame.symm) hsupported

/-- A document is refused for its format before anything is read. -/
lemma load_eq_unsupportedFormat_iff (fs : FileSystem) {text : String} :
    (Document.load fs p).outcome = .error (.unsupportedFormat q text) ↔
      q = p ∧ ofPath p = .unsupported text := by
  constructor
  · intro h
    by_cases hsupported : (ofPath p).isSupported = true
    · obtain ⟨cause, he⟩ | ⟨cause, he⟩ | he := Document.error_of_load hsupported h <;> cases he
    · unfold Document.load at h
      cases hformat : ofPath p with
      | json => exact absurd (by rw [hformat]; rfl) hsupported
      | yaml => exact absurd (by rw [hformat]; rfl) hsupported
      | unsupported extension =>
        rw [hformat] at h
        cases h
        exact ⟨rfl, rfl⟩
  · rintro ⟨rfl, hformat⟩
    unfold Document.load
    rw [hformat]
    rfl

/-- The format of a path is settled by the name that the path ends in, without the slashes and dots
behind it: it is JSON or YAML exactly if there is something before the last dot of the name and what
stands behind it is the name of the format, up to the case of ASCII letters.  Any other extension is
kept as it is if it is a text; if it is not, or if there is none, the empty text is kept.  Hence the
directories in front do not matter, nor does the case of letters for a path whose format can be
loaded; and the others are exactly those that are refused for their format, whatever the file system
holds. -/
theorem ofPath_hasExtension (p : Path) :
    (ofPath p = .json ↔
      ∃ stem ext, p.HasExtension stem ext ∧ SameLetters ext (Utf8.encode "json")) ∧
    (ofPath p = .yaml ↔
      ∃ stem ext, p.HasExtension stem ext ∧
        (SameLetters ext (Utf8.encode "yaml") ∨ SameLetters ext (Utf8.encode "yml"))) ∧
    (∀ text, ofPath p = .unsupported text ↔
      (∃ stem ext, p.HasExtension stem ext ∧ ¬ IsKnown ext ∧ IsShownFor text ext) ∨
        (∀ stem ext, ¬ p.HasExtension stem ext) ∧ text = "") ∧
    (∀ dir name, p.EndsIn name → ofPath ⟨dir ++ slash :: p.bytes⟩ = ofPath p) ∧
    (∀ dir, (ofPath p).isSupported = true → ofPath ⟨dir ++ slash :: p.bytes⟩ = ofPath p) ∧
    (∀ q, SameLetters p.bytes q.bytes → (ofPath p).isSupported = true → ofPath q = ofPath p) ∧
    ∀ fs q text, (Document.load fs p).outcome = .error (.unsupportedFormat q text) ↔
      q = p ∧ ofPath p = .unsupported text := by
  refine ⟨?_, ?_, ?_, ?_, ?_, ?_, ?_⟩
  · simp only [ofPath_eq_iff, ofExtension_eq_json_iff, reduceCtorEq, and_false, or_false]
  · simp only [ofPath_eq_iff, ofExtension_eq_yaml_iff, reduceCtorEq, and_false, or_false]
  · intro text
    simp only [ofPath_eq_iff, ofExtension_eq_unsupported_iff, unsupported.injEq, eq_comm]
  · intro dir name hname
    exact ofPath_below hname dir
  · intro dir hsupported
    obtain ⟨stem, ext, hext, -⟩ := exists_hasExtension hsupported
    exact ofPath_below hext.endsIn dir
  · intro q hsame hsupported
    exact ofPath_congr hsame hsupported
  · intro fs q text
    exact load_eq_unsupportedFormat_iff fs

/-- A path with the extension `Yaml` behind another dot, and with a slash and a dot behind the
name. -/
def prodYaml : Path := Path.ofString "conf.d/app.prod.Yaml/."

/-- The same path with other capital letters. -/
def prodYamlCapitals : Path := Path.ofString "conf.d/App.prod.YAML/."

/-- The path is one of YAML, also with other capital letters and below another directory, and is not
refused for its format. -/
theorem ofPath_prodYaml :
    (∃ stem ext, prodYaml.HasExtension stem ext ∧
      (SameLetters ext (Utf8.encode "yaml") ∨ SameLetters ext (Utf8.encode "yml"))) ∧
    prodYaml.EndsIn (Utf8.encode "app.prod.Yaml") ∧
    ofPath ⟨Utf8.encode "/srv" ++ slash :: prodYaml.bytes⟩ = ofPath prodYaml ∧
    (ofPath prodYaml).isSupported = true ∧
    ofPath ⟨Utf8.encode ".." ++ slash :: prodYaml.bytes⟩ = ofPath prodYaml ∧
    SameLetters prodYaml.bytes prodYamlCapitals.bytes ∧
    ofPath prodYamlCapitals = ofPath prodYaml ∧
    ∀ fs q text, (Document.load fs prodYaml).outcome ≠ .error (.unsupportedFormat q text) := by
  have hname : prodYaml.EndsIn (Utf8.encode "app.prod.Yaml") :=
    Path.endsIn_iff.mpr (by decide +kernel)
  have hsame : SameLetters prodYaml.bytes prodYamlCapitals.bytes :=
    map_lowerByte_eq_iff.mp (by decide +kernel)
  have hyaml : ofPath prodYaml = .yaml := by decide +kernel
  have hsupported : (ofPath prodYaml).isSupported = true := by decide +kernel
  obtain ⟨-, hextension, -, hbelow, hbelow', hcase, hload⟩ := ofPath_hasExtension prodYaml
  refine ⟨hextension.mp hyaml, hname, hbelow _ _ hname, hsupported, hbelow' _ hsupported, hsame,
    hcase _ hsame hsupported, ?_⟩
  intro fs q text h
  have hunsupported := ((hload fs q text).mp h).2
  rw [hyaml] at hunsupported
  cases hunsupported

end Format

end ConfigCheck
