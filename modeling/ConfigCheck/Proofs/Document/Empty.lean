import ConfigCheck.Proofs.Document.Load
import ConfigCheck.Proofs.Yaml.Entries
import ConfigCheck.Proofs.Yaml.Marker

/-!
# Empty documents

A document is empty if its value is null.  It is also reported as empty if its text is blank, and a
text is blank by other lines than those of YAML: they end at line feeds only, any Unicode white
space is cut off from them, and a document marker in them may be indented.  A blank text that is
void by the lines of YAML, too, has no value; one that is not may have one, which is overlooked
(`Document.outcome_eq_emptyDocument_iff`).
-/

namespace ConfigCheck

open Yaml (isBreak isIdleLine isMarkerLine isVoid)

/-! ## Blank texts -/

/-- Whether a line has no white space but spaces and tabs, and a document marker only where it
begins. -/
def isPlainLine (line : List Char) : Bool :=
  line.all (fun c => !Text.isBlank c || Yaml.isBlank c) &&
    (!isMarkerLine (line.dropWhile Yaml.isBlank) || isMarkerLine line)

/-- Whether all lines of a text are plain. -/
def hasPlainLines (text : String) : Bool := (Text.lines text.toList).all isPlainLine

variable {line : List Char}

/-- On a plain line white space is what YAML takes for it. -/
lemma isBlank_iff_of_isPlainLine (h : isPlainLine line = true) :
    ∀ c ∈ line, Text.isBlank c = Yaml.isBlank c := by
  intro c hc
  have hplain := List.all_eq_true.mp (Bool.and_eq_true_iff.mp h).1 c hc
  cases hblank : Yaml.isBlank c with
  | false =>
    rw [hblank, Bool.or_false] at hplain
    exact Bool.not_eq_true' _ |>.mp hplain
  | true =>
    rcases Yaml.isBlank_iff.mp hblank with rfl | rfl
    · decide
    · decide

/-- A plain line does not end before its end. -/
lemma isBreak_of_isPlainLine (h : isPlainLine line = true) : ∀ c ∈ line, isBreak c = false := by
  intro c hc
  have hsame := isBlank_iff_of_isPlainLine h c hc
  by_contra hbreak
  unfold isBreak at hbreak
  simp only [Bool.not_eq_false, Bool.or_eq_true, decide_eq_true_eq] at hbreak
  rcases hbreak with (((rfl | rfl) | rfl) | rfl) | rfl <;> exact absurd hsame (by decide)

/-- Where two tests agree they drop the same characters. -/
lemma dropWhile_eq_of_isPlainLine (h : isPlainLine line = true) :
    line.dropWhile Text.isBlank = line.dropWhile Yaml.isBlank := by
  have hsame := isBlank_iff_of_isPlainLine h
  clear h
  induction line with
  | nil => rfl
  | cons c rest ih =>
    obtain ⟨hc, hrest⟩ := List.forall_mem_cons.mp hsame
    rw [List.dropWhile_cons, List.dropWhile_cons, hc, ih hrest]

/-- Behind the white space at its beginning a line is what is left of it and white space. -/
lemma exists_trim (line : List Char) : ∃ blanks, line.dropWhile Text.isBlank =
    Text.trim line ++ blanks ∧ ∀ c ∈ blanks, Text.isBlank c = true := by
  refine ⟨((line.dropWhile Text.isBlank).reverse.takeWhile Text.isBlank).reverse, ?_, ?_⟩
  · rw [Text.trim, ← List.reverse_append, List.takeWhile_append_dropWhile, List.reverse_reverse]
  · intro c hc
    exact List.mem_takeWhile_imp (List.mem_reverse.mp hc)

/-- A plain line without content is idle or holds a marker. -/
lemma idle_or_marker_of_isBlankYamlLine (hplain : isPlainLine line = true)
    (hblank : isBlankYamlLine line = true) :
    isIdleLine line = true ∨ isMarkerLine line = true := by
  obtain ⟨blanks, hsplit, hblanks⟩ := exists_trim line
  rw [dropWhile_eq_of_isPlainLine hplain] at hsplit
  have hspaces : ∀ c ∈ blanks, Yaml.isBlank c = true := by
    intro c hc
    have hmem : c ∈ line := (List.dropWhile_sublist Yaml.isBlank).subset
      (hsplit ▸ List.mem_append_right _ hc)
    rw [← isBlank_iff_of_isPlainLine hplain c hmem]
    exact hblanks c hc
  have hmarker : ∀ char, (char = '-' ∨ char = '.') → Text.trim line = [char, char, char] →
      isMarkerLine line = true := by
    intro char hchar htrim
    have hbehind : isMarkerLine (line.dropWhile Yaml.isBlank) = true := by
      rw [hsplit, htrim]
      rcases hchar with rfl | rfl
      · simpa [isMarkerLine] using hspaces
      · simpa [isMarkerLine] using hspaces
    have hflush := (Bool.and_eq_true_iff.mp hplain).2
    rw [hbehind, Bool.not_true, Bool.false_or] at hflush
    exact hflush
  unfold isBlankYamlLine at hblank
  simp only [Bool.or_eq_true, decide_eq_true_eq] at hblank
  rcases hblank with ((hnil | hhash) | hdashes) | hdots
  · left
    rw [hnil, List.nil_append] at hsplit
    rw [isIdleLine, hsplit]
    cases blanks with
    | nil => rfl
    | cons first rest =>
      have hfirst := List.head?_dropWhile_not Yaml.isBlank line
      rw [hsplit] at hfirst
      exact absurd (hspaces first List.mem_cons_self) (by simpa using hfirst)
  · left
    rw [isIdleLine, hsplit, List.head?_append, hhash]
    rfl
  · exact .inr (hmarker '-' (.inl rfl) hdashes)
  · exact .inr (hmarker '.' (.inr rfl) hdots)

/-- A text that is one line in front of a line end is void if both parts are. -/
lemma isVoid_append {b : Char} {rest : List Char} (hline : ∀ c ∈ line, isBreak c = false)
    (hvoid : isIdleLine line = true ∨ isMarkerLine line = true) (hb : isBreak b = true)
    (hrest : isVoid rest = true) : isVoid (line ++ b :: rest) = true := by
  unfold isVoid at hrest ⊢
  rw [List.splitOnP_append_cons_of_forall_mem hline b hb rest, List.all_cons, hrest, Bool.and_true,
    Bool.or_eq_true]
  exact hvoid

/-- Lines that are plain and have no content make a void text. -/
lemma isVoid_of_linesFrom {acc cs : List Char}
    (h : ∀ line ∈ Text.linesFrom acc cs, isPlainLine line = true ∧ isBlankYamlLine line = true) :
    isVoid (acc.reverse ++ cs) = true := by
  induction cs generalizing acc with
  | nil =>
    rw [List.append_nil]
    by_cases hacc : acc = []
    · subst hacc
      rfl
    · rw [Text.linesFrom, if_neg hacc] at h
      obtain ⟨hplain, hblank⟩ := h _ List.mem_cons_self
      rw [isVoid, List.splitOnP_eq_singleton (isBreak_of_isPlainLine hplain), List.all_cons,
        List.all_nil, Bool.and_true, Bool.or_eq_true]
      exact idle_or_marker_of_isBlankYamlLine hplain hblank
  | cons c rest ih =>
    rw [Text.linesFrom] at h
    by_cases hc : c = '\n'
    · subst hc
      rw [if_pos rfl, List.forall_mem_cons] at h
      obtain ⟨⟨hplain, hblank⟩, hmore⟩ := h
      have hrest : isVoid rest = true := ih hmore
      have hvoid := idle_or_marker_of_isBlankYamlLine hplain hblank
      have hbreak := isBreak_of_isPlainLine hplain
      unfold Text.dropReturn at hvoid hbreak
      -- A carriage return in front of the line feed ends the line, and an empty one is between.
      split at hvoid
      · rename_i hlast
        rw [if_pos hlast] at hbreak
        have hsplit := List.dropLast_append_getLast? _ hlast
        have hempty : isVoid ([] ++ '\n' :: rest) = true :=
          isVoid_append (List.forall_mem_nil _) (.inl rfl) rfl hrest
        rw [← hsplit, List.append_assoc]
        exact isVoid_append hbreak hvoid rfl hempty
      · rename_i hlast
        rw [if_neg hlast] at hbreak
        exact isVoid_append hbreak hvoid rfl hrest
    · rw [if_neg hc] at h
      have hvoid := ih h
      rw [List.reverse_cons, List.append_assoc] at hvoid
      exact hvoid

/-- A blank text whose lines are plain is void. -/
theorem isVoid_of_isBlankYaml {text : String} (hplain : hasPlainLines text = true)
    (hblank : isBlankYaml text = true) : isVoid text.toList = true :=
  have hlines : ∀ line ∈ Text.linesFrom [] text.toList,
      isPlainLine line = true ∧ isBlankYamlLine line = true := fun line hline =>
    ⟨List.all_eq_true.mp hplain line hline, List.all_eq_true.mp hblank line hline⟩
  isVoid_of_linesFrom hlines

/-! ## Null -/

namespace Yaml

namespace Node

/-- A node without the tags around it. -/
def untagged : Node → Node
  | .tagged _ n => n.untagged
  | n => n

/-- Only null is the same key as null. -/
lemma same_null_iff {n : Node} : n.same .null = true ↔ n = .null := by
  cases n <;> simp [same]

/-- A tree becomes null exactly if it is null behind its tags. -/
lemma toJson_eq_null_iff {n : Node} : n.toJson = .ok .null ↔ n.untagged = .null := by
  induction n using Node.ind with
  | null => exact ⟨fun _ => rfl, fun _ => rfl⟩
  | bool | string =>
    constructor
    · rintro ⟨⟩
    · rintro ⟨⟩
  | number x =>
    constructor
    · intro h
      obtain ⟨y, hy⟩ := exists_number_of_toJson h
      cases hy
    · rintro ⟨⟩
  | sequence items =>
    constructor
    · intro h
      obtain ⟨values, hvalues, -⟩ := toJson_sequence_eq_ok_iff.mp h
      cases hvalues
    · rintro ⟨⟩
  | mapping entries =>
    constructor
    · intro h
      obtain ⟨members, hmembers, -⟩ := toJson_mapping_eq_ok_iff.mp h
      cases hmembers
    · rintro ⟨⟩
  | tagged tag node ih => exact ih

end Node

/-- Merge keys make nothing null and leave null as it is. -/
lemma untagged_of_mergeNode {depth : Nat} {n m : Node} (h : mergeNode depth n = .ok m) :
    m.untagged = .null ↔ n.untagged = .null := by
  induction depth generalizing n m with
  | zero =>
    cases h
    rfl
  | succ depth ih =>
    cases n with
    | mapping entries =>
      obtain ⟨result, -, h⟩ := bind_eq_ok_iff.mp h
      obtain ⟨merged, -, h⟩ := bind_eq_ok_iff.mp h
      cases h
      exact ⟨nofun, nofun⟩
    | sequence items =>
      obtain ⟨merged, -, h⟩ := bind_eq_ok_iff.mp h
      cases h
      exact ⟨nofun, nofun⟩
    | tagged tag node =>
      obtain ⟨merged, hmerged, h⟩ := bind_eq_ok_iff.mp h
      cases h
      exact ih (n := node) (m := merged) hmerged
    | _ =>
      cases h
      rfl

/-- In a tree that is null there is nothing to merge. -/
lemma mergeNode_of_untagged {depth : Nat} {n : Node} (h : n.untagged = .null) :
    mergeNode depth n = .ok n := by
  induction depth generalizing n with
  | zero => rfl
  | succ depth ih =>
    cases n with
    | tagged tag node => exact bind_eq_ok_iff.mpr ⟨node, ih h, rfl⟩
    | mapping | sequence => cases h
    | _ => rfl

end Yaml

variable {text : String} {n : Yaml.Node}

/-- The value of a text is null exactly if its tree is null behind its tags. -/
lemma readYaml_eq_null_iff (hn : Yaml.read text = .ok n) :
    readYaml text = .ok .null ↔ n.untagged = .null := by
  unfold readYaml
  rw [hn]
  change ((n.merge.mapError .merge >>= fun m => m.toJson.mapError .conversion) :
    Except ContentError Json) = .ok .null ↔ _
  constructor
  · intro h
    obtain ⟨m, hmerge, h⟩ := bind_eq_ok_iff.mp h
    rw [mapError_eq_ok_iff] at hmerge h
    exact (Yaml.untagged_of_mergeNode hmerge).mp (Yaml.Node.toJson_eq_null_iff.mp h)
  · intro h
    refine bind_eq_ok_iff.mpr ⟨n, ?_, ?_⟩
    · exact mapError_eq_ok_iff.mpr (Yaml.mergeNode_of_untagged h)
    · exact mapError_eq_ok_iff.mpr (Yaml.Node.toJson_eq_null_iff.mpr h)

namespace Document

variable {fs : FileSystem} {path : Path} {bytes : List UInt8}

/-- A document is reported as empty exactly if its text has no value or the value null. -/
lemma outcome_eq_emptyDocument_iff_read (hformat : (Format.ofPath path).isSupported = true)
    (hread : fs.read path = .ok bytes) (htext : Utf8.decode? bytes = some text) :
    (load fs path).outcome = .error (.emptyDocument path) ↔
      (Format.ofPath path).read text = .ok none ∨
        (Format.ofPath path).read text = .ok (some .null) := by
  rw [outcome_load_of_text hformat hread htext]
  cases (Format.ofPath path).read text with
  | error e =>
    constructor
    · rintro ⟨⟩
    · rintro (⟨⟨⟩⟩ | ⟨⟨⟩⟩)
  | ok content =>
    constructor
    · intro h
      dsimp only at h
      unfold ofContent at h
      split at h
      · exact .inl rfl
      · exact .inr rfl
      · cases h
    · rintro (⟨⟨⟩⟩ | ⟨⟨⟩⟩)
      · rfl
      · rfl

/-- A YAML document is reported as empty exactly if it is null behind its tags, or its text is blank
but not void.  If the lines of its text are plain, this is so exactly if it is null. -/
theorem outcome_eq_emptyDocument_iff (hformat : Format.ofPath path = .yaml)
    (hread : fs.read path = .ok bytes) (htext : Utf8.decode? bytes = some text)
    (hn : Yaml.read text = .ok n) :
    ((load fs path).outcome = .error (.emptyDocument path) ↔
      n.untagged = .null ∨ (isBlankYaml text = true ∧ isVoid text.toList = false)) ∧
    (hasPlainLines text = true →
      ((load fs path).outcome = .error (.emptyDocument path) ↔ n.untagged = .null)) := by
  have hsupported : (Format.ofPath path).isSupported = true := by
    rw [hformat]
    rfl
  have hempty : (load fs path).outcome = .error (.emptyDocument path) ↔
      n.untagged = .null ∨ isBlankYaml text = true := by
    rw [outcome_eq_emptyDocument_iff_read hsupported hread htext, hformat, Format.read,
      ← readYaml_eq_null_iff hn]
    cases isBlankYaml text with
    | true => simp
    | false => cases readYaml text <;> simp [Except.map]
  have hvoid : isVoid text.toList = true → n.untagged = .null := by
    intro hvoid
    rw [Yaml.eq_null_of_isVoid hvoid hn]
    rfl
  rw [hempty]
  constructor
  · constructor
    · rintro (hnull | hblank)
      · exact .inl hnull
      · cases hlines : isVoid text.toList with
        | true => exact .inl (hvoid hlines)
        | false => exact .inr ⟨hblank, rfl⟩
    · rintro (hnull | ⟨hblank, -⟩)
      · exact .inl hnull
      · exact .inr hblank
  · intro hplain
    constructor
    · rintro (hnull | hblank)
      · exact hnull
      · exact hvoid (isVoid_of_isBlankYaml hplain hblank)
    · exact .inl

end Document

namespace Tree

/-- A text with a comment, a null behind a tag and the end of the document. -/
def nullText : String := "# settings\r\n--- !local ~\r\n...\r\n"

/-- The null behind the tag is an empty document, though its text is not blank. -/
theorem outcome_withNullText :
    ∃ n, Yaml.read nullText = .ok n ∧ n.untagged = .null ∧ isBlankYaml nullText = false ∧
      hasPlainLines nullText = true ∧
      (Document.load (withText nullText).fileSystem configPath).outcome =
        .error (.emptyDocument configPath) := by
  have hread : (Yaml.read nullText).toOption.any (·.untagged.same .null) = true := by
    decide +kernel
  obtain ⟨n, hn, hvalue⟩ := exists_of_any_toOption hread
  have hplain : hasPlainLines nullText = true := by decide +kernel
  have hnull : n.untagged = .null := Yaml.Node.same_null_iff.mp hvalue
  obtain ⟨-, hempty⟩ := Document.outcome_eq_emptyDocument_iff ofPath_configPath
    (read_withText nullText) (Utf8.decode?_encode nullText) hn
  exact ⟨n, hn, hnull, by decide +kernel, hplain, (hempty hplain).mpr hnull⟩

/-- A text whose comment ends with a carriage return. -/
def returnText : String := "# comment\rkey: value\n"

/-- The text has a mapping in its second line, but is reported as empty. -/
theorem outcome_withReturnText :
    ∃ n, Yaml.read returnText = .ok n ∧ n.untagged ≠ .null ∧
      (Document.load (withText returnText).fileSystem configPath).outcome =
        .error (.emptyDocument configPath) := by
  have hread : (Yaml.read returnText).toOption.any (!·.untagged.same .null) = true := by
    decide +kernel
  obtain ⟨n, hn, hvalue⟩ := exists_of_any_toOption hread
  refine ⟨n, hn, ?_, ?_⟩
  · intro hnull
    rw [Yaml.Node.same_null_iff.mpr hnull] at hvalue
    cases hvalue
  · have hblank : isBlankYaml returnText = true := by decide +kernel
    have hsupported : (Format.ofPath configPath).isSupported = true := by
      rw [ofPath_configPath]
      rfl
    rw [Document.outcome_eq_emptyDocument_iff_read hsupported (read_withText returnText)
      (Utf8.decode?_encode returnText), ofPath_configPath, Format.read, if_pos hblank]
    exact .inl rfl

end Tree

end ConfigCheck
