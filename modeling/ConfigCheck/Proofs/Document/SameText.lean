import ConfigCheck.Json.Printer
import ConfigCheck.Proofs.Document.Load
import ConfigCheck.Proofs.Yaml.Compose

/-!
# One text in both formats

A text that is a document in both formats has the same value in both (`Document.value_eq_of_load`),
with these exceptions: YAML takes the entries of a merge key into the mapping around it, the formats
do not agree on some floating-point numbers (`Json.Numeral.Keeps`), and YAML folds some line ends of
Unicode inside strings (`Yaml.HasPlainBreaks`).  None of them can be left out
(`Tree.value_ne_withTwins`).
-/

namespace ConfigCheck

open Json (Source Phrase Reads skipSpace)

namespace Json

/-- Both formats read what the text says in the same way: there is no merge key, and every number is
kept. -/
structure Source.IsPortable (s : Source) : Prop where
  /-- No member of an object is a merge key. -/
  name_ne : ∀ members, .object members ∈ s.parts → ∀ m ∈ members, m.1 ≠ "<<"
  /-- Every number keeps what is written. -/
  keeps : ∀ m n, .number m n ∈ s.parts → m.Keeps n

/-- All sources inside a phrase. -/
def Phrase.parts : Phrase → List Source
  | .value s => s.parts
  | .items _ list => Source.parts.partsOfItems list
  | .members _ list => Source.parts.partsOfMembers list

/-- The numbers of a text are the integers that it writes, if there are any. -/
lemma isRead_of_reads {p : Phrase} {cs rest : List Char} (h : Reads p cs rest) :
    ∀ m n, .number m n ∈ p.parts → m.IsRead n := by
  induction h with
  | number h hn =>
    intro m n hmem
    cases List.mem_singleton.mp hmem
    exact Yaml.isRead_of_readNumber hn
  | null | true_ | false_ | string =>
    intro m n hmem
    cases List.mem_singleton.mp hmem
  | array _ _ ih | object _ _ ih =>
    intro m n hmem
    rcases List.mem_cons.mp hmem with heq | hmem
    · cases heq
    · exact ih m n hmem
  | itemsEnd | membersEnd =>
    intro m n hmem
    cases hmem
  | itemsFirst _ _ ihs ih =>
    intro m n hmem
    rcases List.mem_append.mp hmem with hmem | hmem
    · exact ihs m n hmem
    · exact ih m n hmem
  | membersFirst _ _ _ _ _ ihs ih =>
    intro m n hmem
    rcases List.mem_append.mp hmem with hmem | hmem
    · exact ihs m n hmem
    · exact ih m n hmem
  | itemsNext _ _ ih | membersNext _ _ ih => exact ih

end Json

/-- A JSON text has no byte order mark. -/
lemma dropByteOrderMark_of_isOf {s : Source} {text : String} (h : s.IsOf text) :
    (Yaml.dropByteOrderMark text.toList).1 = text.toList := by
  obtain ⟨rest, hreads, -⟩ := h
  unfold Yaml.dropByteOrderMark
  split
  · rename_i behind heq
    have hmark := Yaml.isVisible_of_reads hreads '\ufeff'
    rw [heq] at hmark
    exact absurd (hmark rfl) (by decide)
  · rfl

/-- A JSON text that is a YAML document has its value there, too. -/
theorem readYaml_eq_ok {s : Source} {text : String} {v : Json} (hs : s.IsOf text)
    (hportable : s.IsPortable) (hbreaks : Yaml.HasPlainBreaks text.toList)
    (h : readYaml text = .ok v) : v = s.value := by
  unfold readYaml at h
  obtain ⟨n, hread, h⟩ := bind_eq_ok_iff.mp h
  obtain ⟨n', hmerge, h⟩ := bind_eq_ok_iff.mp h
  rw [mapError_eq_ok_iff] at hread hmerge h
  obtain ⟨hwhole, hnode, hfinal⟩ := Yaml.isWhole_of_read hread
  rw [dropByteOrderMark_of_isOf hs] at hwhole hnode hfinal
  obtain ⟨rest, hreads, hrest⟩ := hs
  obtain ⟨ks, hks, hkinds⟩ := Yaml.tokens_ofText hreads hrest hbreaks hfinal
  have hpieces := Yaml.pieces_of_tokens hks hkinds hwhole
  have hnumbers : s.KeepsNumbers := fun m n hmem =>
    ⟨Json.isRead_of_reads hreads m n hmem, hportable.keeps m n hmem⟩
  obtain rfl := Yaml.Document.toNode_eq_ok hnumbers hpieces hnode
  unfold Yaml.Node.merge at hmerge
  rw [Yaml.mergeNode_node _ hportable.name_ne] at hmerge
  cases hmerge
  rw [Yaml.toJson_node s hnumbers] at h
  cases h
  rfl

namespace Document

variable {fs : FileSystem} {p q : Path} {bytes : List UInt8} {text : String} {d e : Document}

/-- A text that is a document in both formats has one value and gets the same violations, if it has
no merge key, keeps its numbers and has plain breaks. -/
theorem value_eq_of_load (hp : Format.ofPath p = .json) (hq : Format.ofPath q = .yaml)
    (hread : fs.read p = .ok bytes) (hread' : fs.read q = .ok bytes)
    (htext : Utf8.decode? bytes = some text) (hportable : ∀ s : Source, s.IsOf text → s.IsPortable)
    (hbreaks : Yaml.HasPlainBreaks text.toList) (hd : (load fs p).outcome = .ok d)
    (he : (load fs q).outcome = .ok e) :
    d.value = e.value ∧ ∀ v : Validator, v.violations d.value = v.violations e.value := by
  have hjson := read_of_load hread htext hd
  have hyaml := read_of_load hread' htext he
  rw [hp] at hjson
  rw [hq] at hyaml
  unfold Format.read at hjson hyaml
  dsimp only at hjson hyaml
  split at hjson
  · cases hjson
  split at hyaml
  · cases hyaml
  obtain ⟨v, hv, hvalue⟩ := map_eq_ok_iff.mp hjson
  obtain ⟨w, hw, hvalue'⟩ := map_eq_ok_iff.mp hyaml
  rw [mapError_eq_ok_iff] at hv
  cases hvalue
  cases hvalue'
  obtain ⟨s, hs, hof⟩ := Json.exists_source hv
  have heq : d.value = e.value := by
    rw [← hs, readYaml_eq_ok hof (hportable s hof) hbreaks hw]
  exact ⟨heq, fun validator => by rw [heq]⟩

end Document

/-! ## Twins -/

namespace Tree

/-- The path of a JSON file. -/
def jsonPath : Path := ⟨[0x61, 0x2e, 0x6a, 0x73, 0x6f, 0x6e]⟩

/-- The path of a YAML file. -/
def yamlPath : Path := ⟨[0x61, 0x2e, 0x79, 0x6d, 0x6c]⟩

/-- A directory with two files that hold the same bytes, `a.json` and `a.yml`. -/
def withTwins (bytes : List UInt8) : Tree where
  root := .directory
    [(⟨[0x61, 0x2e, 0x6a, 0x73, 0x6f, 0x6e], .refl true⟩, .regular (.ok bytes)),
      (⟨[0x61, 0x2e, 0x79, 0x6d, 0x6c], .refl true⟩, .regular (.ok bytes))]
  here := []

/-- The bytes of an object with the number one as its member `a`. -/
def numberBytes : List UInt8 := [0x7b, 0x22, 0x61, 0x22, 0x3a, 0x31, 0x7d]

/-- The text of the object with the number. -/
def numberText : String := String.ofList ['\x7b', '"', 'a', '"', ':', '1', '\x7d']

/-- The number one is an integer, and a brace is left behind it. -/
lemma reads_one {s : Source} {rest : List Char} (h : Reads (.value s) ['1', '\x7d'] rest) :
    ∃ m, s = .number m (.int 1) ∧ rest = ['\x7d'] := by
  cases h with
  | null h => cases h
  | true_ h => cases h
  | false_ h => cases h
  | string h => cases h
  | array h => cases h
  | object h => cases h
  | @number m n _ _ h hn =>
    rw [Yaml.text_eq] at h
    cases hnegative : m.negative with
    | true =>
      rw [hnegative] at h
      cases h
    | false =>
      have htext : ['1', '\x7d'] = m.unsigned ++ rest := by
        rw [hnegative] at h
        exact h
      rw [hnegative, ← htext] at hn
      cases hn
      exact ⟨m, rfl, rfl⟩

/-- The object with the number has no merge key and keeps its number. -/
lemma isPortable_numberText {s : Source} (h : s.IsOf numberText) : s.IsPortable := by
  obtain ⟨rest, hreads, -⟩ := h
  unfold numberText at hreads
  rw [String.toList_ofList] at hreads
  cases hreads with
  | null h => cases h
  | true_ h => cases h
  | false_ h => cases h
  | string h => cases h
  | array h => cases h
  | @number m n _ _ h hn =>
    obtain ⟨c, lexeme, htext, hc⟩ := Yaml.exists_text_eq_cons m
    rw [htext] at h
    have hbrace : '\x7b' = c := (List.cons.inj h).1
    subst hbrace
    rcases hc with hc | ⟨hc, -⟩ <;> cases hc
  | object h hlist =>
    cases h
    cases hlist with
    | membersEnd h => cases h
    | membersFirst h hname hcolon hs hlist =>
      cases h
      cases hname
      cases hcolon
      obtain ⟨m, rfl, rfl⟩ := reads_one hs
      cases hlist with
      | membersNext h => cases h
      | membersEnd h =>
        refine ⟨fun members hmem => ?_, fun m n hmem => ?_⟩
        · rcases List.mem_cons.mp hmem with heq | hmem
          · cases heq
            intro m hm
            cases List.mem_singleton.mp hm
            change String.ofList ['a'] ≠ "<<"
            decide
          · cases List.mem_singleton.mp hmem
        · rcases List.mem_cons.mp hmem with heq | hmem
          · cases heq
          · cases List.mem_singleton.mp hmem
            trivial

/-- The object with the number is the same document in both formats. -/
theorem value_eq_withTwins :
    ∃ d e, (Document.load (withTwins numberBytes).fileSystem jsonPath).outcome = .ok d ∧
      (Document.load (withTwins numberBytes).fileSystem yamlPath).outcome = .ok e ∧
      d.value = e.value ∧ ∀ v : Validator, v.violations d.value = v.violations e.value := by
  let fs := (withTwins numberBytes).fileSystem
  have hjson : (Document.load fs jsonPath).outcome.toOption.isSome = true := by decide +kernel
  have hyaml : (Document.load fs yamlPath).outcome.toOption.isSome = true := by decide +kernel
  obtain ⟨d, hd⟩ := Option.isSome_iff_exists.mp hjson
  obtain ⟨e, he⟩ := Option.isSome_iff_exists.mp hyaml
  rw [toOption_eq_some_iff] at hd he
  have hbreaks : Yaml.HasPlainBreaks numberText.toList := by
    refine Yaml.hasPlainBreaks_of_ascii ?_
    rw [numberText, String.toList_ofList]
    simp
  exact ⟨d, e, hd, he, Document.value_eq_of_load (Format.ofPath_eq_json (by decide))
    (Format.ofPath_eq_yaml (by decide)) (by rfl) (by rfl) (by rfl)
    (fun _ => isPortable_numberText) hbreaks hd he⟩

/-- One text for each exception, as bytes. -/
def exceptions : List (List UInt8) :=
  [
    -- The object with the number as the value of a merge key.
    [0x7b, 0x22, 0x3c, 0x3c, 0x22, 0x3a] ++ numberBytes ++ [0x7d],
    -- The whole number zero with a minus sign, an integer in YAML alone.
    [0x2d, 0x30],
    -- Ten to the power of minus thirty, which is rounded to the nearest number in YAML alone.
    [0x31, 0x65, 0x2d, 0x33, 0x30],
    -- A string with a next line character, which is a space in YAML.
    [0x22, 0xc2, 0x85, 0x22],
    -- A string with a space before a line separator; the space is dropped in YAML.
    [0x22, 0x20, 0xe2, 0x80, 0xa8, 0x22]
  ]

/-- Each of the exceptions is a document in both formats, with two values. -/
theorem value_ne_withTwins :
    Format.ofPath jsonPath = .json ∧ Format.ofPath yamlPath = .yaml ∧ ∀ bytes ∈ exceptions,
      (withTwins bytes).fileSystem.read jsonPath = .ok bytes ∧
      (withTwins bytes).fileSystem.read yamlPath = .ok bytes ∧
      (Utf8.decode? bytes).isSome = true ∧
      ∃ d e, (Document.load (withTwins bytes).fileSystem jsonPath).outcome = .ok d ∧
        (Document.load (withTwins bytes).fileSystem yamlPath).outcome = .ok e ∧
        d.value ≠ e.value := by
  have hdecode : ∀ bytes ∈ exceptions, (Utf8.decode? bytes).isSome = true := by decide +kernel
  have hload : ∀ bytes ∈ exceptions,
      (Document.load (withTwins bytes).fileSystem jsonPath).outcome.toOption.any (fun d =>
        (Document.load (withTwins bytes).fileSystem yamlPath).outcome.toOption.any fun e =>
          d.value.write ≠ e.value.write) = true := by
    decide +kernel
  refine ⟨Format.ofPath_eq_json (by decide), Format.ofPath_eq_yaml (by decide),
    fun bytes hbytes => ?_⟩
  obtain ⟨d, hd, hyaml⟩ := exists_of_any_toOption (hload bytes hbytes)
  obtain ⟨e, he, hwrite⟩ := exists_of_any_toOption hyaml
  refine ⟨rfl, rfl, hdecode bytes hbytes, d, e, hd, he, fun heq => ?_⟩
  exact of_decide_eq_true hwrite (congrArg Json.write heq)

end Tree

end ConfigCheck
