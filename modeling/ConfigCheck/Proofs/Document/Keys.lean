import ConfigCheck.Proofs.Document.Load
import ConfigCheck.Proofs.Yaml.Loading
import ConfigCheck.Proofs.Yaml.Spelling

/-!
# Keys of documents

The member that a plain key becomes is named after what the key means, not after how it is written
(`Document.name_of_load`): a boolean or a number keeps its spelling exactly if that is canonical,
and only null becomes `null`.  A hexadecimal key does not keep its spelling
(`Tree.names_withHexadecimalText`).
-/

namespace ConfigCheck

namespace Json

/-- A member that is inserted adds its name. -/
lemma Members.mem_names_insert {members : Members} {name other : String} {value : Json} :
    other ∈ (members.insert name value).map Prod.fst ↔
      other = name ∨ other ∈ members.map Prod.fst := by
  induction members with
  | nil => simp [insert]
  | cons m rest ih =>
    obtain ⟨key, v⟩ := m
    unfold insert
    split
    · simp
    · split
      · rename_i heq
        simp [heq]
      · rw [List.map_cons, List.mem_cons, ih, List.map_cons, List.mem_cons, or_left_comm]

/-- Members that are collected keep their names. -/
lemma Members.mem_names_ofList {entries : List (String × Json)} {name : String} :
    name ∈ (ofList entries).map Prod.fst ↔ name ∈ entries.map Prod.fst := by
  unfold ofList
  induction entries using List.reverseRecOn with
  | nil => exact Iff.rfl
  | append_singleton entries entry ih =>
    rw [List.foldl_append, List.foldl_cons, List.foldl_nil, mem_names_insert, ih, List.map_append,
      List.mem_append, List.map_singleton, List.mem_singleton, or_comm]

end Json

namespace Yaml.Outline

variable {tag : Option TagText} {list : List (Outline × Outline)} {value : Json} {s : String}
  {w : Outline} {v : ScalarValue}

/-- A plain key is named after its meaning. -/
lemma name_of_plain {name : String} (hname : Names (.scalar none s .plain) name)
    (hv : resolvePlain s = .ok v) : name = v.name := by
  obtain ⟨n, hn, hname⟩ := hname
  obtain ⟨v', hv', rfl⟩ := map_eq_ok_iff.mp hn
  have hmeaning : meaning none s .plain = resolvePlain s := rfl
  rw [hmeaning, hv] at hv'
  cases hv'
  have hkey : (withTag none v.toNode).keyText = .ok v.name := keyText_toNode v
  rw [hkey] at hname
  exact (Except.ok.inj hname).symm

/-- A key that is null, a boolean or a number does not ask for a merge. -/
lemma isMergeKey_of_plain (hv : resolvePlain s = .ok v)
    (hkind : v.isBoolOrNumber = true ∨ v = .null) :
    isMergeKey (.scalar none s .plain) = false := by
  have hnode : node (.scalar none s .plain) = .ok v.toNode := map_eq_ok_iff.mpr ⟨v, hv, rfl⟩
  rw [isMergeKey_of_node hnode]
  cases v with
  | string text => simp [ScalarValue.isBoolOrNumber] at hkind
  | _ => simp [ScalarValue.toNode, mergeKey, Node.same]

/-- An entry of a mapping that does not ask for a merge becomes a member. -/
lemma exists_member_of_mem {key o : Outline} (h : LoadsAs (.mapping tag list) value)
    (hmem : (key, o) ∈ list) (hkey : key.isMergeKey = false) :
    ∃ members name u, value = .object (Json.Members.ofList members) ∧ (name, u) ∈ members ∧
      Names key name ∧ o.LoadsAs u := by
  cases h with
  | @mapping _ _ _ members hmerges hmembers =>
    cases hmerges with
    | @mk own added hown =>
    have horder : (key, o) ∈ own ++ added := List.mem_append_left _
      (hown.mem_iff.mpr (List.mem_filter.mpr ⟨hmem, by rw [hkey]; rfl⟩))
    obtain ⟨⟨name, u⟩, hmember, ⟨hname, hloads⟩⟩ := exists_of_forall₂ hmembers horder
    exact ⟨members, name, u, rfl, hmember, hname, hloads⟩

end Yaml.Outline

open Yaml (Outline ScalarValue resolvePlain)

/-- Every outline of a YAML document that is loaded is loaded as its value, and there is one.  In it
each plain key that means null, a boolean or a number becomes a member that is named after the
meaning; the name means the same as the key, and it is the spelling of the key exactly if that is
canonical.  Only null becomes `null`. -/
theorem Document.name_of_load {fs : FileSystem} {path : Path} {bytes : List UInt8} {text : String}
    {d : Document} (hformat : Format.ofPath path = .yaml) (hread : fs.read path = .ok bytes)
    (htext : Utf8.decode? bytes = some text) (hd : (load fs path).outcome = .ok d) :
    (∃ o : Outline, o.IsOf text) ∧ (∀ o : Outline, o.IsOf text → o.LoadsAs d.value) ∧
    ∀ tag list value s w v, Outline.LoadsAs (.mapping tag list) value →
      (.scalar none s .plain, w) ∈ list → resolvePlain s = .ok v →
      (v.isBoolOrNumber = true ∨ v = .null) →
      (∃ members u, value = .object (Json.Members.ofList members) ∧ (v.name, u) ∈ members ∧
        w.LoadsAs u) ∧
      v.name ∈ value.members.map Prod.fst ∧
      (v.isBoolOrNumber = true → resolvePlain v.name = .ok v ∧
        (v.name = s ↔ Yaml.IsCanonical s)) ∧
      (v.name = "null" ↔ v = .null) := by
  obtain ⟨raw, merged, hraw, hmerge, hvalue⟩ := exists_tree_of_load hformat hread htext hd
  obtain ⟨outline, houtline, hnode⟩ := Outline.exists_of_read hraw
  refine ⟨⟨outline, houtline⟩, ?_, ?_⟩
  · intro o ho
    obtain rfl := Outline.eq_of_isOf houtline ho
    exact Outline.loadsAs_of_yields hnode (Yaml.Node.everywhere_isRegular_of_read hraw)
      ⟨raw.depth, merged, Nat.le_refl _, hmerge, hvalue⟩
  · intro tag list value s w v hloads hmem hv hkind
    have hkey : Outline.isMergeKey (.scalar none s .plain) = false :=
      Outline.isMergeKey_of_plain hv hkind
    obtain ⟨members, name, u, rfl, hmember, hname, hu⟩ :=
      Outline.exists_member_of_mem hloads hmem hkey
    obtain rfl := Outline.name_of_plain hname hv
    refine ⟨⟨members, u, rfl, hmember, hu⟩, ?_, ?_, Yaml.name_eq_null_iff hv⟩
    · exact Json.Members.mem_names_ofList.mpr (List.mem_map_of_mem hmember)
    · intro hboolOrNumber
      exact ⟨Yaml.resolvePlain_name hv hboolOrNumber, Yaml.name_eq_iff hv hboolOrNumber⟩

namespace Tree

/-- A text with keys of all kinds, some of them in canonical spelling. -/
def keyText : String := "true: a\n404: b\n1.10: c\n~: d\n"

/-- The entries of the text. -/
def keyEntries : List (String × String) := [("true", "a"), ("404", "b"), ("1.10", "c"), ("~", "d")]

/-- A mapping of plain scalars. -/
def plainMapping (entries : List (String × String)) : Outline :=
  .mapping none (entries.map fun entry =>
    (.scalar none entry.1 .plain, .scalar none entry.2 .plain))

/-- The pieces of a mapping of plain scalars. -/
def plainPieces (entries : List (String × String)) : List Yaml.Piece :=
  .mappingStart none :: (entries.flatMap fun entry =>
    [.scalar none entry.1 .plain, .scalar none entry.2 .plain]) ++ [.mappingEnd]

/-- The pieces of a mapping of plain scalars spell it. -/
lemma isOf_plainMapping {entries : List (String × String)} {text : String}
    (h : (Yaml.documentOf text).pieces.map Prod.fst = plainPieces entries) :
    (plainMapping entries).IsOf text := by
  have hentries : ∀ entries : List (String × String), Outline.Spells (Yaml.documentOf text)
      ((entries.flatMap fun entry =>
        [.scalar none entry.1 .plain, .scalar none entry.2 .plain]) ++ [.mappingEnd])
      (.entries (entries.map fun entry =>
        (.scalar none entry.1 .plain, .scalar none entry.2 .plain))) [] := by
    intro entries
    induction entries with
    | nil => exact .lastEntry
    | cons entry rest ih =>
      exact .entry nofun (.node nofun .scalar) (.node nofun .scalar) ih
  refine ⟨[], ?_⟩
  rw [h]
  exact .node nofun (.mapping (hentries entries))

/-- The keys of the text are named after what they mean, and two of them are in canonical
spelling. -/
theorem names_withKeyText : ∃ d,
    (Document.load (withText keyText).fileSystem configPath).outcome = .ok d ∧
      (plainMapping keyEntries).LoadsAs d.value ∧
      (∀ name ∈ ["true", "404", "1.1", "null"], name ∈ d.value.members.map Prod.fst) ∧
      Yaml.IsCanonical "true" ∧ Yaml.IsCanonical "404" ∧ ¬ Yaml.IsCanonical "1.10" := by
  have hload : (Document.load (withText keyText).fileSystem
      configPath).outcome.toOption.isSome = true := by
    decide +kernel
  obtain ⟨d, hd⟩ := Option.isSome_iff_exists.mp hload
  rw [toOption_eq_some_iff] at hd
  obtain ⟨-, hloads, hlaw⟩ := Document.name_of_load ofPath_configPath (read_withText keyText)
    (Utf8.decode?_encode keyText) hd
  have hvalue := hloads (plainMapping keyEntries) (isOf_plainMapping (by decide))
  have htrue := hlaw _ _ _ "true" _ (.bool true) hvalue (.head _) (by decide) (.inl rfl)
  have hint := hlaw _ _ _ "404" _ (.number (.int 404)) hvalue (.tail _ (.head _))
    (by decide) (.inl rfl)
  have hfloat := hlaw _ _ _ "1.10" _ (.number (.float (.ofDecimal false 11 (-1)))) hvalue
    (.tail _ (.tail _ (.head _))) (by decide) (.inl rfl)
  have hnull := hlaw _ _ _ "~" _ .null hvalue (.tail _ (.tail _ (.tail _ (.head _))))
    (by decide) (.inr rfl)
  have hname : (ScalarValue.number (.float (.ofDecimal false 11 (-1)))).name = "1.1" := by
    decide +kernel
  rw [hname] at hfloat
  refine ⟨d, hd, hvalue, ?_, ?_, ?_, ?_⟩
  · exact List.forall_mem_cons.mpr ⟨htrue.2.1, List.forall_mem_cons.mpr ⟨hint.2.1,
      List.forall_mem_cons.mpr ⟨hfloat.2.1, List.forall_mem_singleton.mpr hnull.2.1⟩⟩⟩
  · exact (htrue.2.2.1 rfl).2.mp rfl
  · exact (hint.2.2.1 rfl).2.mp (by decide)
  · exact mt (hfloat.2.2.1 rfl).2.mpr (by decide)

/-- A text with a hexadecimal key. -/
def hexadecimalText : String := "0x10: a\n"

/-- The hexadecimal key does not keep its spelling. -/
theorem names_withHexadecimalText : ∃ d,
    (plainMapping [("0x10", "a")]).IsOf hexadecimalText ∧
      resolvePlain "0x10" = .ok (.number (.int 16)) ∧
      (Document.load (withText hexadecimalText).fileSystem configPath).outcome = .ok d ∧
      d.value.members.map Prod.fst = ["16"] := by
  have hload : ((Document.load (withText hexadecimalText).fileSystem
      configPath).outcome.toOption.map fun d => d.value.members.map Prod.fst) = some ["16"] := by
    decide +kernel
  obtain ⟨d, hd, hnames⟩ := Option.map_eq_some_iff.mp hload
  rw [toOption_eq_some_iff] at hd
  exact ⟨d, isOf_plainMapping (by decide), by decide, hd, hnames⟩

end Tree

end ConfigCheck
