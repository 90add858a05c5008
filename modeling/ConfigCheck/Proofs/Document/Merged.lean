import ConfigCheck.Json.Printer
import ConfigCheck.Proofs.Document.Load
import ConfigCheck.Proofs.Json.Everywhere
import ConfigCheck.Proofs.Yaml.Expansion

/-!
# Documents with merge keys

A document whose merge sources have no merge keys of their own is loaded as the expansion of its
tree, and no merge key is left in it (`Document.value_of_merges`).  A source that has a merge key
hands it on unapplied (`Tree.value_withMergeChain`).
-/

namespace ConfigCheck

/-- Whether a value that is an object has no member of a name. -/
def Json.lacks (name : String) : Json → Bool
  | .object members => members.all fun member => member.1 != name
  | _ => true

namespace Yaml.Node

/-- Where no key becomes the name of the merge key, no member has it. -/
lemma everywhere_lacks_of_toJson {n : Node} {value : Json}
    (hkeys : n.everywhere (keysPass isUnmerged) = true) (h : n.toJson = .ok value) :
    value.everywhere (Json.lacks "<<") = true := by
  induction n using Node.ind generalizing value with
  | null | bool | string =>
    cases h
    rfl
  | number x =>
    obtain ⟨y, rfl⟩ := exists_number_of_toJson h
    rfl
  | tagged tag node ih => exact ih (everywhere_tagged.mp hkeys).2 h
  | sequence items ih =>
    obtain ⟨values, rfl, hvalues⟩ := toJson_sequence_eq_ok_iff.mp h
    have hitems := (everywhere_sequence.mp hkeys).2
    refine Json.everywhere_array.mpr ⟨rfl, ?_⟩
    have hrelated := forall₂_imp_of_mem hvalues fun item hitem value hvalue =>
      ih item hitem (hitems item hitem) hvalue
    exact forall_of_forall₂ hrelated (fun _ _ => trivial) fun _ _ _ hvalue => hvalue
  | mapping entries ih =>
    obtain ⟨members, rfl, hmembers⟩ := toJson_mapping_eq_ok_iff.mp h
    obtain ⟨hself, hvalues⟩ := everywhere_mapping.mp hkeys
    have hnames := List.all_eq_true.mp hself
    have hrelated : List.Forall₂ (fun _ member => member.1 ≠ "<<" ∧
        member.2.everywhere (Json.lacks "<<") = true) entries members := by
      refine forall₂_imp_of_mem hmembers fun entry hentry member hmember => ?_
      refine ⟨?_, ih entry hentry (hvalues entry hentry) hmember.value⟩
      rintro hname
      have hunmerged := hnames entry hentry
      rw [isUnmerged, hmember.name, hname] at hunmerged
      cases hunmerged
    have hall := forall_of_forall₂ hrelated (fun _ _ => trivial) fun _ _ _ hmember => hmember
    have hsub := Json.Members.ofList_subset members
    refine Json.everywhere_object.mpr ⟨List.all_eq_true.mpr ?_, ?_⟩
    · intro member hmember
      exact bne_iff_ne.mpr (hall member (hsub hmember)).1
    · intro member hmember
      exact (hall member (hsub hmember)).2

end Yaml.Node

open Yaml (mergeEntries mergeKey sources hasKey)

/-- A document whose merge sources have no merge keys of their own is its tree with all merges
expanded, up to the order of entries, which makes no difference where names are distinct; if no key
has a tag, no merge key is left.  A merge leaves a merge key exactly if a source has one. -/
theorem Document.value_of_merges {fs : FileSystem} {path : Path} {bytes : List UInt8}
    {text : String} {n : Yaml.Node} (hformat : Format.ofPath path = .yaml)
    (hread : fs.read path = .ok bytes) (htext : Utf8.decode? bytes = some text)
    (hn : Yaml.read text = .ok n) :
    (n.everywhere Yaml.Node.hasPlainSources = true → ∀ d, (load fs path).outcome = .ok d →
      (∃ m, n.expand.Rearranges m ∧ m.toJson = .ok d.value) ∧
      (n.expand.everywhere Yaml.Node.hasDistinctNames = true → n.expand.toJson = .ok d.value) ∧
      (n.everywhere (Yaml.Node.keysPass Yaml.Node.isUntagged) = true →
        d.value.everywhere (Json.lacks "<<") = true)) ∧
    ∀ entries result, (Yaml.Node.mapping entries).isRegular = true →
      mergeEntries entries = .ok result →
      (hasKey result mergeKey = true ↔
        ∃ source ∈ sources entries, hasKey source mergeKey = true) := by
  refine ⟨fun hplain d hd => ?_, fun entries result hregular h =>
    Yaml.hasKey_mergeKey_iff (Yaml.Node.isRegular_mapping.mp hregular) h⟩
  obtain ⟨raw, merged, hraw, hmerge, hvalue⟩ := exists_tree_of_load hformat hread htext hd
  rw [hn] at hraw
  cases hraw
  have hregular := Yaml.Node.everywhere_isRegular_of_read hn
  have hrearranges := Yaml.Node.rearranges_of_mergeNode hregular hplain (Nat.le_refl _) hmerge
  refine ⟨⟨merged, hrearranges, hvalue⟩, ?_, ?_⟩
  · intro hnames
    exact Yaml.Node.toJson_of_rearranges hrearranges hnames hvalue
  · intro huntagged
    have hexpanded := Yaml.Node.everywhere_isUnmerged_expand huntagged
    have hmerged := Yaml.Node.everywhere_keysPass_of_rearranges hrearranges hexpanded
    exact Yaml.Node.everywhere_lacks_of_toJson hmerged hvalue

namespace Tree

/-- A text with two sources: a key of both, a key of the mapping and the first source, and a key of
the second source alone. -/
def mergeText : String :=
  "a: &a\n  host: a\n  port: 80\nb: &b\n  host: b\n  tls: x\nsite:\n  <<: [*a, *b]\n  port: 81\n"

/-- The entries of a mapping whose source has a merge key of its own. -/
def chainedEntries : List (Yaml.Node × Yaml.Node) :=
  [(mergeKey, .mapping [(mergeKey, .mapping []), (.string "y", .null)]), (.string "z", .null)]

/-- The text with two sources is loaded as its expansion, and a source with a merge key hands it
on. -/
theorem value_withMergeText :
    (∃ n d, Yaml.read mergeText = .ok n ∧
      (Document.load (withText mergeText).fileSystem configPath).outcome = .ok d ∧
      n.expand.toJson = .ok d.value ∧ d.value.everywhere (Json.lacks "<<") = true) ∧
    ∃ result, mergeEntries chainedEntries = .ok result ∧ hasKey result mergeKey = true := by
  have htests : (Yaml.read mergeText).toOption.any (fun n =>
      (n.everywhere Yaml.Node.hasPlainSources &&
      n.expand.everywhere Yaml.Node.hasDistinctNames &&
      n.everywhere (Yaml.Node.keysPass Yaml.Node.isUntagged)) &&
      n.merge.toOption.any fun m => m.toJson.toOption.any fun v => !v.members.isEmpty) = true := by
    decide +kernel
  obtain ⟨n, hn, htests⟩ := exists_of_any_toOption htests
  rw [Bool.and_eq_true, Bool.and_eq_true, Bool.and_eq_true] at htests
  obtain ⟨⟨⟨hplain, hnames⟩, huntagged⟩, hmerged⟩ := htests
  obtain ⟨m, hm, hconverted⟩ := exists_of_any_toOption hmerged
  obtain ⟨value, hv, hmembers⟩ := exists_of_any_toOption hconverted
  have hload := outcome_load_withText (by decide +kernel) hn hm hv (by simpa using hmembers)
  obtain ⟨hloaded, hleft⟩ := Document.value_of_merges ofPath_configPath
    (read_withText mergeText) (Utf8.decode?_encode mergeText) hn
  obtain ⟨-, hvalue, hlacks⟩ := hloaded hplain _ hload
  refine ⟨⟨n, _, hn, hload, hvalue hnames, hlacks huntagged⟩, ?_⟩
  have hmerge : mergeEntries chainedEntries = .ok
      [(.string "z", .null), (mergeKey, .mapping []), (.string "y", .null)] := rfl
  have hregular : (Yaml.Node.mapping chainedEntries).isRegular = true := by decide
  exact ⟨_, hmerge, (hleft _ _ hregular hmerge).mpr ⟨_, List.mem_singleton.mpr rfl, by decide⟩⟩

/-- A text in which a source has a merge key of its own. -/
def mergeChain : String :=
  "base: &b\n  x: 1\nmid: &m\n  <<: *b\n  y: 2\ntop:\n  <<: *m\n  z: 3\n"

/-- The text with the chain is not loaded as its expansion: the merge key of the source is left in
the mapping that takes its entries. -/
theorem value_withMergeChain :
    ∃ n d value, Yaml.read mergeChain = .ok n ∧
      n.everywhere (Yaml.Node.keysPass Yaml.Node.isUntagged) = true ∧
      (Document.load (withText mergeChain).fileSystem configPath).outcome = .ok d ∧
      n.expand.toJson = .ok value ∧ value.everywhere (Json.lacks "<<") = true ∧
      d.value.everywhere (Json.lacks "<<") = false := by
  have htests : (Yaml.read mergeChain).toOption.any (fun n =>
      (n.everywhere (Yaml.Node.keysPass Yaml.Node.isUntagged) &&
      n.expand.toJson.toOption.any (·.everywhere (Json.lacks "<<"))) &&
      n.merge.toOption.any fun m => m.toJson.toOption.any fun v =>
        !v.members.isEmpty && !v.everywhere (Json.lacks "<<")) = true := by
    decide +kernel
  obtain ⟨n, hn, htests⟩ := exists_of_any_toOption htests
  rw [Bool.and_eq_true, Bool.and_eq_true] at htests
  obtain ⟨⟨huntagged, hexpand⟩, hmerged⟩ := htests
  obtain ⟨value, hvalue, hexpanded⟩ := exists_of_any_toOption hexpand
  obtain ⟨m, hm, hconverted⟩ := exists_of_any_toOption hmerged
  obtain ⟨left, hleft, htests⟩ := exists_of_any_toOption hconverted
  simp only [Bool.and_eq_true, Bool.not_eq_true', List.isEmpty_eq_false_iff] at htests
  have hload := outcome_load_withText (by decide +kernel) hn hm hleft htests.1
  exact ⟨n, _, value, hn, huntagged, hload, hvalue, hexpanded, htests.2⟩

end Tree

end ConfigCheck
