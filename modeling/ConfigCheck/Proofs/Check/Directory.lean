import ConfigCheck.Check.Target
import ConfigCheck.File.Tree
import ConfigCheck.Proofs.File.Path

/-!
# Targets and their files

What becomes of a target is settled by what its path leads to (`Target.settles_files`); all its
files are regular and have the extension of a format (`Target.Settles.of_mem`).

A directory stands for those of its entries that could be targets themselves.  Each of them is
listed once, in the order of the bytes of the file names, and in whatever order the entries are
enumerated; nothing that lies deeper is listed (`Target.files_directory`).

The path of an entry ends in its name (`Path.fileName?_join`), so no two entries have the same path.
-/

namespace ConfigCheck

namespace Name

/-- Names come in the order of their bytes once they are sorted. -/
lemma pairwise_mergeSort (names : List Name) :
    (names.mergeSort le).Pairwise fun a b => a.bytes ≤ b.bytes := by
  have htrans : ∀ a b c : Name, a.le b = true → b.le c = true → a.le c = true :=
    fun a b c hab hbc => le_iff.mpr (List.le_trans (le_iff.mp hab) (le_iff.mp hbc))
  have htotal : ∀ a b : Name, (a.le b || b.le a) = true := by
    intro a b
    rw [Bool.or_eq_true, le_iff, le_iff]
    exact List.le_total a.bytes b.bytes
  exact (List.pairwise_mergeSort htrans htotal names).imp le_iff.mp

/-- Two enumerations of the same names are sorted into the same list. -/
lemma mergeSort_eq_of_perm {names names' : List Name} (h : names'.Perm names) :
    names'.mergeSort le = names.mergeSort le := by
  refine List.Perm.eq_of_pairwise (fun a b _ _ hab hba => ?_) (pairwise_mergeSort names')
    (pairwise_mergeSort names) ?_
  · exact ext_bytes (List.le_antisymm hab hba)
  · exact ((List.mergeSort_perm names' le).trans h).trans (List.mergeSort_perm names le).symm

end Name

namespace Target

/-- A directory that can be read has the eligible entries for its files, unless there is none. -/
lemma outcome_files_directory {fs : FileSystem} {dir : Path} {names : List Name}
    (hkind : fs.kind dir = .ok .directory) (hentries : fs.entries dir = .ok names) :
    (files fs dir).outcome =
      if eligible fs dir names = [] then .error (.noEligibleFiles dir)
      else .ok (eligible fs dir names) := by
  unfold files
  rw [hkind]
  dsimp only
  unfold ofDirectory
  rw [hentries]
  dsimp only
  split
  · rename_i hnone
    rw [if_pos hnone]
  · rename_i hsome
    rw [if_neg hsome]

/-- The files of a directory that can be read are its eligible entries. -/
lemma files_directory_eq_ok_iff {fs : FileSystem} {dir : Path} {names : List Name}
    (hkind : fs.kind dir = .ok .directory) (hentries : fs.entries dir = .ok names)
    {list : List Path} :
    (files fs dir).outcome = .ok list ↔ eligible fs dir names = list ∧ list ≠ [] := by
  rw [outcome_files_directory hkind hentries]
  split
  · rename_i hnone
    rw [hnone]
    simp only [reduceCtorEq, false_iff, not_and, not_not]
    exact Eq.symm
  · rename_i hsome
    rw [Except.ok.injEq]
    exact ⟨fun h => ⟨h, h ▸ hsome⟩, And.left⟩

/-- The files of a directory whose eligible entries are known, and are listed in order. -/
lemma files_of_listed {fs : FileSystem} {dir : Path} {names listed : List Name}
    (hkind : fs.kind dir = .ok .directory) (hentries : fs.entries dir = .ok names)
    (hlisted : names.filter (fun n => verdict fs (dir.join n) = .eligible) = listed)
    (horder : listed.Pairwise fun a b => a.le b = true) (hne : listed ≠ []) :
    (files fs dir).outcome = .ok (listed.map dir.join) := by
  refine (files_directory_eq_ok_iff hkind hentries).mpr
    ⟨?_, fun h => hne (List.map_eq_nil_iff.mp h)⟩
  rw [eligible, hlisted, List.mergeSort_of_pairwise horder]

/-- A path is a file that counts if it has the extension of a format. -/
lemma verdict_eq_eligible_iff {fs : FileSystem} {path : Path} :
    verdict fs path = .eligible ↔
      fs.kind path = .ok .regular ∧ (Format.ofPath path).isSupported = true := by
  unfold verdict
  cases fs.kind path with
  | error e => simp
  | ok kind => cases kind <;> simp

/-- What becomes of a target, by what its path leads to. -/
inductive Settles (fs : FileSystem) (target : Path) : Except CheckError (List Path) → Prop
  | missing (hkind : fs.kind target = .error .missing) :
      Settles fs target (.error (.targetNotFound target))
  | unreadable {e : FileError} (hkind : fs.kind target = .error e) (he : e ≠ .missing) :
      Settles fs target (.error (.io target e))
  | special (hkind : fs.kind target = .ok .special) :
      Settles fs target (.error (.invalidTargetType target))
  | otherExtension {extension : String} (hkind : fs.kind target = .ok .regular)
      (hformat : Format.ofPath target = .unsupported extension) :
      Settles fs target (.error (.unsupportedFormat target extension))
  | file (hkind : fs.kind target = .ok .regular)
      (hformat : (Format.ofPath target).isSupported = true) : Settles fs target (.ok [target])
  | unlisted {e : FileError} (hkind : fs.kind target = .ok .directory)
      (hentries : fs.entries target = .error e) : Settles fs target (.error (.io target e))
  | noFiles {names : List Name} (hkind : fs.kind target = .ok .directory)
      (hentries : fs.entries target = .ok names) (hnone : eligible fs target names = []) :
      Settles fs target (.error (.noEligibleFiles target))
  | files {names : List Name} (hkind : fs.kind target = .ok .directory)
      (hentries : fs.entries target = .ok names) (hsome : eligible fs target names ≠ []) :
      Settles fs target (.ok (eligible fs target names))

/-- Each target is settled in one of these ways. -/
lemma settles_files (fs : FileSystem) (target : Path) :
    Settles fs target (files fs target).outcome := by
  cases hkind : fs.kind target with
  | error e =>
    unfold files
    rw [hkind]
    by_cases he : e = .missing
    · subst he
      exact .missing hkind
    · cases e with
      | missing => exact absurd rfl he
      | _ => exact .unreadable hkind he
  | ok kind =>
    cases kind with
    | special =>
      unfold files
      rw [hkind]
      exact .special hkind
    | regular =>
      unfold files ofFile
      rw [hkind]
      cases hformat : Format.ofPath target with
      | unsupported extension => exact .otherExtension hkind hformat
      | json => exact .file hkind (by rw [hformat]; rfl)
      | yaml => exact .file hkind (by rw [hformat]; rfl)
    | directory =>
      cases hentries : fs.entries target with
      | error e =>
        unfold files ofDirectory
        rw [hkind, hentries]
        exact .unlisted hkind hentries
      | ok names =>
        rw [outcome_files_directory hkind hentries]
        split
        · rename_i hnone
          exact .noFiles hkind hentries hnone
        · rename_i hsome
          exact .files hkind hentries hsome

/-- The files of a target are files with the extension of a format. -/
lemma Settles.of_mem {fs : FileSystem} {target path : Path} {list : List Path}
    (h : Settles fs target (.ok list)) (hpath : path ∈ list) :
    fs.kind path = .ok .regular ∧ (Format.ofPath path).isSupported = true := by
  cases h with
  | file hkind hformat =>
    rw [List.mem_singleton.mp hpath]
    exact ⟨hkind, hformat⟩
  | files hkind hentries hsome =>
    obtain ⟨name, -, -, hverdict⟩ := mem_eligible.mp hpath
    exact verdict_eq_eligible_iff.mp hverdict

/-- As a target of its own a path is the only file exactly if it counts as an entry. -/
lemma files_eq_singleton_iff {fs : FileSystem} {path : Path} :
    (files fs path).outcome = .ok [path] ↔ verdict fs path = .eligible := by
  rw [verdict_eq_eligible_iff]
  constructor
  · intro h
    have hsettles : Settles fs path (.ok [path]) := h ▸ settles_files fs path
    exact hsettles.of_mem (List.mem_singleton_self path)
  · rintro ⟨hkind, hformat⟩
    unfold files ofFile
    rw [hkind]
    cases hpath : Format.ofPath path with
    | unsupported extension =>
      rw [hpath] at hformat
      cases hformat
    | json => rfl
    | yaml => rfl

/-- The entry of a directory counts if it is listed. -/
lemma join_mem_eligible {fs : FileSystem} {dir : Path} {names : List Name} {name : Name} :
    dir.join name ∈ eligible fs dir names ↔
      name ∈ names ∧ (files fs (dir.join name)).outcome = .ok [dir.join name] := by
  rw [mem_eligible, files_eq_singleton_iff]
  constructor
  · rintro ⟨other, hmem, hjoin, hverdict⟩
    cases Path.join_injective dir hjoin
    exact ⟨hmem, hverdict⟩
  · rintro ⟨hmem, hverdict⟩
    exact ⟨name, hmem, rfl, hverdict⟩

/-- The eligible entries come in the order of the bytes of their names, each of them once. -/
lemma pairwise_eligible (fs : FileSystem) (dir : Path) {names : List Name}
    (honce : names.Nodup) :
    (eligible fs dir names).Pairwise fun p q =>
      ∃ a b, p.fileName? = some a ∧ q.fileName? = some b ∧ a < b := by
  unfold eligible
  let listed := names.filter fun n => verdict fs (dir.join n) = .eligible
  have hnodup : (listed.mergeSort Name.le).Nodup :=
    (List.mergeSort_perm listed Name.le).nodup_iff.mpr (honce.filter _)
  rw [List.pairwise_map]
  refine ((Name.pairwise_mergeSort listed).and hnodup).imp fun {a b} ⟨hle, hne⟩ => ?_
  refine ⟨a.bytes, b.bytes, Path.fileName?_join dir a, Path.fileName?_join dir b, ?_⟩
  exact Std.lt_of_le_of_ne hle fun h => hne (Name.ext_bytes h)

/-- The order in which the entries are enumerated does not matter, nor does anything but their
kinds. -/
lemma eligible_congr {fs fs' : FileSystem} (hkind : fs'.kind = fs.kind) (dir : Path)
    {names names' : List Name} (h : names'.Perm names) :
    eligible fs' dir names' = eligible fs dir names := by
  unfold eligible verdict
  rw [hkind, Name.mergeSort_eq_of_perm (h.filter _)]

/-- A directory that can be read stands for the entries that could be targets themselves: regular
files, once links are followed, with the extension of a format.  They are listed once, in the strict
order of the bytes of their names, whatever the order in which the directory enumerates its entries,
and nothing that lies below an entry is listed.  If there is no such entry, that is the error. -/
theorem files_directory {fs : FileSystem} {dir : Path} {names : List Name}
    (hkind : fs.kind dir = .ok .directory) (hentries : fs.entries dir = .ok names)
    (honce : names.Nodup) :
    (∀ name, (∃ list, (files fs dir).outcome = .ok list ∧ dir.join name ∈ list) ↔
      name ∈ names ∧ (files fs (dir.join name)).outcome = .ok [dir.join name]) ∧
    (∀ path, (files fs path).outcome = .ok [path] ↔
      fs.kind path = .ok .regular ∧ (Format.ofPath path).isSupported = true) ∧
    (∀ list, (files fs dir).outcome = .ok list →
      list.Nodup ∧
      list.Pairwise (fun p q => ∃ a b, p.fileName? = some a ∧ q.fileName? = some b ∧ a < b) ∧
      (∀ path ∈ list, ∃ name ∈ names, path = dir.join name) ∧
      ∀ (sub : Name) (tail : List UInt8),
        (⟨(dir.join sub).bytes ++ Path.slash :: tail⟩ : Path) ∉ list) ∧
    (∀ fs' names', fs'.kind = fs.kind → fs'.entries dir = .ok names' → names'.Perm names →
      (files fs' dir).outcome = (files fs dir).outcome) ∧
    ((files fs dir).outcome = .error (.noEligibleFiles dir) ↔
      ¬ ∃ name ∈ names, (files fs (dir.join name)).outcome = .ok [dir.join name]) := by
  refine ⟨?_, ?_, ?_, ?_, ?_⟩
  · intro name
    refine Iff.trans ?_ join_mem_eligible
    simp only [files_directory_eq_ok_iff hkind hentries]
    constructor
    · rintro ⟨_, ⟨rfl, -⟩, hmem⟩
      exact hmem
    · intro hmem
      exact ⟨_, ⟨rfl, List.ne_nil_of_mem hmem⟩, hmem⟩
  · intro path
    rw [files_eq_singleton_iff, verdict_eq_eligible_iff]
  · intro list hlist
    obtain ⟨rfl, -⟩ := (files_directory_eq_ok_iff hkind hentries).mp hlist
    have hsorted := pairwise_eligible fs dir honce
    have hjoin : ∀ path ∈ eligible fs dir names, ∃ name ∈ names, path = dir.join name := by
      intro path hmem
      obtain ⟨name, hname, rfl, -⟩ := mem_eligible.mp hmem
      exact ⟨name, hname, rfl⟩
    refine ⟨hsorted.imp ?_, hsorted, hjoin, ?_⟩
    · rintro p _ ⟨a, b, ha, hb, hlt⟩ rfl
      cases ha.symm.trans hb
      exact Std.lt_irrefl hlt
    · intro sub tail hmem
      obtain ⟨name, -, hname⟩ := hjoin _ hmem
      exact Path.join_ne_below dir name sub tail hname.symm
  · intro fs' names' hkind' hentries' hperm
    rw [outcome_files_directory hkind hentries,
      outcome_files_directory ((congrFun hkind' dir).trans hkind) hentries',
      eligible_congr hkind' dir hperm]
  · rw [outcome_files_directory hkind hentries]
    have hnone : eligible fs dir names = [] ↔
        ¬ ∃ name ∈ names, (files fs (dir.join name)).outcome = .ok [dir.join name] := by
      constructor
      · rintro h ⟨name, hname⟩
        have hmem := join_mem_eligible.mpr hname
        rw [h] at hmem
        cases hmem
      · intro h
        refine List.eq_nil_iff_forall_not_mem.mpr fun path hmem => h ?_
        obtain ⟨name, -, rfl, -⟩ := mem_eligible.mp hmem
        exact ⟨name, join_mem_eligible.mp hmem⟩
    rw [← hnone]
    simp only [ite_eq_left_iff, reduceCtorEq, imp_false, not_not]

end Target

namespace Tree

/-- Duplicates are gone once they are erased. -/
lemma nodup_eraseDups {α : Type} [DecidableEq α] : ∀ list : List α, list.eraseDups.Nodup
  | [] => List.nodup_nil
  | a :: rest => by
    rw [List.eraseDups_cons, List.nodup_cons, List.mem_eraseDups, List.mem_filter]
    exact ⟨by simp, nodup_eraseDups _⟩
termination_by list => list.length
decreasing_by
  exact Nat.lt_succ_of_le (List.length_filter_le _ _)

/-- A directory in a tree enumerates each of its entries once. -/
theorem nodup_of_entries {t : Tree} {dir : Path} {names : List Name}
    (h : t.fileSystem.entries dir = .ok names) : names.Nodup := by
  change t.entries dir = .ok names at h
  unfold entries at h
  cases hnode : t.node dir with
  | error e =>
    rw [hnode] at h
    cases h
  | ok node =>
    rw [hnode] at h
    cases node with
    | directory entries =>
      cases h
      exact nodup_eraseDups _
    | regular content => cases h
    | special content => cases h
    | link target => cases h

/-- A directory with the file `b.json`, the link `a.yml` to it, the text `c`, and the directory
`d.json`. -/
def withLink : Tree where
  root := .directory
    [(⟨[0x62, 0x2e, 0x6a, 0x73, 0x6f, 0x6e], by decide⟩, .regular (.ok [0x30])),
      (⟨[0x61, 0x2e, 0x79, 0x6d, 0x6c], by decide⟩, .link ⟨[0x62, 0x2e, 0x6a, 0x73, 0x6f, 0x6e]⟩),
      (⟨[0x63], by decide⟩, .regular (.ok [0x30])),
      (⟨[0x64, 0x2e, 0x6a, 0x73, 0x6f, 0x6e], by decide⟩, .directory
        [(⟨[0x62, 0x2e, 0x6a, 0x73, 0x6f, 0x6e], by decide⟩, .regular (.ok [0x30]))])]
  here := []

/-- The file and the link to it are listed, the text, the directory and what lies in it are not. -/
theorem files_withLink :
    ∃ list, (Target.files withLink.fileSystem ⟨[0x2e]⟩).outcome = .ok list ∧
      (⟨[0x2e, 0x2f, 0x61, 0x2e, 0x79, 0x6d, 0x6c]⟩ : Path) ∈ list ∧
      (⟨[0x2e, 0x2f, 0x62, 0x2e, 0x6a, 0x73, 0x6f, 0x6e]⟩ : Path) ∈ list ∧
      (⟨[0x2e, 0x2f, 0x63]⟩ : Path) ∉ list ∧
      (⟨[0x2e, 0x2f, 0x64, 0x2e, 0x6a, 0x73, 0x6f, 0x6e]⟩ : Path) ∉ list ∧
      (⟨[0x2e, 0x2f, 0x64, 0x2e, 0x6a, 0x73, 0x6f, 0x6e, 0x2f,
        0x62, 0x2e, 0x6a, 0x73, 0x6f, 0x6e]⟩ : Path) ∉ list := by
  let dir : Path := ⟨[0x2e]⟩
  let a : Name := ⟨[0x61, 0x2e, 0x79, 0x6d, 0x6c], by decide⟩
  let b : Name := ⟨[0x62, 0x2e, 0x6a, 0x73, 0x6f, 0x6e], by decide⟩
  let c : Name := ⟨[0x63], by decide⟩
  let d : Name := ⟨[0x64, 0x2e, 0x6a, 0x73, 0x6f, 0x6e], by decide⟩
  have hentries : withLink.fileSystem.entries dir = .ok [b, a, c, d] := by decide
  obtain ⟨hlisted, hfile, hlist, -, -⟩ :=
    Target.files_directory (by decide) hentries (nodup_of_entries hentries)
  obtain ⟨list, hok, ha⟩ := (hlisted a).mpr ⟨by simp, (hfile _).mpr (by decide +kernel)⟩
  have hmem : ∀ name, dir.join name ∈ list ↔ name ∈ [b, a, c, d] ∧
      (Target.files withLink.fileSystem (dir.join name)).outcome = .ok [dir.join name] := by
    intro name
    rw [← hlisted]
    exact ⟨fun h => ⟨list, hok, h⟩, fun ⟨list', hok', h⟩ => by cases hok.symm.trans hok'; exact h⟩
  refine ⟨list, hok, ha, (hmem b).mpr ⟨by simp, (hfile _).mpr (by decide +kernel)⟩, fun hc => ?_,
    fun hd => ?_, (hlist list hok).2.2.2 d b.bytes⟩
  · exact absurd ((hfile _).mp ((hmem c).mp hc).2) (by decide +kernel)
  · exact absurd ((hfile _).mp ((hmem d).mp hd).2) (by decide)

end Tree

end ConfigCheck
