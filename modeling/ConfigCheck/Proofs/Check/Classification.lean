import ConfigCheck.Proofs.Check.Directory
import ConfigCheck.Proofs.File.Walk

/-!
# The kinds of targets

What becomes of a target depends on where its path leads, and on nothing else
(`Target.files_classified`).  A path at which there is nothing has one of two fates.  If the walk
along it comes to a name that is missing, the target is not found.  If it comes to a file that has
to be a directory, the target counts as one that cannot be read, although there is nothing to read
there either (`Tree.files_behindFile`).

All this holds of a file system that shows a tree, even if it may not be looked at everywhere
(`FileSystem.Shows`).
-/

namespace ConfigCheck

/-! ## File systems that show a tree -/

namespace FileSystem

/-- A file system shows a tree.  What it says about a path is so in the tree, unless it may not be
looked at, which is not to say that the name is missing; and the entries that it enumerates are
those in the tree, in whatever order. -/
structure Shows (fs : FileSystem) (t : Tree) : Prop where
  /-- What a path leads to is shown, or there is a reason of its own why it is not. -/
  kind : ∀ p, fs.kind p = t.kind p ∨ ∃ e, e ≠ .missing ∧ fs.kind p = .error e
  /-- The entries of a directory are shown if any are. -/
  entries : ∀ p names, fs.entries p = .ok names →
    ∃ others, t.entries p = .ok others ∧ names.Perm others

/-- A path may be looked at. -/
def Inspects (fs : FileSystem) (t : Tree) (p : Path) : Prop := fs.kind p = t.kind p

variable {fs : FileSystem} {t : Tree} {p : Path}

/-- What a tree shows of itself. -/
lemma shows_fileSystem (t : Tree) : t.fileSystem.Shows t where
  kind _ := .inl rfl
  entries _ names h := ⟨names, h, .refl names⟩

/-- A name is missing if a path that may be looked at stops there. -/
lemma Shows.kind_eq_missing_iff (h : fs.Shows t) :
    fs.kind p = .error .missing ↔ fs.Inspects t p ∧ t.Stops p .missing := by
  unfold Inspects
  rw [← Tree.kind_eq_error_iff]
  constructor
  · intro hkind
    rcases h.kind p with hsame | ⟨e, he, hother⟩
    · exact ⟨hsame, hsame ▸ hkind⟩
    · cases hkind.symm.trans hother
      exact absurd rfl he
  · rintro ⟨hsame, hkind⟩
    exact hsame.trans hkind

/-- A path has a kind if it may be looked at and holds a node of this kind. -/
lemma Shows.kind_eq_ok_iff (h : fs.Shows t) {kind : FileKind} :
    fs.kind p = .ok kind ↔
      fs.Inspects t p ∧ ∃ node, t.Holds p node ∧ node.kind? = some kind := by
  unfold Inspects
  rw [← Tree.kind_eq_ok_iff]
  constructor
  · intro hkind
    rcases h.kind p with hsame | ⟨e, -, hother⟩
    · exact ⟨hsame, hsame ▸ hkind⟩
    · cases hkind.symm.trans hother
  · rintro ⟨hsame, hkind⟩
    exact hsame.trans hkind

/-- A path leads to a file with content. -/
lemma Shows.kind_eq_regular_iff (h : fs.Shows t) :
    fs.kind p = .ok .regular ↔ fs.Inspects t p ∧ ∃ content, t.Holds p (.regular content) := by
  rw [h.kind_eq_ok_iff]
  simp only [Node.kind?_eq_regular_iff]
  grind

/-- A path leads to a device. -/
lemma Shows.kind_eq_special_iff (h : fs.Shows t) :
    fs.kind p = .ok .special ↔ fs.Inspects t p ∧ ∃ content, t.Holds p (.special content) := by
  rw [h.kind_eq_ok_iff]
  simp only [Node.kind?_eq_special_iff]
  grind

/-- A path leads to a directory. -/
lemma Shows.kind_eq_directory_iff (h : fs.Shows t) :
    fs.kind p = .ok .directory ↔ fs.Inspects t p ∧ ∃ entries, t.Holds p (.directory entries) := by
  rw [h.kind_eq_ok_iff]
  simp only [Node.kind?_eq_directory_iff]
  grind

/-- The entries that are enumerated are those of the directory in the tree. -/
lemma Shows.mem_entries_iff (h : fs.Shows t) {names : List Name} {entries : List (Name × Node)}
    (hnames : fs.entries p = .ok names) (hholds : t.Holds p (.directory entries)) {name : Name} :
    name ∈ names ↔ (Node.find? name entries).isSome = true := by
  obtain ⟨others, hothers, hperm⟩ := h.entries p names hnames
  obtain ⟨entries', hholds', rfl⟩ := Tree.entries_eq_ok_iff.mp hothers
  have hsame := (Tree.node_eq_ok_iff.mpr hholds').symm.trans (Tree.node_eq_ok_iff.mpr hholds)
  cases hsame
  rw [hperm.mem_iff, List.mem_eraseDups, Node.isSome_find?_iff]

end FileSystem

/-! ## What becomes of a target -/

namespace Target

variable {fs : FileSystem} {t : Tree} {target : Path}

/-- An entry of a directory is one of its files: it may be looked at, leads to a file with content,
and has the extension of a format. -/
def IsFile (fs : FileSystem) (t : Tree) (path : Path) : Prop :=
  fs.Inspects t path ∧ (∃ content, t.Holds path (.regular content)) ∧
    (Format.ofPath path).isSupported = true

/-- A directory with entries has a file among them. -/
def HasFile (fs : FileSystem) (t : Tree) (dir : Path) (entries : List (Name × Node)) : Prop :=
  ∃ name, (Node.find? name entries).isSome = true ∧ IsFile fs t (dir.join name)

/-- The files of a directory are those of its entries in the tree. -/
lemma eligible_ne_nil_iff (hshows : fs.Shows t) {names : List Name}
    {entries : List (Name × Node)} (hnames : fs.entries target = .ok names)
    (hholds : t.Holds target (.directory entries)) :
    eligible fs target names ≠ [] ↔ HasFile fs t target entries := by
  constructor
  · intro hne
    obtain ⟨path, hpath⟩ := List.exists_mem_of_ne_nil _ hne
    obtain ⟨name, hname, rfl, hverdict⟩ := mem_eligible.mp hpath
    obtain ⟨hkind, hformat⟩ := verdict_eq_eligible_iff.mp hverdict
    obtain ⟨hinspects, hcontent⟩ := hshows.kind_eq_regular_iff.mp hkind
    exact ⟨name, (hshows.mem_entries_iff hnames hholds).mp hname, hinspects, hcontent, hformat⟩
  · rintro ⟨name, hfind, hinspects, hcontent, hformat⟩
    have hname := (hshows.mem_entries_iff hnames hholds).mpr hfind
    have hkind := hshows.kind_eq_regular_iff.mpr ⟨hinspects, hcontent⟩
    have hverdict := verdict_eq_eligible_iff.mpr ⟨hkind, hformat⟩
    exact List.ne_nil_of_mem (mem_eligible.mpr ⟨name, hname, rfl, hverdict⟩)

section Causes

variable {r : Except CheckError (List Path)} (h : Settles fs target r)

include h

/-- A target is not found if a name is missing. -/
lemma Settles.eq_targetNotFound_iff :
    r = .error (.targetNotFound target) ↔ fs.kind target = .error .missing := by
  cases h <;> grind

/-- A target has an invalid type if it is a device. -/
lemma Settles.eq_invalidTargetType_iff :
    r = .error (.invalidTargetType target) ↔ fs.kind target = .ok .special := by
  cases h <;> grind

/-- A target is refused for its format if it is a file. -/
lemma Settles.eq_unsupportedFormat_iff {extension : String} :
    r = .error (.unsupportedFormat target extension) ↔
      fs.kind target = .ok .regular ∧ Format.ofPath target = .unsupported extension := by
  cases h <;> grind [Format.isSupported]

/-- A target has no files if it is a directory without any. -/
lemma Settles.eq_noEligibleFiles_iff :
    r = .error (.noEligibleFiles target) ↔ fs.kind target = .ok .directory ∧
      ∃ names, fs.entries target = .ok names ∧ eligible fs target names = [] := by
  cases h <;> grind

/-- A target cannot be read if it may not be looked at or enumerated. -/
lemma Settles.eq_io_iff {e : FileError} :
    r = .error (.io target e) ↔ fs.kind target = .error e ∧ e ≠ .missing ∨
      fs.kind target = .ok .directory ∧ fs.entries target = .error e := by
  cases h <;> grind

/-- There are files for a target that is one, or that is a directory with some. -/
lemma Settles.exists_eq_ok_iff :
    (∃ list, r = .ok list) ↔
      fs.kind target = .ok .regular ∧ (Format.ofPath target).isSupported = true ∨
        fs.kind target = .ok .directory ∧
          ∃ names, fs.entries target = .ok names ∧ eligible fs target names ≠ [] := by
  cases h <;> grind [Format.isSupported]

end Causes

/-- What becomes of a target, for a file system that shows a tree.  The target is not found exactly
if it may be looked at and the walk along its path comes to a name that is missing, a link to
nothing among them.  It has an invalid type exactly if it leads to something that is neither a file
with content nor a directory, is refused for its format exactly if it leads to such a file without
the extension of a format, and has no files exactly if it leads to a directory that can be
enumerated and has no file.  It cannot be read exactly if its path stops for another reason than
that a name is missing, or if it may not be looked at, or leads to a directory that cannot be
enumerated.  Otherwise it has files.

There is nothing at a target that stops at a missing name, and also nothing at one that stops at
something that is no directory; but only the first one is not found.  If there is nothing at a
target, then it stops, at one of these, or because of the bounds on links, on names and on the
characters of paths. -/
theorem files_classified (hshows : fs.Shows t) (target : Path) :
    ((files fs target).outcome = .error (.targetNotFound target) ↔
      fs.Inspects t target ∧ t.Stops target .missing) ∧
    ((files fs target).outcome = .error (.invalidTargetType target) ↔
      fs.Inspects t target ∧ ∃ content, t.Holds target (.special content)) ∧
    (∀ extension, (files fs target).outcome = .error (.unsupportedFormat target extension) ↔
      fs.Inspects t target ∧ (∃ content, t.Holds target (.regular content)) ∧
        Format.ofPath target = .unsupported extension) ∧
    ((files fs target).outcome = .error (.noEligibleFiles target) ↔
      fs.Inspects t target ∧ ∃ entries names, t.Holds target (.directory entries) ∧
        fs.entries target = .ok names ∧ ¬ HasFile fs t target entries) ∧
    (∀ e, (files fs target).outcome = .error (.io target e) ↔
      fs.Inspects t target ∧ t.Stops target e ∧ e ≠ .missing ∨
      ¬ fs.Inspects t target ∧ fs.kind target = .error e ∨
      fs.Inspects t target ∧ (∃ entries, t.Holds target (.directory entries)) ∧
        fs.entries target = .error e) ∧
    ((∃ list, (files fs target).outcome = .ok list) ↔
      fs.Inspects t target ∧
        ((∃ content, t.Holds target (.regular content)) ∧
            (Format.ofPath target).isSupported = true ∨
          ∃ entries names, t.Holds target (.directory entries) ∧
            fs.entries target = .ok names ∧ HasFile fs t target entries)) ∧
    (t.Stops target .missing ∨ t.Stops target .notDirectory → ¬ t.Exists target) ∧
    (¬ t.Exists target → t.Stops target .missing ∨ t.Stops target .notDirectory ∨
      t.Stops target .tooManyLinks ∨ t.Stops target .nameTooLong ∨ t.Stops target .zeroByte) := by
  have hsettles := settles_files fs target
  refine ⟨?_, ?_, ?_, ?_, ?_, ?_, ?_, ?_⟩
  · rw [hsettles.eq_targetNotFound_iff, hshows.kind_eq_missing_iff]
  · rw [hsettles.eq_invalidTargetType_iff, hshows.kind_eq_special_iff]
  · intro extension
    rw [hsettles.eq_unsupportedFormat_iff, hshows.kind_eq_regular_iff, and_assoc]
  · rw [hsettles.eq_noEligibleFiles_iff, hshows.kind_eq_directory_iff]
    constructor
    · rintro ⟨⟨hinspects, entries, hholds⟩, names, hnames, hnone⟩
      have hfile := mt (eligible_ne_nil_iff hshows hnames hholds).mpr (not_not.mpr hnone)
      exact ⟨hinspects, entries, names, hholds, hnames, hfile⟩
    · rintro ⟨hinspects, entries, names, hholds, hnames, hfile⟩
      have hnone := not_not.mp (mt (eligible_ne_nil_iff hshows hnames hholds).mp hfile)
      exact ⟨⟨hinspects, entries, hholds⟩, names, hnames, hnone⟩
  · intro e
    rw [hsettles.eq_io_iff, hshows.kind_eq_directory_iff, and_assoc]
    by_cases hinspects : fs.Inspects t target
    · have hkind : fs.kind target = .error e ↔ t.Stops target e := by
        rw [← Tree.kind_eq_error_iff, hinspects]
      simp only [hinspects, hkind, true_and, not_true_eq_false, false_and, false_or]
    · have hmissing : fs.kind target = .error e → e ≠ .missing := by
        rintro hkind rfl
        exact hinspects (hshows.kind_eq_missing_iff.mp hkind).1
      simp only [hinspects, false_and, not_false_eq_true, true_and, false_or, or_false]
      exact ⟨And.left, fun hkind => ⟨hkind, hmissing hkind⟩⟩
  · rw [hsettles.exists_eq_ok_iff, hshows.kind_eq_regular_iff, hshows.kind_eq_directory_iff]
    constructor
    · rintro (⟨⟨hinspects, hcontent⟩, hformat⟩ |
        ⟨⟨hinspects, entries, hholds⟩, names, hnames, hsome⟩)
      · exact ⟨hinspects, .inl ⟨hcontent, hformat⟩⟩
      · have hfile := (eligible_ne_nil_iff hshows hnames hholds).mp hsome
        exact ⟨hinspects, .inr ⟨entries, names, hholds, hnames, hfile⟩⟩
    · rintro ⟨hinspects, ⟨hcontent, hformat⟩ | ⟨entries, names, hholds, hnames, hfile⟩⟩
      · exact .inl ⟨⟨hinspects, hcontent⟩, hformat⟩
      · have hsome := (eligible_ne_nil_iff hshows hnames hholds).mpr hfile
        exact .inr ⟨⟨hinspects, entries, hholds⟩, names, hnames, hsome⟩
  · rintro (hstops | hstops)
    · exact hstops.not_exists (.inl rfl)
    · exact hstops.not_exists (.inr rfl)
  · intro hnone
    obtain ⟨e, hstops⟩ := Tree.exists_stops_of_not_exists hnone
    rcases hstops.reason with rfl | rfl | rfl | rfl | rfl <;> simp only [hstops, true_or, or_true]

end Target

namespace Tree

/-- A directory with the file `a.json`, the link `gone` to a name that is missing, the link `loop`
to itself, the device `null` and the directory `sub` with the text `x`. -/
def withDeadEnds : Tree where
  root := .directory
    [(⟨[0x61, 0x2e, 0x6a, 0x73, 0x6f, 0x6e], .refl true⟩, .regular (.ok [0x30])),
      (⟨[0x67, 0x6f, 0x6e, 0x65], .refl true⟩, .link ⟨[0x6e, 0x6f, 0x6e, 0x65]⟩),
      (⟨[0x6c, 0x6f, 0x6f, 0x70], .refl true⟩, .link ⟨[0x6c, 0x6f, 0x6f, 0x70]⟩),
      (⟨[0x6e, 0x75, 0x6c, 0x6c], .refl true⟩, .special []),
      (⟨[0x73, 0x75, 0x62], .refl true⟩, .directory
        [(⟨[0x78], .refl true⟩, .regular (.ok [0x30]))])]
  here := []

/-- The directory as it is shown to someone who may not enumerate any. -/
def lockedDeadEnds : FileSystem :=
  { withDeadEnds.fileSystem with entries := fun _ => .error .denied }

/-- The link to a missing name is not found, the device has an invalid type, and the directories are
shown as such but cannot be read. -/
theorem files_withDeadEnds :
    lockedDeadEnds.Shows withDeadEnds ∧
      (Target.files lockedDeadEnds ⟨[0x67, 0x6f, 0x6e, 0x65]⟩).outcome =
        .error (.targetNotFound ⟨[0x67, 0x6f, 0x6e, 0x65]⟩) ∧
      withDeadEnds.Stops ⟨[0x67, 0x6f, 0x6e, 0x65]⟩ .missing ∧
      ¬ withDeadEnds.Exists ⟨[0x67, 0x6f, 0x6e, 0x65]⟩ ∧
      (Target.files lockedDeadEnds ⟨[0x6e, 0x75, 0x6c, 0x6c]⟩).outcome =
        .error (.invalidTargetType ⟨[0x6e, 0x75, 0x6c, 0x6c]⟩) ∧
      (Target.files lockedDeadEnds ⟨[0x73, 0x75, 0x62]⟩).outcome =
        .error (.io ⟨[0x73, 0x75, 0x62]⟩ .denied) ∧
      ∃ list, (Target.files lockedDeadEnds ⟨[0x61, 0x2e, 0x6a, 0x73, 0x6f, 0x6e]⟩).outcome =
        .ok list := by
  have hshows : lockedDeadEnds.Shows withDeadEnds :=
    ⟨fun _ => .inl rfl, fun p names h => by cases h⟩
  have hgone : withDeadEnds.Stops ⟨[0x67, 0x6f, 0x6e, 0x65]⟩ .missing :=
    kind_eq_error_iff.mp (by decide)
  obtain ⟨hmissing, -, -, -, -, -, hnothing, -⟩ :=
    Target.files_classified hshows ⟨[0x67, 0x6f, 0x6e, 0x65]⟩
  obtain ⟨-, hspecial, -⟩ := Target.files_classified hshows ⟨[0x6e, 0x75, 0x6c, 0x6c]⟩
  obtain ⟨-, -, -, -, hunreadable, -⟩ := Target.files_classified hshows ⟨[0x73, 0x75, 0x62]⟩
  obtain ⟨-, -, -, -, -, hfiles, -⟩ :=
    Target.files_classified hshows ⟨[0x61, 0x2e, 0x6a, 0x73, 0x6f, 0x6e]⟩
  have hdevice := (hshows.kind_eq_special_iff (p := ⟨[0x6e, 0x75, 0x6c, 0x6c]⟩)).mp
    (by decide)
  have hdirectory := (hshows.kind_eq_directory_iff (p := ⟨[0x73, 0x75, 0x62]⟩)).mp
    (by decide)
  have hfile := (hshows.kind_eq_regular_iff (p := ⟨[0x61, 0x2e, 0x6a, 0x73, 0x6f, 0x6e]⟩)).mp
    (by decide)
  refine ⟨hshows, hmissing.mpr ⟨rfl, hgone⟩, hgone, hnothing (.inl hgone), hspecial.mpr hdevice,
    (hunreadable _).mpr (.inr (.inr ⟨rfl, hdirectory.2, rfl⟩)),
    hfiles.mpr ⟨rfl, .inl ⟨hfile.2, ?_⟩⟩⟩
  decide +kernel

/-- There is nothing behind a file, but a target there is not one that is not found. -/
theorem files_behindFile :
    ¬ withDeadEnds.Exists ⟨[0x61, 0x2e, 0x6a, 0x73, 0x6f, 0x6e, 0x2f, 0x78]⟩ ∧
      (Target.files withDeadEnds.fileSystem
          ⟨[0x61, 0x2e, 0x6a, 0x73, 0x6f, 0x6e, 0x2f, 0x78]⟩).outcome =
        .error (.io ⟨[0x61, 0x2e, 0x6a, 0x73, 0x6f, 0x6e, 0x2f, 0x78]⟩ .notDirectory) := by
  let target : Path := ⟨[0x61, 0x2e, 0x6a, 0x73, 0x6f, 0x6e, 0x2f, 0x78]⟩
  have hkind : withDeadEnds.fileSystem.kind target = .error .notDirectory := by decide
  have hstops : withDeadEnds.Stops target .notDirectory := kind_eq_error_iff.mp hkind
  refine ⟨hstops.not_exists (.inr rfl), ?_⟩
  exact (Target.settles_files withDeadEnds.fileSystem target).eq_io_iff.mpr
    (.inl ⟨hkind, by decide⟩)

end Tree

end ConfigCheck
