import ConfigCheck.File.Tree
import ConfigCheck.Proofs.File.Path
import ConfigCheck.Proofs.Outcome
import Mathlib.Logic.Relation

/-!
# Walks through a tree

A path is walked one step at a time, and there is no choice in it: a stage of a walk that has steps
left goes on to exactly one other stage (`Tree.Goes`) or cannot go on, for one reason
(`Tree.Halts`).  Where a path leads, and why it leads nowhere, is what the walk along it comes to
(`Tree.locate_eq_ok_iff`, `Tree.kind_eq_ok_iff`, `Tree.kind_eq_error_iff`).

The number of links that may be followed is part of a stage.  A walk that comes to its end, or to a
name that is missing, does the same with more links (`Tree.Leads.moreLinks`), so whether there is
anything at a path (`Tree.Exists`) can be said without the bound.
-/

namespace ConfigCheck

namespace Node

/-- What stands below a place is found from the node at this place. -/
lemma at?_append (node : Node) (place further : List Name) :
    node.at? (place ++ further) = (node.at? place).bind (·.at? further) := by
  induction place generalizing node with
  | nil => rfl
  | cons name rest ih =>
    rw [List.cons_append, at?, at?]
    cases node.child? name with
    | none => rfl
    | some child => exact ih child

/-- Only a directory has anything below it. -/
lemma exists_directory_of_at? {node below : Node} {name : Name} {rest : List Name}
    (h : node.at? (name :: rest) = some below) : ∃ entries, node = .directory entries := by
  cases node with
  | directory entries => exact ⟨entries, rfl⟩
  | regular content => cases h
  | special content => cases h
  | link target => cases h

/-- The directory above a directory is one; the root counts as its own. -/
lemma exists_at?_dropLast {root : Node} {place : List Name} {entries : List (Name × Node)}
    (h : root.at? place = some (.directory entries)) :
    ∃ above, root.at? place.dropLast = some (.directory above) := by
  rcases List.eq_nil_or_concat place with rfl | ⟨above, name, rfl⟩
  · exact ⟨entries, h⟩
  · rw [List.concat_eq_append, at?_append, Option.bind_eq_some_iff] at h
    obtain ⟨node, hnode, hbelow⟩ := h
    obtain ⟨others, rfl⟩ := exists_directory_of_at? hbelow
    exact ⟨others, by rw [List.concat_eq_append, List.dropLast_concat]; exact hnode⟩

/-- If there is a directory anywhere, the root is one. -/
lemma exists_root_of_at? {root : Node} {place : List Name} {entries : List (Name × Node)}
    (h : root.at? place = some (.directory entries)) : ∃ others, root = .directory others := by
  cases place with
  | nil => exact ⟨entries, Option.some.inj h⟩
  | cons name rest => exact exists_directory_of_at? h

/-- An entry is found if there is one of its name. -/
lemma isSome_find?_iff {name : Name} {entries : List (Name × Node)} :
    (find? name entries).isSome = true ↔ name ∈ entries.map Prod.fst := by
  induction entries with
  | nil => simp [find?]
  | cons entry rest ih =>
    rw [find?, List.map_cons, List.mem_cons]
    by_cases hname : entry.1 = name
    · rw [if_pos hname]
      simp [hname]
    · rw [if_neg hname, ih]
      simp [Ne.symm hname]

/-- Files with content are of one kind. -/
lemma kind?_eq_regular_iff {node : Node} :
    node.kind? = some .regular ↔ ∃ content, node = .regular content := by
  cases node <;> simp [kind?]

/-- Devices are of one kind. -/
lemma kind?_eq_special_iff {node : Node} :
    node.kind? = some .special ↔ ∃ content, node = .special content := by
  cases node <;> simp [kind?]

/-- Directories are of one kind. -/
lemma kind?_eq_directory_iff {node : Node} :
    node.kind? = some .directory ↔ ∃ entries, node = .directory entries := by
  cases node <;> simp [kind?]

end Node

namespace Tree

/-! ## One step -/

/-- A walk on its way. -/
structure Stage where
  /-- The number of links that may still be followed. -/
  links : ℕ
  /-- The place to which the walk has come. -/
  place : List Name
  /-- The steps that are left. -/
  steps : List Path.Step

/-- A walk goes on to another stage.  From a directory it stays, goes to the directory above, or
goes to an entry; an entry that is a link is replaced by the steps of its target, which start in the
directory of the link or at the root. -/
inductive Goes (root : Node) : Stage → Stage → Prop
  | stay {links : ℕ} {place : List Name} {rest : List Path.Step} {entries : List (Name × Node)}
      (hdir : root.at? place = some (.directory entries)) :
      Goes root ⟨links, place, .stay :: rest⟩ ⟨links, place, rest⟩
  | up {links : ℕ} {place : List Name} {rest : List Path.Step} {entries : List (Name × Node)}
      (hdir : root.at? place = some (.directory entries)) :
      Goes root ⟨links, place, .up :: rest⟩ ⟨links, place.dropLast, rest⟩
  | enter {links : ℕ} {place : List Name} {rest : List Path.Step} {entries : List (Name × Node)}
      {name : Name} {node : Node} {kind : FileKind}
      (hdir : root.at? place = some (.directory entries))
      (hlength : name.bytes.length ≤ nameLimit) (hfind : Node.find? name entries = some node)
      (hkind : node.kind? = some kind) :
      Goes root ⟨links, place, .enter name :: rest⟩ ⟨links, place ++ [name], rest⟩
  | follow {links : ℕ} {place : List Name} {rest : List Path.Step} {entries : List (Name × Node)}
      {name : Name} {target : Path}
      (hdir : root.at? place = some (.directory entries))
      (hlength : name.bytes.length ≤ nameLimit)
      (hfind : Node.find? name entries = some (.link target)) (htarget : target.bytes ≠ []) :
      Goes root ⟨links + 1, place, .enter name :: rest⟩
        ⟨links, if target.isAbsolute then [] else place, target.steps ++ rest⟩

/-- A walk cannot go on although steps are left: it has come to something that is not a directory,
the next name is too long, there is no entry of this name or only a link to nothing, or the entry is
a link and no more links may be followed. -/
inductive Halts (root : Node) : Stage → FileError → Prop
  | notDirectory {links : ℕ} {place : List Name} {step : Path.Step} {rest : List Path.Step}
      (hdir : ∀ entries, root.at? place ≠ some (.directory entries)) :
      Halts root ⟨links, place, step :: rest⟩ .notDirectory
  | nameTooLong {links : ℕ} {place : List Name} {rest : List Path.Step}
      {entries : List (Name × Node)} {name : Name}
      (hdir : root.at? place = some (.directory entries))
      (hlength : nameLimit < name.bytes.length) :
      Halts root ⟨links, place, .enter name :: rest⟩ .nameTooLong
  | missing {links : ℕ} {place : List Name} {rest : List Path.Step}
      {entries : List (Name × Node)} {name : Name}
      (hdir : root.at? place = some (.directory entries))
      (hlength : name.bytes.length ≤ nameLimit) (hfind : Node.find? name entries = none) :
      Halts root ⟨links, place, .enter name :: rest⟩ .missing
  | emptyLink {links : ℕ} {place : List Name} {rest : List Path.Step}
      {entries : List (Name × Node)} {name : Name} {target : Path}
      (hdir : root.at? place = some (.directory entries))
      (hlength : name.bytes.length ≤ nameLimit)
      (hfind : Node.find? name entries = some (.link target)) (htarget : target.bytes = []) :
      Halts root ⟨links + 1, place, .enter name :: rest⟩ .missing
  | tooManyLinks {place : List Name} {rest : List Path.Step}
      {entries : List (Name × Node)} {name : Name} {target : Path}
      (hdir : root.at? place = some (.directory entries))
      (hlength : name.bytes.length ≤ nameLimit)
      (hfind : Node.find? name entries = some (.link target)) :
      Halts root ⟨0, place, .enter name :: rest⟩ .tooManyLinks

variable {root : Node} {s u : Stage} {e : FileError}

/-- What the walk from a stage comes to. -/
def Stage.outcome (root : Node) (s : Stage) : Except FileError (List Name) :=
  walk root s.links s.place s.steps

/-- A walk without steps is where it is. -/
lemma Stage.outcome_done (root : Node) (links : ℕ) (place : List Name) :
    Stage.outcome root ⟨links, place, []⟩ = .ok place := by
  cases links <;> rfl

/-- A step does not change what the walk comes to. -/
lemma Goes.outcome_eq (h : Goes root s u) : s.outcome root = u.outcome root := by
  unfold Stage.outcome
  cases h with
  | @stay links place rest entries hdir =>
    cases links <;> simp only [walk, walkToLink, hdir]
  | @up links place rest entries hdir =>
    cases links <;> simp only [walk, walkToLink, hdir]
  | @enter links place rest entries name node kind hdir hlength hfind hkind =>
    have hlimit := Nat.not_lt.mpr hlength
    cases node with
    | link target => cases hkind
    | regular content => cases links <;> simp only [walk, walkToLink, hdir, hlimit, hfind, if_false]
    | special content => cases links <;> simp only [walk, walkToLink, hdir, hlimit, hfind, if_false]
    | directory below => cases links <;> simp only [walk, walkToLink, hdir, hlimit, hfind, if_false]
  | follow hdir hlength hfind htarget =>
    have hlimit := Nat.not_lt.mpr hlength
    simp only [walk, walkToLink, hdir, hlimit, hfind, htarget, if_false]

/-- A walk that cannot go on comes to the reason for it. -/
lemma Halts.outcome_eq (h : Halts root s e) : s.outcome root = .error e := by
  unfold Stage.outcome
  cases h with
  | @notDirectory links place step rest hdir =>
    cases links
    all_goals
      unfold walk walkToLink
      split
      · rename_i entries hentries
        exact absurd hentries (hdir entries)
      · rfl
  | @nameTooLong links place rest entries name hdir hlength =>
    cases links <;> simp only [walk, walkToLink, hdir, hlength, if_true]
  | @missing links place rest entries name hdir hlength hfind =>
    have hlimit := Nat.not_lt.mpr hlength
    cases links <;> simp only [walk, walkToLink, hdir, hlimit, hfind, if_false]
  | emptyLink hdir hlength hfind htarget =>
    have hlimit := Nat.not_lt.mpr hlength
    simp only [walk, walkToLink, hdir, hlimit, hfind, htarget, if_false, if_true]
  | tooManyLinks hdir hlength hfind =>
    have hlimit := Nat.not_lt.mpr hlength
    simp only [walk, walkToLink, hdir, hlimit, hfind, if_false]

/-- A walk with steps left goes on or cannot go on. -/
lemma goes_or_halts (root : Node) (links : ℕ) (place : List Name) (step : Path.Step)
    (rest : List Path.Step) :
    (∃ u : Stage, Goes root ⟨links, place, step :: rest⟩ u ∧
      (u.links < links ∨ u.links = links ∧ u.steps = rest)) ∨
      ∃ e, Halts root ⟨links, place, step :: rest⟩ e := by
  by_cases hdir : ∃ entries, root.at? place = some (.directory entries)
  · obtain ⟨entries, hdir⟩ := hdir
    cases step with
    | stay => exact .inl ⟨_, .stay hdir, .inr ⟨rfl, rfl⟩⟩
    | up => exact .inl ⟨_, .up hdir, .inr ⟨rfl, rfl⟩⟩
    | enter name =>
      by_cases hlength : name.bytes.length ≤ nameLimit
      · cases hfind : Node.find? name entries with
        | none => exact .inr ⟨_, .missing hdir hlength hfind⟩
        | some node =>
          cases node with
          | regular content => exact .inl ⟨_, .enter hdir hlength hfind rfl, .inr ⟨rfl, rfl⟩⟩
          | special content => exact .inl ⟨_, .enter hdir hlength hfind rfl, .inr ⟨rfl, rfl⟩⟩
          | directory below => exact .inl ⟨_, .enter hdir hlength hfind rfl, .inr ⟨rfl, rfl⟩⟩
          | link target =>
            cases links with
            | zero => exact .inr ⟨_, .tooManyLinks hdir hlength hfind⟩
            | succ links =>
              by_cases htarget : target.bytes = []
              · exact .inr ⟨_, .emptyLink hdir hlength hfind htarget⟩
              · exact .inl ⟨_, .follow hdir hlength hfind htarget, .inl (Nat.lt_succ_self _)⟩
      · exact .inr ⟨_, .nameTooLong hdir (Nat.lt_of_not_le hlength)⟩
  · exact .inr ⟨_, .notDirectory fun entries hentries => hdir ⟨entries, hentries⟩⟩

/-- A step leads to something that is not a link. -/
lemma Goes.exists_kind (h : Goes root s u) :
    ∃ node kind, root.at? u.place = some node ∧ node.kind? = some kind := by
  cases h with
  | stay hdir => exact ⟨_, _, hdir, rfl⟩
  | up hdir =>
    obtain ⟨above, habove⟩ := Node.exists_at?_dropLast hdir
    exact ⟨_, _, habove, rfl⟩
  | enter hdir hlength hfind hkind =>
    refine ⟨_, _, ?_, hkind⟩
    rw [Node.at?_append, hdir]
    simp only [Option.bind_some, Node.at?, Node.child?, hfind]
  | follow hdir hlength hfind htarget =>
    obtain ⟨others, rfl⟩ := Node.exists_root_of_at? hdir
    dsimp only
    split
    · exact ⟨_, _, rfl, rfl⟩
    · exact ⟨_, _, hdir, rfl⟩

/-- With more links a walk takes the same step. -/
lemma Goes.moreLinks (h : Goes root s u) (more : ℕ) :
    Goes root { s with links := s.links + more } { u with links := u.links + more } := by
  cases h with
  | stay hdir => exact .stay hdir
  | up hdir => exact .up hdir
  | enter hdir hlength hfind hkind => exact .enter hdir hlength hfind hkind
  | @follow links place rest entries name target hdir hlength hfind htarget =>
    dsimp only
    rw [Nat.add_right_comm]
    exact .follow hdir hlength hfind htarget

/-- With more links a walk ends for the same reason, unless links were the reason. -/
lemma Halts.moreLinks (h : Halts root s e) (he : e ≠ .tooManyLinks) (more : ℕ) :
    Halts root { s with links := s.links + more } e := by
  cases h with
  | notDirectory hdir => exact .notDirectory hdir
  | nameTooLong hdir hlength => exact .nameTooLong hdir hlength
  | missing hdir hlength hfind => exact .missing hdir hlength hfind
  | @emptyLink links place rest entries name target hdir hlength hfind htarget =>
    dsimp only
    rw [Nat.add_right_comm]
    exact .emptyLink hdir hlength hfind htarget
  | tooManyLinks hdir hlength hfind => exact absurd rfl he

/-! ## Whole walks -/

/-- A walk leads from one stage to another. -/
def Leads (root : Node) : Stage → Stage → Prop := Relation.ReflTransGen (Goes root)

/-- What a walk comes to is the same at all its stages. -/
lemma Leads.outcome_eq (h : Leads root s u) : s.outcome root = u.outcome root := by
  induction h with
  | refl => rfl
  | tail _ hgoes ih => exact ih.trans hgoes.outcome_eq

/-- With more links a walk leads to the same stages. -/
lemma Leads.moreLinks (h : Leads root s u) (more : ℕ) :
    Leads root { s with links := s.links + more } { u with links := u.links + more } := by
  induction h with
  | refl => exact .refl
  | tail _ hgoes ih => exact ih.tail (hgoes.moreLinks more)

/-- A walk with steps leads to something that is not a link. -/
lemma Leads.exists_kind (h : Leads root s u) (hne : s.steps ≠ u.steps) :
    ∃ node kind, root.at? u.place = some node ∧ node.kind? = some kind := by
  cases h with
  | refl => exact absurd rfl hne
  | tail _ hgoes => exact hgoes.exists_kind

/-- Each walk comes to an end: at its last step, or where it cannot go on.  Each step is one step
fewer with as many links, or takes one of the links. -/
lemma exists_end (root : Node) (links : ℕ) (steps : List Path.Step) (place : List Name) :
    ∃ u, Leads root ⟨links, place, steps⟩ u ∧ (u.steps = [] ∨ ∃ e, Halts root u e) := by
  induction links using Nat.strongRecOn generalizing steps place with
  | ind links ihLinks =>
    induction steps generalizing place with
    | nil => exact ⟨_, .refl, .inl rfl⟩
    | cons step rest ihSteps =>
      rcases goes_or_halts root links place step rest with
        ⟨⟨fewer, next, further⟩, hgoes, hless | ⟨rfl, rfl⟩⟩ | hhalts
      · obtain ⟨u, hleads, hend⟩ := ihLinks fewer hless further next
        exact ⟨u, .head hgoes hleads, hend⟩
      · obtain ⟨u, hleads, hend⟩ := ihSteps next
        exact ⟨u, .head hgoes hleads, hend⟩
      · exact ⟨_, .refl, .inr hhalts⟩

/-- A walk comes to the place to which it leads. -/
lemma Stage.outcome_eq_ok_iff {place : List Name} :
    s.outcome root = .ok place ↔ ∃ left, Leads root s ⟨left, place, []⟩ := by
  constructor
  · intro h
    obtain ⟨⟨left, last, steps⟩, hleads, hend⟩ := exists_end root s.links s.steps s.place
    rw [hleads.outcome_eq] at h
    rcases hend with rfl | ⟨e, hhalts⟩
    · rw [Stage.outcome_done] at h
      cases h
      exact ⟨left, hleads⟩
    · rw [hhalts.outcome_eq] at h
      cases h
  · rintro ⟨left, hleads⟩
    rw [hleads.outcome_eq, Stage.outcome_done]

/-- A walk fails for the reason for which it cannot go on. -/
lemma Stage.outcome_eq_error_iff :
    s.outcome root = .error e ↔ ∃ u, Leads root s u ∧ Halts root u e := by
  constructor
  · intro h
    obtain ⟨⟨left, last, steps⟩, hleads, hend⟩ := exists_end root s.links s.steps s.place
    rw [hleads.outcome_eq] at h
    rcases hend with rfl | ⟨e', hhalts⟩
    · rw [Stage.outcome_done] at h
      cases h
    · rw [hhalts.outcome_eq] at h
      cases h
      exact ⟨_, hleads, hhalts⟩
  · rintro ⟨u, hleads, hhalts⟩
    rw [hleads.outcome_eq, hhalts.outcome_eq]

/-! ## Paths -/

/-- The stage at which the walk along a path starts, with a number of links that may be followed. -/
def start (t : Tree) (links : ℕ) (p : Path) : Stage :=
  ⟨links, if p.isAbsolute then [] else t.here, p.steps⟩

/-- A path leads to a place by way of no more than a number of links.  An empty path and a path with
a zero byte lead nowhere. -/
structure Arrives (t : Tree) (links : ℕ) (p : Path) (place : List Name) : Prop where
  /-- There is no zero byte. -/
  noZero : 0 ∉ p.bytes
  /-- The path is not empty. -/
  nonempty : p.bytes ≠ []
  /-- The walk along the path ends at the place. -/
  leads : ∃ left, Leads t.root (t.start links p) ⟨left, place, []⟩

/-- There is something at a path, once links are followed, however many. -/
def Exists (t : Tree) (p : Path) : Prop := ∃ links place, t.Arrives links p place

/-- A path leads to a node within the bounds on its length and on the number of links. -/
def Holds (t : Tree) (p : Path) (node : Node) : Prop :=
  p.bytes.length < pathLimit ∧
    ∃ place, t.Arrives linkLimit p place ∧ t.root.at? place = some node

/-- A path leads to no place, for one reason. -/
inductive Stops (t : Tree) (p : Path) : FileError → Prop
  | zeroByte (hzero : 0 ∈ p.bytes) : Stops t p .zeroByte
  | empty (hempty : p.bytes = []) : Stops t p .missing
  | tooLong (hzero : 0 ∉ p.bytes) (hlength : pathLimit ≤ p.bytes.length) : Stops t p .nameTooLong
  | halts {s : Stage} {e : FileError} (hzero : 0 ∉ p.bytes) (hne : p.bytes ≠ [])
      (hlength : p.bytes.length < pathLimit) (hleads : Leads t.root (t.start linkLimit p) s)
      (hhalts : Halts t.root s e) : Stops t p e

variable {t : Tree} {p : Path}

/-- The place of a path is the one to which it leads, if it is not too long. -/
lemma locate_eq_ok_iff {place : List Name} :
    t.locate p = .ok place ↔ p.bytes.length < pathLimit ∧ t.Arrives linkLimit p place := by
  unfold locate
  constructor
  · intro h
    split at h
    · cases h
    · rename_i hzero
      split at h
      · cases h
      · rename_i hne
        split at h
        · cases h
        · rename_i hlength
          exact ⟨Nat.lt_of_not_le hlength, by simpa using hzero, hne,
            Stage.outcome_eq_ok_iff.mp h⟩
  · rintro ⟨hlength, hzero, hne, hleads⟩
    rw [if_neg (by simpa using hzero), if_neg hne, if_neg (Nat.not_le.mpr hlength)]
    exact Stage.outcome_eq_ok_iff.mpr hleads

/-- A path has no place for the reason for which it stops. -/
lemma locate_eq_error_iff : t.locate p = .error e ↔ t.Stops p e := by
  unfold locate
  constructor
  · intro h
    split at h
    · rename_i hzero
      cases h
      exact .zeroByte (by simpa using hzero)
    · rename_i hzero
      have hnone : 0 ∉ p.bytes := by simpa using hzero
      split at h
      · rename_i hempty
        cases h
        exact .empty hempty
      · rename_i hne
        split at h
        · rename_i hlength
          cases h
          exact .tooLong hnone hlength
        · rename_i hlength
          change (t.start linkLimit p).outcome t.root = .error e at h
          obtain ⟨u, hleads, hhalts⟩ := Stage.outcome_eq_error_iff.mp h
          exact .halts hnone hne (Nat.lt_of_not_le hlength) hleads hhalts
  · intro h
    cases h with
    | zeroByte hzero => rw [if_pos (by simpa using hzero)]
    | empty hempty => rw [if_neg (by simp [hempty]), if_pos hempty]
    | tooLong hzero hlength =>
      have hne : p.bytes ≠ [] := by
        intro hempty
        rw [hempty] at hlength
        exact absurd hlength (by decide)
      rw [if_neg (by simpa using hzero), if_neg hne, if_pos hlength]
    | halts hzero hne hlength hleads hhalts =>
      rw [if_neg (by simpa using hzero), if_neg hne, if_neg (Nat.not_le.mpr hlength)]
      exact Stage.outcome_eq_error_iff.mpr ⟨_, hleads, hhalts⟩

/-- There is a node where a path leads, and it is not a link. -/
lemma Arrives.exists_kind {links : ℕ} {place : List Name} (h : t.Arrives links p place) :
    ∃ node kind, t.root.at? place = some node ∧ node.kind? = some kind := by
  obtain ⟨left, hleads⟩ := h.leads
  refine hleads.exists_kind ?_
  simp only [start, Path.steps, ne_eq, List.map_eq_nil_iff]
  exact Path.splitAt_ne_nil _ _

/-- A path leads to no node for the reason for which it stops. -/
lemma node_eq_error_iff : t.node p = .error e ↔ t.Stops p e := by
  unfold node
  rw [bind_eq_error_iff, locate_eq_error_iff, or_iff_left]
  rintro ⟨place, hlocate, h⟩
  obtain ⟨node, kind, hat, -⟩ := (locate_eq_ok_iff.mp hlocate).2.exists_kind
  rw [hat] at h
  cases h

/-- A path leads to the node that it holds. -/
lemma node_eq_ok_iff {node : Node} : t.node p = .ok node ↔ t.Holds p node := by
  unfold Tree.node Holds
  simp only [bind_eq_ok_iff, locate_eq_ok_iff]
  constructor
  · rintro ⟨place, ⟨hlength, harrives⟩, h⟩
    obtain ⟨node', kind, hat, -⟩ := harrives.exists_kind
    rw [hat] at h
    cases h
    exact ⟨hlength, place, harrives, hat⟩
  · rintro ⟨hlength, place, harrives, hat⟩
    exact ⟨place, ⟨hlength, harrives⟩, by rw [hat]⟩

/-- What a path holds is not a link. -/
lemma Holds.exists_kind {node : Node} (h : t.Holds p node) : ∃ kind, node.kind? = some kind := by
  obtain ⟨-, place, harrives, hat⟩ := h
  obtain ⟨node', kind, hat', hkind⟩ := harrives.exists_kind
  cases hat.symm.trans hat'
  exact ⟨kind, hkind⟩

/-- A path leads to the kind of the node that it holds. -/
lemma kind_eq_ok_iff {kind : FileKind} :
    t.kind p = .ok kind ↔ ∃ node, t.Holds p node ∧ node.kind? = some kind := by
  unfold Tree.kind
  simp only [bind_eq_ok_iff, node_eq_ok_iff]
  refine exists_congr fun node => and_congr_right fun hholds => ?_
  obtain ⟨kind', hkind⟩ := hholds.exists_kind
  rw [hkind, Except.ok.injEq, Option.some.injEq]

/-- A path has no kind for the reason for which it stops. -/
lemma kind_eq_error_iff : t.kind p = .error e ↔ t.Stops p e := by
  unfold Tree.kind
  rw [bind_eq_error_iff, node_eq_error_iff, or_iff_left]
  rintro ⟨node, hnode, h⟩
  obtain ⟨kind, hkind⟩ := (node_eq_ok_iff.mp hnode).exists_kind
  rw [hkind] at h
  cases h

/-- The entries of a directory are those of the node that its path holds. -/
lemma entries_eq_ok_iff {names : List Name} :
    t.entries p = .ok names ↔
      ∃ entries, t.Holds p (.directory entries) ∧ (entries.map Prod.fst).eraseDups = names := by
  unfold Tree.entries
  simp only [bind_eq_ok_iff, node_eq_ok_iff]
  constructor
  · rintro ⟨node, hholds, h⟩
    cases node with
    | directory entries => exact ⟨entries, hholds, Except.ok.inj h⟩
    | regular content => cases h
    | special content => cases h
    | link target => cases h
  · rintro ⟨entries, hholds, rfl⟩
    exact ⟨_, hholds, rfl⟩

/-- The canonical path is that of the place to which a path leads. -/
lemma canonical_eq_ok_iff {q : Path} :
    t.canonical p = .ok q ↔ ∃ place, p.bytes.length < pathLimit ∧ t.Arrives linkLimit p place ∧
      Path.ofNames place = q := by
  unfold Tree.canonical
  simp only [bind_eq_ok_iff, locate_eq_ok_iff, node_eq_ok_iff, pure, Except.pure, Except.ok.injEq,
    and_assoc]
  refine exists_congr fun place => and_congr_right fun hlength => and_congr_right fun harrives => ?_
  obtain ⟨node, -, hat, -⟩ := harrives.exists_kind
  exact ⟨fun ⟨_, _, hq⟩ => hq, fun hq => ⟨node, ⟨hlength, place, harrives, hat⟩, hq⟩⟩

/-- There is nothing at a path that stops at a name that is missing or at something that is not a
directory. -/
lemma Stops.not_exists (h : t.Stops p e) (he : e = .missing ∨ e = .notDirectory) :
    ¬ t.Exists p := by
  rintro ⟨links, place, -, hne, left, hleads⟩
  cases h with
  | zeroByte hzero => rcases he with he | he <;> cases he
  | empty hempty => exact hne hempty
  | tooLong hzero hlength => rcases he with he | he <;> cases he
  | halts hzero hne hlength hends hhalts =>
    have hlinks : e ≠ .tooManyLinks := by rcases he with rfl | rfl <;> simp
    -- With the links of both walks together, one walk would have two ends.
    have hfails :=
      (hends.moreLinks links).outcome_eq.trans (hhalts.moreLinks hlinks links).outcome_eq
    have hplace := (hleads.moreLinks linkLimit).outcome_eq.trans (Stage.outcome_done _ _ _)
    simp only [start, Nat.add_comm links] at hfails hplace
    cases hfails.symm.trans hplace

/-- A path at which there is nothing stops somewhere. -/
lemma exists_stops_of_not_exists (h : ¬ t.Exists p) : ∃ e, t.Stops p e := by
  cases hlocate : t.locate p with
  | error e => exact ⟨e, locate_eq_error_iff.mp hlocate⟩
  | ok place =>
    obtain ⟨-, harrives⟩ := locate_eq_ok_iff.mp hlocate
    exact absurd ⟨linkLimit, place, harrives⟩ h

/-- The reasons for which a path stops. -/
lemma Stops.reason (h : t.Stops p e) :
    e = .missing ∨ e = .notDirectory ∨ e = .tooManyLinks ∨ e = .nameTooLong ∨ e = .zeroByte := by
  cases h with
  | zeroByte hzero => simp
  | empty hempty => simp
  | tooLong hzero hlength => simp
  | halts hzero hne hlength hleads hhalts => cases hhalts <;> simp

end Tree

end ConfigCheck
