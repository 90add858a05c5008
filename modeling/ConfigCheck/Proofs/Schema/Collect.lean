import ConfigCheck.Proofs.Schema.Reading
import ConfigCheck.Schema.Resource
import Mathlib.Data.List.Basic
import Mathlib.Data.Nat.Notation

/-!
# Collecting from schemas without names

A document in which no schema has a name of its own, and from which no reference leads outside, adds
nothing to what is collected.  Since collecting goes down level by level, this is a property of all
schemas of a level that the schemas of the next level share (`Collection.visitAll_eq_ok`).
-/

namespace ConfigCheck.Schema

/-- A schema names neither itself, nor a place, nor a draft. -/
structure IsNameless (d : Draft) (contents : Json) : Prop where
  /-- It names no draft. -/
  draft : textOf? contents.members "$schema" = none
  /-- It has no identifier. -/
  identifier : d.identifierOf? contents.members = none
  /-- It has no other name. -/
  anchors : d.anchors contents = []

/-- No reference of a schema leads outside: it has none, or it stands in a meta-schema. -/
def StaysInside (base : Uri) (contents : Json) : Prop :=
  textOf? contents.members "$ref" = none ∨ ∀ text, isWellKnown base text = true

/-- Neither a reference nor the name of a draft leads outside. -/
lemma collectReferences_eq_ok {base : Uri} {root contents : Json} (href : StaysInside base contents)
    (hschema : ∀ text, textOf? contents.members "$schema" = some text →
      isWellKnown base text = true) (n : ℕ) (c : Collection) :
    collectReferences base root n contents c = .ok c := by
  cases n with
  | zero => rw [collectReferences]
  | succ n =>
    rw [collectReferences]
    dsimp only
    split
    · rfl
    · split
      · rename_i text htext
        rcases href with hnone | hknown
        · exact absurd (htext.symm.trans hnone) (Option.some_ne_none text)
        · rw [if_pos (hknown text)]
      · split
        · rename_i text htext
          rw [if_pos (hschema text htext)]
        · rfl

lemma addReferences_eq_ok {base : Uri} {contents : Json} (href : StaysInside base contents)
    (hschema : ∀ text, textOf? contents.members "$schema" = some text →
      isWellKnown base text = true) (c : Collection) :
    c.addReferences base contents = .ok c := by
  unfold Collection.addReferences
  exact collectReferences_eq_ok href hschema _ c

/-- A local reference to a schema that refers to nothing is looked at, and that is all. -/
lemma addReferences_eq_ok_of_local {base : Uri} {contents : Json} {text : String}
    (hreference : textOf? contents.members "$ref" = some text)
    (hschema : textOf? contents.members "$schema" = none)
    (hmark : text.toList.head? = some '#')
    (htarget : ∀ t, localTarget? contents text = some t →
      textOf? t.members "$ref" = none ∧ textOf? t.members "$schema" = none) (c : Collection) :
    ∃ seen, c.addReferences base contents = .ok { c with seen } := by
  unfold Collection.addReferences
  rw [collectReferences]
  dsimp only
  rw [hreference, hschema]
  dsimp only
  split
  · exact ⟨c.seen, rfl⟩
  split
  · exact ⟨c.seen, rfl⟩
  split
  · exact ⟨c.seen, rfl⟩
  refine ⟨(base.toString, text) :: c.seen, ?_⟩
  cases hlocal : localTarget? contents text with
  | none => rfl
  | some t =>
    obtain ⟨hnone, hlatest⟩ := htarget t hlocal
    have hdraft : ∀ name, textOf? t.members "$schema" = some name →
        isWellKnown base name = true :=
      fun name hname => absurd (hname.symm.trans hlatest) (Option.some_ne_none name)
    dsimp only
    rw [collectReferences_eq_ok (.inl hnone) hdraft]
    rfl

/-- Nothing is found in a schema without a name, except that it is a schema. -/
structure IsSilent (base : Uri) (d : Draft) (contents : Json) : Prop
    extends IsNameless d contents where
  /-- No reference leads outside. -/
  inside : StaysInside base contents

namespace IsSilent

variable {base : Uri} {d : Draft} {contents : Json} (h : IsSilent base d contents)

include h

lemma collectBase_eq_ok : collectBase base d contents.members = .ok base := by
  unfold collectBase
  rw [baseWithin_eq_ok h.identifier]

lemma addReferences_eq_ok (c : Collection) : c.addReferences base contents = .ok c := by
  refine Schema.addReferences_eq_ok h.inside (fun text htext => ?_) c
  exact absurd (htext.symm.trans h.draft) (Option.some_ne_none text)

end IsSilent

/-- A walk that leaves what is collected as it is, and that gathers the schemas that wait. -/
lemma foldlM_eq_ok {α : Type} {c : Collection} {list : List α} {g : α → List Pending}
    {f : Collection × List Pending → α → Except CollectFault (Collection × List Pending)}
    (h : ∀ a ∈ list, ∀ pending, f (c, pending) a = .ok (c, pending ++ g a))
    (pending : List Pending) :
    list.foldlM f (c, pending) = .ok (c, pending ++ list.flatMap g) := by
  induction list generalizing pending with
  | nil =>
    rw [List.flatMap_nil, List.append_nil]
    rfl
  | cons a rest ih =>
    rw [List.forall_mem_cons] at h
    rw [List.foldlM_cons, h.1, List.flatMap_cons, ← List.append_assoc]
    exact ih h.2 _

/-- Schemas that wait to be looked at. -/
def pendingAt (base : Uri) (d : Draft) (list : List Json) : List Pending :=
  list.flatMap fun t => [⟨base, ⟨t, d⟩⟩]

/-- What is collected at a schema itself: its identifier and the names of places in it. -/
def Collection.enter (c : Collection) (base : Uri) (resource : Resource) : Collection :=
  let named := (resource.draft.identifierOf? resource.contents.members).isSome
  let registry := if named then c.registry.insert base resource else c.registry
  { c with registry := (resource.draft.anchors resource.contents).foldl (fun r (name, dynamic) =>
      r.insertAnchor base name ⟨dynamic, resource⟩) registry }

/-- Looking at a schema whose base is known, with silent schemas inside it: its references are all
that is looked at besides its names. -/
theorem Collection.visit_eq_ok_of_addReferences {c c' : Collection} {outer base : Uri} {d : Draft}
    {contents : Json} (hbase : baseWithin outer d contents.members = .ok base)
    (hreferences : (c.enter base ⟨contents, d⟩).addReferences base contents = .ok c')
    (hsubs : ∀ t ∈ d.subschemas contents, IsSilent base d t) :
    c.visit ⟨outer, ⟨contents, d⟩⟩ = .ok (c', pendingAt base d (d.subschemas contents)) := by
  have hcollect : collectBase outer d contents.members = .ok base := by
    unfold collectBase
    rw [hbase]
  unfold enter at hreferences
  unfold visit
  dsimp only at hreferences ⊢
  rw [hcollect]
  simp only [bind, Except.bind]
  rw [hreferences]
  refine foldlM_eq_ok (c := c') (fun t ht pending => ?_) []
  have hsilent := hsubs t ht
  dsimp only
  rw [Draft.detect_eq_ok hsilent.draft]
  dsimp only
  rw [hsilent.collectBase_eq_ok]
  dsimp only
  rw [hsilent.addReferences_eq_ok]
  rfl

/-- Looking at a schema whose base is known, with silent schemas inside it and no reference that
leads outside. -/
theorem Collection.visit_eq_ok {c : Collection} {outer base : Uri} {d : Draft} {contents : Json}
    (hbase : baseWithin outer d contents.members = .ok base) (href : StaysInside base contents)
    (hschema : ∀ text, textOf? contents.members "$schema" = some text →
      isWellKnown base text = true)
    (hsubs : ∀ t ∈ d.subschemas contents, IsSilent base d t) :
    c.visit ⟨outer, ⟨contents, d⟩⟩ =
      .ok (c.enter base ⟨contents, d⟩, pendingAt base d (d.subschemas contents)) :=
  visit_eq_ok_of_addReferences hbase (Schema.addReferences_eq_ok href hschema _) hsubs

/-- A schema without a name adds nothing. -/
lemma Collection.enter_eq_self {c : Collection} {base : Uri} {d : Draft} {contents : Json}
    (h : IsNameless d contents) : c.enter base ⟨contents, d⟩ = c := by
  unfold enter
  rw [h.identifier, h.anchors]
  rfl

section

variable {base : Uri} {d : Draft} {P : Json → Prop}
  (hP : ∀ contents, P contents → IsSilent base d contents ∧ ∀ t ∈ d.subschemas contents, P t)

include hP

/-- Looking at a silent schema with silent schemas inside it finds just these. -/
lemma Collection.visit_eq_ok_self {contents : Json} (hcontents : P contents) (c : Collection) :
    c.visit ⟨base, ⟨contents, d⟩⟩ = .ok (c, pendingAt base d (d.subschemas contents)) := by
  obtain ⟨hsilent, hinside⟩ := hP contents hcontents
  have hvisit := visit_eq_ok (c := c) (baseWithin_eq_ok hsilent.identifier) hsilent.inside
    (fun text htext => absurd (htext.symm.trans hsilent.draft) (Option.some_ne_none text))
    fun t ht => (hP t (hinside t ht)).1
  rw [hvisit, enter_eq_self hsilent.toIsNameless]

/-- Where all schemas of a level are silent, and those inside them are of the same kind, nothing is
collected at this level or below. -/
theorem Collection.visitAll_eq_ok (n : ℕ) {list : List Json} (hlist : ∀ t ∈ list, P t)
    (c : Collection) :
    visitAll n (pendingAt base d list) c = .ok c := by
  induction n generalizing list with
  | zero => rw [visitAll]
  | succ n ih =>
    rw [visitAll]
    split
    · rfl
    · have hinside : ∀ t ∈ list.flatMap d.subschemas, P t := by
        intro t ht
        obtain ⟨s, hs, ht⟩ := List.mem_flatMap.mp ht
        exact (hP s (hlist s hs)).2 t ht
      have hnext : (pendingAt base d list).flatMap (fun p =>
          pendingAt base d (d.subschemas p.resource.contents)) =
            pendingAt base d (list.flatMap d.subschemas) := by
        unfold pendingAt
        rw [List.flatMap_assoc, List.flatMap_assoc]
        exact List.flatMap_congr fun t _ => List.flatMap_singleton _ _
      rw [foldlM_eq_ok (c := c) (g := fun p =>
        pendingAt base d (d.subschemas p.resource.contents)) ?_ [], hnext]
      · exact ih hinside
      · intro p hp pending
        obtain ⟨t, ht, hp⟩ := List.mem_flatMap.mp hp
        cases List.mem_singleton.mp hp
        dsimp only
        rw [visit_eq_ok_self hP (hlist t ht)]
        rfl

/-- A silent document is all that is collected from it. -/
theorem Registry.collect_eq_ok {contents : Json} (hcontents : P contents) (r : Registry) :
    r.collect base ⟨contents, d⟩ = .ok { registry := r.insert base ⟨contents, d⟩ } := by
  have hlist : ∀ t ∈ [contents], P t := fun t ht => List.mem_singleton.mp ht ▸ hcontents
  unfold collect
  exact Collection.visitAll_eq_ok hP _ hlist _

/-- From a document with silent schemas inside it nothing is collected but what looking at it
gives. -/
theorem Registry.collect_eq_ok_of_visit {r : Registry} {contents : Json} {c : Collection}
    (hvisit : Collection.visit { registry := r.insert base ⟨contents, d⟩ } ⟨base, ⟨contents, d⟩⟩ =
      .ok (c, pendingAt base d (d.subschemas contents)))
    (hsubs : ∀ t ∈ d.subschemas contents, P t) : r.collect base ⟨contents, d⟩ = .ok c := by
  unfold collect
  rw [Collection.visitAll, List.isEmpty_cons, if_neg Bool.false_ne_true, List.foldlM_cons]
  dsimp only
  rw [hvisit]
  change Collection.visitAll _ ([] ++ pendingAt base d (d.subschemas contents)) _ = _
  rw [List.nil_append, Collection.visitAll_eq_ok hP _ hsubs]

/-- A document with a name, and with silent schemas inside it, is collected with its name. -/
theorem Registry.add_eq {contents : Json} (hbase : baseWithin base d contents.members = .ok base)
    (href : StaysInside base contents)
    (hschema : ∀ text, textOf? contents.members "$schema" = some text →
      isWellKnown base text = true)
    (hsubs : ∀ t ∈ d.subschemas contents, P t) (r : Registry) :
    r.add base ⟨contents, d⟩ =
      (Collection.enter { registry := r.insert base ⟨contents, d⟩ } base
        ⟨contents, d⟩).registry := by
  have hsilent : ∀ t ∈ d.subschemas contents, IsSilent base d t := fun t ht =>
    (hP t (hsubs t ht)).1
  have hvisit := Collection.visit_eq_ok (c := { registry := r.insert base ⟨contents, d⟩ }) hbase
    href hschema hsilent
  have hcollect := collect_eq_ok_of_visit hP hvisit hsubs
  unfold add
  rw [hcollect]

end

end ConfigCheck.Schema
