import ConfigCheck.Proofs.Yaml.Entries
import ConfigCheck.Proofs.Yaml.Outline
import Mathlib.Data.List.Perm.Basic

/-!
# What is loaded from an outline

A value is loaded from the outline of a text (`Yaml.Outline.LoadsAs`): each scalar becomes what it
means, each item an item, and each entry a member under the name of its key, once the entries that
a merge key brings stand behind those of the mapping itself.  What a tree is converted into when its
merge keys are applied is loaded from its outline (`Yaml.Outline.loadsAs_of_yields`).
-/

namespace ConfigCheck

namespace Yaml

/-- What is in a list has a partner in the list before it. -/
lemma exists_of_forall₂' {α β : Type} {R : α → β → Prop} {as : List α} {bs : List β} {b : β}
    (h : List.Forall₂ R as bs) (hb : b ∈ bs) : ∃ a ∈ as, R a b :=
  exists_of_forall₂ h.flip hb

/-- Items that all have partners have a list of partners. -/
lemma exists_forall₂_of_forall {α β : Type} {R : α → β → Prop} {p : α → Prop} {bs : List β}
    (h : ∀ b ∈ bs, ∃ a, R a b ∧ p a) : ∃ as, List.Forall₂ R as bs ∧ ∀ a ∈ as, p a := by
  induction bs with
  | nil => exact ⟨[], .nil, nofun⟩
  | cons b rest ih =>
    obtain ⟨⟨a, hab, ha⟩, hrest⟩ := List.forall_mem_cons.mp h
    obtain ⟨as, has, hp⟩ := ih hrest
    exact ⟨a :: as, .cons hab has, List.forall_mem_cons.mpr ⟨ha, hp⟩⟩

/-- A source adds some of its entries behind those that are there. -/
lemma exists_append_addEntries (entries source : List (Node × Node)) :
    ∃ added, addEntries entries source = entries ++ added ∧ added ⊆ source := by
  unfold addEntries
  induction source generalizing entries with
  | nil => exact ⟨[], (List.append_nil _).symm, List.Subset.refl _⟩
  | cons first rest ih =>
    obtain ⟨key, value⟩ := first
    rw [List.foldl_cons]
    dsimp only
    split
    · obtain ⟨added, heq, hsub⟩ := ih entries
      exact ⟨added, heq, List.subset_cons_of_subset _ hsub⟩
    · obtain ⟨added, heq, hsub⟩ := ih (entries ++ [(key, value)])
      refine ⟨(key, value) :: added, ?_, List.cons_subset_cons _ hsub⟩
      rw [heq, List.append_assoc]
      rfl

/-- Sources add some of their entries behind those that are there. -/
lemma exists_append_foldl_addEntries (entries : List (Node × Node))
    (list : List (List (Node × Node))) : ∃ added, list.foldl addEntries entries = entries ++ added ∧
      ∀ entry ∈ added, ∃ source ∈ list, entry ∈ source := by
  induction list generalizing entries with
  | nil => exact ⟨[], (List.append_nil _).symm, nofun⟩
  | cons source rest ih =>
    obtain ⟨first, hfirst, hsub⟩ := exists_append_addEntries entries source
    obtain ⟨added, heq, hadded⟩ := ih (entries ++ first)
    refine ⟨first ++ added, ?_, ?_⟩
    · rw [List.foldl_cons, hfirst, heq, List.append_assoc]
    · intro entry hentry
      rcases List.mem_append.mp hentry with hentry | hentry
      · exact ⟨source, List.mem_cons_self, hsub hentry⟩
      · obtain ⟨other, hother, hmem⟩ := hadded entry hentry
        exact ⟨other, List.mem_cons_of_mem _ hother, hmem⟩

namespace Outline

/-! ## Merging -/

/-- Whether a key asks for a merge. -/
def isMergeKey (key : Outline) : Bool := key.node.toOption.any (·.same mergeKey)

/-- The entries that a value brings under a merge key: those of the mappings that it is or lists. -/
def brought : Outline → List (Outline × Outline)
  | .mapping _ entries => entries
  | .sequence _ items => items.flatMap fun
    | .mapping _ entries => entries
    | _ => []
  | _ => []

/-- What a mapping has when its merge key is applied: its own entries in some order, and behind them
some that the merge key brings. -/
inductive Merges (entries : List (Outline × Outline)) : List (Outline × Outline) → Prop
  /-- The merge key itself is gone. -/
  | mk {own added : List (Outline × Outline)}
      (hown : own.Perm (entries.filter fun entry => !entry.1.isMergeKey))
      (hadded : ∀ entry ∈ added, ∃ merge ∈ entries, merge.1.isMergeKey = true ∧
        entry ∈ merge.2.brought) : Merges entries (own ++ added)

variable {key o : Outline} {list : List (Outline × Outline)} {entries : List (Node × Node)}

/-- A key asks for a merge if it means the merge key. -/
lemma isMergeKey_of_node {n : Node} (h : key.node = .ok n) : key.isMergeKey = n.same mergeKey := by
  rw [isMergeKey, h]
  rfl

/-- A node without a tag was given none. -/
lemma eq_of_withTag {tag : Option TagText} {n m : Node} (h : withTag tag n = m)
    (hm : m.isUntagged = true) : n = m := by
  unfold withTag at h
  split at h
  · rw [← h] at hm
    cases hm
  · exact h

/-- A node that is a mapping is what a mapping means. -/
lemma exists_mapping_of_node (h : o.node = .ok (.mapping entries)) :
    ∃ tag list, o = .mapping tag list ∧ List.Forall₂ MeansEntry list entries := by
  cases o with
  | scalar tag text style =>
    obtain ⟨v, -, heq⟩ := map_eq_ok_iff.mp h
    have hv := eq_of_withTag heq rfl
    cases v <;> cases hv
  | sequence tag list =>
    obtain ⟨items, -, heq⟩ := map_eq_ok_iff.mp h
    cases eq_of_withTag heq rfl
  | mapping tag list =>
    obtain ⟨entries', hlist, heq⟩ := map_eq_ok_iff.mp h
    cases eq_of_withTag heq rfl
    exact ⟨tag, list, rfl, nodePairs_eq_ok_iff.mp hlist⟩
  | nothing => cases h

/-- A node that is a sequence is what a sequence means. -/
lemma exists_sequence_of_node {items : List Node} (h : o.node = .ok (.sequence items)) :
    ∃ tag list, o = .sequence tag list ∧ List.Forall₂ (fun o n => o.node = .ok n) list items := by
  cases o with
  | scalar tag text style =>
    obtain ⟨v, -, heq⟩ := map_eq_ok_iff.mp h
    have hv := eq_of_withTag heq rfl
    cases v <;> cases hv
  | sequence tag list =>
    obtain ⟨items', hlist, heq⟩ := map_eq_ok_iff.mp h
    cases eq_of_withTag heq rfl
    exact ⟨tag, list, rfl, nodes_eq_ok_iff.mp hlist⟩
  | mapping tag list =>
    obtain ⟨entries, -, heq⟩ := map_eq_ok_iff.mp h
    cases eq_of_withTag heq rfl
  | nothing => cases h

/-- What a source has, the outline of the value brings. -/
lemma exists_mem_brought {value : Node} {source : List (Node × Node)} {entry : Node × Node}
    (h : o.node = .ok value) (hsource : source ∈ sourcesOf value) (hentry : entry ∈ source) :
    ∃ e ∈ o.brought, MeansEntry e entry := by
  cases value with
  | mapping entries =>
    obtain rfl := List.mem_singleton.mp hsource
    obtain ⟨tag, list, rfl, hlist⟩ := exists_mapping_of_node h
    exact exists_of_forall₂' hlist hentry
  | sequence members =>
    obtain ⟨tag, list, rfl, hlist⟩ := exists_sequence_of_node h
    obtain ⟨member, hmember, heq⟩ := List.mem_filterMap.mp hsource
    cases member with
    | mapping entries =>
      cases heq
      obtain ⟨item, hitem, hnode⟩ := exists_of_forall₂' hlist hmember
      obtain ⟨tag', entries', rfl, hentries⟩ := exists_mapping_of_node hnode
      obtain ⟨e, he, hmeans⟩ := exists_of_forall₂' hentries hentry
      exact ⟨e, List.mem_flatMap.mpr ⟨_, hitem, he⟩, hmeans⟩
    | _ => cases heq
  | _ => cases hsource

/-- What a merge makes is what the entries mean that the mapping has when its merge key is
applied. -/
lemma exists_merges_of_mergeEntries {result : List (Node × Node)}
    (h : List.Forall₂ MeansEntry list entries)
    (hdistinct : entries.Pairwise fun a b => a.1.same b.1 = false)
    (hmerge : mergeEntries entries = .ok result) :
    ∃ order, Merges list order ∧ List.Forall₂ MeansEntry order result := by
  obtain ⟨others, hperm, rfl⟩ := mergeEntries_eq_ok hdistinct hmerge
  obtain ⟨added, heq, hadded⟩ := exists_append_foldl_addEntries others (sources entries)
  -- The entries of the mapping itself are in the order that the merge gives them.
  have hkey : ∀ {e : Outline × Outline} {entry : Node × Node}, MeansEntry e entry →
      ((!e.1.isMergeKey) = true ↔ (!entry.1.same mergeKey) = true) := fun hmeans => by
    rw [isMergeKey_of_node hmeans.key]
  have hown : List.Forall₂ MeansEntry (list.filter fun e => !e.1.isMergeKey)
      (ownEntries entries) := List.rel_filter (fun _ _ hmeans => hkey hmeans) h
  have hcomp : (Relation.Comp (List.Forall₂ MeansEntry) List.Perm)
      (list.filter fun e => !e.1.isMergeKey) others := ⟨_, hown, hperm.symm⟩
  rw [List.forall₂_comp_perm_eq_perm_comp_forall₂] at hcomp
  obtain ⟨own, hownPerm, hothers⟩ := hcomp
  -- Each entry that is added stands in an outline that the merge key brings.
  have hbrought : ∀ entry ∈ added, ∃ e, MeansEntry e entry ∧
      ∃ merge ∈ list, merge.1.isMergeKey = true ∧ e ∈ merge.2.brought := by
    intro entry hentry
    obtain ⟨source, hsource, hmem⟩ := hadded entry hentry
    obtain ⟨merge, hmerge, hsource⟩ := List.mem_flatMap.mp hsource
    obtain ⟨hmerge, hsame⟩ := List.mem_filter.mp hmerge
    obtain ⟨m, hm, hmeans⟩ := exists_of_forall₂' h hmerge
    obtain ⟨e, he, hentry⟩ := exists_mem_brought hmeans.value hsource hmem
    exact ⟨e, hentry, m, hm, by rw [isMergeKey_of_node hmeans.key]; exact hsame, he⟩
  obtain ⟨outlines, houtlines, hall⟩ := exists_forall₂_of_forall hbrought
  rw [heq]
  exact ⟨own ++ outlines, .mk hownPerm.symm hall, List.rel_append hothers houtlines⟩

/-! ## Loading -/

/-- A key becomes a name. -/
def Names (key : Outline) (name : String) : Prop := ∃ n, key.node = .ok n ∧ n.keyText = .ok name

/-- An entry becomes a member: its key names it, and its value is loaded. -/
inductive MemberFor (loads : Outline → Json → Prop) : Outline × Outline → String × Json → Prop
  /-- Key and value are independent. -/
  | mk {key o : Outline} {name : String} {value : Json} (hname : Names key name)
      (h : loads o value) : MemberFor loads (key, o) (name, value)

/-- A value is loaded from an outline. -/
inductive LoadsAs : Outline → Json → Prop
  /-- A scalar becomes what it means. -/
  | scalar {tag : Option TagText} {text : String} {style : ScalarStyle} {v : ScalarValue}
      {value : Json} (hmeaning : meaning tag text style = .ok v)
      (hvalue : v.toNode.toJson = .ok value) : LoadsAs (.scalar tag text style) value
  /-- Items become items. -/
  | sequence {tag : Option TagText} {list : List Outline} {values : List Json}
      (h : List.Forall₂ LoadsAs list values) : LoadsAs (.sequence tag list) (.array values)
  /-- Entries become members; of two members with one name the later one counts. -/
  | mapping {tag : Option TagText} {list order : List (Outline × Outline)} {members : Json.Members}
      (hmerges : Merges list order) (h : List.Forall₂ (MemberFor LoadsAs) order members) :
      LoadsAs (.mapping tag list) (.object (Json.Members.ofList members))
  /-- Nothing becomes null. -/
  | nothing : LoadsAs .nothing .null

/-- A node is merged and converted. -/
def Yields (n : Node) (value : Json) : Prop :=
  ∃ depth m, n.depth ≤ depth ∧ mergeNode depth n = .ok m ∧ m.toJson = .ok value

/-- A local tag makes no difference. -/
lemma yields_of_withTag {tag : Option TagText} {n : Node} {value : Json}
    (h : Yields (withTag tag n) value) : Yields n value := by
  unfold withTag at h
  split at h
  · obtain ⟨depth, m, hdepth, hmerge, hvalue⟩ := h
    cases depth with
    | zero => cases hdepth
    | succ depth =>
      obtain ⟨m', hinner, heq⟩ := bind_eq_ok_iff.mp hmerge
      cases heq
      exact ⟨depth, m', Nat.le_of_succ_le_succ hdepth, hinner, hvalue⟩
  · exact h

/-- Nor does it for what holds of all nodes. -/
lemma everywhere_of_withTag {test : Node → Bool} {tag : Option TagText} {n : Node}
    (h : (withTag tag n).everywhere test = true) : n.everywhere test = true := by
  unfold withTag at h
  split at h
  · exact (Node.everywhere_tagged.mp h).2
  · exact h

/-- A tag makes a node no less deep. -/
lemma depth_le_withTag (tag : Option TagText) (n : Node) : n.depth ≤ (withTag tag n).depth := by
  unfold withTag
  split
  · rw [Node.depth]
    exact Nat.le_succ _
  · exact Nat.le_refl _

/-- Scalars have nothing to merge. -/
lemma toJson_of_yields {v : ScalarValue} {value : Json} (h : Yields v.toNode value) :
    v.toNode.toJson = .ok value := by
  obtain ⟨depth, m, -, hmerge, hvalue⟩ := h
  have heq : mergeNode depth v.toNode = .ok v.toNode := by
    cases depth <;> cases v <;> rfl
  rw [heq] at hmerge
  cases hmerge
  exact hvalue

/-- The items of a sequence are merged and converted one by one. -/
lemma exists_values_of_yields {items : List Node} {value : Json}
    (h : Yields (.sequence items) value) :
    ∃ values, value = .array values ∧ List.Forall₂ Yields items values := by
  obtain ⟨depth, m, hdepth, hmerge, hvalue⟩ := h
  cases depth with
  | zero => cases hdepth
  | succ depth =>
    obtain ⟨merged, hmerged, heq⟩ := bind_eq_ok_iff.mp hmerge
    cases heq
    obtain ⟨values, rfl, hvalues⟩ := Node.toJson_sequence_eq_ok_iff.mp hvalue
    refine ⟨values, rfl, ?_⟩
    refine forall₂_trans_of_mem (mergeItems_eq_ok hmerged) hvalues ?_
    intro item hitem item' value hitem' hvalue
    have hlt := Node.depth_lt_of_mem_sequence hitem
    exact ⟨depth, item', by omega, hitem', hvalue⟩

/-- The entries that a merge makes are converted one by one, their values merged. -/
lemma exists_members_of_yields {value : Json}
    (hdistinct : entries.Pairwise fun a b => a.1.same b.1 = false)
    (h : Yields (.mapping entries) value) :
    ∃ result members, mergeEntries entries = .ok result ∧
      value = .object (Json.Members.ofList members) ∧
      List.Forall₂ (fun entry member => entry.1.keyText = .ok member.1 ∧
        Yields entry.2 member.2) result members := by
  obtain ⟨depth, m, hdepth, hmerge, hvalue⟩ := h
  cases depth with
  | zero => cases hdepth
  | succ depth =>
    obtain ⟨result, hresult, hmerge⟩ := bind_eq_ok_iff.mp hmerge
    obtain ⟨merged, hmerged, heq⟩ := bind_eq_ok_iff.mp hmerge
    cases heq
    obtain ⟨members, rfl, hmembers⟩ := Node.toJson_mapping_eq_ok_iff.mp hvalue
    refine ⟨result, members, hresult, rfl, ?_⟩
    refine forall₂_trans_of_mem (mergeValues_eq_ok hmerged) hmembers ?_
    rintro _ hentry _ member ⟨hvalue'⟩ hconverts
    have hlt := Node.depth_lt_of_mergeEntries hdistinct hresult _ hentry
    exact ⟨hconverts.name, depth, _, by omega, hvalue', hconverts.value⟩

/-- What a regular tree is converted into when its merge keys are applied is loaded from its
outline. -/
theorem loadsAs_of_yields {n : Node} {value : Json} (ho : o.node = .ok n)
    (hregular : n.everywhere Node.isRegular = true) (h : Yields n value) : o.LoadsAs value := by
  induction hdepth : n.depth using Nat.strong_induction_on generalizing o n value with
  | _ depth ih =>
    cases o with
    | scalar tag text style =>
      obtain ⟨v, hv, rfl⟩ := map_eq_ok_iff.mp ho
      exact .scalar hv (toJson_of_yields (yields_of_withTag h))
    | sequence tag list =>
      obtain ⟨items, hlist, rfl⟩ := map_eq_ok_iff.mp ho
      obtain ⟨values, rfl, hvalues⟩ := exists_values_of_yields (yields_of_withTag h)
      have hitems := (Node.everywhere_sequence.mp (everywhere_of_withTag hregular)).2
      have hloads : List.Forall₂ (fun item value => ∀ o : Outline, o.node = .ok item →
          o.LoadsAs value) items values := by
        refine forall₂_imp_of_mem hvalues fun item hitem value hvalue o ho => ?_
        have hlt := Node.depth_lt_of_mem_sequence hitem
        have hle := depth_le_withTag tag (.sequence items)
        exact ih _ (by omega) ho (hitems item hitem) hvalue rfl
      exact .sequence (forall₂_trans_of_mem (nodes_eq_ok_iff.mp hlist) hloads
        fun o _ item value ho hvalue => hvalue o ho)
    | mapping tag list =>
      obtain ⟨entries, hlist, rfl⟩ := map_eq_ok_iff.mp ho
      have hentries := Node.everywhere_mapping.mp (everywhere_of_withTag hregular)
      have hdistinct := Node.isRegular_mapping.mp hentries.1
      obtain ⟨result, members, hresult, rfl, hmembers⟩ :=
        exists_members_of_yields hdistinct (yields_of_withTag h)
      obtain ⟨order, hmerges, horder⟩ :=
        exists_merges_of_mergeEntries (nodePairs_eq_ok_iff.mp hlist) hdistinct hresult
      have hvalues := Node.everywhere_of_mergeEntries hdistinct hentries.2 hresult
      have hloads : List.Forall₂ (fun entry member => entry.1.keyText = .ok member.1 ∧
          ∀ o : Outline, o.node = .ok entry.2 → o.LoadsAs member.2) result members := by
        refine forall₂_imp_of_mem hmembers fun entry hentry member hmember => ⟨hmember.1, ?_⟩
        intro o ho
        have hlt := Node.depth_lt_of_mergeEntries hdistinct hresult entry hentry
        have hle := depth_le_withTag tag (.mapping entries)
        exact ih _ (by omega) ho (hvalues entry hentry) hmember.2 rfl
      refine .mapping hmerges (forall₂_trans_of_mem horder hloads ?_)
      rintro ⟨key, o⟩ - ⟨k, v⟩ ⟨name, value⟩ hmeans ⟨hname, hvalue⟩
      exact .mk ⟨k, hmeans.key, hname⟩ (hvalue o hmeans.value)
    | nothing =>
      cases ho
      have hnull : Node.null.toJson = .ok value := toJson_of_yields (v := .null) h
      cases hnull
      exact .nothing

end Outline

end Yaml

end ConfigCheck
