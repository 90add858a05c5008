import ConfigCheck.Json.Value
import Mathlib.Data.List.Induction
import Mathlib.Data.String.Basic
import Mathlib.Tactic.Lemma

/-!
# Collecting members

Whatever entries are collected, the members come out in strictly ascending order of their names
(`Json.Members.inOrder_ofList`).  Where no name comes twice none of the entries is lost
(`Json.Members.ofList_perm`), so members in order are collected from their entries in any order
(`Json.Members.ofList_of_perm`).
-/

namespace ConfigCheck.Json.Members

/-- The names come in strictly ascending order. -/
def InOrder (members : Members) : Prop := members.Pairwise fun a b => a.1 < b.1

instance (members : Members) : Decidable members.InOrder :=
  inferInstanceAs (Decidable (members.Pairwise _))

/-- A member is put in among the others, if its name is new. -/
lemma insert_perm {members : Members} {name : String} (value : Json)
    (h : name ∉ members.map Prod.fst) :
    (members.insert name value).Perm ((name, value) :: members) := by
  induction members with
  | nil => exact .refl _
  | cons m rest ih =>
    obtain ⟨n, v⟩ := m
    obtain ⟨hne, hrest⟩ := List.ne_and_not_mem_of_not_mem_cons h
    unfold insert
    split_ifs
    · exact .refl _
    · exact ((ih hrest).cons (n, v)).trans (.swap _ _ _)

/-- No members are there but the new one and those that have been there. -/
lemma mem_insert {members : Members} {name : String} {value : Json} {m : String × Json}
    (h : m ∈ members.insert name value) : m = (name, value) ∨ m ∈ members := by
  induction members with
  | nil => exact .inl (List.mem_singleton.mp h)
  | cons other rest ih =>
    obtain ⟨n, v⟩ := other
    unfold insert at h
    split_ifs at h with hlt heq
    · exact List.mem_cons.mp h
    · exact (List.mem_cons.mp h).imp_right (List.mem_cons_of_mem _)
    · rcases List.mem_cons.mp h with rfl | h
      · exact .inr List.mem_cons_self
      · exact (ih h).imp_right (List.mem_cons_of_mem _)

/-- Putting in a member keeps the order. -/
lemma InOrder.insert {members : Members} (h : members.InOrder) (name : String) (value : Json) :
    (members.insert name value).InOrder := by
  induction members with
  | nil => exact List.pairwise_singleton _ _
  | cons m rest ih =>
    obtain ⟨n, v⟩ := m
    obtain ⟨hfirst, hrest⟩ := List.pairwise_cons.mp h
    unfold Members.insert
    split_ifs with hlt heq
    · refine List.pairwise_cons.mpr ⟨fun other hother => ?_, h⟩
      rcases List.mem_cons.mp hother with rfl | hother
      · exact hlt
      · exact lt_trans hlt (hfirst other hother)
    · subst heq
      exact List.pairwise_cons.mpr ⟨hfirst, hrest⟩
    · refine List.pairwise_cons.mpr ⟨fun other hother => ?_, ih hrest⟩
      rcases mem_insert hother with rfl | hother
      · exact lt_of_le_of_ne (not_lt.mp hlt) (Ne.symm heq)
      · exact hfirst other hother

/-- Collected members are in order. -/
theorem inOrder_ofList (entries : List (String × Json)) : (ofList entries).InOrder := by
  unfold ofList
  induction entries using List.reverseRecOn with
  | nil => exact .nil
  | append_singleton entries entry ih =>
    rw [List.foldl_append]
    exact ih.insert entry.1 entry.2

/-- All members come from the entries. -/
theorem ofList_subset (entries : List (String × Json)) : ofList entries ⊆ entries := by
  unfold ofList
  induction entries using List.reverseRecOn with
  | nil => exact List.Subset.refl _
  | append_singleton entries entry ih =>
    rw [List.foldl_append]
    intro member hmember
    rcases mem_insert hmember with heq | hold
    · exact List.mem_append_right _ (List.mem_singleton.mpr heq)
    · exact List.mem_append_left _ (ih hold)

/-- No entry is lost where no name comes twice. -/
theorem ofList_perm {entries : List (String × Json)} (hnames : (entries.map Prod.fst).Nodup) :
    (ofList entries).Perm entries := by
  unfold ofList
  induction entries using List.reverseRecOn with
  | nil => exact .nil
  | append_singleton entries entry ih =>
    rw [List.map_append, List.nodup_append] at hnames
    obtain ⟨hentries, -, hnew⟩ := hnames
    have hperm := ih hentries
    have hname : entry.1 ∉ (ofList entries).map Prod.fst := fun hmem =>
      hnew _ ((hperm.map Prod.fst).mem_iff.mp hmem) _ (List.mem_singleton.mpr rfl) rfl
    rw [List.foldl_append]
    exact ((insert_perm entry.2 hname).trans (hperm.cons entry)).trans
      (List.perm_append_singleton entry entries).symm

/-- Names in order do not come twice. -/
lemma InOrder.nodup {members : Members} (h : members.InOrder) :
    (members.map Prod.fst).Nodup :=
  List.pairwise_map.mpr (h.imp ne_of_lt)

/-- Members in order are what is collected from them in any order. -/
theorem ofList_of_perm {entries : List (String × Json)} {members : Members}
    (hperm : entries.Perm members) (horder : members.InOrder) : ofList entries = members := by
  have hnames : (entries.map Prod.fst).Nodup := (hperm.map Prod.fst).nodup_iff.mpr horder.nodup
  exact ((ofList_perm hnames).trans hperm).eq_of_pairwise
    (fun a b _ _ hab hba => absurd hab (lt_asymm hba)) (inOrder_ofList entries) horder

end ConfigCheck.Json.Members
