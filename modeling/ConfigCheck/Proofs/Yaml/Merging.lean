import ConfigCheck.Proofs.Yaml.Regular
import ConfigCheck.Yaml.Merge

/-!
# What one merge does

A mapping has entries of its own (`Yaml.ownEntries`) and sources, the mappings that stand under its
merge key (`Yaml.sources`).  A merge adds the entries of the sources to its own ones, one source
after the other (`Yaml.mergeEntries_eq_ok`).  What it makes consists of entries that the text has,
so the integers of a tree that is read still have 64 bits
(`Yaml.Node.everywhere_isWord_of_mergeNode`).
-/

namespace ConfigCheck.Yaml

variable {entries others result source : List (Node × Node)}

/-- The entries that are not for a merge. -/
def ownEntries (entries : List (Node × Node)) : List (Node × Node) :=
  entries.filter fun entry => !entry.1.same mergeKey

/-- The mappings that a node is or lists, as a source of entries. -/
def sourcesOf : Node → List (List (Node × Node))
  | .mapping source => [source]
  | .sequence members => members.filterMap fun
    | .mapping source => some source
    | _ => none
  | _ => []

/-- The sources under the merge key of a mapping. -/
def sources (entries : List (Node × Node)) : List (List (Node × Node)) :=
  (entries.filter fun entry => entry.1.same mergeKey).flatMap fun entry => sourcesOf entry.2

/-! ## Keys -/

/-- The merge key is one key. -/
lemma same_mergeKey {key : Node} : key.same mergeKey = true ↔ key = mergeKey := by
  unfold mergeKey
  cases key with
  | string s => simp
  | _ => simp [Node.same]

/-- The keys do not depend on the order of the entries. -/
lemma hasKey_of_perm (h : entries.Perm others) (key : Node) :
    hasKey entries key = hasKey others key := by
  unfold hasKey
  exact h.any_eq

/-- The keys of some entries and of others are the keys of all of them. -/
lemma hasKey_append (key : Node) :
    hasKey (entries ++ others) key = (hasKey entries key || hasKey others key) := by
  unfold hasKey
  exact List.any_append

/-! ## Taking out the merge key -/

/-- Without a merge key nothing is taken out. -/
lemma takeMergeKey_eq_none (h : takeMergeKey entries = none) :
    ∀ entry ∈ entries, entry.1.same mergeKey = false := by
  unfold takeMergeKey at h
  split at h
  · rename_i hnone
    intro entry hentry
    exact Bool.eq_false_iff.mpr (List.findIdx?_eq_none_iff.mp hnone entry hentry ▸ by simp)
  · rename_i i hsome
    obtain ⟨hlt, -, -⟩ := List.findIdx?_eq_some_iff_getElem.mp hsome
    have hne : entries ≠ [] := List.ne_nil_of_length_pos (Nat.zero_lt_of_lt hlt)
    rw [List.getElem?_eq_getElem hlt, List.getLast?_eq_some_getLast hne] at h
    cases h

/-- An entry that another one replaces is taken out. -/
lemma perm_cons_set {α : Type} {list : List α} {i : Nat} {a : α} (h : i < list.length) (last : α)
    (ha : list[i] = a) : (list ++ [last]).Perm (a :: list.set i last) := by
  have hsplit : list = list.take i ++ a :: list.drop (i + 1) := by
    rw [← ha, List.getElem_cons_drop, List.take_append_drop]
  have hset : list.set i last = list.take i ++ last :: list.drop (i + 1) := by
    rw [List.set_eq_take_append_cons_drop, if_pos h]
  rw [hset]
  nth_rewrite 1 [hsplit]
  rw [List.append_assoc, List.cons_append]
  refine List.perm_middle.trans (.cons a ?_)
  exact List.Perm.append_left _ (List.perm_append_singleton _ _)

/-- What is taken out stands under the merge key; the other entries stay, in another order. -/
lemma takeMergeKey_eq_some {value : Node} (h : takeMergeKey entries = some (value, others)) :
    entries.Perm ((mergeKey, value) :: others) := by
  unfold takeMergeKey at h
  split at h
  · cases h
  · rename_i i hsome
    obtain ⟨hlt, hkey, -⟩ := List.findIdx?_eq_some_iff_getElem.mp hsome
    have hne : entries ≠ [] := List.ne_nil_of_length_pos (Nat.zero_lt_of_lt hlt)
    rw [List.getElem?_eq_getElem hlt, List.getLast?_eq_some_getLast hne] at h
    obtain ⟨rfl, rfl⟩ := Prod.mk.inj (Option.some.inj h)
    have hentry : (mergeKey, (entries.get ⟨i, hlt⟩).2) = entries[i] :=
      Prod.ext (same_mergeKey.mp hkey).symm rfl
    have hdropLast := List.dropLast_append_getLast hne
    rw [hentry]
    split
    · rename_i hlast
      have hget : entries[i] = entries.getLast hne := by
        rw [List.getLast_eq_getElem]
        congr 1
        rw [hlast, List.length_dropLast]
      rw [hget]
      nth_rewrite 1 [← hdropLast]
      exact List.perm_append_singleton _ _
    · rename_i hnot
      have hbefore : i < entries.dropLast.length := by
        rw [List.length_dropLast] at hnot ⊢
        omega
      have hget : entries.dropLast[i] = entries[i] := List.getElem_dropLast hbefore
      nth_rewrite 1 [← hdropLast]
      exact perm_cons_set hbefore _ hget

/-! ## Adding entries -/

/-- What is added comes from the source. -/
lemma mem_addEntries {entry : Node × Node} (h : entry ∈ addEntries entries source) :
    entry ∈ entries ∨ entry ∈ source := by
  unfold addEntries at h
  induction source generalizing entries with
  | nil => exact .inl h
  | cons first rest ih =>
    rw [List.foldl_cons] at h
    rcases ih h with hentry | hrest
    · dsimp only at hentry
      split at hentry
      · exact .inl hentry
      · rcases List.mem_append.mp hentry with hentry | hfirst
        · exact .inl hentry
        · exact .inr (List.mem_singleton.mp hfirst ▸ List.mem_cons_self)
    · exact .inr (List.mem_cons_of_mem _ hrest)

/-- What several sources add comes from one of them. -/
lemma mem_foldl_addEntries {list : List (List (Node × Node))} {entry : Node × Node}
    (h : entry ∈ list.foldl addEntries entries) :
    entry ∈ entries ∨ ∃ source ∈ list, entry ∈ source := by
  induction list generalizing entries with
  | nil => exact .inl h
  | cons first rest ih =>
    rcases ih h with hentry | ⟨source, hsource, hentry⟩
    · rcases mem_addEntries hentry with hentry | hfirst
      · exact .inl hentry
      · exact .inr ⟨first, List.mem_cons_self, hfirst⟩
    · exact .inr ⟨source, List.mem_cons_of_mem _ hsource, hentry⟩

/-- Several members are the sources of a sequence, and all of them are mappings. -/
lemma addMembers_eq_ok {members : List Node} (h : addMembers entries members = .ok result) :
    result = (sourcesOf (.sequence members)).foldl addEntries entries := by
  induction members generalizing entries with
  | nil => exact (Except.ok.inj h).symm
  | cons first rest ih =>
    cases first with
    | mapping source => exact ih h
    | _ => cases h

/-- A merge key that is taken out does not stand there a second time. -/
lemma not_mergeKey_of_perm {value : Node}
    (hdistinct : entries.Pairwise fun a b => a.1.same b.1 = false)
    (h : entries.Perm ((mergeKey, value) :: others)) :
    ∀ entry ∈ others, entry.1.same mergeKey = false := by
  have hpairwise : entries.Pairwise fun a b => ¬ (a.1 = mergeKey ∧ b.1 = mergeKey) := by
    refine hdistinct.imp ?_
    rintro a b hab ⟨ha, hb⟩
    rw [ha, hb, same_mergeKey.mpr rfl] at hab
    cases hab
  have hsymm : ∀ {a b : Node × Node}, ¬ (a.1 = mergeKey ∧ b.1 = mergeKey) →
      ¬ (b.1 = mergeKey ∧ a.1 = mergeKey) := fun hab hba => hab hba.symm
  obtain ⟨hfirst, -⟩ := List.pairwise_cons.mp ((h.pairwise_iff hsymm).mp hpairwise)
  intro entry hentry
  exact Bool.eq_false_iff.mpr fun hsame => hfirst entry hentry ⟨rfl, same_mergeKey.mp hsame⟩

/-- Apart from the merge key there are the entries of the mapping itself. -/
lemma ownEntries_of_perm {value : Node} (h : entries.Perm ((mergeKey, value) :: others))
    (hothers : ∀ entry ∈ others, entry.1.same mergeKey = false) :
    others.Perm (ownEntries entries) ∧ sources entries = sourcesOf value := by
  have hown : others.filter (fun entry => !entry.1.same mergeKey) = others :=
    List.filter_eq_self.mpr fun entry hentry => by rw [hothers entry hentry]; rfl
  have hnone : others.filter (fun entry => entry.1.same mergeKey) = [] :=
    List.filter_eq_nil_iff.mpr fun entry hentry => by simp [hothers entry hentry]
  have hself : mergeKey.same mergeKey = true := same_mergeKey.mpr rfl
  constructor
  · have hfilter := h.filter fun entry => !entry.1.same mergeKey
    rw [List.filter_cons_of_neg (by simp [hself]), hown] at hfilter
    exact hfilter.symm
  · have hfilter := h.filter fun entry => entry.1.same mergeKey
    rw [List.filter_cons_of_pos (by simpa using hself), hnone, List.perm_singleton] at hfilter
    rw [sources, hfilter, List.flatMap_singleton]

/-- A merge adds the entries of the sources to the entries of the mapping itself. -/
theorem mergeEntries_eq_ok
    (hdistinct : entries.Pairwise fun a b => a.1.same b.1 = false)
    (h : mergeEntries entries = .ok result) :
    ∃ others, others.Perm (ownEntries entries) ∧
      result = (sources entries).foldl addEntries others := by
  unfold mergeEntries at h
  split at h
  · rename_i hnone
    cases h
    have hkeys := takeMergeKey_eq_none hnone
    refine ⟨entries, ?_, ?_⟩
    · rw [ownEntries, List.filter_eq_self.mpr fun entry hentry => by rw [hkeys entry hentry]; rfl]
    · have hfilter : (entries.filter fun entry => entry.1.same mergeKey) = [] :=
        List.filter_eq_nil_iff.mpr fun entry hentry => by simp [hkeys entry hentry]
      rw [sources, hfilter, List.flatMap_nil, List.foldl_nil]
  · rename_i value others hsome
    have hperm := takeMergeKey_eq_some hsome
    obtain ⟨hown, hsources⟩ := ownEntries_of_perm hperm (not_mergeKey_of_perm hdistinct hperm)
    cases h
    exact ⟨_, hown, by rw [hsources]; rfl⟩
  · rename_i members others hsome
    have hperm := takeMergeKey_eq_some hsome
    obtain ⟨hown, hsources⟩ := ownEntries_of_perm hperm (not_mergeKey_of_perm hdistinct hperm)
    exact ⟨_, hown, by rw [hsources]; exact addMembers_eq_ok h⟩
  · cases h
  · cases h

/-! ## What is left -/

/-- A source brings its merge key along. -/
lemma hasKey_addEntries_mergeKey :
    hasKey (addEntries entries source) mergeKey =
      (hasKey entries mergeKey || hasKey source mergeKey) := by
  unfold addEntries
  induction source generalizing entries with
  | nil => exact (Bool.or_false _).symm
  | cons first rest ih =>
    obtain ⟨key, value⟩ := first
    have hrest : hasKey ((key, value) :: rest) mergeKey =
        (key.same mergeKey || hasKey rest mergeKey) := by
      rw [hasKey, List.any_cons, hasKey]
    rw [List.foldl_cons, ih, hrest, ← Bool.or_assoc]
    dsimp only
    congr 1
    by_cases hknown : hasKey entries key = true
    · rw [if_pos hknown]
      by_cases hmerge : key.same mergeKey = true
      · rw [same_mergeKey.mp hmerge] at hknown
        rw [hknown, Bool.true_or]
      · rw [Bool.eq_false_iff.mpr hmerge, Bool.or_false]
    · rw [if_neg hknown, hasKey_append]
      congr 1
      rw [hasKey, List.any_cons, List.any_nil, Bool.or_false]

/-- A merge leaves a merge key exactly if a source has one of its own. -/
theorem hasKey_mergeKey_iff (hdistinct : entries.Pairwise fun a b => a.1.same b.1 = false)
    (h : mergeEntries entries = .ok result) :
    hasKey result mergeKey = true ↔ ∃ source ∈ sources entries, hasKey source mergeKey = true := by
  obtain ⟨others, hperm, rfl⟩ := mergeEntries_eq_ok hdistinct h
  have hown : hasKey others mergeKey = false := by
    rw [hasKey_of_perm hperm, hasKey, List.any_eq_false]
    intro entry hentry
    have hkey := (List.mem_filter.mp hentry).2
    rw [Bool.not_eq_true'] at hkey
    rw [hkey]
    exact Bool.false_ne_true
  have hfold : ∀ (list : List (List (Node × Node))) (start : List (Node × Node)),
      hasKey (list.foldl addEntries start) mergeKey =
        (hasKey start mergeKey || list.any (hasKey · mergeKey)) := by
    intro list
    induction list with
    | nil =>
      intro start
      exact (Bool.or_false _).symm
    | cons first rest ih =>
      intro start
      rw [List.foldl_cons, ih, hasKey_addEntries_mergeKey, List.any_cons, Bool.or_assoc]
  rw [hfold, hown, Bool.false_or, List.any_eq_true]

/-! ## What a tree keeps -/

/-- Entries have the same key, and their values are related. -/
inductive SameKey (related : Node → Node → Prop) : Node × Node → Node × Node → Prop
  /-- The values are all that may differ. -/
  | mk {key value value' : Node} (h : related value value') :
      SameKey related (key, value) (key, value')

/-- Items are merged one by one. -/
lemma mergeItems_eq_ok {merge : Node → Except MergeError Node} {items items' : List Node}
    (h : mergeItems merge items = .ok items') :
    List.Forall₂ (fun item item' => merge item = .ok item') items items' := by
  induction items generalizing items' with
  | nil =>
    cases h
    exact .nil
  | cons item rest ih =>
    rw [mergeItems] at h
    obtain ⟨rest', hrest, h⟩ := bind_eq_ok_iff.mp h
    obtain ⟨item', hitem, h⟩ := bind_eq_ok_iff.mp h
    cases h
    exact .cons hitem (ih hrest)

/-- Values are merged one by one, and their keys stay. -/
lemma mergeValues_eq_ok {merge : Node → Except MergeError Node}
    (h : mergeValues merge entries = .ok result) :
    List.Forall₂ (SameKey fun value value' => merge value = .ok value') entries result := by
  induction entries generalizing result with
  | nil =>
    cases h
    exact .nil
  | cons entry rest ih =>
    obtain ⟨key, value⟩ := entry
    rw [mergeValues] at h
    obtain ⟨rest', hrest, h⟩ := bind_eq_ok_iff.mp h
    obtain ⟨value', hvalue, h⟩ := bind_eq_ok_iff.mp h
    cases h
    exact .cons (.mk hvalue) (ih hrest)

namespace Node

/-- A source passes everywhere if the value of the merge key does. -/
lemma everywhere_sourcesOf {test : Node → Bool} {value : Node}
    (hvalue : value.everywhere test = true) :
    ∀ source ∈ sourcesOf value, (mapping source).everywhere test = true := by
  intro source hsource
  cases value with
  | mapping entries =>
    obtain rfl := List.mem_singleton.mp hsource
    exact hvalue
  | sequence members =>
    obtain ⟨member, hmember, heq⟩ := List.mem_filterMap.mp hsource
    have hpasses := (everywhere_sequence.mp hvalue).2 member hmember
    cases member with
    | mapping entries =>
      cases heq
      exact hpasses
    | _ => cases heq
  | _ => cases hsource

/-- A source is at most as deep as the value of the merge key. -/
lemma depth_le_of_mem_sourcesOf {value : Node} (h : source ∈ sourcesOf value) :
    (mapping source).depth ≤ value.depth := by
  cases value with
  | mapping entries =>
    obtain rfl := List.mem_singleton.mp h
    exact Nat.le_refl _
  | sequence members =>
    obtain ⟨member, hmember, heq⟩ := List.mem_filterMap.mp h
    have hdepth := depth_lt_of_mem_sequence hmember
    cases member with
    | mapping entries =>
      cases heq
      exact Nat.le_of_lt hdepth
    | _ => cases heq
  | _ => cases h

/-- What a merge makes is an entry of the mapping or of one of its sources. -/
lemma mem_of_mergeEntries {entry : Node × Node}
    (hdistinct : entries.Pairwise fun a b => a.1.same b.1 = false)
    (h : mergeEntries entries = .ok result) (hentry : entry ∈ result) :
    entry ∈ entries ∨ ∃ merge ∈ entries, ∃ source ∈ sourcesOf merge.2, entry ∈ source := by
  obtain ⟨others, hperm, rfl⟩ := mergeEntries_eq_ok hdistinct h
  rcases mem_foldl_addEntries hentry with hother | ⟨source, hsource, hentry⟩
  · exact .inl (List.mem_of_mem_filter (hperm.mem_iff.mp hother))
  · obtain ⟨merge, hmerge, hsource⟩ := List.mem_flatMap.mp hsource
    exact .inr ⟨merge, List.mem_of_mem_filter hmerge, source, hsource, hentry⟩

/-- What a merge makes passes everywhere if the mapping does. -/
lemma everywhere_of_mergeEntries {test : Node → Bool}
    (hdistinct : entries.Pairwise fun a b => a.1.same b.1 = false)
    (hentries : ∀ entry ∈ entries, entry.2.everywhere test = true)
    (h : mergeEntries entries = .ok result) :
    ∀ entry ∈ result, entry.2.everywhere test = true := by
  intro entry hentry
  rcases mem_of_mergeEntries hdistinct h hentry with hown | ⟨merge, hmerge, source, hsource, hmem⟩
  · exact hentries entry hown
  · have hpasses := everywhere_sourcesOf (hentries merge hmerge) source hsource
    exact (everywhere_mapping.mp hpasses).2 entry hmem

/-- What a merge makes is less deep than the mapping. -/
lemma depth_lt_of_mergeEntries (hdistinct : entries.Pairwise fun a b => a.1.same b.1 = false)
    (h : mergeEntries entries = .ok result) :
    ∀ entry ∈ result, entry.2.depth < (mapping entries).depth := by
  intro entry hentry
  rcases mem_of_mergeEntries hdistinct h hentry with hown | ⟨merge, hmerge, source, hsource, hmem⟩
  · exact depth_lt_of_mem_mapping hown
  · have hvalue := depth_lt_of_mem_mapping hmem
    have hle := depth_le_of_mem_sourcesOf hsource
    have hmapping := depth_lt_of_mem_mapping hmerge
    omega

/-- The integers of a tree still have 64 bits when its merge keys are applied. -/
theorem everywhere_isWord_of_mergeNode {depth : Nat} {n merged : Node}
    (hn : n.everywhere isRegular = true) (h : mergeNode depth n = .ok merged) :
    merged.everywhere isWord = true := by
  have hword : ∀ n : Node, n.isRegular = true → n.isWord = true := fun n hregular =>
    (Bool.and_eq_true_iff.mp hregular).1
  induction depth generalizing n merged with
  | zero =>
    cases h
    exact everywhere_mono hword hn
  | succ depth ih =>
    cases n with
    | mapping entries =>
      obtain ⟨hself, hvalues⟩ := everywhere_mapping.mp hn
      obtain ⟨result, hresult, h⟩ := bind_eq_ok_iff.mp h
      obtain ⟨merged, hmerged, h⟩ := bind_eq_ok_iff.mp h
      cases h
      have hregular := everywhere_of_mergeEntries (isRegular_mapping.mp hself) hvalues hresult
      refine everywhere_mapping.mpr ⟨rfl, ?_⟩
      refine forall_of_forall₂ (mergeValues_eq_ok hmerged) hregular ?_
      rintro _ _ hvalue ⟨hmerge⟩
      exact ih hvalue hmerge
    | sequence items =>
      obtain ⟨-, hitems⟩ := everywhere_sequence.mp hn
      obtain ⟨merged, hmerged, h⟩ := bind_eq_ok_iff.mp h
      cases h
      refine everywhere_sequence.mpr ⟨rfl, ?_⟩
      exact forall_of_forall₂ (mergeItems_eq_ok hmerged) hitems fun item item' hitem => ih hitem
    | tagged tag node =>
      obtain ⟨-, hnode⟩ := everywhere_tagged.mp hn
      obtain ⟨merged, hmerged, h⟩ := bind_eq_ok_iff.mp h
      cases h
      exact everywhere_tagged.mpr ⟨rfl, ih hnode hmerged⟩
    | _ =>
      cases h
      exact everywhere_mono hword hn

end Node

end ConfigCheck.Yaml
