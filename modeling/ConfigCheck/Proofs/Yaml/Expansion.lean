import ConfigCheck.Proofs.Yaml.Entries
import ConfigCheck.Proofs.Yaml.Merging
import ConfigCheck.Proofs.Yaml.NumberText

/-!
# Merges expanded

The expansion of a tree applies all merge keys from the inside outwards, so that a source has its
own sources already when its entries are taken (`Yaml.Node.expand`).  What `Yaml.Node.merge` makes,
from the outside inwards, is the expansion with its entries in another order
(`Yaml.Node.rearranges_of_merge`), if no source has a merge key of its own.  The order makes no
difference where each name comes once (`Yaml.Node.toJson_of_rearranges`).
-/

namespace ConfigCheck.Yaml

variable {entries others source : List (Node × Node)}

/-- Entries with those of a source whose keys are new. -/
def addNew (entries source : List (Node × Node)) : List (Node × Node) :=
  entries ++ source.filter fun entry => !hasKey entries entry.1

/-- The entries of a mapping and what its sources add, the first source first. -/
def applySources (entries : List (Node × Node)) : List (Node × Node) :=
  (sources entries).foldl addNew (ownEntries entries)

namespace Node

/-- The tree with all merge keys applied, from the inside outwards. -/
def expand (n : Node) : Node :=
  match n with
  | .sequence items => .sequence (expandItems items)
  | .mapping entries => .mapping (applySources (expandValues entries))
  | .tagged tag node => .tagged tag node.expand
  | n => n
where
  /-- The items with all merge keys applied. -/
  expandItems : List Node → List Node
    | [] => []
    | item :: rest => item.expand :: expandItems rest
  /-- The entries with all merge keys in their values applied. -/
  expandValues : List (Node × Node) → List (Node × Node)
    | [] => []
    | (key, value) :: rest => (key, value.expand) :: expandValues rest

/-- A tree has the entries of another one in another order, at any depth. -/
inductive Rearranges : Node → Node → Prop
  /-- Null is all there is. -/
  | null : Rearranges .null .null
  /-- A boolean is all there is. -/
  | bool (b : Bool) : Rearranges (.bool b) (.bool b)
  /-- A number is all there is. -/
  | number (x : Number) : Rearranges (.number x) (.number x)
  /-- A string is all there is. -/
  | string (s : String) : Rearranges (.string s) (.string s)
  /-- Items keep their order. -/
  | sequence {items items' : List Node} (h : List.Forall₂ Rearranges items items') :
      Rearranges (.sequence items) (.sequence items')
  /-- Entries come in some order. -/
  | mapping {entries order entries' : List (Node × Node)} (hperm : entries.Perm order)
      (h : List.Forall₂ (SameKey Rearranges) order entries') :
      Rearranges (.mapping entries) (.mapping entries')
  /-- A tag stays. -/
  | tagged {node node' : Node} (tag : String) (h : Rearranges node node') :
      Rearranges (.tagged tag node) (.tagged tag node')

/-- Whether the sources of a node that is a mapping have no merge key of their own. -/
def hasPlainSources : Node → Bool
  | .mapping entries => (sources entries).all fun source => !hasKey source mergeKey
  | _ => true

end Node

/-! ## Entries whose values change -/

/-- The entries with a function applied to their values. -/
def mapValues (f : Node → Node) (entries : List (Node × Node)) : List (Node × Node) :=
  entries.map fun entry => (entry.1, f entry.2)

variable {f : Node → Node}

lemma Node.expandItems_eq_map (items : List Node) :
    expand.expandItems items = items.map expand := by
  induction items with
  | nil => rfl
  | cons item rest ih => rw [expand.expandItems, ih, List.map_cons]

lemma Node.expandValues_eq_mapValues (entries : List (Node × Node)) :
    expand.expandValues entries = mapValues expand entries := by
  induction entries with
  | nil => rfl
  | cons entry rest ih =>
    obtain ⟨key, value⟩ := entry
    rw [expand.expandValues, ih]
    rfl

/-- The keys stay. -/
lemma hasKey_mapValues (key : Node) : hasKey (mapValues f entries) key = hasKey entries key := by
  unfold hasKey mapValues
  rw [List.any_map]
  rfl

/-- What is chosen by its key is chosen before or after the values change. -/
lemma filter_mapValues (test : Node → Bool) :
    (mapValues f entries).filter (fun entry => test entry.1) =
      mapValues f (entries.filter fun entry => test entry.1) := by
  unfold mapValues
  rw [List.filter_map]
  rfl

/-- Entries are added before or after the values change. -/
lemma addNew_mapValues :
    addNew (mapValues f entries) (mapValues f source) = mapValues f (addNew entries source) := by
  unfold addNew
  simp only [hasKey_mapValues]
  rw [filter_mapValues fun key => !hasKey entries key]
  exact (List.map_append).symm

/-- Sources add their entries before or after the values change. -/
lemma foldl_addNew_mapValues (list : List (List (Node × Node))) :
    (list.map (mapValues f)).foldl addNew (mapValues f entries) =
      mapValues f (list.foldl addNew entries) := by
  induction list generalizing entries with
  | nil => rfl
  | cons first rest ih => rw [List.map_cons, List.foldl_cons, addNew_mapValues, ih, List.foldl_cons]

/-- What sources add is an entry of one of them. -/
lemma mem_foldl_addNew {list : List (List (Node × Node))} {entry : Node × Node}
    (h : entry ∈ list.foldl addNew entries) :
    entry ∈ entries ∨ ∃ source ∈ list, entry ∈ source := by
  induction list generalizing entries with
  | nil => exact .inl h
  | cons first rest ih =>
    rcases ih h with hentry | ⟨source, hsource, hentry⟩
    · rcases List.mem_append.mp hentry with hentry | hfirst
      · exact .inl hentry
      · exact .inr ⟨first, List.mem_cons_self, List.mem_of_mem_filter hfirst⟩
    · exact .inr ⟨source, List.mem_cons_of_mem _ hsource, hentry⟩

/-! ## Entries in another order -/

/-- What is added does not depend on the order of the entries. -/
lemma addNew_perm (h : entries.Perm others) :
    (addNew entries source).Perm (addNew others source) := by
  unfold addNew
  simp only [hasKey_of_perm h]
  exact h.append_right _

/-- What several sources add does not depend on the order of the entries. -/
lemma foldl_addNew_perm (h : entries.Perm others) (list : List (List (Node × Node))) :
    (list.foldl addNew entries).Perm (list.foldl addNew others) := by
  induction list generalizing entries others with
  | nil => exact h
  | cons first rest ih => exact ih (addNew_perm h)

/-- Entries of a mapping are added as a whole. -/
lemma addEntries_eq_addNew (hdistinct : source.Pairwise fun a b => a.1.same b.1 = false) :
    addEntries entries source = addNew entries source := by
  unfold addEntries addNew
  induction source generalizing entries with
  | nil => exact (List.append_nil entries).symm
  | cons first rest ih =>
    obtain ⟨hfirst, hrest⟩ := List.pairwise_cons.mp hdistinct
    rw [List.foldl_cons, ih hrest, List.filter_cons]
    dsimp only
    cases hknown : hasKey entries first.1 with
    | true => rfl
    | false =>
      have hnew : rest.filter (fun entry => !hasKey (entries ++ [first]) entry.1) =
          rest.filter fun entry => !hasKey entries entry.1 := by
        refine List.filter_congr fun entry hentry => ?_
        have hone : hasKey [first] entry.1 = false := by
          rw [hasKey, List.any_cons, hfirst entry hentry, List.any_nil, Bool.or_false]
        rw [hasKey_append, hone, Bool.or_false]
      simp only [Bool.false_eq_true, if_false, Bool.not_false, if_true]
      rw [hnew, List.append_assoc, List.singleton_append]

/-! ## Sources -/

/-- A mapping without a merge key has its own entries only. -/
lemma applySources_eq_self (h : hasKey entries mergeKey = false) :
    applySources entries = entries := by
  have hkeys : ∀ entry ∈ entries, entry.1.same mergeKey = false := fun entry hentry =>
    Bool.eq_false_iff.mpr (List.any_eq_false.mp h entry hentry)
  have hnone : (entries.filter fun entry => entry.1.same mergeKey) = [] :=
    List.filter_eq_nil_iff.mpr fun entry hentry => by simp [hkeys entry hentry]
  have hall : (entries.filter fun entry => !entry.1.same mergeKey) = entries :=
    List.filter_eq_self.mpr fun entry hentry => by rw [hkeys entry hentry]; rfl
  rw [applySources, sources, hnone, List.flatMap_nil, List.foldl_nil, ownEntries, hall]

namespace Node

/-- The expansion of a mapping without a merge key has the same keys. -/
lemma expand_mapping_of_not_hasKey (h : hasKey entries mergeKey = false) :
    (mapping entries).expand = mapping (mapValues expand entries) := by
  rw [expand, expandValues_eq_mapValues, applySources_eq_self]
  rw [hasKey_mapValues, h]

/-- Sources without merge keys are expanded value by value. -/
lemma sourcesOf_expand {value : Node}
    (h : ∀ source ∈ sourcesOf value, hasKey source mergeKey = false) :
    sourcesOf value.expand = (sourcesOf value).map (mapValues expand) := by
  cases value with
  | mapping source =>
    rw [expand_mapping_of_not_hasKey (h source (List.mem_singleton.mpr rfl))]
    rfl
  | sequence members =>
    rw [expand, expandItems_eq_map]
    unfold sourcesOf at h ⊢
    dsimp only at h ⊢
    rw [List.filterMap_map, List.map_filterMap]
    refine List.filterMap_congr fun member hmember => ?_
    cases member with
    | mapping source =>
      have hsource := h source (List.mem_filterMap.mpr ⟨_, hmember, rfl⟩)
      rw [Function.comp_apply, expand_mapping_of_not_hasKey hsource]
      rfl
    | _ => rfl
  | _ => rfl

/-- The sources of a mapping are expanded value by value, if they have no merge keys. -/
lemma sources_mapValues (h : (mapping entries).hasPlainSources = true) :
    sources (mapValues expand entries) = (sources entries).map (mapValues expand) := by
  unfold sources
  rw [filter_mapValues fun key => key.same mergeKey, mapValues, List.flatMap_map, List.map_flatMap]
  refine List.flatMap_congr fun entry hentry => ?_
  refine sourcesOf_expand fun source hsource => ?_
  have hplain := List.all_eq_true.mp h source (List.mem_flatMap.mpr ⟨entry, hentry, hsource⟩)
  exact Bool.not_eq_true' _ |>.mp hplain

/-- The entries of an expanded mapping are those that a merge adds, with their values expanded. -/
lemma expand_mapping (h : (mapping entries).hasPlainSources = true) :
    (mapping entries).expand = mapping (mapValues expand (applySources entries)) := by
  rw [expand, expandValues_eq_mapValues]
  unfold applySources
  rw [sources_mapValues h, ownEntries, filter_mapValues fun key => !key.same mergeKey,
    foldl_addNew_mapValues]
  rfl

/-! ## From the outside inwards -/

/-- A merge applies the sources of a mapping, in another order. -/
lemma applySources_perm_of_mergeEntries {result : List (Node × Node)}
    (hregular : (mapping entries).everywhere isRegular = true)
    (h : mergeEntries entries = .ok result) : (applySources entries).Perm result := by
  obtain ⟨hself, hvalues⟩ := everywhere_mapping.mp hregular
  obtain ⟨others, hperm, rfl⟩ := mergeEntries_eq_ok (isRegular_mapping.mp hself) h
  have hsources : ∀ source ∈ sources entries,
      source.Pairwise fun a b => a.1.same b.1 = false := by
    intro source hsource
    obtain ⟨merge, hmerge, hsource⟩ := List.mem_flatMap.mp hsource
    have hvalue := hvalues merge (List.mem_of_mem_filter hmerge)
    have hregular := everywhere_mapping.mp (everywhere_sourcesOf hvalue source hsource)
    exact isRegular_mapping.mp hregular.1
  have hadd : (sources entries).foldl addEntries others = (sources entries).foldl addNew others :=
    List.foldl_ext _ _ _ fun _ source hsource => addEntries_eq_addNew (hsources source hsource)
  rw [hadd]
  exact foldl_addNew_perm hperm.symm _

/-- A merge of a whole tree is its expansion, with entries in another order, if no source has a
merge key of its own. -/
theorem rearranges_of_mergeNode {depth : Nat} {n merged : Node}
    (hregular : n.everywhere isRegular = true) (hplain : n.everywhere hasPlainSources = true)
    (hdepth : n.depth ≤ depth) (h : mergeNode depth n = .ok merged) :
    Rearranges n.expand merged := by
  induction depth generalizing n merged with
  | zero =>
    cases h
    cases n with
    | null => exact .null
    | bool b => exact .bool b
    | number x => exact .number x
    | string s => exact .string s
    | sequence | mapping | tagged => exact absurd hdepth (Nat.not_succ_le_zero _)
  | succ depth ih =>
    cases n with
    | null =>
      cases h
      exact .null
    | bool b =>
      cases h
      exact .bool b
    | number x =>
      cases h
      exact .number x
    | string s =>
      cases h
      exact .string s
    | tagged tag node =>
      obtain ⟨merged, hmerged, h⟩ := bind_eq_ok_iff.mp h
      cases h
      have hnode : node.depth ≤ depth := Nat.le_of_succ_le_succ hdepth
      exact .tagged tag (ih (everywhere_tagged.mp hregular).2 (everywhere_tagged.mp hplain).2 hnode
        hmerged)
    | sequence items =>
      obtain ⟨merged, hmerged, h⟩ := bind_eq_ok_iff.mp h
      cases h
      rw [expand, expandItems_eq_map]
      refine .sequence (List.forall₂_map_left_iff.mpr ?_)
      refine forall₂_imp_of_mem (mergeItems_eq_ok hmerged) fun item hitem item' hmerge => ?_
      have hlt := depth_lt_of_mem_sequence hitem
      exact ih ((everywhere_sequence.mp hregular).2 item hitem)
        ((everywhere_sequence.mp hplain).2 item hitem) (by omega) hmerge
    | mapping entries =>
      obtain ⟨result, hresult, h⟩ := bind_eq_ok_iff.mp h
      obtain ⟨merged, hmerged, h⟩ := bind_eq_ok_iff.mp h
      cases h
      obtain ⟨hkeys, hvalues⟩ := everywhere_mapping.mp hregular
      obtain ⟨hsources, hplains⟩ := everywhere_mapping.mp hplain
      have hdistinct := isRegular_mapping.mp hkeys
      rw [expand_mapping hsources]
      have hperm := (applySources_perm_of_mergeEntries hregular hresult).map
        fun entry => (entry.1, entry.2.expand)
      refine .mapping hperm (List.forall₂_map_left_iff.mpr ?_)
      refine forall₂_imp_of_mem (mergeValues_eq_ok hmerged) fun entry hentry entry' hmerge => ?_
      have hlt := depth_lt_of_mergeEntries hdistinct hresult entry hentry
      obtain ⟨hvalue⟩ := hmerge
      exact .mk (ih (everywhere_of_mergeEntries hdistinct hvalues hresult _ hentry)
        (everywhere_of_mergeEntries hdistinct hplains hresult _ hentry) (by omega) hvalue)

/-! ## The order makes no difference -/

/-- A tree whose names are distinct is converted into the same value as one with its entries in
another order. -/
theorem toJson_of_rearranges {n m : Node} {value : Json} (h : Rearranges n m)
    (hnames : n.everywhere hasDistinctNames = true) (hm : m.toJson = .ok value) :
    n.toJson = .ok value := by
  induction n using Node.ind generalizing m value with
  | null | bool | number | string =>
    cases h
    exact hm
  | tagged tag node ih =>
    cases h with
    | tagged _ hnode => exact ih hnode (everywhere_tagged.mp hnames).2 hm
  | sequence items ih =>
    cases h with
    | sequence hitems =>
      obtain ⟨values, rfl, hvalues⟩ := toJson_sequence_eq_ok_iff.mp hm
      have hdistinct := (everywhere_sequence.mp hnames).2
      refine toJson_sequence_eq_ok_iff.mpr ⟨values, rfl, ?_⟩
      exact forall₂_trans_of_mem hitems hvalues fun item hitem item' value hrel hvalue =>
        ih item hitem hrel (hdistinct item hitem) hvalue
  | mapping entries ih =>
    cases h with
    | @mapping _ order _ hperm hentries =>
      obtain ⟨members, rfl, hmembers⟩ := toJson_mapping_eq_ok_iff.mp hm
      obtain ⟨hself, hdistinct⟩ := everywhere_mapping.mp hnames
      have horder : List.Forall₂ Converts order members := by
        refine forall₂_trans_of_mem hentries hmembers
          fun entry hentry entry' member hrel hmember => ?_
        have hmem := hperm.mem_iff.mpr hentry
        obtain ⟨hvalue⟩ := hrel
        exact ⟨hmember.name, ih _ hmem hvalue (hdistinct _ hmem) hmember.value⟩
      obtain ⟨members', hconverts, hmembers'⟩ := List.perm_comp_forall₂ hperm horder
      have hnodup : (members'.map Prod.fst).Nodup := by
        rw [← names_of_converts hconverts]
        exact of_decide_eq_true hself
      have hnodup' : (members.map Prod.fst).Nodup := (hmembers'.map Prod.fst).nodup_iff.mp hnodup
      refine toJson_mapping_eq_ok_iff.mpr ⟨members', ?_, hconverts⟩
      have hcollected := hmembers'.trans (Json.Members.ofList_perm hnodup').symm
      rw [Json.Members.ofList_of_perm hcollected (Json.Members.inOrder_ofList members)]

/-! ## No merge key is left -/

/-- Whether the keys of a node that is a mapping pass a test. -/
def keysPass (test : Node → Bool) : Node → Bool
  | .mapping entries => entries.all fun entry => test entry.1
  | _ => true

/-- Whether a key becomes another name than the merge key. -/
def isUnmerged (key : Node) : Bool := key.keyText.toOption != some "<<"

/-- A key that is neither the merge key nor tagged becomes another name. -/
lemma isUnmerged_of_isUntagged {key : Node} (h : key.isUntagged = true)
    (hne : key.same mergeKey = false) : key.isUnmerged = true := by
  have hlt : '<' ∈ "<<".toList := by decide
  unfold isUnmerged
  rw [bne_iff_ne]
  intro hname
  rw [toOption_eq_some_iff] at hname
  cases key with
  | tagged tag node => cases h
  | string s =>
    have hkey : string s = mergeKey := congrArg string (Except.ok.inj hname)
    rw [same_mergeKey.mpr hkey] at hne
    cases hne
  | number x => exact writeNumber_ne hlt rfl (Except.ok.inj hname)
  | bool b => cases b <;> exact absurd (Except.ok.inj hname) (by decide)
  | null => exact absurd (Except.ok.inj hname) (by decide)
  | sequence | mapping => cases hname

/-- No key of an expansion becomes the name of the merge key, if none has a tag. -/
lemma everywhere_isUnmerged_expand {n : Node} (h : n.everywhere (keysPass isUntagged) = true) :
    n.expand.everywhere (keysPass isUnmerged) = true := by
  induction n using Node.ind with
  | null | bool | number | string => rfl
  | tagged tag node ih => exact everywhere_tagged.mpr ⟨rfl, ih (everywhere_tagged.mp h).2⟩
  | sequence items ih =>
    rw [expand, expandItems_eq_map]
    refine everywhere_sequence.mpr ⟨rfl, ?_⟩
    intro expanded hexpanded
    obtain ⟨item, hitem, rfl⟩ := List.mem_map.mp hexpanded
    exact ih item hitem ((everywhere_sequence.mp h).2 item hitem)
  | mapping entries ih =>
    obtain ⟨hself, hentries⟩ := everywhere_mapping.mp h
    have hkeys := List.all_eq_true.mp hself
    have hvalues : ∀ entry ∈ mapValues expand entries,
        entry.2.everywhere (keysPass isUnmerged) = true := by
      intro expanded hexpanded
      obtain ⟨entry, hentry, rfl⟩ := List.mem_map.mp hexpanded
      exact ih entry hentry (hentries entry hentry)
    have hall : ∀ entry ∈ applySources (mapValues expand entries),
        entry.1.isUnmerged = true ∧ entry.2.everywhere (keysPass isUnmerged) = true := by
      intro applied happlied
      rcases mem_foldl_addNew happlied with hown | ⟨source, hsource, hmem⟩
      · obtain ⟨hmem, hkey⟩ := List.mem_filter.mp hown
        refine ⟨?_, hvalues applied hmem⟩
        obtain ⟨entry, hentry, rfl⟩ := List.mem_map.mp hmem
        exact isUnmerged_of_isUntagged (hkeys entry hentry) (Bool.not_eq_true' _ |>.mp hkey)
      · obtain ⟨merge, hmerge, hsource⟩ := List.mem_flatMap.mp hsource
        have hvalue := hvalues merge (List.mem_of_mem_filter hmerge)
        obtain ⟨hsourceKeys, hsourceValues⟩ :=
          everywhere_mapping.mp (everywhere_sourcesOf hvalue source hsource)
        exact ⟨List.all_eq_true.mp hsourceKeys applied hmem, hsourceValues applied hmem⟩
    rw [expand, expandValues_eq_mapValues]
    exact everywhere_mapping.mpr ⟨List.all_eq_true.mpr fun entry hentry => (hall entry hentry).1,
      fun entry hentry => (hall entry hentry).2⟩

/-- The order of the entries makes no difference to a test of keys. -/
lemma everywhere_keysPass_of_rearranges {test : Node → Bool} {n m : Node} (h : Rearranges n m)
    (hn : n.everywhere (keysPass test) = true) : m.everywhere (keysPass test) = true := by
  induction n using Node.ind generalizing m with
  | null | bool | number | string =>
    cases h
    rfl
  | tagged tag node ih =>
    cases h with
    | tagged _ hnode => exact everywhere_tagged.mpr ⟨rfl, ih hnode (everywhere_tagged.mp hn).2⟩
  | sequence items ih =>
    cases h with
    | sequence hitems =>
      refine everywhere_sequence.mpr ⟨rfl, ?_⟩
      exact forall_of_forall₂ (forall₂_imp_of_mem hitems fun item hitem item' hrel =>
        And.intro hitem hrel) (everywhere_sequence.mp hn).2
        fun item item' hitem hrel => ih item hrel.1 hrel.2 hitem
  | mapping entries ih =>
    cases h with
    | @mapping _ order merged hperm hentries =>
      obtain ⟨hself, hvalues⟩ := everywhere_mapping.mp hn
      have hkeys := List.all_eq_true.mp hself
      have hall : ∀ entry ∈ order, test entry.1 = true ∧ entry ∈ entries := fun entry hentry =>
        have hmem := hperm.mem_iff.mpr hentry
        ⟨hkeys entry hmem, hmem⟩
      have hresult := forall_of_forall₂ (q := fun entry => test entry.1 = true ∧
        entry.2.everywhere (keysPass test) = true) hentries hall
        (by
          rintro _ _ ⟨hkey, hmem⟩ ⟨hrel⟩
          exact ⟨hkey, ih _ hmem hrel (hvalues _ hmem)⟩)
      have hmerged : (mapping merged).keysPass test = true :=
        List.all_eq_true.mpr fun entry hentry => (hresult entry hentry).1
      exact everywhere_mapping.mpr ⟨hmerged, fun entry hentry => (hresult entry hentry).2⟩

end Node

end ConfigCheck.Yaml
