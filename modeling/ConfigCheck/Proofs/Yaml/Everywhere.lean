import ConfigCheck.Yaml.Node
import Mathlib.Tactic.Lemma

/-!
# Tests on all nodes inside a tree

A test on nodes, made on a tree and on all nodes that stand in it in the place of a value
(`Yaml.Node.everywhere`): the items of sequences and the values of mappings, at any depth and with
any tags around them.  What stands inside a key is not looked at; a test that is about keys is made
on the mapping that has them.

Trees are nested through lists, so inductions on them go through all their parts at once
(`Yaml.Node.ind`).
-/

namespace ConfigCheck.Yaml.Node

/-- What holds of a tree whenever it holds of its parts holds of every tree. -/
theorem ind {motive : Node → Prop} (null : motive .null) (bool : ∀ b, motive (.bool b))
    (number : ∀ n, motive (.number n)) (string : ∀ s, motive (.string s))
    (sequence : ∀ items, (∀ item ∈ items, motive item) → motive (.sequence items))
    (mapping : ∀ entries, (∀ entry ∈ entries, motive entry.2) → motive (.mapping entries))
    (tagged : ∀ tag node, motive node → motive (.tagged tag node)) (n : Node) : motive n := by
  refine Node.rec (motive_2 := fun items => ∀ item ∈ items, motive item)
    (motive_3 := fun entries => ∀ entry ∈ entries, motive entry.2)
    (motive_4 := fun entry => motive entry.2) null bool number string sequence mapping tagged
    ?_ ?_ ?_ ?_ ?_ n
  · intro item hitem
    cases hitem
  · intro first rest hfirst hrest
    exact List.forall_mem_cons.mpr ⟨hfirst, hrest⟩
  · intro entry hentry
    cases hentry
  · intro first rest hfirst hrest
    exact List.forall_mem_cons.mpr ⟨hfirst, hrest⟩
  · intro key value _ hvalue
    exact hvalue

/-- Whether a node and all nodes in it that stand in the place of a value pass a test. -/
def everywhere (test : Node → Bool) (n : Node) : Bool :=
  match n with
  | .sequence items => test (.sequence items) && everywhereItems items
  | .mapping entries => test (.mapping entries) && everywhereEntries entries
  | .tagged tag node => test (.tagged tag node) && node.everywhere test
  | n => test n
where
  /-- Whether all items pass. -/
  everywhereItems : List Node → Bool
    | [] => true
    | n :: rest => n.everywhere test && everywhereItems rest
  /-- Whether the values of all entries pass. -/
  everywhereEntries : List (Node × Node) → Bool
    | [] => true
    | (_, v) :: rest => v.everywhere test && everywhereEntries rest

section

attribute [local simp] everywhere everywhere.everywhereItems everywhere.everywhereEntries

variable {test : Node → Bool}

lemma everywhereItems_iff {items : List Node} :
    everywhere.everywhereItems test items = true ↔
      ∀ item ∈ items, item.everywhere test = true := by
  induction items with
  | nil => simp
  | cons item rest ih => simp [ih]

lemma everywhereEntries_iff {entries : List (Node × Node)} :
    everywhere.everywhereEntries test entries = true ↔
      ∀ entry ∈ entries, entry.2.everywhere test = true := by
  induction entries with
  | nil => simp
  | cons entry rest ih =>
    obtain ⟨key, value⟩ := entry
    simp [ih]

/-- A sequence passes everywhere if it passes and its items do everywhere. -/
theorem everywhere_sequence {items : List Node} :
    (sequence items).everywhere test = true ↔
      test (sequence items) = true ∧ ∀ item ∈ items, item.everywhere test = true := by
  rw [everywhere, Bool.and_eq_true, everywhereItems_iff]

/-- A mapping passes everywhere if it passes and its values do everywhere. -/
theorem everywhere_mapping {entries : List (Node × Node)} :
    (mapping entries).everywhere test = true ↔
      test (mapping entries) = true ∧ ∀ entry ∈ entries, entry.2.everywhere test = true := by
  rw [everywhere, Bool.and_eq_true, everywhereEntries_iff]

/-- A node with a tag passes everywhere if it passes and what stands below the tag does. -/
theorem everywhere_tagged {tag : String} {node : Node} :
    (tagged tag node).everywhere test = true ↔
      test (tagged tag node) = true ∧ node.everywhere test = true := by
  rw [everywhere, Bool.and_eq_true]

/-- What passes a test everywhere passes a weaker one everywhere. -/
lemma everywhere_mono {weaker : Node → Bool} (hweaker : ∀ n, test n = true → weaker n = true)
    {n : Node} (h : n.everywhere test = true) : n.everywhere weaker = true := by
  induction n using ind with
  | null | bool | number | string => exact hweaker _ h
  | sequence items ih =>
    obtain ⟨hself, hitems⟩ := everywhere_sequence.mp h
    exact everywhere_sequence.mpr
      ⟨hweaker _ hself, fun item hitem => ih item hitem (hitems item hitem)⟩
  | mapping entries ih =>
    obtain ⟨hself, hentries⟩ := everywhere_mapping.mp h
    exact everywhere_mapping.mpr
      ⟨hweaker _ hself, fun entry hentry => ih entry hentry (hentries entry hentry)⟩
  | tagged tag node ih =>
    obtain ⟨hself, hnode⟩ := everywhere_tagged.mp h
    exact everywhere_tagged.mpr ⟨hweaker _ hself, ih hnode⟩

end

/-! ## Deep trees -/

lemma depth_le_depthItems {items : List Node} {item : Node} (h : item ∈ items) :
    item.depth ≤ depth.depthItems items := by
  induction items with
  | nil => cases h
  | cons first rest ih =>
    rw [depth.depthItems]
    rcases List.mem_cons.mp h with rfl | hrest
    · exact Nat.le_max_left _ _
    · exact Nat.le_trans (ih hrest) (Nat.le_max_right _ _)

lemma depth_le_depthEntries {entries : List (Node × Node)} {entry : Node × Node}
    (h : entry ∈ entries) : entry.2.depth ≤ depth.depthEntries entries := by
  induction entries with
  | nil => cases h
  | cons first rest ih =>
    obtain ⟨key, value⟩ := first
    rw [depth.depthEntries]
    rcases List.mem_cons.mp h with rfl | hrest
    · exact Nat.le_max_left _ _
    · exact Nat.le_trans (ih hrest) (Nat.le_max_right _ _)

/-- An item is less deep than its sequence. -/
theorem depth_lt_of_mem_sequence {items : List Node} {item : Node} (h : item ∈ items) :
    item.depth < (sequence items).depth := by
  rw [depth]
  exact Nat.lt_succ_of_le (depth_le_depthItems h)

/-- A value is less deep than its mapping. -/
theorem depth_lt_of_mem_mapping {entries : List (Node × Node)} {entry : Node × Node}
    (h : entry ∈ entries) : entry.2.depth < (mapping entries).depth := by
  rw [depth]
  exact Nat.lt_succ_of_le (depth_le_depthEntries h)

end ConfigCheck.Yaml.Node
