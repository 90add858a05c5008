import ConfigCheck.Proofs.Outcome
import ConfigCheck.Proofs.Yaml.Everywhere
import ConfigCheck.Yaml.Reader

/-!
# Trees that are read

A tree that comes from a text is regular (`Yaml.Node.everywhere_isRegular_of_read`): its integers
fit into 64 bits with or without a sign, and no mapping has a key twice.  Both hold at any depth,
also where an alias stands for a node.
-/

namespace ConfigCheck.Yaml

namespace Node

/-- Whether a node that is an integer fits into 64 bits. -/
def isWord : Node → Bool
  | .number (.int i) => -2 ^ 63 ≤ i && i < 2 ^ 64
  | _ => true

/-- Whether the keys of a node that is a mapping are pairwise different. -/
def hasDistinctKeys : Node → Bool
  | .mapping entries => decide (entries.Pairwise fun a b => a.1.same b.1 = false)
  | _ => true

/-- Whether a node is one that a text can have. -/
def isRegular (n : Node) : Bool := n.isWord && n.hasDistinctKeys

@[simp] lemma isRegular_mapping {entries : List (Node × Node)} :
    (mapping entries).isRegular = true ↔ entries.Pairwise fun a b => a.1.same b.1 = false := by
  simp [isRegular, isWord, hasDistinctKeys]

end Node

/-! ## Scalars -/

/-- An integer without a minus sign stays below the bound. -/
lemma lt_of_natural? {bound n : Nat} {cs : List Char} (h : natural? bound cs = some n) :
    n < bound := by
  unfold natural? at h
  dsimp only at h
  split at h
  · exact of_decide_eq_true (Option.filter_eq_some_iff.mp h).2
  · split at h
    · cases h
    · exact of_decide_eq_true (Option.filter_eq_some_iff.mp h).2

/-- The magnitude of an integer with a minus sign does not pass the bound. -/
lemma le_of_negative? {bound n : Nat} {cs : List Char} (h : negative? bound cs = some n) :
    n ≤ bound := by
  unfold negative? at h
  split at h
  · split at h
    · exact of_decide_eq_true (Option.filter_eq_some_iff.mp h).2
    · split at h
      · cases h
      · exact of_decide_eq_true (Option.filter_eq_some_iff.mp h).2
  · cases h

/-- An integer that is written and not refused fits into 64 bits. -/
lemma bounds_of_integer? {cs : List Char} {i : Int} (h : integer? cs = some (.ok i)) :
    -2 ^ 63 ≤ i ∧ i < 2 ^ 64 := by
  unfold integer? at h
  split at h
  · rename_i n hn
    have hlt := lt_of_natural? hn
    cases h
    constructor
    · omega
    · exact_mod_cast hlt
  · rename_i n _ hn
    have hle := le_of_negative? hn
    cases h
    have hcast : (n : Int) ≤ 2 ^ 63 := by exact_mod_cast hle
    constructor
    · omega
    · omega
  · cases h
  · cases h
  · cases h

/-- The meaning of a plain scalar is regular. -/
lemma isRegular_of_resolvePlain {text : String} {v : ScalarValue}
    (h : resolvePlain text = .ok v) : v.toNode.isRegular = true := by
  unfold resolvePlain at h
  dsimp only at h
  split at h
  · cases h
    rfl
  · split at h
    · cases h
      rfl
    · rename_i i _ hinteger
      obtain ⟨hlow, hhigh⟩ := bounds_of_integer? hinteger
      cases h
      simp only [ScalarValue.toNode, Node.isRegular, Node.isWord, Node.hasDistinctKeys,
        decide_eq_true hlow, decide_eq_true hhigh, Bool.and_true]
    · cases h
    · split at h
      · cases h
        rfl
      · cases h
        rfl

/-- The meaning of a scalar is regular. -/
lemma isRegular_of_resolveScalar {tag : Option TagText} {text : String} {style : ScalarStyle}
    {v : ScalarValue} (h : resolveScalar tag text style = .ok v) : v.toNode.isRegular = true := by
  unfold resolveScalar at h
  split at h
  · split at h
    · exact isRegular_of_resolvePlain h
    · cases h
      rfl
  · split at h
    · split at h
      · cases h
        rfl
      · cases h
    · split at h
      · split at h
        · rename_i i hinteger
          obtain ⟨hlow, hhigh⟩ := bounds_of_integer? hinteger
          cases h
          simp only [ScalarValue.toNode, Node.isRegular, Node.isWord, Node.hasDistinctKeys,
            decide_eq_true hlow, decide_eq_true hhigh, Bool.and_true]
        · cases h
        · cases h
      · split at h
        · split at h
          · cases h
            rfl
          · cases h
        · split at h
          · split at h
            · cases h
              rfl
            · cases h
          · split at h
            · exact isRegular_of_resolvePlain h
            · cases h
              rfl

/-- A scalar is all there is in its node. -/
lemma everywhere_toNode {test : Node → Bool} (v : ScalarValue) :
    v.toNode.everywhere test = test v.toNode := by
  cases v <;> rfl

/-- A local tag makes no difference. -/
lemma everywhere_isRegular_withTag {tag : Option TagText} {n : Node}
    (h : n.everywhere Node.isRegular = true) :
    (withTag tag n).everywhere Node.isRegular = true := by
  unfold withTag
  split
  · exact Node.everywhere_tagged.mpr ⟨rfl, h⟩
  · exact h

/-! ## Building -/

/-- All nodes that a builder makes are regular. -/
def MakesRegular (build : Document.Builder) : Prop :=
  ∀ path r n r', build path r = .ok (n, r') → n.everywhere Node.isRegular = true

namespace Document

variable {d : Document} {build : Builder} {inner : Option Builder} {path : String}
  {r r' : Remainder}

/-- Items are regular if each of them is. -/
lemma isRegular_items (hbuild : MakesRegular build) {fuel index : Nat} {nodes : List Node}
    (h : d.items build path fuel index r = .ok (nodes, r')) :
    ∀ item ∈ nodes, item.everywhere Node.isRegular = true := by
  induction fuel generalizing index r nodes with
  | zero => cases h
  | succ fuel ih =>
    rw [items] at h
    split at h
    · cases h
    · cases h
      intro item hitem
      cases hitem
    · obtain ⟨⟨item, r₁⟩, hitem, h⟩ := bind_eq_ok_iff.mp h
      obtain ⟨⟨rest, r₂⟩, hrest, h⟩ := bind_eq_ok_iff.mp h
      cases h
      exact List.forall_mem_cons.mpr ⟨hbuild _ _ _ _ hitem, ih hrest⟩

/-- A key that is there already is refused, so the keys stay different. -/
lemma isRegular_entries (hbuild : MakesRegular build) {place : Mark} {fuel : Nat}
    {done nodes : List (Node × Node)}
    (hdone : (Node.mapping done).everywhere Node.isRegular = true)
    (h : d.entries build path place fuel done r = .ok (nodes, r')) :
    (Node.mapping nodes).everywhere Node.isRegular = true := by
  induction fuel generalizing done r with
  | zero => cases h
  | succ fuel ih =>
    rw [entries] at h
    split at h
    · cases h
    · cases h
      exact hdone
    · obtain ⟨⟨key, r₁⟩, -, h⟩ := bind_eq_ok_iff.mp h
      dsimp only at h
      split at h
      · cases h
      · rename_i hnew
        obtain ⟨⟨value, r₂⟩, hvalue, h⟩ := bind_eq_ok_iff.mp h
        refine ih ?_ h
        obtain ⟨hkeys, hvalues⟩ := Node.everywhere_mapping.mp hdone
        rw [Node.isRegular_mapping] at hkeys
        refine Node.everywhere_mapping.mpr ⟨?_, ?_⟩
        · rw [Node.isRegular_mapping, List.pairwise_append]
          refine ⟨hkeys, List.pairwise_singleton _ _, ?_⟩
          intro entry hentry other hother
          obtain rfl := List.mem_singleton.mp hother
          have hany : ¬ ∃ entry ∈ done, entry.1.same key = true := fun hex =>
            hnew (List.any_eq_true.mpr hex)
          exact Bool.eq_false_iff.mpr fun heq => hany ⟨entry, hentry, heq⟩
        · intro entry hentry
          rcases List.mem_append.mp hentry with hentry | hentry
          · exact hvalues entry hentry
          · obtain rfl := List.mem_singleton.mp hentry
            exact hbuild _ _ _ _ hvalue

/-- The collection or scalar at the front is regular if what is inside it is. -/
lemma makesRegular_content (hinner : ∀ build ∈ inner, MakesRegular build) :
    MakesRegular (d.content inner) := by
  intro path r n r' h
  unfold content at h
  split at h
  · cases h
  · split at h
    · dsimp only at h
      split at h
      · rename_i v hv
        cases h
        refine everywhere_isRegular_withTag ?_
        rw [everywhere_toNode]
        split at hv
        · split at hv
          · exact isRegular_of_resolvePlain hv
          · cases hv
            rfl
        · exact isRegular_of_resolveScalar hv
      · cases h
    · split at h
      · cases h
      · obtain ⟨⟨nodes, r₁⟩, hitems, h⟩ := bind_eq_ok_iff.mp h
        cases h
        have hnodes := isRegular_items (hinner _ rfl) hitems
        exact everywhere_isRegular_withTag (Node.everywhere_sequence.mpr ⟨rfl, hnodes⟩)
    · split at h
      · cases h
      · obtain ⟨⟨nodes, r₁⟩, hentries, h⟩ := bind_eq_ok_iff.mp h
        cases h
        exact everywhere_isRegular_withTag (isRegular_entries (hinner _ rfl) rfl hentries)
    · cases h
      rfl

/-- An alias stands for a node that is built like any other. -/
lemma makesRegular_nodeWith (hinner : ∀ build ∈ inner, MakesRegular build) :
    MakesRegular (d.nodeWith inner) := by
  intro path r n r' h
  unfold nodeWith at h
  split at h
  · split at h
    · cases h
    · obtain ⟨⟨target, r₁⟩, htarget, h⟩ := bind_eq_ok_iff.mp h
      cases h
      exact makesRegular_content hinner _ _ _ _ htarget
  · exact makesRegular_content hinner _ _ _ _ h

/-- Every node of a document is regular. -/
lemma makesRegular_node (depth : Nat) : MakesRegular (d.node depth) := by
  induction depth with
  | zero =>
    refine makesRegular_nodeWith ?_
    intro build hbuild
    cases hbuild
  | succ depth ih =>
    refine makesRegular_nodeWith ?_
    rintro _ ⟨⟩
    exact ih

/-- The tree of a document is the node at its front. -/
lemma exists_node_of_toNode {n : Node} (h : d.toNode = .ok n) :
    ∃ r, d.node 128 "." ⟨d.pieces, 0⟩ = .ok (n, r) := by
  unfold toNode at h
  obtain ⟨⟨n', r⟩, hnode, h⟩ := bind_eq_ok_iff.mp h
  dsimp only at h
  split at h
  · cases h
  · cases h
    exact ⟨r, hnode⟩

end Document

/-- The first document of a text. -/
def documentOf (text : String) : Document :=
  (Document.ofEvents (.ofTokens (.ofText (dropByteOrderMark text.toList).1))).1

/-- The tree of a text is the tree of its first document. -/
lemma toNode_of_read {text : String} {n : Node} (h : read text = .ok n) :
    (documentOf text).toNode = .ok n := by
  unfold read at h
  dsimp only at h
  split at h
  · cases h
  · obtain ⟨n', hnode, h⟩ := bind_eq_ok_iff.mp h
    split at h
    · cases h
    · cases h
      exact hnode

/-- A tree that is read has integers of 64 bits, and no key of a mapping comes twice. -/
theorem Node.everywhere_isRegular_of_read {text : String} {n : Node} (h : read text = .ok n) :
    n.everywhere isRegular = true := by
  obtain ⟨r, hnode⟩ := Document.exists_node_of_toNode (toNode_of_read h)
  exact Document.makesRegular_node 128 _ _ _ _ hnode

end ConfigCheck.Yaml
