import ConfigCheck.Proofs.Yaml.Parse
import ConfigCheck.Yaml.Merge
import ConfigCheck.Yaml.ToJson

/-!
# The tree of a JSON text

A document with the pieces of a JSON text has the tree of what the text says (`Json.Source.node`),
if all numbers are kept.  Without a merge key nothing is merged into this tree, and its value is the
value of the text.
-/

namespace ConfigCheck

namespace Json

/-- The tree of what a text says. -/
def Source.node : Source → Yaml.Node
  | .null => .null
  | .bool b => .bool b
  | .number _ n => .number n
  | .string s => .string s
  | .array items => .sequence (nodes items)
  | .object members => .mapping (namedNodes members)
where
  /-- The trees of items. -/
  nodes : List Source → List Yaml.Node
    | [] => []
    | s :: rest => s.node :: nodes rest
  /-- The trees of members, with their names. -/
  namedNodes : List (String × Source) → List (Yaml.Node × Yaml.Node)
    | [] => []
    | (name, s) :: rest => (.string name, s.node) :: namedNodes rest

/-- Every number is the one that its numeral writes. -/
def Source.KeepsNumbers (s : Source) : Prop :=
  ∀ m n, .number m n ∈ s.parts → m.IsRead n ∧ m.Keeps n

end Json

namespace Yaml

open Json (Source)

/-! ## Building the tree -/

/-- A builder makes the tree of what a text says from its pieces, and leaves those behind them. -/
def Builds (build : Document.Builder) (s : Source) : Prop :=
  ∀ path r n r' behind, build path r = .ok (n, r') → r.pieces.map Prod.fst = s.pieces ++ behind →
    n = s.node ∧ r'.pieces.map Prod.fst = behind

/-- The pieces of a text begin neither with the end of a collection nor with an alias. -/
lemma begins_of_pieces {s : Source} {p : Piece} {rest behind : List Piece}
    (h : p :: rest = s.pieces ++ behind) :
    p ≠ .sequenceEnd ∧ p ≠ .mappingEnd ∧ ∀ anchor, p ≠ .alias anchor := by
  cases s <;> (cases h; exact ⟨nofun, nofun, nofun⟩)

namespace Document

variable {d : Document} {build : Builder} {inner : Option Builder} {path : String}
  {r r' : Remainder} {behind : List Piece} {n : Node}

/-- A scalar has the node of its meaning. -/
lemma content_scalar {text : String} {style : ScalarStyle}
    (h : d.content inner path r = .ok (n, r'))
    (hpieces : r.pieces.map Prod.fst = .scalar none text style :: behind) :
    ∃ v, resolveScalar none text style = .ok v ∧ n = v.toNode ∧
      r'.pieces.map Prod.fst = behind := by
  obtain ⟨⟨p, m⟩, rest, hcons, hp, hbehind⟩ := List.map_eq_cons_iff.mp hpieces
  cases hp
  unfold content at h
  rw [hcons] at h
  have htag : (localTag? none).isSome = false := rfl
  simp only [htag, Bool.false_eq_true, if_false] at h
  split at h
  · rename_i v hv
    cases h
    exact ⟨v, hv, rfl, hbehind⟩
  · cases h

/-- Items have the trees of what they say. -/
lemma items_eq_ok {list : List Source} (hbuild : ∀ s ∈ list, Builds build s) {fuel index : Nat}
    {nodes : List Node} (h : d.items build path fuel index r = .ok (nodes, r'))
    (hpieces : r.pieces.map Prod.fst = Source.pieces.piecesOfItems list ++ behind) :
    nodes = Source.node.nodes list ∧ r'.pieces.map Prod.fst = behind := by
  induction list generalizing fuel index r nodes with
  | nil =>
    obtain ⟨⟨p, m⟩, rest, hcons, hp, hbehind⟩ := List.map_eq_cons_iff.mp hpieces
    cases hp
    cases fuel with
    | zero => cases h
    | succ fuel =>
      rw [items, hcons] at h
      cases h
      exact ⟨rfl, hbehind⟩
  | cons s list ih =>
    obtain ⟨hs, hlist⟩ := List.forall_mem_cons.mp hbuild
    rw [Source.pieces.piecesOfItems, List.append_assoc] at hpieces
    cases fuel with
    | zero => cases h
    | succ fuel =>
      rw [items] at h
      split at h
      · cases h
      · rename_i heq
        rw [heq] at hpieces
        exact absurd rfl (begins_of_pieces hpieces).1
      · obtain ⟨⟨item, r₁⟩, hitem, h⟩ := bind_eq_ok_iff.mp h
        obtain ⟨⟨more, r₂⟩, hmore, h⟩ := bind_eq_ok_iff.mp h
        cases h
        obtain ⟨rfl, hrest⟩ := hs _ _ _ _ _ hitem hpieces
        obtain ⟨rfl, hbehind⟩ := ih hlist hmore hrest
        exact ⟨rfl, hbehind⟩

/-- Members have the trees of what they say, behind the entries that are done. -/
lemma entries_eq_ok {list : List (String × Source)} (hname : ∀ name, Builds build (.string name))
    (hbuild : ∀ m ∈ list, Builds build m.2) {place : Mark} {fuel : Nat}
    {done nodes : List (Node × Node)}
    (h : d.entries build path place fuel done r = .ok (nodes, r'))
    (hpieces : r.pieces.map Prod.fst = Source.pieces.piecesOfMembers list ++ behind) :
    nodes = done ++ Source.node.namedNodes list ∧ r'.pieces.map Prod.fst = behind := by
  induction list generalizing fuel done r with
  | nil =>
    obtain ⟨⟨p, m⟩, rest, hcons, hp, hbehind⟩ := List.map_eq_cons_iff.mp hpieces
    cases hp
    cases fuel with
    | zero => cases h
    | succ fuel =>
      rw [entries, hcons] at h
      cases h
      exact ⟨(List.append_nil _).symm, hbehind⟩
  | cons member list ih =>
    obtain ⟨name, s⟩ := member
    obtain ⟨hs, hlist⟩ := List.forall_mem_cons.mp hbuild
    rw [Source.pieces.piecesOfMembers, List.cons_append, List.append_assoc] at hpieces
    cases fuel with
    | zero => cases h
    | succ fuel =>
      rw [entries] at h
      split at h
      · cases h
      · rename_i heq
        rw [heq] at hpieces
        cases hpieces
      · obtain ⟨⟨key, r₁⟩, hkey, h⟩ := bind_eq_ok_iff.mp h
        dsimp only at h
        split at h
        · cases h
        · obtain ⟨⟨value, r₂⟩, hvalue, h⟩ := bind_eq_ok_iff.mp h
          obtain ⟨rfl, hrest⟩ := hname name _ _ _ _ _ hkey hpieces
          obtain ⟨rfl, hbehind⟩ := hs _ _ _ _ _ hvalue hrest
          obtain ⟨rfl, hbehind⟩ := ih hlist h hbehind
          refine ⟨?_, hbehind⟩
          rw [List.append_assoc]
          rfl

/-- What a text says is built if what is inside it is. -/
lemma builds_content {s : Source} (hs : s.KeepsNumbers)
    (hinner : ∀ build ∈ inner, ∀ s : Source, s.KeepsNumbers → Builds build s) :
    Builds (d.content inner) s := by
  intro path r n r' behind h hpieces
  cases s with
  | null =>
    obtain ⟨v, hv, rfl, hbehind⟩ := content_scalar h hpieces
    cases hv
    exact ⟨rfl, hbehind⟩
  | bool b =>
    obtain ⟨v, hv, rfl, hbehind⟩ := content_scalar h hpieces
    cases b <;> (cases hv; exact ⟨rfl, hbehind⟩)
  | number m number =>
    obtain ⟨v, hv, rfl, hbehind⟩ := content_scalar h hpieces
    obtain ⟨hread, hkeeps⟩ := hs m number (.head _)
    rw [resolvePlain_numeral m hread hkeeps hv]
    exact ⟨rfl, hbehind⟩
  | string text =>
    obtain ⟨v, hv, rfl, hbehind⟩ := content_scalar h hpieces
    cases hv
    exact ⟨rfl, hbehind⟩
  | array list =>
    obtain ⟨⟨p, m⟩, rest, hcons, hp, hbehind⟩ := List.map_eq_cons_iff.mp hpieces
    cases hp
    unfold content at h
    rw [hcons] at h
    cases inner with
    | none => cases h
    | some build =>
      obtain ⟨⟨nodes, r₁⟩, hitems, h⟩ := bind_eq_ok_iff.mp h
      cases h
      have hlist : ∀ s ∈ list, Builds build s := fun s hmem =>
        hinner build rfl s fun m n h => hs m n (Source.parts_subset_of_mem_items hmem h)
      obtain ⟨rfl, hrest⟩ := items_eq_ok hlist hitems hbehind
      exact ⟨rfl, hrest⟩
  | object list =>
    obtain ⟨⟨p, m⟩, rest, hcons, hp, hbehind⟩ := List.map_eq_cons_iff.mp hpieces
    cases hp
    unfold content at h
    rw [hcons] at h
    cases inner with
    | none => cases h
    | some build =>
      obtain ⟨⟨nodes, r₁⟩, hentries, h⟩ := bind_eq_ok_iff.mp h
      cases h
      have hlist : ∀ m ∈ list, Builds build m.2 := fun m hmem =>
        hinner build rfl m.2 fun m n h => hs m n (Source.parts_subset_of_mem_members hmem h)
      have hname : ∀ name, Builds build (.string name) := fun name =>
        hinner build rfl (.string name) fun m n h => by cases List.mem_singleton.mp h
      obtain ⟨rfl, hrest⟩ := entries_eq_ok hname hlist hentries hbehind
      exact ⟨rfl, hrest⟩

/-- Where there is no alias, the node at the front is the content at the front. -/
lemma builds_nodeWith {s : Source} (h : Builds (d.content inner) s) :
    Builds (d.nodeWith inner) s := by
  intro path r n r' behind hnode hpieces
  unfold nodeWith at hnode
  split at hnode
  · rename_i heq
    rw [heq] at hpieces
    exact absurd rfl ((begins_of_pieces hpieces).2.2 _)
  · exact h path r n r' behind hnode hpieces

/-- Every node of a document has the tree of what its pieces say. -/
lemma builds_node (depth : Nat) {s : Source} (hs : s.KeepsNumbers) : Builds (d.node depth) s := by
  induction depth generalizing s with
  | zero => exact builds_nodeWith (builds_content hs fun _ h => by cases h)
  | succ depth ih =>
    refine builds_nodeWith (builds_content hs ?_)
    rintro _ ⟨⟩ s hs
    exact ih hs

/-- A document with the pieces of a JSON text has the tree of what the text says. -/
theorem toNode_eq_ok {s : Source} (hs : s.KeepsNumbers) (hpieces : d.pieces.map Prod.fst = s.pieces)
    (h : d.toNode = .ok n) : n = s.node := by
  unfold toNode at h
  obtain ⟨⟨n', r⟩, hnode, h⟩ := bind_eq_ok_iff.mp h
  dsimp only at h
  split at h
  · cases h
  · cases h
    exact (builds_node 128 hs _ _ _ _ [] hnode (by simpa using hpieces)).1

end Document

/-! ## Merging -/

/-- Entries without the merge key are merged with nothing. -/
lemma mergeEntries_namedNodes {list : List (String × Source)} (h : ∀ m ∈ list, m.1 ≠ "<<") :
    mergeEntries (Source.node.namedNodes list) = .ok (Source.node.namedNodes list) := by
  have hnone : takeMergeKey (Source.node.namedNodes list) = none := by
    have hkey : ∀ entry ∈ Source.node.namedNodes list, entry.1.same mergeKey = false := by
      induction list with
      | nil => exact nofun
      | cons m list ih =>
        obtain ⟨hm, hlist⟩ := List.forall_mem_cons.mp h
        refine List.forall_mem_cons.mpr ⟨?_, ih hlist⟩
        simpa [mergeKey] using hm
    unfold takeMergeKey
    rw [List.findIdx?_eq_none_iff.mpr hkey]
  unfold mergeEntries
  rw [hnone]

/-- Items with which nothing is merged. -/
lemma mergeItems_nodes {merge : Node → Except MergeError Node} {list : List Source}
    (h : ∀ s ∈ list, merge s.node = .ok s.node) :
    mergeItems merge (Source.node.nodes list) = .ok (Source.node.nodes list) := by
  induction list with
  | nil => rfl
  | cons s list ih =>
    obtain ⟨hs, hlist⟩ := List.forall_mem_cons.mp h
    rw [Source.node.nodes, mergeItems, ih hlist, hs]
    rfl

/-- Members with whose values nothing is merged. -/
lemma mergeValues_namedNodes {merge : Node → Except MergeError Node} {list : List (String × Source)}
    (h : ∀ m ∈ list, merge m.2.node = .ok m.2.node) :
    mergeValues merge (Source.node.namedNodes list) = .ok (Source.node.namedNodes list) := by
  induction list with
  | nil => rfl
  | cons m list ih =>
    obtain ⟨hm, hlist⟩ := List.forall_mem_cons.mp h
    rw [Source.node.namedNodes, mergeValues, ih hlist, hm]
    rfl

/-- Without a merge key nothing is merged. -/
theorem mergeNode_node (depth : Nat) {s : Source}
    (h : ∀ members, .object members ∈ s.parts → ∀ m ∈ members, m.1 ≠ "<<") :
    mergeNode depth s.node = .ok s.node := by
  induction depth generalizing s with
  | zero => rfl
  | succ depth ih =>
    cases s with
    | array items =>
      have hitems : ∀ s ∈ items, mergeNode depth s.node = .ok s.node := fun s hs =>
        ih fun members hmembers => h members (Source.parts_subset_of_mem_items hs hmembers)
      rw [Source.node, mergeNode, mergeItems_nodes hitems]
      rfl
    | object members =>
      have hvalues : ∀ m ∈ members, mergeNode depth m.2.node = .ok m.2.node := fun m hm =>
        ih fun members' hmembers => h members' (Source.parts_subset_of_mem_members hm hmembers)
      have hentries := mergeEntries_namedNodes (h members (.head _))
      rw [Source.node, mergeNode]
      exact bind_eq_ok_iff.mpr
        ⟨_, hentries, bind_eq_ok_iff.mpr ⟨_, mergeValues_namedNodes hvalues, rfl⟩⟩
    | _ => rfl

/-! ## Converting -/

/-- A number that keeps what its numeral writes is one that JSON has. -/
lemma isRepresentable_of_keeps {m : Json.Numeral} {n : Number} (hread : m.IsRead n)
    (hkeeps : m.Keeps n) : isRepresentable n = true := by
  cases n with
  | float x =>
    have hnearest : m.nearest? = some x := hkeeps.1
    unfold Json.Numeral.nearest? at hnearest
    exact (Option.filter_eq_some_iff.mp hnearest).2
  | int i =>
    have hinteger : m.integer? = some i := hread
    unfold isRepresentable
    rw [Bool.and_eq_true, decide_eq_true_iff, decide_eq_true_iff]
    unfold Json.Numeral.integer? at hinteger
    dsimp only at hinteger
    split at hinteger
    · cases hinteger
    · split at hinteger
      · obtain ⟨hlt, heq⟩ := Option.ite_none_right_eq_some.mp hinteger
        cases heq
        omega
      · obtain ⟨hbounds, heq⟩ := Option.ite_none_right_eq_some.mp hinteger
        rw [Bool.and_eq_true, decide_eq_true_iff, decide_eq_true_iff] at hbounds
        cases heq
        omega

mutual

/-- The tree of a text is converted into the value of the text. -/
theorem toJson_node : (s : Source) → s.KeepsNumbers → s.node.toJson = .ok s.value
  | .null, _ => rfl
  | .bool _, _ => rfl
  | .number m n, hs => by
    obtain ⟨hread, hkeeps⟩ := hs m n (.head _)
    exact Node.finite_of_isRepresentable (isRepresentable_of_keeps hread hkeeps)
  | .string _, _ => rfl
  | .array items, hs => by
    have hitems := toJsonItems_nodes items fun s hmem m n h =>
      hs m n (Source.parts_subset_of_mem_items hmem h)
    exact bind_eq_ok_iff.mpr ⟨_, hitems, rfl⟩
  | .object members, hs => by
    have hmembers := toJsonEntries_namedNodes members fun member hmem m n h =>
      hs m n (Source.parts_subset_of_mem_members hmem h)
    exact bind_eq_ok_iff.mpr ⟨_, hmembers, rfl⟩

/-- The trees of items are converted into the values of the items. -/
theorem toJsonItems_nodes : (list : List Source) → (∀ s ∈ list, s.KeepsNumbers) →
    Node.toJson.toJsonItems (Source.node.nodes list) = .ok (Source.value.values list)
  | [], _ => rfl
  | s :: list, h => by
    obtain ⟨hs, hlist⟩ := List.forall_mem_cons.mp h
    exact bind_eq_ok_iff.mpr ⟨_, toJson_node s hs,
      bind_eq_ok_iff.mpr ⟨_, toJsonItems_nodes list hlist, rfl⟩⟩

/-- The trees of members are converted into the values of the members. -/
theorem toJsonEntries_namedNodes : (list : List (String × Source)) →
    (∀ m ∈ list, m.2.KeepsNumbers) →
    Node.toJson.toJsonEntries (Source.node.namedNodes list) =
      .ok (Source.value.namedValues list)
  | [], _ => rfl
  | (name, s) :: list, h => by
    obtain ⟨hs, hlist⟩ := List.forall_mem_cons.mp h
    exact bind_eq_ok_iff.mpr ⟨name, rfl, bind_eq_ok_iff.mpr ⟨_, toJson_node s hs,
      bind_eq_ok_iff.mpr ⟨_, toJsonEntries_namedNodes list hlist, rfl⟩⟩⟩

end

end Yaml

end ConfigCheck
