import ConfigCheck.Proofs.Outcome
import ConfigCheck.Proofs.Yaml.Merging
import ConfigCheck.Yaml.Reader

/-!
# What a text writes

The outline of a text is its tree before any scalar has a meaning: a scalar is its characters, and
an alias is replaced by what stands at its anchor.  A text has at most one outline
(`Yaml.Outline.eq_of_isOf`), and the tree of a text is what its outline means
(`Yaml.Outline.exists_of_read`).
-/

namespace ConfigCheck.Yaml

/-- A tree of scalars as they are written. -/
inductive Outline where
  /-- The characters of a scalar, with the way they are written. -/
  | scalar (tag : Option TagText) (text : String) (style : ScalarStyle)
  /-- Items in order. -/
  | sequence (tag : Option TagText) (items : List Outline)
  /-- Entries in order. -/
  | mapping (tag : Option TagText) (entries : List (Outline × Outline))
  /-- Where nothing is written. -/
  | nothing
deriving Inhabited

/-- Whether a node begins with a piece, if no alias stands for it. -/
def Piece.isStart : Piece → Bool
  | .scalar _ _ _ => true
  | .sequenceStart _ => true
  | .mappingStart _ => true
  | _ => false

namespace Outline

/-! ## Spelling -/

/-- What pieces can spell. -/
inductive Phrase where
  /-- A node, for which an alias may stand. -/
  | node (o : Outline)
  /-- A scalar or a collection. -/
  | content (o : Outline)
  /-- Items up to the end of their sequence. -/
  | items (list : List Outline)
  /-- Entries up to the end of their mapping. -/
  | entries (list : List (Outline × Outline))

/-- The pieces of a document from an anchor on. -/
def behindAnchor (d : Document) (anchor : ℕ) : List Piece :=
  (d.pieces.map Prod.fst).drop ((d.anchors.lookup anchor).getD 0)

/-- Pieces spell a phrase, up to the pieces behind it. -/
inductive Spells (d : Document) : List Piece → Phrase → List Piece → Prop
  /-- An alias stands for what is at its anchor. -/
  | jump {anchor : ℕ} {rest behind : List Piece} {o : Outline}
      (h : Spells d (behindAnchor d anchor) (.content o) behind) :
      Spells d (.alias anchor :: rest) (.node o) rest
  /-- A node that is no alias is there itself. -/
  | node {pieces rest : List Piece} {o : Outline}
      (hfront : ∀ anchor, pieces.head? ≠ some (.alias anchor))
      (h : Spells d pieces (.content o) rest) : Spells d pieces (.node o) rest
  /-- A scalar is one piece. -/
  | scalar {tag : Option TagText} {text : String} {style : ScalarStyle} {rest : List Piece} :
      Spells d (.scalar tag text style :: rest) (.content (.scalar tag text style)) rest
  /-- A sequence has its items between its ends. -/
  | sequence {tag : Option TagText} {pieces rest : List Piece} {list : List Outline}
      (h : Spells d pieces (.items list) rest) :
      Spells d (.sequenceStart tag :: pieces) (.content (.sequence tag list)) rest
  /-- A mapping has its entries between its ends. -/
  | mapping {tag : Option TagText} {pieces rest : List Piece} {list : List (Outline × Outline)}
      (h : Spells d pieces (.entries list) rest) :
      Spells d (.mappingStart tag :: pieces) (.content (.mapping tag list)) rest
  /-- Every other piece is nothing that is written. -/
  | nothing {p : Piece} {rest : List Piece} (hp : p.isStart = false) :
      Spells d (p :: rest) (.content .nothing) rest
  /-- The end of a sequence. -/
  | lastItem {rest : List Piece} : Spells d (.sequenceEnd :: rest) (.items []) rest
  /-- An item and those behind it. -/
  | item {pieces behind rest : List Piece} {o : Outline} {list : List Outline}
      (hfront : pieces.head? ≠ some .sequenceEnd) (h : Spells d pieces (.node o) behind)
      (hlist : Spells d behind (.items list) rest) : Spells d pieces (.items (o :: list)) rest
  /-- The end of a mapping. -/
  | lastEntry {rest : List Piece} : Spells d (.mappingEnd :: rest) (.entries []) rest
  /-- A key, its value, and the entries behind it. -/
  | entry {pieces middle behind rest : List Piece} {key value : Outline}
      {list : List (Outline × Outline)} (hfront : pieces.head? ≠ some .mappingEnd)
      (hkey : Spells d pieces (.node key) middle) (hvalue : Spells d middle (.node value) behind)
      (hlist : Spells d behind (.entries list) rest) :
      Spells d pieces (.entries ((key, value) :: list)) rest

/-- Whether phrases are of one kind. -/
def Phrase.isLike : Phrase → Phrase → Bool
  | .node _, .node _ => true
  | .content _, .content _ => true
  | .items _, .items _ => true
  | .entries _, .entries _ => true
  | _, _ => false

/-- Pieces spell at most one phrase of each kind. -/
theorem Spells.unique {d : Document} {pieces rest rest' : List Piece} {a b : Phrase}
    (ha : Spells d pieces a rest) (hb : Spells d pieces b rest') (hlike : a.isLike b = true) :
    a = b ∧ rest = rest' := by
  induction ha generalizing b rest' with
  | jump h ih =>
    cases hb with
    | jump h' =>
      obtain ⟨heq, -⟩ := ih h' rfl
      cases heq
      exact ⟨rfl, rfl⟩
    | node hfront h' => exact absurd rfl (hfront _)
    | _ => cases hlike
  | node hfront h ih =>
    cases hb with
    | jump h' => exact absurd rfl (hfront _)
    | node hfront' h' =>
      obtain ⟨heq, hrest⟩ := ih h' rfl
      cases heq
      exact ⟨rfl, hrest⟩
    | _ => cases hlike
  | scalar =>
    cases hb with
    | scalar => exact ⟨rfl, rfl⟩
    | nothing hp => cases hp
    | _ => cases hlike
  | sequence h ih =>
    cases hb with
    | sequence h' =>
      obtain ⟨heq, hrest⟩ := ih h' rfl
      cases heq
      exact ⟨rfl, hrest⟩
    | nothing hp => cases hp
    | _ => cases hlike
  | mapping h ih =>
    cases hb with
    | mapping h' =>
      obtain ⟨heq, hrest⟩ := ih h' rfl
      cases heq
      exact ⟨rfl, hrest⟩
    | nothing hp => cases hp
    | _ => cases hlike
  | nothing hp =>
    cases hb with
    | nothing hp' => exact ⟨rfl, rfl⟩
    | scalar | sequence | mapping => cases hp
    | _ => cases hlike
  | lastItem =>
    cases hb with
    | lastItem => exact ⟨rfl, rfl⟩
    | item hfront => exact absurd rfl hfront
    | _ => cases hlike
  | item hfront h hlist ih ihlist =>
    cases hb with
    | lastItem => exact absurd rfl hfront
    | item hfront' h' hlist' =>
      obtain ⟨heq, rfl⟩ := ih h' rfl
      cases heq
      obtain ⟨heq, hrest⟩ := ihlist hlist' rfl
      cases heq
      exact ⟨rfl, hrest⟩
    | _ => cases hlike
  | lastEntry =>
    cases hb with
    | lastEntry => exact ⟨rfl, rfl⟩
    | entry hfront => exact absurd rfl hfront
    | _ => cases hlike
  | entry hfront hkey hvalue hlist ihkey ihvalue ihlist =>
    cases hb with
    | lastEntry => exact absurd rfl hfront
    | entry hfront' hkey' hvalue' hlist' =>
      obtain ⟨heq, rfl⟩ := ihkey hkey' rfl
      cases heq
      obtain ⟨heq, rfl⟩ := ihvalue hvalue' rfl
      cases heq
      obtain ⟨heq, hrest⟩ := ihlist hlist' rfl
      cases heq
      exact ⟨rfl, hrest⟩
    | _ => cases hlike

/-- A text has the outline that the pieces of its document spell. -/
def IsOf (o : Outline) (text : String) : Prop :=
  ∃ rest, Spells (documentOf text) ((documentOf text).pieces.map Prod.fst) (.node o) rest

/-- A text has at most one outline. -/
theorem eq_of_isOf {a b : Outline} {text : String} (ha : a.IsOf text) (hb : b.IsOf text) :
    a = b := by
  obtain ⟨rest, ha⟩ := ha
  obtain ⟨rest', hb⟩ := hb
  obtain ⟨heq, -⟩ := ha.unique hb rfl
  cases heq
  rfl

/-! ## Meaning -/

/-- The meaning of a scalar as it is written. -/
def meaning (tag : Option TagText) (text : String) (style : ScalarStyle) :
    Except ScalarProblem ScalarValue :=
  if (localTag? tag).isSome then
    if style = .plain then resolvePlain text else .ok (.string text)
  else resolveScalar tag text style

/-- The node that an outline means. -/
def node : Outline → Except ScalarProblem Node
  | .scalar tag text style => (meaning tag text style).map fun v => withTag tag v.toNode
  | .sequence tag list => (nodes list).map fun items => withTag tag (.sequence items)
  | .mapping tag list => (nodePairs list).map fun entries => withTag tag (.mapping entries)
  | .nothing => .ok .null
where
  /-- The nodes of items. -/
  nodes : List Outline → Except ScalarProblem (List Node)
    | [] => .ok []
    | o :: rest => do
      let n ← o.node
      return n :: (← nodes rest)
  /-- The nodes of keys and values. -/
  nodePairs : List (Outline × Outline) → Except ScalarProblem (List (Node × Node))
    | [] => .ok []
    | (key, value) :: rest => do
      let k ← key.node
      let v ← value.node
      return (k, v) :: (← nodePairs rest)

/-- An entry means a key and a value. -/
structure MeansEntry (entry : Outline × Outline) (entry' : Node × Node) : Prop where
  /-- The key means the key. -/
  key : entry.1.node = .ok entry'.1
  /-- The value means the value. -/
  value : entry.2.node = .ok entry'.2

/-- Items have their meanings one by one. -/
lemma nodes_eq_ok_iff {list : List Outline} {items : List Node} :
    node.nodes list = .ok items ↔ List.Forall₂ (fun o n => o.node = .ok n) list items := by
  induction list generalizing items with
  | nil =>
    rw [node.nodes, List.forall₂_nil_left_iff]
    exact ⟨fun h => (Except.ok.inj h).symm, fun h => congrArg _ h.symm⟩
  | cons o rest ih =>
    rw [node.nodes]
    constructor
    · intro h
      obtain ⟨n, hn, h⟩ := bind_eq_ok_iff.mp h
      obtain ⟨more, hmore, h⟩ := bind_eq_ok_iff.mp h
      cases h
      exact .cons hn (ih.mp hmore)
    · rintro (_ | ⟨hn, hmore⟩)
      exact bind_eq_ok_iff.mpr ⟨_, hn, bind_eq_ok_iff.mpr ⟨_, ih.mpr hmore, rfl⟩⟩

/-- Entries have their meanings one by one. -/
lemma nodePairs_eq_ok_iff {list : List (Outline × Outline)} {entries : List (Node × Node)} :
    node.nodePairs list = .ok entries ↔ List.Forall₂ MeansEntry list entries := by
  induction list generalizing entries with
  | nil =>
    rw [node.nodePairs, List.forall₂_nil_left_iff]
    exact ⟨fun h => (Except.ok.inj h).symm, fun h => congrArg _ h.symm⟩
  | cons entry rest ih =>
    obtain ⟨key, value⟩ := entry
    rw [node.nodePairs]
    constructor
    · intro h
      obtain ⟨k, hk, h⟩ := bind_eq_ok_iff.mp h
      obtain ⟨v, hv, h⟩ := bind_eq_ok_iff.mp h
      obtain ⟨more, hmore, h⟩ := bind_eq_ok_iff.mp h
      cases h
      exact .cons ⟨hk, hv⟩ (ih.mp hmore)
    · rintro (_ | ⟨hentry, hmore⟩)
      exact bind_eq_ok_iff.mpr ⟨_, hentry.key, bind_eq_ok_iff.mpr ⟨_, hentry.value,
        bind_eq_ok_iff.mpr ⟨_, ih.mpr hmore, rfl⟩⟩⟩

end Outline

/-! ## Building -/

namespace Document

open Outline (Spells)

variable {d : Document} {build : Builder} {inner : Option Builder} {path : String}
  {r r' : Remainder}

/-- A builder makes what the outline of the pieces means. -/
def Follows (d : Document) (phrase : Outline → Outline.Phrase) (build : Builder) : Prop :=
  ∀ path r n r', build path r = .ok (n, r') →
    ∃ o, Spells d (r.pieces.map Prod.fst) (phrase o) (r'.pieces.map Prod.fst) ∧ o.node = .ok n

/-- What does not stand at the front with any place does not stand there. -/
lemma head?_ne {p : Piece} {pieces : List (Piece × Mark)}
    (h : ∀ place rest, pieces = (p, place) :: rest → False) :
    (pieces.map Prod.fst).head? ≠ some p := by
  intro hhead
  obtain ⟨rest, hcons⟩ := List.head?_eq_some_iff.mp hhead
  obtain ⟨⟨_, place⟩, rest', hpieces, rfl, -⟩ := List.map_eq_cons_iff.mp hcons
  exact h place rest' hpieces

/-- Items are what their outlines mean. -/
lemma exists_outlines_of_items (hbuild : d.Follows .node build) {fuel index : ℕ}
    {nodes : List Node} (h : d.items build path fuel index r = .ok (nodes, r')) :
    ∃ list, Spells d (r.pieces.map Prod.fst) (.items list) (r'.pieces.map Prod.fst) ∧
      Outline.node.nodes list = .ok nodes := by
  induction fuel generalizing index r nodes with
  | zero => cases h
  | succ fuel ih =>
    rw [items] at h
    split at h
    · cases h
    · rename_i heq
      cases h
      rw [heq]
      exact ⟨[], .lastItem, rfl⟩
    · rename_i hfront
      obtain ⟨⟨item, r₁⟩, hitem, h⟩ := bind_eq_ok_iff.mp h
      obtain ⟨⟨rest, r₂⟩, hrest, h⟩ := bind_eq_ok_iff.mp h
      cases h
      obtain ⟨o, hspells, ho⟩ := hbuild _ _ _ _ hitem
      obtain ⟨list, hspellsRest, hlist⟩ := ih hrest
      exact ⟨o :: list, .item (head?_ne hfront) hspells hspellsRest,
        bind_eq_ok_iff.mpr ⟨_, ho, bind_eq_ok_iff.mpr ⟨_, hlist, rfl⟩⟩⟩

/-- Entries are what their outlines mean, behind the entries that are done. -/
lemma exists_outlines_of_entries (hbuild : d.Follows .node build) {place : Mark} {fuel : ℕ}
    {done nodes : List (Node × Node)}
    (h : d.entries build path place fuel done r = .ok (nodes, r')) :
    ∃ list more, Spells d (r.pieces.map Prod.fst) (.entries list) (r'.pieces.map Prod.fst) ∧
      Outline.node.nodePairs list = .ok more ∧ nodes = done ++ more := by
  induction fuel generalizing done r with
  | zero => cases h
  | succ fuel ih =>
    rw [entries] at h
    split at h
    · cases h
    · rename_i heq
      cases h
      rw [heq]
      exact ⟨[], [], .lastEntry, rfl, (List.append_nil _).symm⟩
    · rename_i p m rest hfront hpieces
      obtain ⟨⟨key, r₁⟩, hkey, h⟩ := bind_eq_ok_iff.mp h
      dsimp only at h
      split at h
      · cases h
      · obtain ⟨⟨value, r₂⟩, hvalue, h⟩ := bind_eq_ok_iff.mp h
        obtain ⟨k, hspellsKey, hk⟩ := hbuild _ _ _ _ hkey
        obtain ⟨v, hspellsValue, hv⟩ := hbuild _ _ _ _ hvalue
        obtain ⟨list, more, hspellsRest, hlist, rfl⟩ := ih h
        have hne : (r.pieces.map Prod.fst).head? ≠ some .mappingEnd := by
          rw [hpieces, List.map_cons, List.head?_cons]
          rintro ⟨⟩
          exact hfront rfl
        exact ⟨(k, v) :: list, (key, value) :: more,
          .entry hne hspellsKey hspellsValue hspellsRest,
          bind_eq_ok_iff.mpr ⟨_, hk, bind_eq_ok_iff.mpr ⟨_, hv,
            bind_eq_ok_iff.mpr ⟨_, hlist, rfl⟩⟩⟩, by rw [List.append_assoc]; rfl⟩

/-- The collection or scalar at the front is what its outline means. -/
lemma follows_content (hinner : ∀ build ∈ inner, d.Follows .node build) :
    d.Follows .content (d.content inner) := by
  intro path r n r' h
  unfold content at h
  split at h
  · cases h
  · rename_i p place rest hpieces
    rw [hpieces, List.map_cons]
    split at h
    · rename_i tag text style
      dsimp only at h
      split at h
      · rename_i v hv
        cases h
        exact ⟨_, .scalar, map_eq_ok_iff.mpr ⟨v, hv, rfl⟩⟩
      · cases h
    · split at h
      · cases h
      · obtain ⟨⟨nodes, r₁⟩, hitems, h⟩ := bind_eq_ok_iff.mp h
        cases h
        obtain ⟨list, hspells, hlist⟩ := exists_outlines_of_items (hinner _ rfl) hitems
        exact ⟨_, .sequence hspells, map_eq_ok_iff.mpr ⟨_, hlist, rfl⟩⟩
    · split at h
      · cases h
      · obtain ⟨⟨nodes, r₁⟩, hentries, h⟩ := bind_eq_ok_iff.mp h
        cases h
        obtain ⟨list, more, hspells, hlist, rfl⟩ :=
          exists_outlines_of_entries (hinner _ rfl) hentries
        exact ⟨_, .mapping hspells, map_eq_ok_iff.mpr ⟨_, hlist, rfl⟩⟩
    · rename_i hscalar hsequence hmapping
      cases h
      refine ⟨_, .nothing ?_, rfl⟩
      cases p with
      | scalar tag text style => exact absurd rfl (hscalar tag text style)
      | sequenceStart tag => exact absurd rfl (hsequence tag)
      | mappingStart tag => exact absurd rfl (hmapping tag)
      | _ => rfl

/-- A node, or what an alias stands for, is what its outline means. -/
lemma follows_nodeWith (hinner : ∀ build ∈ inner, d.Follows .node build) :
    d.Follows .node (d.nodeWith inner) := by
  intro path r n r' h
  unfold nodeWith at h
  split at h
  · rename_i anchor m rest hpieces
    split at h
    · cases h
    · obtain ⟨⟨target, r₁⟩, htarget, h⟩ := bind_eq_ok_iff.mp h
      cases h
      obtain ⟨o, hspells, ho⟩ := follows_content hinner _ _ _ _ htarget
      rw [hpieces, List.map_cons]
      rw [List.map_drop] at hspells
      exact ⟨o, .jump hspells, ho⟩
  · rename_i hfront
    obtain ⟨o, hspells, ho⟩ := follows_content hinner _ _ _ _ h
    exact ⟨o, .node (fun anchor => head?_ne (hfront anchor)) hspells, ho⟩

/-- Every node of a document is what its outline means. -/
lemma follows_node (depth : ℕ) : d.Follows .node (d.node depth) := by
  induction depth with
  | zero => exact follows_nodeWith nofun
  | succ depth ih =>
    refine follows_nodeWith ?_
    rintro _ ⟨⟩
    exact ih

end Document

/-- The tree of a text is what its outline means. -/
theorem Outline.exists_of_read {text : String} {n : Node} (h : read text = .ok n) :
    ∃ o : Outline, o.IsOf text ∧ o.node = .ok n := by
  obtain ⟨r, hnode⟩ := Document.exists_node_of_toNode (toNode_of_read h)
  obtain ⟨o, hspells, ho⟩ := Document.follows_node 128 _ _ _ _ hnode
  exact ⟨o, ⟨_, hspells⟩, ho⟩

end ConfigCheck.Yaml
