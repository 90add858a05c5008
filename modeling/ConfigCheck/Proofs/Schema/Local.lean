import ConfigCheck.Proofs.Json.Everywhere
import ConfigCheck.Proofs.Schema.Assembly

/-!
# Schemas without references

A value in which no name begins with a dollar sign holds no references, and no schema in it names
itself or a draft.  Read in the latest draft, all its schemas stand in one scope and none of their
keywords leads elsewhere (`isLocal_of_occurs`).  What such a schema finds does not depend on where
references lead (`evaluate_congr`).
-/

namespace ConfigCheck

/-- Whether no name in a value begins with a dollar sign, at any depth. -/
def Json.isUnmarked (value : Json) : Bool :=
  value.everywhere fun v => v.members.all fun m => m.1.toList.head? ≠ some '$'

namespace Json

/-- The names of an unmarked object begin with other characters, and the values of its members are
unmarked. -/
theorem isUnmarked_object {members : Members} :
    (object members).isUnmarked = true ↔
      (∀ m ∈ members, m.1.toList.head? ≠ some '$') ∧ ∀ m ∈ members, m.2.isUnmarked = true := by
  unfold isUnmarked
  rw [everywhere_object]
  refine and_congr_left fun _ => ?_
  change (members.all _ = true) ↔ _
  rw [List.all_eq_true]
  exact forall₂_congr fun m _ => decide_eq_true_iff

/-- The items of an unmarked array are unmarked. -/
theorem isUnmarked_array {items : List Json} :
    (array items).isUnmarked = true ↔ ∀ v ∈ items, v.isUnmarked = true := by
  unfold isUnmarked
  rw [everywhere_array]
  exact and_iff_right rfl

end Json

namespace Schema

/-- An unmarked value does not have the members by which schemas name themselves and drafts. -/
lemma textOf?_eq_none_of_isUnmarked {value : Json} {name : String}
    (hvalue : value.isUnmarked = true) (hname : name.toList.head? = some '$') :
    textOf? value.members name = none := by
  have hget : Json.Members.get? value.members name = none := by
    rw [Json.Members.get?, List.lookup_eq_none_iff]
    intro m hm
    have hmark : m.1.toList.head? ≠ some '$' :=
      decide_eq_true_iff.mp (List.all_eq_true.mp (Json.test_of_everywhere hvalue) m hm)
    have hne : name ≠ m.1 := fun heq => hmark (heq ▸ hname)
    exact bne_iff_ne.mpr hne
  unfold textOf?
  rw [hget, Option.bind_none]

/-- The schema of an unmarked object is read in the scope around it. -/
lemma enter_of_isUnmarked {scope : Scope} (hscope : scope.IsLatest) {members : Json.Members}
    (hmembers : (Json.object members).isUnmarked = true) : scope.enter members = scope := by
  refine Scope.enter_eq_self (textOf?_eq_none_of_isUnmarked hmembers (by decide)) ?_
  refine Draft.identifierOf?_eq_none (textOf?_eq_none_of_isUnmarked hmembers ?_)
  rw [hscope.draft]
  decide

/-! ## Keywords that lead nowhere else -/

/-- Whether a keyword leads nowhere else: it is no reference. -/
def Keyword.isLocal : Keyword → Bool
  | .assertion _ a => a.isNamed
  | .reference _ _ => false
  | _ => true

/-- In the latest draft a member makes no reference unless its name begins with a dollar sign. -/
lemma Keyword.IsMade.isLocal {keyword : String} {k : Keyword} (h : k.IsMade .latest keyword)
    (hkeyword : keyword.toList.head? ≠ some '$') : k.isLocal = true := by
  cases h with
  | rule _ hcontent => exact hcontent.resolve_right (by decide)
  | unusable => rfl
  | reference _ hmark => exact absurd hmark hkeyword
  | compound hk => cases k <;> first | rfl | cases hk

/-! ## Unmarked schemas -/

/-- A schema is what an unmarked value is read into. -/
def IsUnmarked (scope : Scope) (s : Schema) : Prop :=
  ∃ v : Json, v.isUnmarked = true ∧ s = ofJson scope v

/-- The values inside an unmarked value are unmarked. -/
lemma isUnmarked_of_mem_children {v w : Json} (hv : v.isUnmarked = true) (hw : w ∈ v.children) :
    w.isUnmarked = true := by
  cases v with
  | array items => exact Json.isUnmarked_array.mp hv w hw
  | object members =>
    obtain ⟨m, hm, rfl⟩ := List.mem_map.mp hw
    exact (Json.isUnmarked_object.mp hv).2 m hm
  | _ => cases hw

/-- Each keyword of an unmarked schema leads nowhere else, and the schemas inside it are unmarked or
allow all values. -/
lemma IsUnmarked.of_mem {scope : Scope} (hscope : scope.IsLatest) {list : List Keyword}
    {k : Keyword} (h : IsUnmarked scope (.keywords list)) (hk : k ∈ list) :
    k.isLocal = true ∧ ∀ s ∈ k.subschemas, s = .always true ∨ IsUnmarked scope s := by
  obtain ⟨v, hv, hlist⟩ := h
  cases v with
  | object members =>
    rw [ofJson, enter_of_isUnmarked hscope hv] at hlist
    cases hlist
    obtain ⟨hnames, hvalues⟩ := Json.isUnmarked_object.mp hv
    obtain ⟨p, hp, hbuilt⟩ := exists_isBuilt_of_mem_assemble hk
    rw [partsOf_eq_map] at hp
    obtain ⟨m, hm, rfl⟩ := List.mem_map.mp hp
    have hmade := hbuilt.made
    rw [hscope.draft] at hmade
    refine ⟨hmade.isLocal (hnames m hm), fun s hs => ?_⟩
    refine (hbuilt.offered s hs).exists_eq_ofJson.imp_right ?_
    rintro ⟨n, hn, w, hw, rfl⟩
    refine ⟨w, ?_, rfl⟩
    rcases List.mem_cons.mp hw with rfl | hw
    · exact hvalues n hn
    · exact isUnmarked_of_mem_children (hvalues n hn) hw
  | _ =>
    rw [ofJson] at hlist
    · cases hlist
    all_goals simp

/-- No keyword in an unmarked schema leads anywhere else. -/
theorem isLocal_of_occurs {scope : Scope} (hscope : scope.IsLatest) {k : Keyword} {s : Schema}
    (hs : IsUnmarked scope s) (hk : Occurs k s) : k.isLocal = true := by
  induction hk with
  | here hmem => exact (hs.of_mem hscope hmem).1
  | inside hmem hsub hk ih =>
    rcases (hs.of_mem hscope hmem).2 _ hsub with rfl | hs
    · cases hk
    · exact ih hs

/-! ## Evaluation without references -/

section

variable {f g : Reference → Json → Outcome}

lemma branchesOf_congr {list : List Schema} (h : ∀ s ∈ list, evaluate f s = evaluate g s)
    (v : Json) : branchesOf f list v = branchesOf g list v := by
  rw [branchesOf_eq_map, branchesOf_eq_map]
  exact List.map_congr_left fun s hs => by rw [h s hs]

lemma ofNames_congr {list : List (String × Schema)}
    (h : ∀ s ∈ list.map (·.2), evaluate f s = evaluate g s) (members : Json.Members) :
    ofNames f list members = ofNames g list members := by
  induction list with
  | nil => rw [ofNames, ofNames]
  | cons m rest ih =>
    obtain ⟨hfirst, hrest⟩ := List.forall_mem_cons.mp h
    rw [ofNames, ofNames, hfirst, ih hrest]

lemma ofName_congr {list : List (String × Schema)}
    (h : ∀ s ∈ list.map (·.2), evaluate f s = evaluate g s) (name : String) (w : Json) :
    ofName f list name w = ofName g list name w := by
  induction list with
  | nil => rw [ofName, ofName]
  | cons m rest ih =>
    obtain ⟨hfirst, hrest⟩ := List.forall_mem_cons.mp h
    rw [ofName, ofName, hfirst, ih hrest]

lemma ofPatterns_congr {list : List (Regex.Pattern × Schema)}
    (h : ∀ s ∈ list.map (·.2), evaluate f s = evaluate g s) (members : Json.Members) :
    ofPatterns f list members = ofPatterns g list members := by
  induction list with
  | nil => rw [ofPatterns, ofPatterns]
  | cons m rest ih =>
    obtain ⟨hfirst, hrest⟩ := List.forall_mem_cons.mp h
    rw [ofPatterns, ofPatterns, hfirst, ih hrest]

lemma ofMatching_congr {list : List (Regex.Pattern × Schema)}
    (h : ∀ s ∈ list.map (·.2), evaluate f s = evaluate g s) (name : String) (w : Json) :
    ofMatching f list name w = ofMatching g list name w := by
  induction list with
  | nil => rw [ofMatching, ofMatching]
  | cons m rest ih =>
    obtain ⟨hfirst, hrest⟩ := List.forall_mem_cons.mp h
    rw [ofMatching, ofMatching, hfirst, ih hrest]

lemma ofPositions_congr {keyword : String} {list : List Schema}
    (h : ∀ s ∈ list, evaluate f s = evaluate g s) (position : ℕ) (items : List (ℕ × Json)) :
    ofPositions f keyword list position items = ofPositions g keyword list position items := by
  induction list generalizing position items with
  | nil => rw [ofPositions, ofPositions]
  | cons s rest ih =>
    obtain ⟨hfirst, hrest⟩ := List.forall_mem_cons.mp h
    cases items with
    | nil => rw [ofPositions, ofPositions] <;> simp
    | cons item items => rw [ofPositions, ofPositions, hfirst, ih hrest]

/-- What a keyword finds that is no reference does not depend on where references lead if what the
schemas inside it find does not. -/
theorem finding_congr {k : Keyword} (hk : k.isLocal = true)
    (hsub : ∀ s ∈ k.subschemas, evaluate f s = evaluate g s) (v : Json) :
    finding f k v = finding g k v := by
  cases k with
  | reference => cases hk
  | assertion | unusable | noMembers | noPropertyNames => rw [finding, finding]
  | allOf branches | anyOf branches | oneOf branches =>
    have hbranches : ∀ s ∈ branches, evaluate f s = evaluate g s := hsub
    rw [finding, finding, branchesOf_congr hbranches]
  | conditional c t e =>
    rw [finding, finding, hsub c (by simp [Keyword.subschemas]),
      hsub t (by simp [Keyword.subschemas]), hsub e (by simp [Keyword.subschemas])]
  | properties list => rw [finding, finding, ofNames_congr hsub]
  | patternProperties list => rw [finding, finding, ofPatterns_congr hsub]
  | members list patterns others =>
    obtain ⟨hsub, hothers⟩ := List.forall_mem_append.mp hsub
    obtain ⟨hlist, hpatterns⟩ := List.forall_mem_append.mp hsub
    rw [finding, finding]
    simp only [ofName_congr hlist, ofMatching_congr hpatterns,
      hothers others (List.mem_singleton_self others)]
  | closedMembers list patterns =>
    obtain ⟨hlist, hpatterns⟩ := List.forall_mem_append.mp hsub
    rw [finding, finding]
    simp only [ofName_congr hlist, ofMatching_congr hpatterns]
  | itemList keyword list =>
    have hlist : ∀ s ∈ list, evaluate f s = evaluate g s := hsub
    rw [finding, finding, ofPositions_congr hlist]
  | contains low high s =>
    unfold finding
    rw [hsub s (List.mem_singleton_self s)]
  | not _ s | condition s | propertyNames s | dependent _ _ s | items _ _ s
  | unevaluatedProperties s | unevaluatedItems s =>
    rw [finding, finding, hsub s (List.mem_singleton_self s)]

end

/-- What a schema finds in which no keyword leads elsewhere does not depend on where references
lead. -/
theorem evaluate_congr {s : Schema} (hs : ∀ k, Occurs k s → k.isLocal = true)
    (f g : Reference → Json → Outcome) : evaluate f s = evaluate g s := by
  induction s using Schema.tree_induction with
  | always verdict =>
    funext v
    cases verdict <;> rw [evaluate, evaluate]
  | unusable value =>
    funext v
    rw [evaluate, evaluate]
  | keywords list ih =>
    funext v
    have hsub : ∀ k ∈ list, ∀ t ∈ k.subschemas, evaluate f t = evaluate g t := fun k hk t ht =>
      ih k hk t ht fun l hl => hs l (.inside hk ht hl)
    rw [evaluate, evaluate, findings_eq_map, findings_eq_map]
    congr 1
    exact List.map_congr_left fun k hk => finding_congr (hs k (.here hk)) (hsub k hk) v

end Schema

end ConfigCheck
