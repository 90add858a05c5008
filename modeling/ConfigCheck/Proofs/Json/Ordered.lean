import ConfigCheck.Proofs.Json.Place

/-!
# Values in order

Objects are read with their members in order of the names (`Json.ordered`).  No member is lost by
that: each is found again under its name (`Json.get?_ordered`), as long as no name comes twice.

Beside it stands what else a value is judged by when it is written and read back: whether its
numbers are integers of at most 64 bits (`Json.isExact`), and how deeply it is nested.
-/

namespace ConfigCheck.Json

/-! ## The value that is read -/

/-- The value with the members of each object in order of their names. -/
def ordered (value : Json) : Json :=
  match value with
  | .array items => .array (orderedItems items)
  | .object members => .object (Members.ofList (orderedMembers members))
  | v => v
where
  /-- The items, each with its members in order. -/
  orderedItems : List Json → List Json
    | [] => []
    | v :: rest => v.ordered :: orderedItems rest
  /-- The members, the value of each with its members in order. -/
  orderedMembers : List (String × Json) → List (String × Json)
    | [] => []
    | (name, v) :: rest => (name, v.ordered) :: orderedMembers rest

lemma ordered_array (items : List Json) :
    (array items).ordered = .array (items.map ordered) := by
  have hitems : ordered.orderedItems items = items.map ordered := by
    induction items with
    | nil => rfl
    | cons v rest ih => rw [ordered.orderedItems, ih, List.map_cons]
  rw [ordered, hitems]

lemma ordered_object (members : List (String × Json)) :
    (object members).ordered =
      .object (Members.ofList (members.map fun m => (m.1, m.2.ordered))) := by
  have hmembers : ordered.orderedMembers members =
      members.map fun m => (m.1, m.2.ordered) := by
    induction members with
    | nil => rfl
    | cons m rest ih => rw [ordered.orderedMembers, ih, List.map_cons]
  rw [ordered, hmembers]

/-- Other names lead where they led before a member was put in. -/
lemma Members.get?_insert_of_ne {members : Members} {name other : String} (value : Json)
    (hne : other ≠ name) : (members.insert name value).get? other = members.get? other := by
  induction members with
  | nil => simp [Members.insert, Members.get?, List.lookup_cons, beq_false_of_ne hne]
  | cons m rest ih =>
    obtain ⟨n, v⟩ := m
    unfold Members.insert
    split
    · simp [Members.get?, List.lookup_cons, beq_false_of_ne hne]
    · split
      · rename_i heq
        subst heq
        simp [Members.get?, List.lookup_cons, beq_false_of_ne hne]
      · unfold Members.get? at ih ⊢
        rw [List.lookup_cons, List.lookup_cons, ih]

/-- Where no name comes twice, collected members are found under their names, and no others. -/
lemma Members.get?_ofList {entries : List (String × Json)} (hnames : (entries.map Prod.fst).Nodup)
    (name : String) : (Members.ofList entries).get? name = entries.lookup name := by
  -- What has been collected is found unless an entry of the rest replaces it.
  have hfold : ∀ (entries : List (String × Json)) (members : Members),
      (entries.map Prod.fst).Nodup →
        (entries.foldl (fun members entry => members.insert entry.1 entry.2) members).get? name =
          (entries.lookup name).or (members.get? name) := by
    intro entries
    induction entries with
    | nil => intro members _; rfl
    | cons entry rest ih =>
      obtain ⟨n, v⟩ := entry
      intro members hnames
      rw [List.map_cons, List.nodup_cons] at hnames
      rw [List.foldl_cons, ih _ hnames.2, List.lookup_cons]
      by_cases heq : name = n
      · subst heq
        have hrest : rest.lookup name = none := by
          rw [List.lookup_eq_none_iff]
          intro entry hentry
          rw [bne_iff_ne]
          exact fun heq => hnames.1 (List.mem_map.mpr ⟨entry, hentry, heq.symm⟩)
        rw [hrest, Members.get?_insert_self, beq_self_eq_true]
        rfl
      · rw [Members.get?_insert_of_ne v heq, beq_false_of_ne heq]
  exact (hfold entries [] hnames).trans Option.or_none

/-- Every member is found under its name, with its own members in order. -/
theorem get?_ordered {members : List (String × Json)} (hnames : (members.map Prod.fst).Nodup)
    (name : String) :
    (object members).ordered.get? name = (members.lookup name).map ordered := by
  have hnames' : ((members.map fun m => (m.1, m.2.ordered)).map Prod.fst).Nodup := by
    rw [List.map_map]
    exact hnames
  rw [ordered_object, Json.get?, Members.get?_ofList hnames']
  induction members with
  | nil => rfl
  | cons m rest ih =>
    rw [List.map_cons, List.nodup_cons] at hnames
    rw [List.map_cons, List.lookup_cons, List.lookup_cons]
    split
    · rfl
    · exact ih hnames.2 (by rw [List.map_map]; exact hnames.2)

/-- Whether all numbers in a value are integers of at most 64 bits. -/
def isExact (value : Json) : Bool :=
  value.everywhere fun v =>
    match v with
    | .number (.int i) => -2 ^ 63 ≤ i && i < 2 ^ 64
    | .number (.float _) => false
    | _ => true

/-! ## Nesting -/

lemma depth_lt_of_mem_array {items : List Json} {v : Json} (h : v ∈ items) :
    v.depth < (array items).depth := by
  have hitems : v.depth ≤ depth.depthItems items := by
    induction items with
    | nil => cases h
    | cons w rest ih =>
      rw [depth.depthItems]
      rcases List.mem_cons.mp h with rfl | h
      · exact Nat.le_max_left _ _
      · exact Nat.le_trans (ih h) (Nat.le_max_right _ _)
  rw [depth.eq_1]
  exact Nat.lt_succ_of_le hitems

lemma depth_lt_of_mem_object {members : List (String × Json)} {m : String × Json}
    (h : m ∈ members) : m.2.depth < (object members).depth := by
  have hmembers : m.2.depth ≤ depth.depthMembers members := by
    induction members with
    | nil => cases h
    | cons w rest ih =>
      rw [depth.depthMembers]
      rcases List.mem_cons.mp h with rfl | h
      · exact Nat.le_max_left _ _
      · exact Nat.le_trans (ih h) (Nat.le_max_right _ _)
  rw [depth.eq_2]
  exact Nat.lt_succ_of_le hmembers

lemma depth_array_le {items : List Json} {n : Nat} (h : ∀ v ∈ items, v.depth ≤ n) :
    (array items).depth ≤ n + 1 := by
  have hitems : depth.depthItems items ≤ n := by
    induction items with
    | nil => exact Nat.zero_le n
    | cons v rest ih =>
      rw [depth.depthItems]
      exact Nat.max_le.mpr ⟨h v List.mem_cons_self, ih fun w hw => h w (List.mem_cons_of_mem _ hw)⟩
  rw [depth.eq_1]
  exact Nat.succ_le_succ hitems

lemma depth_object_le {members : List (String × Json)} {n : Nat}
    (h : ∀ m ∈ members, m.2.depth ≤ n) : (object members).depth ≤ n + 1 := by
  have hmembers : depth.depthMembers members ≤ n := by
    induction members with
    | nil => exact Nat.zero_le n
    | cons m rest ih =>
      rw [depth.depthMembers]
      exact Nat.max_le.mpr ⟨h m List.mem_cons_self, ih fun w hw => h w (List.mem_cons_of_mem _ hw)⟩
  rw [depth.eq_2]
  exact Nat.succ_le_succ hmembers

end ConfigCheck.Json
