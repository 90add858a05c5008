import ConfigCheck.Proofs.Json.Leaf
import ConfigCheck.Proofs.Json.Ordered

/-!
# Text and back

What is written of a value is read back (`Json.read_pretty`): the text is JSON, nothing stands
behind it, and the value that it gives differs from the one that was written only in the order in
which members stand (`Json.ordered`).

This is so for values whose numbers are integers of at most 64 bits (`Json.isExact`), and that are
nested as deeply as the reader goes.  A text that is written starts with a character that tells its
kind, and what may follow it does not continue it.
-/

namespace ConfigCheck.Json

/-! ## Arrays -/

/-- A value starts with a character that is neither a space nor the end of an array. -/
lemma exists_writePretty_eq_cons {v : Json} (hexact : v.isExact = true) (indent : Nat) :
    ∃ c cs, v.writePretty indent = c :: cs ∧ isSpace c = false ∧ c ≠ ']' := by
  cases v with
  | null => exact ⟨'n', _, rfl, by decide, by decide⟩
  | bool b => cases b <;> exact ⟨_, _, rfl, by decide, by decide⟩
  | string s => exact ⟨'"', _, rfl, by decide, by decide⟩
  | number n =>
    cases n with
    | float x => cases hexact
    | int i =>
      cases i with
      | negSucc n =>
        refine ⟨'-', Nat.toDigits 10 (n + 1), ?_, by decide, by decide⟩
        exact toList_toString_negSucc n
      | ofNat n =>
        have hdigits : (Json.number (.int (.ofNat n))).writePretty indent = Nat.toDigits 10 n :=
          Nat.toList_repr
        obtain ⟨c, digits, hcons⟩ :=
          List.exists_cons_of_ne_nil (Nat.toDigits_ne_nil (b := 10) (n := n))
        have hc : isDigit c = true := isDigit_of_mem_toDigits (hcons ▸ List.mem_cons_self)
        exact ⟨c, digits, hdigits.trans hcons, isSpace_of_isDigit hc, ne_of_isDigit hc (by decide)⟩
  | array items => cases items <;> exact ⟨'[', _, rfl, by decide, by decide⟩
  | object members => cases members <;> exact ⟨'\x7b', _, rfl, by decide, by decide⟩

/-- Items behind the first one. -/
def furtherItems (indent : Nat) (items : List Json) : List Char :=
  items.flatMap fun v => ',' :: (newline (indent + 1) ++ v.writePretty (indent + 1))

lemma prettyItems_cons (indent : Nat) (v : Json) (rest : List Json) :
    writePretty.prettyItems indent (v :: rest) =
      newline (indent + 1) ++ v.writePretty (indent + 1) ++ furtherItems indent rest := by
  induction rest generalizing v with
  | nil => rfl
  | cons w rest ih =>
    rw [writePretty.prettyItems, ih w]
    simp only [furtherItems, List.flatMap_cons, List.cons_append, List.append_assoc]

lemma endsNumber_furtherItems (indent : Nat) (items : List Json) (rest : List Char) :
    EndsNumber (furtherItems indent items ++ (newline indent ++ rest)) := by
  cases items with
  | nil => exact endsNumber_cons (by decide) _
  | cons v items => exact endsNumber_cons (by decide) _

lemma length_le_length_furtherItems (indent : Nat) (items : List Json) :
    items.length ≤ (furtherItems indent items).length := by
  induction items with
  | nil => exact Nat.le_refl 0
  | cons v rest ih =>
    unfold furtherItems at ih ⊢
    rw [List.flatMap_cons, List.length_append, List.length_cons, List.length_cons]
    omega

section

variable {readOne : List Char → Except Refusal (Taken Json)} {indent fuel : Nat}

lemma readItems_end {first : Bool} {taken : List Json} {cs rest : List Char}
    (h : skipSpace cs = ']' :: rest) :
    readItems readOne (fuel + 1) first taken cs = .ok (.array taken.reverse, rest) := by
  rw [readItems, h]
  rfl

lemma readItems_first {taken : List Json} {c : Char} {cs rest : List Char}
    (h : skipSpace cs = c :: rest) (hc : c ≠ ']') :
    readItems readOne (fuel + 1) true taken cs =
      readOne (c :: rest) >>= fun (item, rest) =>
        readItems readOne fuel false (item :: taken) rest := by
  rw [readItems, h]
  split
  · rename_i heq
    cases heq
  · rename_i heq
    exact absurd (List.cons.inj heq).1 hc
  · rename_i heq
    cases heq
    rfl

lemma readItems_next {taken : List Json} {c : Char} {cs inside rest : List Char}
    (h : skipSpace cs = ',' :: inside) (hinside : skipSpace inside = c :: rest) (hc : c ≠ ']') :
    readItems readOne (fuel + 1) false taken cs =
      readOne (c :: rest) >>= fun (item, rest) =>
        readItems readOne fuel false (item :: taken) rest := by
  rw [readItems, h]
  split
  · rename_i heq
    cases heq
  · rename_i heq
    cases heq
  · rename_i heq
    cases heq
    rw [if_neg Bool.false_ne_true, if_pos rfl, hinside]
    split
    · rename_i heq
      cases heq
    · rename_i heq
      exact absurd (List.cons.inj heq).1 hc
    · rfl

/-- The items behind the first one are read back, up to the end of the array. -/
lemma readItems_furtherItems {items : List Json} (taken : List Json) (rest : List Char)
    (hread : ∀ v ∈ items, ∀ tail, EndsNumber tail →
      readOne (v.writePretty (indent + 1) ++ tail) = .ok (v.ordered, tail))
    (hexact : ∀ v ∈ items, v.isExact = true) (hfuel : items.length < fuel) :
    readItems readOne fuel false taken
        (furtherItems indent items ++ (newline indent ++ ']' :: rest)) =
      .ok (.array (taken.reverse ++ items.map ordered), rest) := by
  induction items generalizing fuel taken with
  | nil =>
    obtain ⟨fuel, rfl⟩ := Nat.exists_eq_add_one.mpr hfuel
    have hskip : skipSpace (furtherItems indent [] ++ (newline indent ++ ']' :: rest)) =
        ']' :: rest := by
      rw [furtherItems, List.flatMap_nil, List.nil_append, skipSpace_newline_append,
        skipSpace_cons_of_not (by decide)]
    rw [readItems_end hskip, List.map_nil, List.append_nil]
  | cons v items ih =>
    obtain ⟨fuel, rfl⟩ := Nat.exists_eq_add_one.mpr (Nat.zero_lt_of_lt hfuel)
    obtain ⟨c, cs, hcons, hspace, hc⟩ :=
      exists_writePretty_eq_cons (hexact v List.mem_cons_self) (indent + 1)
    have hone := hread v List.mem_cons_self _ (endsNumber_furtherItems indent items (']' :: rest))
    have hrest := ih (v.ordered :: taken)
      (fun w hw => hread w (List.mem_cons_of_mem _ hw))
      (fun w hw => hexact w (List.mem_cons_of_mem _ hw)) (Nat.lt_of_succ_lt_succ hfuel)
    have htext : furtherItems indent (v :: items) ++ (newline indent ++ ']' :: rest) =
        ',' :: (newline (indent + 1) ++ (v.writePretty (indent + 1) ++
          (furtherItems indent items ++ (newline indent ++ ']' :: rest)))) := by
      simp only [furtherItems, List.flatMap_cons, List.cons_append, List.append_assoc]
    rw [hcons, List.cons_append] at hone
    have hinside : skipSpace (newline (indent + 1) ++ (v.writePretty (indent + 1) ++
        (furtherItems indent items ++ (newline indent ++ ']' :: rest)))) =
          c :: (cs ++ (furtherItems indent items ++ (newline indent ++ ']' :: rest))) := by
      rw [skipSpace_newline_append, hcons, List.cons_append, skipSpace_cons_of_not hspace]
    rw [htext, readItems_next (skipSpace_cons_of_not (by decide) _) hinside hc, hone]
    refine hrest.trans ?_
    rw [List.reverse_cons, List.append_assoc, List.map_cons, List.singleton_append]

/-- The items of an array are read back, behind its bracket. -/
lemma readItems_prettyItems {v : Json} {items : List Json} {rest : List Char}
    (hread : ∀ w ∈ v :: items, ∀ tail, EndsNumber tail →
      readOne (w.writePretty (indent + 1) ++ tail) = .ok (w.ordered, tail))
    (hexact : ∀ w ∈ v :: items, w.isExact = true) (hfuel : items.length + 1 < fuel) :
    readItems readOne fuel true []
        (writePretty.prettyItems indent (v :: items) ++ (newline indent ++ ']' :: rest)) =
      .ok ((array (v :: items)).ordered, rest) := by
  obtain ⟨fuel, rfl⟩ := Nat.exists_eq_add_one.mpr (Nat.zero_lt_of_lt hfuel)
  obtain ⟨c, cs, hcons, hspace, hc⟩ :=
    exists_writePretty_eq_cons (hexact v List.mem_cons_self) (indent + 1)
  have hone := hread v List.mem_cons_self _ (endsNumber_furtherItems indent items (']' :: rest))
  have hrest := readItems_furtherItems [v.ordered] rest
    (fun w hw => hread w (List.mem_cons_of_mem _ hw))
    (fun w hw => hexact w (List.mem_cons_of_mem _ hw)) (Nat.lt_of_succ_lt_succ hfuel)
  rw [hcons, List.cons_append] at hone
  have hskip : skipSpace (writePretty.prettyItems indent (v :: items) ++
      (newline indent ++ ']' :: rest)) =
        c :: (cs ++ (furtherItems indent items ++ (newline indent ++ ']' :: rest))) := by
    rw [prettyItems_cons, List.append_assoc, List.append_assoc, skipSpace_newline_append, hcons,
      List.cons_append, skipSpace_cons_of_not hspace]
  rw [readItems_first hskip hc, hone, ordered_array, List.map_cons]
  exact hrest

end

/-! ## Objects -/

/-- A member behind the quote of its name. -/
def memberText (indent : Nat) (m : String × Json) : List Char :=
  m.1.toList.flatMap escapeChar ++ '"' :: ':' :: ' ' :: m.2.writePretty (indent + 1)

/-- Members behind the first one. -/
def furtherMembers (indent : Nat) (members : List (String × Json)) : List Char :=
  members.flatMap fun m => ',' :: (newline (indent + 1) ++ '"' :: memberText indent m)

lemma prettyMembers_cons (indent : Nat) (m : String × Json) (rest : List (String × Json)) :
    writePretty.prettyMembers indent (m :: rest) =
      newline (indent + 1) ++ '"' :: memberText indent m ++ furtherMembers indent rest := by
  induction rest generalizing m with
  | nil =>
    rw [writePretty.prettyMembers]
    simp [memberText, furtherMembers, writeString]
  | cons w rest ih =>
    rw [writePretty.prettyMembers, ih w]
    simp [memberText, furtherMembers, writeString]

lemma endsNumber_furtherMembers (indent : Nat) (members : List (String × Json))
    (rest : List Char) :
    EndsNumber (furtherMembers indent members ++ (newline indent ++ rest)) := by
  cases members with
  | nil => exact endsNumber_cons (by decide) _
  | cons m members => exact endsNumber_cons (by decide) _

lemma length_le_length_furtherMembers (indent : Nat) (members : List (String × Json)) :
    members.length ≤ (furtherMembers indent members).length := by
  induction members with
  | nil => exact Nat.le_refl 0
  | cons m rest ih =>
    unfold furtherMembers at ih ⊢
    rw [List.flatMap_cons, List.length_append, List.length_cons, List.length_cons]
    omega

section

variable {readOne : List Char → Except Refusal (Taken Json)} {indent fuel : Nat}

/-- A member is read back behind the quote of its name. -/
lemma readMember_memberText {m : String × Json} {rest : List Char}
    (hread : readOne (' ' :: (m.2.writePretty (indent + 1) ++ rest)) = .ok (m.2.ordered, rest)) :
    readMember readOne (memberText indent m ++ rest) = .ok ((m.1, m.2.ordered), rest) := by
  have htext : memberText indent m ++ rest = m.1.toList.flatMap escapeChar ++
      '"' :: (':' :: ' ' :: (m.2.writePretty (indent + 1) ++ rest)) := by
    simp only [memberText, List.append_assoc, List.cons_append]
  rw [htext, readMember]
  refine bind_eq_ok_iff.mpr ⟨_, readString_flatMap_escapeChar m.1 _, ?_⟩
  dsimp only
  rw [skipSpace_cons_of_not (by decide)]
  exact bind_eq_ok_iff.mpr ⟨_, hread, rfl⟩

lemma readMembers_end {first : Bool} {taken : Members} {cs rest : List Char}
    (h : skipSpace cs = '\x7d' :: rest) :
    readMembers readOne (fuel + 1) first taken cs = .ok (.object taken, rest) := by
  rw [readMembers, h]
  rfl

lemma readMembers_first {taken : Members} {cs rest : List Char}
    (h : skipSpace cs = '"' :: rest) :
    readMembers readOne (fuel + 1) true taken cs =
      readMember readOne rest >>= fun ((name, value), rest) =>
        readMembers readOne fuel false (taken.insert name value) rest := by
  rw [readMembers, h]
  rfl

lemma readMembers_next {taken : Members} {cs inside rest : List Char}
    (h : skipSpace cs = ',' :: inside) (hinside : skipSpace inside = '"' :: rest) :
    readMembers readOne (fuel + 1) false taken cs =
      readMember readOne rest >>= fun ((name, value), rest) =>
        readMembers readOne fuel false (taken.insert name value) rest := by
  rw [readMembers, h]
  split
  · rename_i heq
    cases heq
  · rename_i heq
    cases heq
  · rename_i heq
    cases heq
    rw [if_neg Bool.false_ne_true, if_pos rfl, hinside]
    rfl

/-- The members behind the first one are read back, up to the end of the object. -/
lemma readMembers_furtherMembers {members : List (String × Json)} (taken : Members)
    (rest : List Char)
    (hread : ∀ m ∈ members, ∀ tail, EndsNumber tail →
      readOne (' ' :: (m.2.writePretty (indent + 1) ++ tail)) = .ok (m.2.ordered, tail))
    (hfuel : members.length < fuel) :
    readMembers readOne fuel false taken
        (furtherMembers indent members ++ (newline indent ++ '\x7d' :: rest)) =
      .ok (.object ((members.map fun m => (m.1, m.2.ordered)).foldl
        (fun members (name, value) => Members.insert members name value) taken), rest) := by
  induction members generalizing fuel taken with
  | nil =>
    obtain ⟨fuel, rfl⟩ := Nat.exists_eq_add_one.mpr hfuel
    have hskip : skipSpace (furtherMembers indent [] ++ (newline indent ++ '\x7d' :: rest)) =
        '\x7d' :: rest := by
      rw [furtherMembers, List.flatMap_nil, List.nil_append, skipSpace_newline_append,
        skipSpace_cons_of_not (by decide)]
    rw [readMembers_end hskip, List.map_nil, List.foldl_nil]
  | cons m members ih =>
    obtain ⟨fuel, rfl⟩ := Nat.exists_eq_add_one.mpr (Nat.zero_lt_of_lt hfuel)
    have hone := readMember_memberText (hread m List.mem_cons_self _
      (endsNumber_furtherMembers indent members ('\x7d' :: rest)))
    have hrest := ih (taken.insert m.1 m.2.ordered)
      (fun w hw => hread w (List.mem_cons_of_mem _ hw)) (Nat.lt_of_succ_lt_succ hfuel)
    have htext : furtherMembers indent (m :: members) ++ (newline indent ++ '\x7d' :: rest) =
        ',' :: (newline (indent + 1) ++ ('"' :: (memberText indent m ++
          (furtherMembers indent members ++ (newline indent ++ '\x7d' :: rest))))) := by
      simp only [furtherMembers, List.flatMap_cons, List.cons_append, List.append_assoc]
    have hinside : skipSpace (newline (indent + 1) ++ ('"' :: (memberText indent m ++
        (furtherMembers indent members ++ (newline indent ++ '\x7d' :: rest))))) =
          '"' :: (memberText indent m ++
            (furtherMembers indent members ++ (newline indent ++ '\x7d' :: rest))) := by
      rw [skipSpace_newline_append, skipSpace_cons_of_not (by decide)]
    rw [htext, readMembers_next (skipSpace_cons_of_not (by decide) _) hinside, hone]
    exact hrest

/-- The members of an object are read back, behind its brace. -/
lemma readMembers_prettyMembers {m : String × Json} {members : List (String × Json)}
    {rest : List Char}
    (hread : ∀ w ∈ m :: members, ∀ tail, EndsNumber tail →
      readOne (' ' :: (w.2.writePretty (indent + 1) ++ tail)) = .ok (w.2.ordered, tail))
    (hfuel : members.length + 1 < fuel) :
    readMembers readOne fuel true []
        (writePretty.prettyMembers indent (m :: members) ++ (newline indent ++ '\x7d' :: rest)) =
      .ok ((object (m :: members)).ordered, rest) := by
  obtain ⟨fuel, rfl⟩ := Nat.exists_eq_add_one.mpr (Nat.zero_lt_of_lt hfuel)
  have hone := readMember_memberText (hread m List.mem_cons_self _
    (endsNumber_furtherMembers indent members ('\x7d' :: rest)))
  have hrest := readMembers_furtherMembers [(m.1, m.2.ordered)] rest
    (fun w hw => hread w (List.mem_cons_of_mem _ hw)) (Nat.lt_of_succ_lt_succ hfuel)
  have hskip : skipSpace (writePretty.prettyMembers indent (m :: members) ++
      (newline indent ++ '\x7d' :: rest)) = '"' :: (memberText indent m ++
        (furtherMembers indent members ++ (newline indent ++ '\x7d' :: rest))) := by
    rw [prettyMembers_cons, List.append_assoc, List.append_assoc, skipSpace_newline_append,
      List.cons_append, skipSpace_cons_of_not (by decide)]
  rw [readMembers_first hskip, hone, ordered_object, List.map_cons]
  exact hrest

end

/-! ## Values -/

/-- What is written of a value at any indentation is read back, whatever follows it that does not
continue it. -/
def IsReadBack (depth : Nat) (v : Json) : Prop :=
  ∀ indent rest, EndsNumber rest →
    readValue depth (v.writePretty indent ++ rest) = .ok (v.ordered, rest)

/-- A value that holds no other one is read back. -/
lemma isReadBack_of_depth_eq_zero {v : Json} (hexact : v.isExact = true) (hdepth : v.depth = 0)
    (depth : Nat) : v.IsReadBack depth := by
  intro indent rest hrest
  cases v with
  | null => rw [readValue.eq_def]; rfl
  | bool b => cases b <;> (rw [readValue.eq_def]; rfl)
  | string s =>
    have hread : readValue depth ((string s).writePretty indent ++ rest) =
        readString (s.toList.flatMap escapeChar ++ '"' :: rest) >>= fun read =>
          .ok (.string read.1, read.2) := by
      have htext : (string s).writePretty indent ++ rest =
          '"' :: (s.toList.flatMap escapeChar ++ '"' :: rest) := by
        simp only [writePretty, writeLeaf, writeString, List.cons_append, List.append_assoc,
          List.nil_append]
      rw [htext, readValue.eq_def, skipSpace_cons_of_not (by decide)]
      rfl
    rw [hread, readString_flatMap_escapeChar]
    rfl
  | number n =>
    cases n with
    | float x => cases hexact
    | int i =>
      have hbounds : (-2 ^ 63 ≤ i && i < 2 ^ 64) = true := hexact
      rw [Bool.and_eq_true, decide_eq_true_eq, decide_eq_true_eq] at hbounds
      exact readValue_int depth hbounds.1 hbounds.2 hrest
  | array items => cases hdepth
  | object members => cases hdepth

/-- An array is read back if its items are. -/
lemma isReadBack_array {depth : Nat} {items : List Json}
    (hexact : ∀ v ∈ items, v.isExact = true) (hitems : ∀ v ∈ items, v.IsReadBack depth) :
    (array items).IsReadBack (depth + 1) := by
  intro indent rest _
  have hread : ∀ inside, readValue (depth + 1) ('[' :: inside) =
      readItems (readValue depth) (inside.length + 1) true [] inside := by
    intro inside
    rw [readValue.eq_def, skipSpace_cons_of_not (by decide)]
    rfl
  cases items with
  | nil =>
    have htext : (array []).writePretty indent ++ rest = '[' :: (']' :: rest) := rfl
    rw [htext, hread, readItems_end (skipSpace_cons_of_not (by decide) rest)]
    rfl
  | cons v items =>
    have htext : (array (v :: items)).writePretty indent ++ rest =
        '[' :: (writePretty.prettyItems indent (v :: items) ++
          (newline indent ++ ']' :: rest)) := by
      simp only [writePretty, List.cons_append, List.append_assoc, List.nil_append]
    rw [htext, hread]
    refine readItems_prettyItems (fun w hw tail htail => hitems w hw _ tail htail) hexact ?_
    have hlength := length_le_length_furtherItems indent items
    rw [prettyItems_cons]
    simp only [List.length_append, newline, List.length_cons]
    omega

/-- An object is read back if the values of its members are. -/
lemma isReadBack_object {depth : Nat} {members : List (String × Json)}
    (hmembers : ∀ m ∈ members, m.2.IsReadBack depth) :
    (object members).IsReadBack (depth + 1) := by
  intro indent rest _
  have hread : ∀ inside, readValue (depth + 1) ('\x7b' :: inside) =
      readMembers (readValue depth) (inside.length + 1) true [] inside := by
    intro inside
    rw [readValue.eq_def, skipSpace_cons_of_not (by decide)]
    rfl
  cases members with
  | nil =>
    have htext : (object []).writePretty indent ++ rest = '\x7b' :: ('\x7d' :: rest) := rfl
    rw [htext, hread, readMembers_end (skipSpace_cons_of_not (by decide) rest)]
    rfl
  | cons m members =>
    have htext : (object (m :: members)).writePretty indent ++ rest =
        '\x7b' :: (writePretty.prettyMembers indent (m :: members) ++
          (newline indent ++ '\x7d' :: rest)) := by
      simp only [writePretty, List.cons_append, List.append_assoc, List.nil_append]
    have hspace : ∀ cs, readValue depth (' ' :: cs) = readValue depth cs := fun cs => by
      rw [← readValue_skipSpace depth (' ' :: cs), ← readValue_skipSpace depth cs]
      rfl
    rw [htext, hread]
    refine readMembers_prettyMembers (fun w hw tail htail => ?_) ?_
    · rw [hspace]
      exact hmembers w hw _ tail htail
    · have hlength := length_le_length_furtherMembers indent members
      rw [prettyMembers_cons]
      simp only [List.length_append, newline, List.length_cons]
      omega

/-- A value that is nested as deeply as the reader goes is read back. -/
theorem isReadBack {depth : Nat} {v : Json} (hexact : v.isExact = true) (hdepth : v.depth ≤ depth) :
    v.IsReadBack depth := by
  induction depth generalizing v with
  | zero => exact isReadBack_of_depth_eq_zero hexact (Nat.le_zero.mp hdepth) 0
  | succ depth ih =>
    cases v with
    | array items =>
      have hitems := (everywhere_array.mp hexact).2
      exact isReadBack_array hitems fun v hv =>
        ih (hitems v hv) (Nat.le_of_lt_succ (Nat.lt_of_lt_of_le (depth_lt_of_mem_array hv) hdepth))
    | object members =>
      have hmembers := (everywhere_object.mp hexact).2
      exact isReadBack_object fun m hm => ih (hmembers m hm)
        (Nat.le_of_lt_succ (Nat.lt_of_lt_of_le (depth_lt_of_mem_object hm) hdepth))
    | _ => exact isReadBack_of_depth_eq_zero hexact rfl _

/-- The text of a value is read back, also with spaces behind it. -/
theorem read_pretty_append {v : Json} (hexact : v.isExact = true) (hdepth : v.depth ≤ 127)
    (spaces : String) (hspaces : spaces.toList.all isSpace = true) :
    read (v.pretty ++ spaces) = .ok v.ordered := by
  have hrest : EndsNumber spaces.toList := by
    intro c hc
    have hspace := List.all_eq_true.mp hspaces c (List.mem_of_head? hc)
    unfold isSpace at hspace
    simp only [Bool.or_eq_true, decide_eq_true_eq] at hspace
    rcases hspace with ((rfl | rfl) | rfl) | rfl <;> decide
  have hnil : skipSpace spaces.toList = [] :=
    List.dropWhile_eq_nil_iff.mpr (List.all_eq_true.mp hspaces)
  have hall : readAll (v.writePretty 0 ++ spaces.toList) = .ok v.ordered := by
    rw [readAll, isReadBack hexact hdepth 0 _ hrest]
    dsimp only [bind, Except.bind]
    rw [hnil]
    rfl
  unfold read pretty
  rw [String.toList_append, String.toList_ofList]
  dsimp only
  rw [hall]

/-- The text of a value is read back. -/
theorem read_pretty {v : Json} (hexact : v.isExact = true) (hdepth : v.depth ≤ 127) :
    read v.pretty = .ok v.ordered := by
  have h := read_pretty_append hexact hdepth "" rfl
  rwa [String.append_empty] at h

end ConfigCheck.Json
