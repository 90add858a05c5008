import ConfigCheck.Proofs.Json.Numeral

/-!
# JSON texts

What a JSON text says without its white space: words, numbers as they are written, strings, arrays,
and objects with all their members in the order of the text (`Source`).  `Reads` tells which parts
of a text say it, case by case as the reader goes on; every value that is read comes from such a
source (`exists_source`).
-/

namespace ConfigCheck.Json

/-- What a JSON text says. -/
inductive Source where
  /-- The word `null`. -/
  | null
  /-- The word `true` or `false`. -/
  | bool (value : Bool)
  /-- A number as it is written, and as it is read. -/
  | number (numeral : Numeral) (value : Number)
  /-- A string. -/
  | string (text : String)
  /-- The items of an array. -/
  | array (items : List Source)
  /-- The members of an object, repeated names included. -/
  | object (members : List (String × Source))

namespace Source

/-- The value. -/
def value : Source → Json
  | .null => .null
  | .bool b => .bool b
  | .number _ n => .number n
  | .string s => .string s
  | .array items => .array (values items)
  | .object members => .object (Members.ofList (namedValues members))
where
  /-- The values of items. -/
  values : List Source → List Json
    | [] => []
    | s :: rest => s.value :: values rest
  /-- The values of members, with their names. -/
  namedValues : List (String × Source) → List (String × Json)
    | [] => []
    | (name, s) :: rest => (name, s.value) :: namedValues rest

/-- A source and all sources inside it. -/
def parts : Source → List Source
  | .array items => .array items :: partsOfItems items
  | .object members => .object members :: partsOfMembers members
  | s => [s]
where
  /-- The sources inside items. -/
  partsOfItems : List Source → List Source
    | [] => []
    | s :: rest => s.parts ++ partsOfItems rest
  /-- The sources inside members. -/
  partsOfMembers : List (String × Source) → List Source
    | [] => []
    | (_, s) :: rest => s.parts ++ partsOfMembers rest

/-- What is inside an item is inside the array. -/
lemma parts_subset_of_mem_items {s : Source} {items : List Source} (h : s ∈ items) :
    s.parts ⊆ (array items).parts := by
  refine List.subset_cons_of_subset _ ?_
  induction h with
  | head rest => exact List.subset_append_left ..
  | tail _ _ ih => exact List.subset_append_of_subset_right _ ih

/-- What is inside a member is inside the object. -/
lemma parts_subset_of_mem_members {m : String × Source} {members : List (String × Source)}
    (h : m ∈ members) : m.2.parts ⊆ (object members).parts := by
  refine List.subset_cons_of_subset _ ?_
  induction h with
  | head rest => exact List.subset_append_left ..
  | tail _ _ ih => exact List.subset_append_of_subset_right _ ih

end Source

/-- A part of a text that says something. -/
inductive Phrase where
  /-- A value. -/
  | value (s : Source)
  /-- Items up to the end of their array; `first` if no comma comes before them. -/
  | items (first : Bool) (list : List Source)
  /-- Members up to the end of their object; `first` if no comma comes before them. -/
  | members (first : Bool) (list : List (String × Source))

/-- A part of a text says something, and this is the rest of the text. -/
inductive Reads : Phrase → List Char → List Char → Prop
  | null {cs rest} (h : skipSpace cs = 'n' :: 'u' :: 'l' :: 'l' :: rest) :
    Reads (.value .null) cs rest
  | true_ {cs rest} (h : skipSpace cs = 't' :: 'r' :: 'u' :: 'e' :: rest) :
    Reads (.value (.bool true)) cs rest
  | false_ {cs rest} (h : skipSpace cs = 'f' :: 'a' :: 'l' :: 's' :: 'e' :: rest) :
    Reads (.value (.bool false)) cs rest
  | number {m n cs rest} (h : skipSpace cs = m.text ++ rest)
      (hn : readNumber m.negative (m.unsigned ++ rest) = .ok (n, rest)) :
    Reads (.value (.number m n)) cs rest
  | string {s cs inside rest} (h : skipSpace cs = '"' :: inside)
      (hs : readString inside = .ok (s, rest)) : Reads (.value (.string s)) cs rest
  | array {list cs inside rest} (h : skipSpace cs = '[' :: inside)
      (hlist : Reads (.items true list) inside rest) : Reads (.value (.array list)) cs rest
  | object {list cs inside rest} (h : skipSpace cs = '\x7b' :: inside)
      (hlist : Reads (.members true list) inside rest) : Reads (.value (.object list)) cs rest
  | itemsEnd {first cs rest} (h : skipSpace cs = ']' :: rest) : Reads (.items first []) cs rest
  | itemsFirst {s list cs behind rest} (hs : Reads (.value s) cs behind)
      (hlist : Reads (.items false list) behind rest) : Reads (.items true (s :: list)) cs rest
  | itemsNext {s list cs behind rest} (h : skipSpace cs = ',' :: behind)
      (hlist : Reads (.items true (s :: list)) behind rest) :
    Reads (.items false (s :: list)) cs rest
  | membersEnd {first cs rest} (h : skipSpace cs = '\x7d' :: rest) :
    Reads (.members first []) cs rest
  | membersFirst {name s list cs inside behind after last rest}
      (h : skipSpace cs = '"' :: inside) (hname : readString inside = .ok (name, behind))
      (hcolon : skipSpace behind = ':' :: after) (hs : Reads (.value s) after last)
      (hlist : Reads (.members false list) last rest) :
    Reads (.members true ((name, s) :: list)) cs rest
  | membersNext {m list cs behind rest} (h : skipSpace cs = ',' :: behind)
      (hlist : Reads (.members true (m :: list)) behind rest) :
    Reads (.members false (m :: list)) cs rest

/-- A text says what its only value says; nothing but white space comes behind it. -/
def Source.IsOf (s : Source) (text : String) : Prop :=
  ∃ rest, Reads (.value s) text.toList rest ∧ skipSpace rest = []

/-- A part of a text says the characters of a string up to its closing quote, and this is the rest
of the text. -/
inductive ReadsString : List Char → List Char → List Char → Prop
  | close {rest} : ReadsString ('"' :: rest) [] rest
  | char {c cs text rest} (hquote : c ≠ '"') (hescape : c ≠ '\\') (hcontrol : 0x20 ≤ c.toNat)
      (h : ReadsString cs text rest) : ReadsString (c :: cs) (c :: text) rest
  | escape {c cs behind text rest} (hc : readEscape cs = .ok (c, behind))
      (h : ReadsString behind text rest) : ReadsString ('\\' :: cs) (c :: text) rest

/-! ## What is read -/

variable {cs rest : List Char}

lemma readWord_eq_ok {value v : Json} {letters : List Char}
    (h : readWord value letters cs = .ok (v, rest)) : v = value ∧ cs = letters ++ rest := by
  induction letters generalizing cs with
  | nil =>
    cases h
    exact ⟨rfl, rfl⟩
  | cons l letters ih =>
    cases cs with
    | nil => cases h
    | cons c cs =>
      rw [readWord] at h
      split at h
      · rename_i heq
        obtain ⟨rfl, rfl⟩ := ih h
        exact ⟨rfl, by rw [heq, List.cons_append]⟩
      · cases h

/-- White space is skipped at once. -/
lemma skipSpace_skipSpace (cs : List Char) : skipSpace (skipSpace cs) = skipSpace cs := by
  induction cs with
  | nil => rfl
  | cons c rest ih =>
    unfold skipSpace at ih ⊢
    rw [List.dropWhile_cons]
    split
    · exact ih
    · rename_i hc
      rw [List.dropWhile_cons_of_neg hc]

/-- White space in front says nothing. -/
lemma Reads.of_skipSpace {p : Phrase} {cs' : List Char} (h : Reads p cs rest)
    (hspace : skipSpace cs' = skipSpace cs) : Reads p cs' rest := by
  induction h generalizing cs' with
  | null h => exact .null (hspace.trans h)
  | true_ h => exact .true_ (hspace.trans h)
  | false_ h => exact .false_ (hspace.trans h)
  | number h hn => exact .number (hspace.trans h) hn
  | string h hs => exact .string (hspace.trans h) hs
  | array h hlist => exact .array (hspace.trans h) hlist
  | object h hlist => exact .object (hspace.trans h) hlist
  | itemsEnd h => exact .itemsEnd (hspace.trans h)
  | itemsFirst _ hlist ihs => exact .itemsFirst (ihs hspace) hlist
  | itemsNext h hlist => exact .itemsNext (hspace.trans h) hlist
  | membersEnd h => exact .membersEnd (hspace.trans h)
  | membersFirst h hname hcolon hs hlist =>
    exact .membersFirst (hspace.trans h) hname hcolon hs hlist
  | membersNext h hlist => exact .membersNext (hspace.trans h) hlist

/-- Whatever is read as a string is said character by character. -/
lemma readStringFrom_eq_ok {fuel : Nat} {taken : List Char} {s : String}
    (h : readStringFrom fuel taken cs = .ok (s, rest)) :
    ∃ text, s = String.ofList (taken.reverse ++ text) ∧ ReadsString cs text rest := by
  induction fuel generalizing taken cs with
  | zero => cases h
  | succ fuel ih =>
    cases cs with
    | nil => cases h
    | cons c cs =>
      rw [readStringFrom] at h
      split at h
      · rename_i hquote
        subst hquote
        cases h
        exact ⟨[], by simp, .close⟩
      · rename_i hquote
        split at h
        · rename_i hescape
          subst hescape
          obtain ⟨⟨c, behind⟩, hc, h⟩ := bind_eq_ok_iff.mp h
          obtain ⟨text, rfl, htext⟩ := ih h
          exact ⟨c :: text, by simp, .escape hc htext⟩
        · rename_i hescape
          split at h
          · cases h
          · rename_i hcontrol
            obtain ⟨text, rfl, htext⟩ := ih h
            exact ⟨c :: text, by simp, .char hquote hescape (Nat.le_of_not_lt hcontrol) htext⟩

/-- Whatever is read as a string is said character by character. -/
lemma readString_eq_ok {s : String} (h : readString cs = .ok (s, rest)) :
    ∃ text, s = String.ofList text ∧ ReadsString cs text rest := readStringFrom_eq_ok h

section

variable {readOne : List Char → Except Refusal (Taken Json)}

/-- Items are read from sources, as the single values are. -/
lemma readItems_eq_ok
    (hone : ∀ {cs v rest}, readOne cs = .ok (v, rest) →
      ∃ s : Source, s.value = v ∧ Reads (.value s) cs rest)
    {fuel : Nat} {first : Bool} {items : List Json} {v : Json}
    (h : readItems readOne fuel first items cs = .ok (v, rest)) :
    ∃ list, v = .array (items.reverse ++ Source.value.values list) ∧
      Reads (.items first list) cs rest := by
  induction fuel generalizing first items cs with
  | zero => cases h
  | succ fuel ih =>
    rw [readItems] at h
    split at h
    · cases h
    · rename_i after heq
      cases h
      exact ⟨[], by simp [Source.value.values], .itemsEnd heq⟩
    · rename_i c after _ heq
      -- One item and what comes behind it, for both ways to get there.
      have hitem : ∀ {cs'}, (readOne cs' >>= fun read =>
          readItems readOne fuel false (read.1 :: items) read.2) = .ok (v, rest) →
          ∃ s list, v = .array (items.reverse ++ Source.value.values (s :: list)) ∧
            Reads (.items true (s :: list)) cs' rest := by
        intro cs' h
        obtain ⟨⟨item, behind⟩, hread, h⟩ := bind_eq_ok_iff.mp h
        obtain ⟨s, rfl, hs⟩ := hone hread
        obtain ⟨list, rfl, hlist⟩ := ih h
        exact ⟨s, list, by simp [Source.value.values], .itemsFirst hs hlist⟩
      split at h
      · rename_i hfirst
        obtain ⟨s, list, hv, hlist⟩ := hitem h
        rw [hfirst]
        refine ⟨s :: list, hv, hlist.of_skipSpace ?_⟩
        rw [← heq, skipSpace_skipSpace]
      · rename_i hfirst
        rw [Bool.not_eq_true] at hfirst
        subst hfirst
        split at h
        · rename_i hcomma
          subst hcomma
          split at h
          · cases h
          · cases h
          · rename_i behind _ hbehind
            obtain ⟨s, list, hv, hlist⟩ := hitem h
            refine ⟨s :: list, hv, .itemsNext heq (hlist.of_skipSpace ?_)⟩
            rw [skipSpace_skipSpace]
        · cases h

/-- A member is read from a string and a source. -/
lemma readMember_eq_ok
    (hone : ∀ {cs v rest}, readOne cs = .ok (v, rest) →
      ∃ s : Source, s.value = v ∧ Reads (.value s) cs rest)
    {name : String} {v : Json} (h : readMember readOne cs = .ok ((name, v), rest)) :
    ∃ behind after s, readString cs = .ok (name, behind) ∧ skipSpace behind = ':' :: after ∧
      Source.value s = v ∧ Reads (.value s) after rest := by
  unfold readMember at h
  obtain ⟨⟨name', behind⟩, hname, h⟩ := bind_eq_ok_iff.mp h
  dsimp only at h
  split at h
  · cases h
  · rename_i after heq
    obtain ⟨⟨v', last⟩, hread, h⟩ := bind_eq_ok_iff.mp h
    cases h
    obtain ⟨s, hv, hs⟩ := hone hread
    exact ⟨behind, after, s, hname, heq, hv, hs⟩
  · cases h

/-- Members are read from sources, as the single values are. -/
lemma readMembers_eq_ok
    (hone : ∀ {cs v rest}, readOne cs = .ok (v, rest) →
      ∃ s : Source, s.value = v ∧ Reads (.value s) cs rest)
    {fuel : Nat} {first : Bool} {members : Members} {v : Json}
    (h : readMembers readOne fuel first members cs = .ok (v, rest)) :
    ∃ list, v = .object ((Source.value.namedValues list).foldl
        (fun members (name, value) => Members.insert members name value) members) ∧
      Reads (.members first list) cs rest := by
  induction fuel generalizing first members cs with
  | zero => cases h
  | succ fuel ih =>
    rw [readMembers] at h
    split at h
    · cases h
    · rename_i after heq
      cases h
      exact ⟨[], rfl, .membersEnd heq⟩
    · rename_i c after _ heq
      -- One member and what comes behind it, for both ways to get there.
      have hmember : ∀ {cs' inside}, skipSpace cs' = '"' :: inside →
          (readMember readOne inside >>= fun read =>
            readMembers readOne fuel false (members.insert read.1.1 read.1.2) read.2) =
              .ok (v, rest) →
          ∃ m list, v = .object ((Source.value.namedValues (m :: list)).foldl
              (fun members (name, value) => Members.insert members name value) members) ∧
            Reads (.members true (m :: list)) cs' rest := by
        intro cs' inside hquote h
        obtain ⟨⟨⟨name, value⟩, last⟩, hread, h⟩ := bind_eq_ok_iff.mp h
        obtain ⟨behind, after, s, hname, hcolon, rfl, hs⟩ := readMember_eq_ok hone hread
        obtain ⟨list, rfl, hlist⟩ := ih h
        exact ⟨(name, s), list, rfl, .membersFirst hquote hname hcolon hs hlist⟩
      split at h
      · rename_i hfirst
        subst hfirst
        split at h
        · rename_i hquote
          subst hquote
          obtain ⟨m, list, hv, hlist⟩ := hmember heq h
          exact ⟨m :: list, hv, hlist⟩
        · cases h
      · rename_i hfirst
        rw [Bool.not_eq_true] at hfirst
        subst hfirst
        split at h
        · rename_i hcomma
          subst hcomma
          split at h
          · cases h
          · rename_i inside hquote
            obtain ⟨m, list, hv, hlist⟩ := hmember hquote h
            exact ⟨m :: list, hv, .membersNext heq hlist⟩
          · cases h
          · cases h
        · cases h

end

/-- A value is read from a source if the values inside it are. -/
lemma readValue_eq_ok_of_inner {depth : Nat} {v : Json}
    (hinner : ∀ {d}, depth = d + 1 → ∀ {cs v rest}, readValue d cs = .ok (v, rest) →
      ∃ s : Source, s.value = v ∧ Reads (.value s) cs rest)
    (h : readValue depth cs = .ok (v, rest)) :
    ∃ s : Source, s.value = v ∧ Reads (.value s) cs rest := by
  unfold readValue at h
  split at h
  · cases h
  · rename_i c inside heq
    split at h
    · obtain ⟨rfl, rfl⟩ := readWord_eq_ok h
      exact ⟨.null, rfl, .null heq⟩
    · obtain ⟨rfl, rfl⟩ := readWord_eq_ok h
      exact ⟨.bool true, rfl, .true_ heq⟩
    · obtain ⟨rfl, rfl⟩ := readWord_eq_ok h
      exact ⟨.bool false, rfl, .false_ heq⟩
    · obtain ⟨⟨n, behind⟩, hn, h⟩ := bind_eq_ok_iff.mp h
      cases h
      obtain ⟨m, hm, rfl, -⟩ := exists_numeral hn
      refine ⟨.number m n, rfl, .number ?_ (hm ▸ hn)⟩
      rw [heq]
      simp [Numeral.text, hm]
    · obtain ⟨⟨s, behind⟩, hs, h⟩ := bind_eq_ok_iff.mp h
      cases h
      exact ⟨.string s, rfl, .string heq hs⟩
    · split at h
      · cases h
      · obtain ⟨list, rfl, hlist⟩ := readItems_eq_ok (hinner rfl) h
        exact ⟨.array list, rfl, .array heq hlist⟩
    · split at h
      · cases h
      · obtain ⟨list, rfl, hlist⟩ := readMembers_eq_ok (hinner rfl) h
        exact ⟨.object list, rfl, .object heq hlist⟩
    · split at h
      · obtain ⟨⟨n, behind⟩, hn, h⟩ := bind_eq_ok_iff.mp h
        cases h
        obtain ⟨m, hm, htext, -⟩ := exists_numeral hn
        refine ⟨.number m n, rfl, .number ?_ ?_⟩
        · rw [heq, htext]
          simp [Numeral.text, hm]
        · rw [hm, ← htext]
          exact hn
      · cases h

/-- Whatever is read as a value comes from a source. -/
theorem readValue_eq_ok {depth : Nat} {v : Json} (h : readValue depth cs = .ok (v, rest)) :
    ∃ s : Source, s.value = v ∧ Reads (.value s) cs rest := by
  induction depth generalizing cs v rest with
  | zero => exact readValue_eq_ok_of_inner (fun hdepth => by cases hdepth) h
  | succ depth ih => exact readValue_eq_ok_of_inner (fun hdepth => by cases hdepth; exact ih) h

/-- Every text that is read has a source with its value. -/
theorem exists_source {text : String} {v : Json} (h : read text = .ok v) :
    ∃ s : Source, s.value = v ∧ s.IsOf text := by
  have hall : readAll text.toList = .ok v := by
    unfold read at h
    dsimp only at h
    split at h
    · cases h
      assumption
    · cases h
  unfold readAll at hall
  obtain ⟨⟨w, rest⟩, hvalue, hall⟩ := bind_eq_ok_iff.mp hall
  dsimp only at hall
  split at hall
  · rename_i hrest
    cases hall
    obtain ⟨s, hs, hreads⟩ := readValue_eq_ok hvalue
    exact ⟨s, hs, rest, hreads, hrest⟩
  · cases hall

end ConfigCheck.Json
