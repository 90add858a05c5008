import ConfigCheck.Json.Path
import ConfigCheck.Proofs.Json.Everywhere
import Mathlib.Data.List.Nodup

/-!
# Places and pointers

A pointer is read back into the tokens from which it was written (`Json.pointerTokens_pointerText`),
so a place that is handed on as a pointer is the place that tokens stand for
(`Json.resolvePointer_pointerText`).  Each token takes its kind from the value: below an object it
is a name (`Json.typeTokens_member`), below an array it is the index that it writes
(`Json.typeTokens_item`).  So a place that exists in a value comes back from its pointer segment by
segment (`Json.resolvePointer_pointer`).

Names lead to one member only if no name comes twice, and only an index below `Json.indexLimit` is
read back from its text.  Values of documents are so (`Json.isWellFormed`).
-/

namespace ConfigCheck.Json

/-! ## Values of documents -/

/-- How many items an array can have: one for each index that can be written. -/
def indexLimit : Nat := 2 ^ 64

/-- Whether a value is one that a document can have: in no object a name comes twice, and no array
has more items than there are indices. -/
def isWellFormed (value : Json) : Bool :=
  value.everywhere fun v =>
    match v with
    | .array items => items.length ≤ indexLimit
    | .object members => (members.map Prod.fst).Nodup
    | _ => true

/-- An array is well-formed if it is not too long and its items are. -/
theorem isWellFormed_array {items : List Json} :
    (array items).isWellFormed = true ↔
      items.length ≤ indexLimit ∧ ∀ v ∈ items, v.isWellFormed = true := by
  unfold isWellFormed
  rw [everywhere_array, decide_eq_true_iff]

/-- An object is well-formed if no name comes twice and the values of its members are. -/
theorem isWellFormed_object {members : Members} :
    (object members).isWellFormed = true ↔
      (members.map Prod.fst).Nodup ∧ ∀ m ∈ members, m.2.isWellFormed = true := by
  unfold isWellFormed
  rw [everywhere_object, decide_eq_true_iff]

/-- What is found under a name is a member. -/
theorem Members.mem_of_get? {members : Members} {name : String} {v : Json}
    (h : Members.get? members name = some v) : (name, v) ∈ members := by
  unfold Members.get? at h
  obtain ⟨before, after, rfl, -⟩ := List.lookup_eq_some_iff.mp h
  exact List.mem_append_right _ List.mem_cons_self

/-- Where no name comes twice, a member is found under its name. -/
theorem Members.get?_of_mem {members : Members} {name : String} {v : Json}
    (hnames : (members.map Prod.fst).Nodup) (hmem : (name, v) ∈ members) :
    Members.get? members name = some v := by
  induction members with
  | nil => cases hmem
  | cons m rest ih =>
    obtain ⟨first, w⟩ := m
    rw [List.map_cons, List.nodup_cons] at hnames
    unfold Members.get?
    rcases List.mem_cons.mp hmem with heq | hrest
    · cases heq
      exact List.lookup_cons_self
    · have hne : name ≠ first := fun heq =>
        hnames.1 (List.mem_map.mpr ⟨(name, v), hrest, heq⟩)
      rw [List.lookup_cons, beq_false_of_ne hne]
      exact ih hnames.2 hrest

/-! ## Tokens in a pointer -/

lemma unescapeChars_cons {c : Char} (hc : c ≠ '~') (rest : List Char) :
    unescapeChars (c :: rest) = c :: unescapeChars rest := by
  rw [unescapeChars.eq_def]
  split <;> simp_all

/-- What is written for a token stands for the token. -/
theorem unescapeChars_flatMap_escapePointerChar (s : List Char) :
    unescapeChars (s.flatMap escapePointerChar) = s := by
  induction s with
  | nil => rfl
  | cons c rest ih =>
    rw [List.flatMap_cons]
    by_cases htilde : c = '~'
    · subst htilde
      simp [escapePointerChar, unescapeChars, ih]
    · by_cases hslash : c = '/'
      · subst hslash
        simp [escapePointerChar, unescapeChars, ih]
      · have hself : escapePointerChar c = [c] := by simp [escapePointerChar, htilde, hslash]
        rw [hself, List.singleton_append, unescapeChars_cons htilde, ih]

/-- The text that is written for a token stands for the token. -/
lemma unescapeToken_escapeToken (token : String) :
    unescapeToken (String.ofList (escapeToken token)) = token := by
  unfold unescapeToken escapeToken
  rw [String.toList_ofList, unescapeChars_flatMap_escapePointerChar, String.ofList_toList]

lemma replacePair_cons {c first : Char} (hc : c ≠ first) (second replacement : Char)
    (rest : List Char) :
    replacePair first second replacement (c :: rest) =
      c :: replacePair first second replacement rest := by
  cases rest with
  | nil => rfl
  | cons d rest =>
    rw [replacePair]
    simp [hc]

/-- Once the slashes are back, only the tildes of a token are still written as pairs. -/
lemma replacePair_slash (s : List Char) :
    replacePair '~' '1' '/' (s.flatMap escapePointerChar) =
      s.flatMap fun c => if c = '~' then ['~', '0'] else [c] := by
  induction s with
  | nil => rfl
  | cons c rest ih =>
    rw [List.flatMap_cons, List.flatMap_cons]
    by_cases htilde : c = '~'
    · subst htilde
      have hzero := replacePair_cons (by decide : '0' ≠ '~') '1' '/'
        (rest.flatMap escapePointerChar)
      simp [escapePointerChar, replacePair, hzero, ih]
    · by_cases hslash : c = '/'
      · subst hslash
        simp [escapePointerChar, replacePair, ih]
      · have hself : escapePointerChar c = [c] := by simp [escapePointerChar, htilde, hslash]
        rw [hself, if_neg htilde, List.singleton_append, List.singleton_append,
          replacePair_cons htilde, ih]

/-- Then the tildes come back. -/
lemma replacePair_tilde (s : List Char) :
    replacePair '~' '0' '~' (s.flatMap fun c => if c = '~' then ['~', '0'] else [c]) = s := by
  induction s with
  | nil => rfl
  | cons c rest ih =>
    rw [List.flatMap_cons]
    by_cases htilde : c = '~'
    · subst htilde
      simp [replacePair, ih]
    · rw [if_neg htilde, List.singleton_append, replacePair_cons htilde, ih]

/-- A token is what its text becomes if the escapes are replaced one after the other. -/
theorem decodeToken_escapeToken (token : String) :
    decodeToken (String.ofList (escapeToken token)) = token := by
  unfold decodeToken escapeToken
  rw [String.toList_ofList, replacePair_slash, replacePair_tilde, String.ofList_toList]

/-- No slash is written for a token. -/
lemma slash_notMem_escapeToken (token : String) : '/' ∉ escapeToken token := by
  intro h
  obtain ⟨c, -, hc⟩ := List.mem_flatMap.mp h
  unfold escapePointerChar at hc
  split at hc
  · simp at hc
  · split at hc
    · simp at hc
    · rename_i hne
      exact hne (List.mem_singleton.mp hc).symm

/-- A part without slashes joins the first part of what follows it. -/
lemma splitSlashes_append {part s : List Char} {parts : List (List Char)} (hpart : '/' ∉ part)
    (hs : splitSlashes s = [] :: parts) : splitSlashes (part ++ s) = part :: parts := by
  induction part with
  | nil => exact hs
  | cons c rest ih =>
    have hc : c ≠ '/' := fun heq => hpart (heq ▸ List.mem_cons_self)
    have hrest : '/' ∉ rest := fun hmem => hpart (List.mem_cons_of_mem _ hmem)
    rw [List.cons_append, splitSlashes, ih hrest]
    simp [hc]

/-- Between the slashes of a pointer stand its tokens, as they are written. -/
lemma splitSlashes_tokens (tokens : List String) :
    splitSlashes (tokens.flatMap fun t => '/' :: escapeToken t) =
      [] :: tokens.map escapeToken := by
  induction tokens with
  | nil => rfl
  | cons token rest ih =>
    rw [List.flatMap_cons, List.cons_append, splitSlashes,
      splitSlashes_append (slash_notMem_escapeToken token) ih]
    simp

/-- The parts of a pointer are the tokens as they are written. -/
lemma pointerParts_pointerText (tokens : List String) :
    pointerParts (pointerText tokens) = tokens.map fun t => String.ofList (escapeToken t) := by
  unfold pointerParts pointerText
  rw [String.toList_ofList, splitSlashes_tokens, List.tail_cons, List.map_map]
  rfl

/-- A pointer is read back into the tokens from which it was written. -/
theorem pointerTokens_pointerText (tokens : List String) :
    pointerTokens (pointerText tokens) = tokens := by
  unfold pointerTokens
  rw [pointerParts_pointerText, List.map_map]
  have hself : (unescapeToken ∘ fun t => String.ofList (escapeToken t)) = id := by
    funext token
    exact unescapeToken_escapeToken token
  rw [hself, List.map_id]

/-- A pointer leads to the place that its tokens stand for. -/
theorem resolvePointer_pointerText (tokens : List String) (value : Json) :
    resolvePointer (pointerText tokens) value = typeTokens (some value) tokens := by
  unfold resolvePointer
  rw [pointerParts_pointerText, List.map_map]
  have hself : (decodeToken ∘ fun t => String.ofList (escapeToken t)) = id := by
    funext token
    exact decodeToken_escapeToken token
  rw [hself, List.map_id]

/-! ## Kinds of tokens -/

/-- The number that the text of an index writes is the index. -/
theorem indexOfToken?_toString {i : Nat} (hi : i < indexLimit) :
    indexOfToken? (toString i) = some i := by
  have hchars : (toString i).toList = Nat.toDigits 10 i := Nat.toList_repr
  have hdigit : ∀ c ∈ Nat.toDigits 10 i, c.isDigit = true := fun c hc =>
    Nat.isDigit_of_mem_toDigits (by decide) (by decide) hc
  have hplus : ∀ rest, Nat.toDigits 10 i ≠ '+' :: rest := fun rest heq =>
    absurd (hdigit '+' (heq ▸ List.mem_cons_self)) (by decide)
  have hvalue : (Nat.toDigits 10 i).foldl (fun n c => n * 10 + (c.toNat - '0'.toNat)) 0 = i := by
    have h := Nat.ofDigitChars_ten_toDigits (n := i)
    rw [Nat.ofDigitChars_eq_foldl] at h
    simpa only [Nat.mul_comm] using h
  have hall : (Nat.toDigits 10 i).all Char.isDigit = true := List.all_eq_true.mpr hdigit
  unfold indexOfToken?
  rw [hchars]
  split
  · rename_i rest heq
    exact absurd heq (hplus rest)
  · simp only [hvalue, hall, Nat.toDigits_ne_nil, decide_false, Bool.not_true, Bool.or_self]
    exact if_pos hi

/-- A token writes no larger number than an index can be. -/
lemma lt_of_indexOfToken? {token : String} {i : Nat} (h : indexOfToken? token = some i) :
    i < indexLimit := by
  unfold indexOfToken? at h
  simp only [Option.ite_none_left_eq_some, Option.ite_none_right_eq_some, Option.some.injEq] at h
  obtain ⟨-, hlt, rfl⟩ := h
  exact hlt

/-- No index on the way that tokens stand for is larger than an index can be. -/
theorem lt_of_index_mem_typeTokens {value : Option Json} {tokens : List String} {i : Nat}
    (h : Segment.index i ∈ typeTokens value tokens) : i < indexLimit := by
  induction tokens generalizing value with
  | nil =>
    rw [typeTokens] at h
    cases h
  | cons token rest ih =>
    have hkey : ∀ {next}, Segment.index i ∈ .key token :: typeTokens next rest →
        i < indexLimit := fun h => by
      rcases List.mem_cons.mp h with h | h
      · cases h
      · exact ih h
    match value with
    | some (.array items) =>
      rw [typeTokens] at h
      split at h
      · rename_i n hn
        rcases List.mem_cons.mp h with h | h
        · cases h
          exact lt_of_indexOfToken? hn
        · exact ih h
      · exact hkey h
    | some (.object members) => exact hkey h
    | none | some .null | some (.bool _) | some (.number _) | some (.string _) => exact hkey h

/-- Below an object a token is the name of a member. -/
theorem typeTokens_member {members : Members} {name : String} {v : Json}
    (h : Members.get? members name = some v) (tokens : List String) :
    typeTokens (some (.object members)) (name :: tokens) =
      .key name :: typeTokens (some v) tokens := by
  rw [typeTokens, h]

/-- Below an array a token is the index that it writes. -/
theorem typeTokens_item {items : List Json} {i : Nat} {v : Json} (h : items[i]? = some v)
    (hi : i < indexLimit) (tokens : List String) :
    typeTokens (some (.array items)) (toString i :: tokens) =
      .index i :: typeTokens (some v) tokens := by
  rw [typeTokens, indexOfToken?_toString hi]
  exact congrArg (fun next => Segment.index i :: typeTokens next tokens) h

/-! ## Places that exist -/

/-- A place that exists leads on from its first segment. -/
lemma exists_step_of_walk? {value : Json} {s : Segment} {rest : List Segment}
    (h : (value.walk? (s :: rest)).isSome = true) :
    ∃ v, value.step? s = some v ∧ (v.walk? rest).isSome = true := by
  rw [walk?, Option.isSome_bind, Option.any_eq_true] at h
  exact h

/-- The tokens of a place that exists stand for its segments. -/
lemma typeTokens_text {value : Json} {path : List Segment}
    (hexists : (value.walk? path).isSome = true)
    (hindices : ∀ i, .index i ∈ path → i < indexLimit) :
    typeTokens (some value) (path.map Segment.text) = path := by
  induction path generalizing value with
  | nil => rw [List.map_nil, typeTokens]
  | cons s rest ih =>
    obtain ⟨v, hstep, hrest⟩ := exists_step_of_walk? hexists
    have htokens := ih hrest fun i hi => hindices i (List.mem_cons_of_mem _ hi)
    rw [List.map_cons]
    cases s with
    | key name =>
      cases value with
      | object members =>
        rw [Segment.text, typeTokens_member hstep, htokens]
      | _ => cases hstep
    | index i =>
      cases value with
      | array items =>
        rw [Segment.text, typeTokens_item hstep (hindices i List.mem_cons_self), htokens]
      | _ => cases hstep

/-- The pointer of a place that exists in a value leads back to this place, with the kinds of its
segments: whatever its names look like, as long as its indices are no larger than indices can be. -/
theorem resolvePointer_pointer {value : Json} {path : List Segment}
    (hexists : (value.walk? path).isSome = true)
    (hindices : ∀ i, .index i ∈ path → i < indexLimit) :
    resolvePointer (pointer path) value = path := by
  unfold pointer
  rw [resolvePointer_pointerText, typeTokens_text hexists hindices]

/-- A value with names that look like escapes, like an index, and like nothing. -/
def withOddNames : Json :=
  .object [("", .object [("0", .null)]), ("~01/~", .array [.null, .object [("1", .bool true)]])]

/-- Two places in the value with odd names come back from their pointers. -/
theorem resolvePointer_withOddNames :
    (pointer [.key "~01/~", .index 1, .key "1"] = "/~001~1~0/1/1" ∧
      resolvePointer (pointer [.key "~01/~", .index 1, .key "1"]) withOddNames =
        [.key "~01/~", .index 1, .key "1"]) ∧
    pointer [.key "", .key "0"] = "//0" ∧
      resolvePointer (pointer [.key "", .key "0"]) withOddNames = [.key "", .key "0"] := by
  refine ⟨⟨by decide, resolvePointer_pointer (by decide) ?_⟩, by decide,
    resolvePointer_pointer (by decide) ?_⟩
  · intro i hi
    obtain rfl : i = 1 := by simpa using hi
    decide
  · intro i hi
    simp at hi

end ConfigCheck.Json
