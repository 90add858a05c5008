import ConfigCheck.Uri.Resolve
import Mathlib.Data.List.Basic
import Mathlib.Data.List.TakeWhile
import Mathlib.Data.Nat.Notation
import Mathlib.Tactic.Lemma

/-!
# Identifiers in normal form

An identifier whose text has only small letters and other plain signs in it is in normal form, for
all ways in which the text can be divided into components (`Uri.normalize_of_isSettled`).  One that
has besides a scheme, a host and a path without dots is read from its text
(`Uri.IsPlainPage.read_toString`), and it is resolved against any base to itself
(`Uri.IsPlainPage.resolve_eq`).  From such a page a path of plain names leads to the page beside it
(`Uri.IsPlainReference.resolve_eq`).
-/

namespace ConfigCheck.Uri

/-! ## Texts without octets -/

lemma normalizeOctets_eq_self {s : List Char} (h : '%' ∉ s) : normalizeOctets s = s := by
  induction s with
  | nil => rfl
  | cons c rest ih =>
    rw [List.mem_cons, not_or] at h
    rw [normalizeOctets, ih h.2]
    exact fun _ _ _ heq => absurd heq.symm h.1

lemma lowerHost_eq_self {s : List Char} (h : '%' ∉ s) (hlower : ∀ c ∈ s, c.toLower = c) :
    lowerHost s = s := by
  induction s with
  | nil => rfl
  | cons c rest ih =>
    rw [List.mem_cons, not_or] at h
    obtain ⟨hc, hrest⟩ := List.forall_mem_cons.mp hlower
    rw [lowerHost, hc, ih h.2 hrest]
    exact fun _ _ _ heq => absurd heq.symm h.1

/-- An authority of small letters, without user, port and brackets, is in normal form. -/
lemma normalizeAuthority_eq_self {a : String} (hoctets : '%' ∉ a.toList) (hat : '@' ∉ a.toList)
    (hopen : '[' ∉ a.toList) (hcolon : ':' ∉ a.toList) (hlower : ∀ c ∈ a.toList, c.toLower = c) :
    normalizeAuthority a = a := by
  have huser : a.toList.contains '@' = false := by simpa using hat
  have hport : a.toList.getLast? ≠ some ':' := fun hlast => hcolon (List.mem_of_getLast? hlast)
  have hbracket : a.toList.head? ≠ some '[' := fun hhead => hopen (List.mem_of_mem_head? hhead)
  have hhost : normalizeHost a.toList = a.toList := by
    unfold normalizeHost
    split
    · rename_i heq
      exact absurd (by rw [heq]; rfl) hbracket
    · exact lowerHost_eq_self hoctets hlower
  unfold normalizeAuthority
  simp only [normalizeOctets_eq_self hoctets, huser]
  simp [hport, hhost]

/-! ## Paths without dots -/

/-- What stands in a part of a list stands in the list. -/
lemma mem_intercalate {α : Type} {a : α} {separator part : List α} {parts : List (List α)}
    (hpart : part ∈ parts) (ha : a ∈ part) : a ∈ separator.intercalate parts := by
  induction parts with
  | nil => cases hpart
  | cons first rest ih =>
    cases rest with
    | nil =>
      cases List.mem_singleton.mp hpart
      rwa [List.intercalate_singleton]
    | cons next rest =>
      rw [List.intercalate_cons_cons, List.mem_append]
      rcases List.mem_cons.mp hpart with rfl | hrest
      · exact .inl (List.mem_append_left _ ha)
      · exact .inr (ih hrest)

/-- Segments that are no dots are all kept. -/
lemma foldl_keep_eq {parts : List (List Char)}
    (hparts : ∀ part ∈ parts, part ≠ ['.'] ∧ part ≠ ['.', '.']) (kept : List (List Char)) :
    parts.foldl (fun kept part =>
      if part = ['.'] then kept
      else if part = ['.', '.'] then kept.drop 1
      else part :: kept) kept = parts.reverse ++ kept := by
  induction parts generalizing kept with
  | nil => rfl
  | cons part rest ih =>
    obtain ⟨⟨hone, htwo⟩, hrest⟩ := List.forall_mem_cons.mp hparts
    rw [List.foldl_cons, if_neg hone, if_neg htwo, ih hrest, List.reverse_cons, List.append_assoc,
      List.singleton_append]

/-- A path without dots has no dot segments. -/
lemma removeDots_eq_self {path : List Char} (h : '.' ∉ path) : removeDots path = path := by
  have hjoin : joinSegments (segments path) = path := List.intercalate_splitOn '/'
  have hdots : ∀ part ∈ segments path, part ≠ ['.'] ∧ part ≠ ['.', '.'] := by
    intro part hpart
    have hpath : '.' ∉ part := fun hdot => h (hjoin ▸ mem_intercalate hpart hdot)
    constructor <;> rintro rfl <;> exact hpath List.mem_cons_self
  unfold removeDots
  split
  · rename_i hnone
    rw [← hjoin, hnone]
    rfl
  · rename_i first parts hsegments
    rw [hsegments] at hjoin hdots
    have hparts := (List.forall_mem_cons.mp hdots).2
    dsimp only
    rw [foldl_keep_eq hparts]
    cases hlast : parts.getLast? with
    | none => simpa using hjoin
    | some last =>
      obtain ⟨hone, htwo⟩ := hparts last (List.mem_of_getLast? hlast)
      simpa [hone, htwo] using hjoin

/-! ## Texts with a scheme -/

/-- A character that normal forms leave alone, and that divides an identifier only if it is a
slash. -/
def isSettledChar (c : Char) : Bool :=
  c ∉ ['#', '?', ':', '%', '@', '['] && c.toLower = c

/-- What stands before and behind a colon and two slashes is in normal form, wherever the authority
ends. -/
structure IsSettled (scheme rest : List Char) : Prop where
  /-- All characters are plain. -/
  chars : (scheme ++ rest).all isSettledChar = true
  /-- There is a scheme. -/
  scheme_ne_nil : scheme ≠ []
  /-- The scheme ends at the colon. -/
  slash : '/' ∉ scheme
  /-- There are no dots between the slashes. -/
  dots : ∀ i ∈ List.range (rest.length + 1),
    (rest.drop i).head? = some '/' → removeDots (rest.drop i) = rest.drop i

instance (scheme rest : List Char) : Decidable (IsSettled scheme rest) :=
  decidable_of_iff ((scheme ++ rest).all isSettledChar = true ∧ scheme ≠ [] ∧ '/' ∉ scheme ∧
      ∀ i ∈ List.range (rest.length + 1),
        (rest.drop i).head? = some '/' → removeDots (rest.drop i) = rest.drop i)
    ⟨fun ⟨hchars, hne, hslash, hdots⟩ => ⟨hchars, hne, hslash, hdots⟩,
      fun h => ⟨h.chars, h.scheme_ne_nil, h.slash, h.dots⟩⟩

/-- A sign that is only once in a text divides it in one way. -/
lemma append_cons_inj_of_not_mem {a b c d : List Char} {sign : Char} (hc : sign ∉ c) (hd : sign ∉ d)
    (h : a ++ sign :: b = c ++ sign :: d) : a = c ∧ b = d := by
  rcases List.append_eq_append_iff.mp h with ⟨e, rfl, he⟩ | ⟨e, rfl, he⟩
  · cases e with
    | nil => exact ⟨by simp, (List.cons.inj he).2⟩
    | cons x e =>
      cases he
      exact absurd (List.mem_append_right _ List.mem_cons_self) hc
  · cases e with
    | nil => exact ⟨by simp, (List.cons.inj he).2.symm⟩
    | cons x e =>
      cases he
      exact absurd (List.mem_append_right _ List.mem_cons_self) hd

/-- The text of an identifier without query and fragment. -/
lemma toList_toString {u : Uri} (hquery : u.query = none) (hfragment : u.fragment = none) :
    u.toString.toList = (u.scheme.elim "" (· ++ ":")).toList ++
      ((u.authority.elim "" ("//" ++ ·)).toList ++ u.path.toList) := by
  unfold toString
  rw [hquery, hfragment]
  simp

/-- A fragment is behind a number sign. -/
lemma fragment_eq_none {u : Uri} (h : '#' ∉ u.toString.toList) : u.fragment = none := by
  cases hfragment : u.fragment with
  | none => rfl
  | some f =>
    refine absurd ?_ h
    simp [toString, hfragment]

/-- A query is behind a question mark. -/
lemma query_eq_none {u : Uri} (h : '?' ∉ u.toString.toList) : u.query = none := by
  cases hquery : u.query with
  | none => rfl
  | some q =>
    refine absurd ?_ h
    simp [toString, hquery]

namespace IsSettled

variable {scheme rest : List Char} {c : Char}

lemma toLower_eq (h : IsSettled scheme rest) (hc : c ∈ scheme ++ rest) : c.toLower = c := by
  have hsettled := List.all_eq_true.mp h.chars c hc
  simp only [isSettledChar, Bool.and_eq_true, decide_eq_true_eq] at hsettled
  exact hsettled.2

lemma not_mem (h : IsSettled scheme rest) (hc : isSettledChar c = false) : c ∉ scheme ++ rest :=
  fun hmem => by simpa [hc] using List.all_eq_true.mp h.chars c hmem

/-- The signs that divide an identifier are not in a settled text, but for its colon. -/
lemma sign_not_mem (h : IsSettled scheme rest) (hc : isSettledChar c = false) (hcolon : c ≠ ':')
    (hslash : c ≠ '/') : c ∉ scheme ++ ':' :: '/' :: '/' :: rest := by
  have hout := h.not_mem hc
  rw [List.mem_append, not_or] at hout
  simp [hout, hcolon, hslash]

/-- An authority with a path behind it that together are settled is in normal form. -/
lemma normalize_authority {a path : String} (h : IsSettled scheme (a.toList ++ path.toList)) :
    normalizeAuthority a = a := by
  have hauthority : ∀ {c}, c ∈ a.toList → c ∈ scheme ++ (a.toList ++ path.toList) := fun hc =>
    List.mem_append_right _ (List.mem_append_left _ hc)
  have hsigns : ∀ {c}, isSettledChar c = false → c ∉ a.toList := fun hc hmem =>
    h.not_mem hc (hauthority hmem)
  exact normalizeAuthority_eq_self (hsigns rfl) (hsigns rfl) (hsigns rfl) (hsigns rfl)
    fun c hc => h.toLower_eq (hauthority hc)

/-- A path behind an authority that together are settled has no dot segments. -/
lemma removeDots_path {a path : String} (h : IsSettled scheme (a.toList ++ path.toList))
    (hpath : path.toList.head? = some '/') : removeDots path.toList = path.toList := by
  have hlength : a.toList.length < (a.toList ++ path.toList).length + 1 := by
    rw [List.length_append]
    omega
  have hbehind := h.dots a.toList.length (List.mem_range.mpr hlength)
  rw [List.drop_left'] at hbehind
  · exact hbehind hpath
  · rfl

end IsSettled

/-- An identifier with such a text is in normal form, unless it has no authority where there could
be one. -/
theorem normalize_of_isSettled {u : Uri} {scheme rest : List Char} (h : IsSettled scheme rest)
    (hu : u.toString.toList = scheme ++ ':' :: '/' :: '/' :: rest)
    (hslashes : u.authority = none → u.path.toList.take 2 ≠ ['/', '/']) : u.normalize = u := by
  obtain ⟨uscheme, authority, path, query, fragment⟩ := u
  obtain rfl : fragment = none :=
    fragment_eq_none (hu ▸ h.sign_not_mem rfl (by decide) (by decide))
  obtain rfl : query = none := query_eq_none (hu ▸ h.sign_not_mem rfl (by decide) (by decide))
  have hpercent : '%' ∉ (Uri.toString _).toList :=
    hu ▸ h.sign_not_mem rfl (by decide) (by decide)
  rw [toList_toString rfl rfl] at hu hpercent
  have hoctets : normalizeOctets path.toList = path.toList :=
    normalizeOctets_eq_self fun hmem => hpercent (by simp [hmem])
  cases uscheme with
  | none =>
    cases authority with
    | none =>
      -- All of the text is path.
      have htake : path.toList.take 2 ≠ ['/', '/'] := hslashes rfl
      simp [normalize, hoctets, htake]
    | some a =>
      -- The text begins with a slash.
      cases scheme with
      | nil => exact absurd rfl h.scheme_ne_nil
      | cons c scheme =>
        simp only [Option.elim_none, Option.elim_some, String.toList_empty, String.toList_append,
          List.nil_append] at hu
        have hc : '/' = c := (List.cons.inj hu).1
        exact absurd (hc ▸ List.mem_cons_self) h.slash
  | some s =>
    have hsplit : s.toList ++ ':' :: ((authority.elim "" ("//" ++ ·)).toList ++ path.toList) =
        scheme ++ ':' :: '/' :: '/' :: rest := by
      rw [← hu]
      simp
    have hcolon : ':' ∉ scheme ++ rest := h.not_mem rfl
    rw [List.mem_append, not_or] at hcolon
    obtain ⟨rfl, hbehind⟩ := append_cons_inj_of_not_mem hcolon.1 (by simp [hcolon.2]) hsplit
    cases authority with
    | none =>
      have hpath : path.toList = '/' :: '/' :: rest := hbehind
      exact absurd (by rw [hpath]; rfl) (hslashes rfl)
    | some a =>
      obtain rfl : a.toList ++ path.toList = rest := by
        have hwhole : ("//" ++ a).toList ++ path.toList = '/' :: '/' :: rest := hbehind
        rw [String.toList_append, List.append_assoc] at hwhole
        exact (List.cons.inj (List.cons.inj hwhole).2).2
      have hscheme : s.toLower = s := by
        have hchars : s.toList.map Char.toLower = s.toList.map id :=
          List.map_congr_left fun c hc => h.toLower_eq (List.mem_append_left _ hc)
        rw [List.map_id] at hchars
        exact String.toList_inj.mp (String.toList_map.trans hchars)
      have hdots : (if path.toList.head? = some '/' then removeDots path.toList else path.toList) =
          path.toList := by
        split
        · exact h.removeDots_path ‹_›
        · rfl
      simp [normalize, hscheme, h.normalize_authority, hoctets, hdots]

/-! ## Pages -/

/-- A small letter, a digit or a hyphen. -/
def isSlugChar (c : Char) : Bool := c.isLower || c.isDigit || c = '-'

lemma isAlpha_of_isLower {c : Char} (h : c.isLower = true) : c.isAlpha = true :=
  Bool.or_eq_true_iff.mpr (.inr h)

lemma isNameChar_of_isSlugChar {c : Char} (h : isSlugChar c = true) : isNameChar c = true := by
  unfold isSlugChar at h
  unfold isNameChar isUnreserved
  simp only [Bool.or_eq_true, decide_eq_true_eq] at h
  rcases h with (h | h) | rfl
  · simp [Char.isAlphanum, isAlpha_of_isLower h]
  · simp [Char.isAlphanum, h]
  · decide

/-- No sign that divides an identifier, and no percent sign, can stand in a name. -/
lemma isNameChar_sign {c : Char} (h : c ∈ ['#', '?', ':', '%', '@', '[']) :
    isNameChar c = false := by
  simp only [List.mem_cons, List.not_mem_nil, or_false] at h
  rcases h with rfl | rfl | rfl | rfl | rfl | rfl <;> decide

lemma toLower_of_isSlugChar {c : Char} (h : isSlugChar c = true) : c.toLower = c := by
  have hupper : ¬ (c.val ≥ 'A'.val ∧ c.val ≤ 'Z'.val) := by
    unfold isSlugChar Char.isLower Char.isDigit at h
    simp only [Bool.or_eq_true, decide_eq_true_eq] at h
    rcases h with (h | h) | rfl
    · grind
    · grind
    · decide
  unfold Char.toLower
  rw [dif_neg hupper]

lemma isNameChar_and_ne {c : Char} (h : isSlugChar c = true) :
    isNameChar c = true ∧ c ≠ '%' ∧ c ≠ ':' := by
  refine ⟨isNameChar_of_isSlugChar h, ?_, ?_⟩ <;> rintro rfl <;> cases h

lemma isPathChar_and_ne {c : Char} (h : isSlugChar c = true ∨ c = '/') :
    isPathChar c = true ∧ c ≠ '%' := by
  rcases h with h | rfl
  · obtain ⟨hname, hpercent, -⟩ := isNameChar_and_ne h
    exact ⟨by simp [isPathChar, hname], hpercent⟩
  · decide

/-- Characters of plain names are left alone by normal forms. -/
lemma isSettledChar_of_isSlugChar {c : Char} (h : isSlugChar c = true) :
    isSettledChar c = true := by
  have hsigns : c ∉ ['#', '?', ':', '%', '@', '['] := by
    intro hmem
    have hsign := isNameChar_sign hmem
    rw [isNameChar_of_isSlugChar h] at hsign
    cases hsign
  unfold isSettledChar
  rw [toLower_of_isSlugChar h, decide_eq_true hsigns, decide_eq_true rfl, Bool.and_true]

/-- What is read of a part ends at the first character that it does not allow. -/
lemma readPart_append_of_forall {allowed : Char → Bool} {s rest : List Char}
    (hs : ∀ c ∈ s, allowed c = true ∧ c ≠ '%')
    (hrest : ∀ c, rest.head? = some c → allowed c = false ∧ c ≠ '%') (index : ℕ) :
    readPart allowed index (s ++ rest) = .ok ⟨s, index + s.length, rest⟩ := by
  induction s generalizing index with
  | nil =>
    cases rest with
    | nil => rfl
    | cons c rest =>
      obtain ⟨hc, hpercent⟩ := hrest c rfl
      rw [List.nil_append, readPart, if_neg (by simp [hc])]
      · rfl
      · exact hpercent
  | cons c s ih =>
    obtain ⟨⟨hc, hpercent⟩, htail⟩ := List.forall_mem_cons.mp hs
    rw [List.cons_append, readPart, if_pos hc, ih htail]
    · simp [Nat.add_comm, Nat.add_left_comm]
    · exact hpercent

lemma readPart_of_forall {allowed : Char → Bool} {s : List Char}
    (hs : ∀ c ∈ s, allowed c = true ∧ c ≠ '%') (index : ℕ) :
    readPart allowed index s = .ok ⟨s, index + s.length, []⟩ := by
  have hnil : ∀ c, ([] : List Char).head? = some c → allowed c = false ∧ c ≠ '%' :=
    fun c hc => by cases hc
  have hwhole := readPart_append_of_forall hs hnil index
  rwa [List.append_nil] at hwhole

/-- The identifier with a scheme, a host and a path. -/
def page (scheme host path : String) : Uri where
  scheme := some scheme
  authority := some host
  path := path

/-- A page is plain: its scheme has small letters, its host has names with dots between them, and
its path has names behind slashes. -/
structure IsPlainPage (scheme host path : String) : Prop where
  /-- There is a scheme. -/
  scheme_ne_nil : scheme.toList ≠ []
  /-- It has small letters. -/
  small : scheme.toList.all Char.isLower = true
  /-- There is a host. -/
  host_ne_nil : host.toList ≠ []
  /-- It has names with dots between them. -/
  names : host.toList.all (fun c => isSlugChar c || c = '.') = true
  /-- The path begins with a slash. -/
  slash : path.toList.head? = some '/'
  /-- It has names behind slashes. -/
  segments : path.toList.all (fun c => isSlugChar c || c = '/') = true

lemma toList_page (scheme host path : String) : (page scheme host path).toString.toList =
    scheme.toList ++ ':' :: '/' :: '/' :: (host.toList ++ path.toList) := by
  rw [toList_toString rfl rfl]
  simp [page]

namespace IsPlainPage

variable {scheme host path : String} (h : IsPlainPage scheme host path)

include h

lemma of_mem_scheme {c : Char} (hc : c ∈ scheme.toList) : c.isLower = true :=
  List.all_eq_true.mp h.small c hc

lemma of_mem_host {c : Char} (hc : c ∈ host.toList) : isSlugChar c = true ∨ c = '.' := by
  simpa using List.all_eq_true.mp h.names c hc

lemma of_mem_path {c : Char} (hc : c ∈ path.toList) : isSlugChar c = true ∨ c = '/' := by
  simpa using List.all_eq_true.mp h.segments c hc

/-- A plain page is settled. -/
lemma isSettled : IsSettled scheme.toList (host.toList ++ path.toList) where
  chars := by
    have hslug : ∀ {c : Char}, c.isLower = true → isSettledChar c = true := fun hc =>
      isSettledChar_of_isSlugChar (by simp [isSlugChar, hc])
    rw [List.all_append, List.all_append, Bool.and_eq_true, Bool.and_eq_true, List.all_eq_true,
      List.all_eq_true, List.all_eq_true]
    refine ⟨fun c hc => hslug (h.of_mem_scheme hc), fun c hc => ?_, fun c hc => ?_⟩
    · rcases h.of_mem_host hc with hc | rfl
      · exact isSettledChar_of_isSlugChar hc
      · decide
    · rcases h.of_mem_path hc with hc | rfl
      · exact isSettledChar_of_isSlugChar hc
      · decide
  scheme_ne_nil := h.scheme_ne_nil
  slash hmem := absurd (h.of_mem_scheme hmem) (by decide)
  dots i _ hslash := by
    -- The host has no slash, so a slash is in the path, which has no dots.
    by_cases hi : i < host.toList.length
    · rw [List.head?_drop, List.getElem?_append_left hi] at hslash
      have hmem := List.mem_of_getElem? hslash
      exact absurd (h.of_mem_host hmem) (by decide)
    · rw [List.drop_append, List.drop_eq_nil_of_le (Nat.le_of_not_lt hi), List.nil_append]
      refine removeDots_eq_self fun hdot => ?_
      exact absurd (h.of_mem_path (List.mem_of_mem_drop hdot)) (by decide)

/-- The path of a plain page is read to its end. -/
lemma readPathAfterAuthority_eq (u : Uri) (index : ℕ) :
    readPathAfterAuthority u index path.toList = .ok { u with path } := by
  have hpath : ∀ c ∈ path.toList, isPathChar c = true ∧ c ≠ '%' := fun c hc =>
    isPathChar_and_ne (h.of_mem_path hc)
  obtain ⟨rest, hrest⟩ := List.head?_eq_some_iff.mp h.slash
  unfold readPathAfterAuthority
  rw [readPart_of_forall hpath]
  dsimp only [bind, Except.bind]
  split
  · rename_i c tail hpart
    cases hrest.symm.trans hpart
    rw [if_pos rfl, String.ofList_toList]
    rfl
  · rename_i hpart
    cases hrest.symm.trans hpart

/-- The host of a plain page is read up to the slash behind it. -/
lemma readAuthority_eq (u : Uri) (index : ℕ) :
    readAuthority u index (host.toList ++ path.toList) =
      .ok { u with authority := some host, path } := by
  have hhost : ∀ c ∈ host.toList, isUserChar c = true ∧ c ≠ '%' ∧ c ≠ ':' := by
    intro c hc
    rcases h.of_mem_host hc with hc | rfl
    · obtain ⟨hname, hpercent, hcolon⟩ := isNameChar_and_ne hc
      exact ⟨by simp [isUserChar, hname], hpercent, hcolon⟩
    · decide
  obtain ⟨rest, hrest⟩ := List.head?_eq_some_iff.mp h.slash
  have hfront : readPart isUserChar index (host.toList ++ path.toList) =
      .ok ⟨host.toList, index + host.toList.length, path.toList⟩ := by
    refine readPart_append_of_forall (fun c hc => ⟨(hhost c hc).1, (hhost c hc).2.1⟩) ?_ index
    rw [h.slash]
    rintro c ⟨⟩
    decide
  have hname : host.toList.takeWhile (· != ':') = host.toList :=
    List.takeWhile_eq_self_iff.mpr fun c hc => by simp [(hhost c hc).2.2]
  unfold readAuthority
  rw [hfront]
  dsimp only [bind, Except.bind]
  split
  · rename_i hat
    rw [hrest] at hat
    cases hat
  · rw [if_neg h.host_ne_nil, hname, List.drop_length, String.ofList_toList]
    exact h.readPathAfterAuthority_eq _ _

/-- A plain page is read from its text. -/
theorem read_toString : read (page scheme host path).toString = .ok (page scheme host path) := by
  have hscheme : ∀ c ∈ scheme.toList, isSchemeChar c = true := fun c hc => by
    simp [isSchemeChar, Char.isAlphanum, isAlpha_of_isLower (h.of_mem_scheme hc)]
  have htake : (scheme.toList ++ ':' :: '/' :: '/' :: (host.toList ++ path.toList)).takeWhile
      isSchemeChar = scheme.toList := by
    rw [List.takeWhile_append_of_pos hscheme, List.takeWhile_cons_of_neg (by decide),
      List.append_nil]
  obtain ⟨first, others, hfirst⟩ := List.exists_cons_of_ne_nil h.scheme_ne_nil
  have halpha : (scheme.toList.head?.map Char.isAlpha).getD false = true := by
    have hlower := h.of_mem_scheme (hfirst ▸ List.mem_cons_self)
    rw [hfirst]
    exact isAlpha_of_isLower hlower
  unfold read
  rw [toList_page]
  dsimp only
  rw [htake, List.drop_left]
  refine (if_pos halpha).trans ((h.readAuthority_eq _ _).trans ?_)
  rw [String.ofList_toList]
  rfl

lemma removeDots_eq : removeDots path.toList = path.toList :=
  removeDots_eq_self fun hdot => absurd (h.of_mem_path hdot) (by decide)

/-- A plain page is where it is from everywhere. -/
theorem resolve_eq {base : Uri} (hbase : base.fragment = none) :
    Uri.resolve base (page scheme host path) = .ok (page scheme host path) := by
  have hrooted : Uri.resolve.removeDotsIfRooted path.toList = path.toList :=
    (if_pos h.slash).trans h.removeDots_eq
  unfold Uri.resolve page
  rw [hbase, if_neg (by decide), if_pos Option.isSome_some]
  dsimp only
  rw [hrooted, String.ofList_toList]

/-- A plain page is in normal form. -/
theorem normalize_eq : (page scheme host path).normalize = page scheme host path :=
  normalize_of_isSettled h.isSettled (toList_page scheme host path) fun hnone => by cases hnone

/-- There are no number signs in a plain page. -/
lemma mark_not_mem : '#' ∉ (page scheme host path).toString.toList := by
  rw [toList_page]
  exact h.isSettled.sign_not_mem rfl (by decide) (by decide)

lemma head?_ne_mark : (page scheme host path).toString.toList.head? ≠ some '#' := fun hhead =>
  h.mark_not_mem (List.mem_of_mem_head? hhead)

end IsPlainPage

/-! ## References to other pages -/

/-- The path of a page is kept up to its last slash. -/
lemma mergePaths_page {scheme host front last : String}
    (hfront : front.toList.getLast? = some '/') (hlast : '/' ∉ last.toList) (name : String) :
    mergePaths (page scheme host (front ++ last)) name = (front ++ name).toList := by
  have hskip : ∀ c ∈ last.toList.reverse, (c != '/') = true := fun c hc =>
    bne_iff_ne.mpr fun heq => hlast (heq ▸ List.mem_reverse.mp hc)
  rw [List.getLast?_eq_head?_reverse] at hfront
  obtain ⟨rest, hrest⟩ := List.head?_eq_some_iff.mp hfront
  have hkept : ((front ++ last).toList.reverse.dropWhile (· != '/')).reverse = front.toList := by
    rw [String.toList_append, List.reverse_append, List.dropWhile_append_of_pos hskip, hrest,
      List.dropWhile_cons_of_neg (by decide), ← hrest, List.reverse_reverse]
  have hpath : front ++ last ≠ "" := fun hempty => by
    rw [hempty] at hkept
    rw [← hkept] at hrest
    cases hrest
  unfold mergePaths page
  dsimp only
  rw [if_neg (by simp [hpath]), hkept, String.toList_append]

/-- A reference is plain: it has names with slashes between them, and no slash in front. -/
structure IsPlainReference (name : String) : Prop where
  /-- There is a name. -/
  ne_nil : name.toList ≠ []
  /-- There is no slash in front. -/
  slash : name.toList.head? ≠ some '/'
  /-- There are names with slashes between them. -/
  segments : name.toList.all (fun c => isSlugChar c || c = '/') = true

namespace IsPlainReference

variable {name : String} (h : IsPlainReference name)

include h

lemma of_mem {c : Char} (hc : c ∈ name.toList) : isSlugChar c = true ∨ c = '/' := by
  simpa using List.all_eq_true.mp h.segments c hc

lemma mark_not_mem : '#' ∉ name.toList := fun hmark => absurd (h.of_mem hmark) (by decide)

/-- A plain reference is read as a path. -/
lemma readRelative_eq : readRelative name.toList = .ok { path := name } := by
  have hfirst : ∀ c ∈ name.toList.takeWhile (· != '/'),
      isPlainSegmentChar c = true ∧ c ≠ '%' := by
    intro c hc
    have hslug := (h.of_mem (List.takeWhile_subset _ hc)).resolve_right
      (by simpa using List.mem_takeWhile_imp hc)
    obtain ⟨hname, hpercent, -⟩ := isNameChar_and_ne hslug
    exact ⟨by simp [isPlainSegmentChar, hname], hpercent⟩
  have hrest : ∀ c, (name.toList.dropWhile (· != '/')).head? = some c → c = '/' := by
    intro c hc
    have hnot := List.head?_dropWhile_not (· != '/') name.toList
    rw [hc] at hnot
    simpa using hnot
  have hstop : ∀ c, (name.toList.dropWhile (· != '/')).head? = some c →
      isPlainSegmentChar c = false ∧ c ≠ '%' := fun c hc => by
    rw [hrest c hc]
    decide
  have hpath : ∀ c ∈ name.toList.dropWhile (· != '/'), isPathChar c = true ∧ c ≠ '%' :=
    fun c hc => isPathChar_and_ne (h.of_mem (List.dropWhile_subset _ hc))
  have hsplit : name.toList.takeWhile (· != '/') ++ name.toList.dropWhile (· != '/') =
      name.toList := List.takeWhile_append_dropWhile
  have hpart : readPart isPlainSegmentChar 0 name.toList = .ok
      ⟨name.toList.takeWhile (· != '/'), 0 + (name.toList.takeWhile (· != '/')).length,
        name.toList.dropWhile (· != '/')⟩ := by
    have hwhole := readPart_append_of_forall hfirst hstop 0
    rwa [hsplit] at hwhole
  unfold readRelative
  split
  · rename_i heq
    exact absurd (congrArg List.head? heq) h.slash
  · rw [hpart]
    dsimp only [bind, Except.bind]
    rw [if_neg, readPart_of_forall hpath]
    · dsimp only
      rw [hsplit, String.ofList_toList]
      rfl
    · exact fun hcolon => absurd (hrest ':' hcolon) (by decide)

/-- A plain reference is read from its text. -/
theorem read_eq : read name = .ok { path := name } := by
  unfold read
  dsimp only
  split
  · rename_i rest heq
    have hcolon : ':' ∈ name.toList := List.mem_of_mem_drop (heq ▸ List.mem_cons_self)
    exact absurd (h.of_mem hcolon) (by decide)
  · exact h.readRelative_eq

/-- A plain reference leads from a plain page to the one beside it. -/
theorem resolve_eq {scheme host front last : String}
    (hfront : front.toList.getLast? = some '/') (hlast : '/' ∉ last.toList)
    (hpage : IsPlainPage scheme host (front ++ name)) :
    Uri.resolve (page scheme host (front ++ last)) { path := name } =
      .ok (page scheme host (front ++ name)) := by
  have hname : name ≠ "" := by simpa using h.ne_nil
  unfold Uri.resolve
  rw [if_neg (by simp [page]), if_neg (by simp), if_neg (by simp [page]), if_neg (by simp),
    if_neg hname, if_neg h.slash]
  dsimp only
  rw [mergePaths_page hfront hlast, hpage.removeDots_eq, String.ofList_toList]
  rfl

end IsPlainReference

end ConfigCheck.Uri
