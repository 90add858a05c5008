import ConfigCheck.Proofs.Outcome
import ConfigCheck.Schema.Lookup
import Mathlib.Data.List.Basic
import Mathlib.Data.Nat.Notation

/-!
# Identifiers with a fragment

A number sign ends what stands before it: each part of an identifier is read up to it as up to the
end of the text (`readPart_append`), and so is what the parts make up.  So an identifier with a
fragment is the one that is read of the text before the number sign, with the fragment
(`read_append`).

Hosts in brackets are left out: what stands in the brackets goes on behind a number sign.  Such
identifiers are told by the brackets, which stay in the normal form (`HasBracket`).
-/

namespace ConfigCheck.Uri

/-! ## Reading parts before a fragment -/

/-- A part ends at a number sign as at the end of the text. -/
lemma readPart_append {allowed : Char → Bool} (hmark : allowed '#' = false) {index : ℕ}
    {s : List Char} {p : Part} (h : readPart allowed index s = .ok p) (t : List Char) :
    readPart allowed index (s ++ '#' :: t) = .ok { p with rest := p.rest ++ '#' :: t } := by
  fun_induction readPart allowed index s generalizing p with
  | case1 index =>
    cases h
    rw [List.nil_append, readPart, if_neg (by simp [hmark])]
    decide
  | case2 index a b rest hhex q hq ih =>
    cases h
    simp only [List.cons_append]
    rw [readPart, if_pos hhex, ih hq]
  | case3 index a b rest hhex e he ih => cases h
  | case4 index a b rest hhex => cases h
  | case5 index s hs => cases h
  | case6 index c rest hc hallowed q hq ih =>
    cases h
    rw [List.cons_append, readPart, if_pos hallowed, ih hq]
    exact hc
  | case7 index c rest hc hallowed e he ih => cases h
  | case8 index c rest hc hallowed =>
    cases h
    rw [List.cons_append, readPart, if_neg hallowed]
    exact hc

/-- Reads what stands behind path and query. -/
def readEnd (u : Uri) (index : ℕ) (s : List Char) : Except Fault Uri :=
  match s with
  | [] => pure u
  | '#' :: rest => do
    let f ← readPart isQueryChar (index + 1) rest
    if f.rest = [] then pure { u with fragment := some (String.ofList f.chars) }
    else throw (.character f.index)
  | _ => throw (.character index)

/-- The query, if there is one, comes first. -/
lemma readTail_query (u : Uri) (index : ℕ) (rest : List Char) :
    readTail u index ('?' :: rest) = readPart isQueryChar (index + 1) rest >>= fun q =>
      readEnd { u with query := some (String.ofList q.chars) } q.index q.rest := by
  unfold readTail
  rfl

lemma readTail_of_head?_ne (u : Uri) (index : ℕ) {s : List Char} (hs : s.head? ≠ some '?') :
    readTail u index s = readEnd u index s := by
  unfold readTail
  split
  · exact absurd rfl hs
  · rfl

/-- An identifier has a fragment, and another one is the same without it. -/
def AddsFragment (front whole : Uri) : Prop :=
  front.fragment = none ∧ ∃ g, whole = { front with fragment := some g }

/-- What can be read without a fragment ends at it. -/
lemma readEnd_append {u front whole : Uri} (hu : u.fragment = none) {index : ℕ} {s t : List Char}
    (hfront : readEnd u index s = .ok front)
    (hwhole : readEnd u index (s ++ '#' :: t) = .ok whole) :
    AddsFragment front whole := by
  unfold readEnd at hfront
  split at hfront
  · cases hfront
    rw [List.nil_append, readEnd] at hwhole
    obtain ⟨f, -, hwhole⟩ := bind_eq_ok_iff.mp hwhole
    split at hwhole
    · cases hwhole
      exact ⟨hu, _, rfl⟩
    · cases hwhole
  · -- There is a fragment before the number sign, which cannot have one inside.
    rename_i rest
    obtain ⟨f, hf, -⟩ := bind_eq_ok_iff.mp hfront
    rw [List.cons_append, readEnd, readPart_append (by decide) hf] at hwhole
    obtain ⟨f', hf', hwhole⟩ := bind_eq_ok_iff.mp hwhole
    cases hf'
    rw [if_neg (by simp)] at hwhole
    cases hwhole
  · cases hfront

/-- The end of an identifier changes only its fragment. -/
lemma authority_of_readEnd {u w : Uri} {index : ℕ} {s : List Char}
    (h : readEnd u index s = .ok w) : w.authority = u.authority := by
  unfold readEnd at h
  split at h
  · cases h
    rfl
  · obtain ⟨f, -, h⟩ := bind_eq_ok_iff.mp h
    split at h
    · cases h
      rfl
    · cases h
  · cases h

lemma readTail_append {u front whole : Uri} (hu : u.fragment = none) {index : ℕ} {s t : List Char}
    (hfront : readTail u index s = .ok front)
    (hwhole : readTail u index (s ++ '#' :: t) = .ok whole) :
    AddsFragment front whole := by
  by_cases hs : s.head? = some '?'
  · obtain ⟨rest, rfl⟩ := List.head?_eq_some_iff.mp hs
    rw [readTail_query] at hfront
    obtain ⟨q, hq, hfront⟩ := bind_eq_ok_iff.mp hfront
    rw [List.cons_append, readTail_query, readPart_append (by decide) hq] at hwhole
    refine readEnd_append ?_ hfront hwhole
    exact hu
  · have happend : (s ++ '#' :: t).head? ≠ some '?' := by
      cases s with
      | nil => simp
      | cons c rest => exact hs
    rw [readTail_of_head?_ne _ _ hs] at hfront
    rw [readTail_of_head?_ne _ _ happend] at hwhole
    exact readEnd_append hu hfront hwhole

lemma authority_of_readTail {u w : Uri} {index : ℕ} {s : List Char}
    (h : readTail u index s = .ok w) : w.authority = u.authority := by
  by_cases hs : s.head? = some '?'
  · obtain ⟨rest, rfl⟩ := List.head?_eq_some_iff.mp hs
    rw [readTail_query] at h
    obtain ⟨q, -, h⟩ := bind_eq_ok_iff.mp h
    have hend := authority_of_readEnd h
    exact hend
  · rw [readTail_of_head?_ne _ _ hs] at h
    exact authority_of_readEnd h

lemma readPath_append {u front whole : Uri} (hu : u.fragment = none) {index : ℕ} {s t : List Char}
    (hfront : readPath u index s = .ok front)
    (hwhole : readPath u index (s ++ '#' :: t) = .ok whole) :
    AddsFragment front whole := by
  unfold readPath at hfront hwhole
  obtain ⟨p, hp, hfront⟩ := bind_eq_ok_iff.mp hfront
  rw [readPart_append (by decide) hp] at hwhole
  refine readTail_append ?_ hfront hwhole
  exact hu

/-- Behind an authority stands a path that is empty or begins with a slash. -/
lemma readPathAfterAuthority_eq_ok {u w : Uri} {index : ℕ} {s : List Char}
    (h : readPathAfterAuthority u index s = .ok w) :
    ∃ p, readPart isPathChar index s = .ok p ∧
      readTail { u with path := String.ofList p.chars } p.index p.rest = .ok w := by
  unfold readPathAfterAuthority at h
  obtain ⟨p, hp, h⟩ := bind_eq_ok_iff.mp h
  dsimp only at h
  split at h
  · split at h
    · exact ⟨p, hp, h⟩
    · cases h
  · exact ⟨p, hp, h⟩

lemma readPathAfterAuthority_append {u front whole : Uri} (hu : u.fragment = none) {index : ℕ}
    {s t : List Char} (hfront : readPathAfterAuthority u index s = .ok front)
    (hwhole : readPathAfterAuthority u index (s ++ '#' :: t) = .ok whole) :
    AddsFragment front whole := by
  obtain ⟨p, hp, hfront⟩ := readPathAfterAuthority_eq_ok hfront
  obtain ⟨q, hq, hwhole⟩ := readPathAfterAuthority_eq_ok hwhole
  cases (readPart_append (by decide) hp t).symm.trans hq
  refine readTail_append ?_ hfront hwhole
  exact hu

lemma authority_of_readPathAfterAuthority {u w : Uri} {index : ℕ} {s : List Char}
    (h : readPathAfterAuthority u index s = .ok w) : w.authority = u.authority := by
  obtain ⟨p, -, h⟩ := readPathAfterAuthority_eq_ok h
  have htail := authority_of_readTail h
  exact htail

/-! ## Reading hosts before a fragment -/

/-- Characters of a kind end at a number sign that is not of the kind. -/
lemma takeWhile_append {kind : Char → Bool} (hmark : kind '#' = false) (s t : List Char) :
    (s ++ '#' :: t).takeWhile kind = s.takeWhile kind := by
  induction s with
  | nil => simp [hmark]
  | cons c rest ih =>
    rw [List.cons_append, List.takeWhile_cons, List.takeWhile_cons, ih]

lemma readPort_append {p q : Part} (h : readPort p = .ok q) (t : List Char) :
    readPort { p with rest := p.rest ++ '#' :: t } = .ok { q with rest := q.rest ++ '#' :: t } := by
  unfold readPort at h
  split at h
  · rename_i rest hrest
    cases h
    unfold readPort
    rw [hrest]
    simp only [List.cons_append]
    rw [takeWhile_append (by decide)]
    have hlength := (List.takeWhile_sublist Char.isDigit (l := rest)).length_le
    rw [List.drop_append_of_le_length hlength]
  · rename_i hrest
    cases h
    unfold readPort
    dsimp only
    split
    · rename_i rest heq
      cases hp : p.rest with
      | nil =>
        rw [hp] at heq
        cases heq
      | cons c r =>
        rw [hp] at heq
        cases heq
        exact absurd hp (hrest r)
    · rfl

/-- A host that is not in brackets ends at a number sign as at the end of the text. -/
lemma readHost_append {index : ℕ} {s : List Char} {p : Part} (hs : s.head? ≠ some '[')
    (h : readHost index s = .ok p) (t : List Char) :
    readHost index (s ++ '#' :: t) = .ok { p with rest := p.rest ++ '#' :: t } := by
  have happend : (s ++ '#' :: t).head? ≠ some '[' := by
    cases s with
    | nil => simp
    | cons c rest => exact hs
  unfold readHost at h ⊢
  split at h
  · exact absurd rfl hs
  · obtain ⟨q, hq, h⟩ := bind_eq_ok_iff.mp h
    split
    · rename_i heq
      exact absurd (by rw [heq]; rfl) happend
    · rw [readPart_append (by decide) hq]
      exact readPort_append h t

/-- A host in brackets begins with one. -/
lemma exists_of_readHost {index : ℕ} {s : List Char} {p : Part} (hs : s.head? = some '[')
    (h : readHost index s = .ok p) : ∃ rest, p.chars = '[' :: rest := by
  obtain ⟨rest, rfl⟩ := List.head?_eq_some_iff.mp hs
  unfold readHost at h
  obtain ⟨q, hq, h⟩ := bind_eq_ok_iff.mp h
  have hchars : ∃ rest, q.chars = '[' :: rest := by
    unfold readBracketed at hq
    split at hq
    · cases hq
    · dsimp only at hq
      split at hq
      · cases hq
        exact ⟨_, rfl⟩
      · cases hq
  obtain ⟨inner, hinner⟩ := hchars
  unfold readPort at h
  split at h
  · cases h
    exact ⟨_, by rw [hinner]; rfl⟩
  · cases h
    exact ⟨inner, hinner⟩

/-! ## Brackets -/

/-- The normal form of a part that has been read ends where the part does. -/
lemma normalizeOctets_append {allowed : Char → Bool} {index : ℕ} {s : List Char} {p : Part}
    (h : readPart allowed index s = .ok p) (t : List Char) :
    normalizeOctets (p.chars ++ t) = normalizeOctets p.chars ++ normalizeOctets t := by
  fun_induction readPart allowed index s generalizing p with
  | case1 index =>
    cases h
    rfl
  | case2 index a b rest hhex q hq ih =>
    cases h
    simp only [List.cons_append]
    rw [normalizeOctets, normalizeOctets, ih hq]
    split <;> rfl
  | case3 index a b rest hhex e he ih => cases h
  | case4 index a b rest hhex => cases h
  | case5 index s hs => cases h
  | case6 index c rest hc hallowed q hq ih =>
    cases h
    rw [List.cons_append, normalizeOctets, normalizeOctets, ih hq]
    · rfl
    all_goals exact fun a b rest heq => absurd heq hc
  | case7 index c rest hc hallowed e he ih => cases h
  | case8 index c rest hc hallowed =>
    cases h
    rfl

lemma bracket_mem_lowerHost {host : List Char} (h : '[' ∈ host) : '[' ∈ lowerHost host := by
  fun_induction lowerHost host with
  | case1 a b rest ih =>
    simp only [List.mem_cons] at h ⊢
    tauto
  | case2 c rest hc ih =>
    rcases List.mem_cons.mp h with rfl | h
    · exact List.mem_cons_self
    · exact List.mem_cons_of_mem _ (ih h)
  | case3 => cases h

lemma bracket_mem_normalizeHost {host : List Char} (h : '[' ∈ host) : '[' ∈ normalizeHost host := by
  unfold normalizeHost
  split
  · split
    · exact List.mem_append_left _ List.mem_cons_self
    · exact bracket_mem_lowerHost h
  · exact bracket_mem_lowerHost h

/-- A bracket in a host is not the colon that is dropped at its end. -/
lemma bracket_mem_dropColon {host : List Char} (h : '[' ∈ host) :
    '[' ∈ if host.getLast? = some ':' then host.dropLast else host := by
  split
  · rename_i hlast
    obtain ⟨front, rfl⟩ := List.getLast?_eq_some_iff.mp hlast
    rw [List.dropLast_concat]
    exact (List.mem_append.mp h).resolve_right (by simp)
  · exact h

/-- A bracket in an authority stays in its normal form. -/
lemma bracket_mem_normalizeAuthority {authority : String}
    (h : '[' ∈ normalizeOctets authority.toList) : '[' ∈ (normalizeAuthority authority).toList := by
  have hhost : ∀ {host : List Char}, '[' ∈ host →
      '[' ∈ normalizeHost (if host.getLast? = some ':' then host.dropLast else host) := fun hmem =>
    bracket_mem_normalizeHost (bracket_mem_dropColon hmem)
  unfold normalizeAuthority
  dsimp only
  rw [String.toList_ofList]
  generalize normalizeOctets authority.toList = s at h
  split
  · rw [← List.takeWhile_append_dropWhile (p := (· != '@')) (l := s), List.mem_append] at h
    rcases h with h | h
    · exact List.mem_append_left _ (List.mem_append_left _ h)
    · cases hrest : s.dropWhile (· != '@') with
      | nil =>
        rw [hrest] at h
        cases h
      | cons c rest =>
        have hmark : c = '@' := by
          have hhead := List.head?_dropWhile_not (· != '@') s
          rw [hrest] at hhead
          simpa using hhead
        have hs : s.takeWhile (· != '@') ++ c :: rest = s := by
          rw [← hrest]
          exact List.takeWhile_append_dropWhile
        have hdrop := congrArg (List.drop ((s.takeWhile (· != '@')).length + 1)) hs
        rw [List.drop_length_add_append, List.drop_succ_cons, List.drop_zero] at hdrop
        rw [hrest, hmark] at h
        refine List.mem_append_right _ (hhost ?_)
        dsimp only
        rw [← hdrop]
        exact (List.mem_cons.mp h).resolve_left (by decide)
  · exact hhost h

/-! ## Reading identifiers before a fragment -/

/-- An authority is a host behind an at sign, a host alone, or a name with a port. -/
lemma readAuthority_eq_ok {u w : Uri} {index : ℕ} {s : List Char}
    (h : readAuthority u index s = .ok w) : ∃ p, readPart isUserChar index s = .ok p ∧
      ((∃ rest host, p.rest = '@' :: rest ∧ readHost (p.index + 1) rest = .ok host ∧
          readPathAfterAuthority
            { u with authority := some (String.ofList (p.chars ++ '@' :: host.chars)) }
            host.index host.rest = .ok w) ∨
        (p.rest.head? ≠ some '@' ∧ p.chars = [] ∧ ∃ host, readHost index s = .ok host ∧
          readPathAfterAuthority { u with authority := some (String.ofList host.chars) }
            host.index host.rest = .ok w) ∨
        (p.rest.head? ≠ some '@' ∧ p.chars ≠ [] ∧
          readPathAfterAuthority { u with authority := some (String.ofList p.chars) }
            p.index p.rest = .ok w)) := by
  unfold readAuthority at h
  obtain ⟨p, hp, h⟩ := bind_eq_ok_iff.mp h
  refine ⟨p, hp, ?_⟩
  split at h
  · rename_i rest hrest
    obtain ⟨host, hhost, h⟩ := bind_eq_ok_iff.mp h
    exact .inl ⟨rest, host, hrest, hhost, h⟩
  · rename_i hrest
    have hmark : p.rest.head? ≠ some '@' := fun hhead =>
      have ⟨rest, heq⟩ := List.head?_eq_some_iff.mp hhead
      hrest rest heq
    split at h
    · rename_i hchars
      obtain ⟨host, hhost, h⟩ := bind_eq_ok_iff.mp h
      exact .inr (.inl ⟨hmark, hchars, host, hhost, h⟩)
    · rename_i hchars
      dsimp only at h
      split at h
      · cases h
      · split at h
        · cases h
        · exact .inr (.inr ⟨hmark, hchars, h⟩)

/-- An identifier has brackets in its authority, also in normal form. -/
def HasBracket (u : Uri) : Prop :=
  ∃ a, u.authority = some a ∧ '[' ∈ (normalizeAuthority a).toList

/-- A host that is not in brackets, and the path behind it, end at a number sign as at the end of
the text. -/
lemma readHost_path_append {u front whole : Uri} (hu : u.fragment = none) {before : List Char}
    (hbefore : ∀ t, '[' ∈ normalizeOctets t → '[' ∈ normalizeOctets (before ++ t)) {index : ℕ}
    {s t : List Char} {host host' : Part} (hhost : readHost index s = .ok host)
    (hhost' : readHost index (s ++ '#' :: t) = .ok host')
    (hfront : readPathAfterAuthority
      { u with authority := some (String.ofList (before ++ host.chars)) }
      host.index host.rest = .ok front)
    (hwhole : readPathAfterAuthority
      { u with authority := some (String.ofList (before ++ host'.chars)) }
      host'.index host'.rest = .ok whole) :
    HasBracket front ∨ AddsFragment front whole := by
  by_cases hs : s.head? = some '['
  · obtain ⟨rest, hrest⟩ := exists_of_readHost hs hhost
    refine .inl ⟨_, authority_of_readPathAfterAuthority hfront, bracket_mem_normalizeAuthority ?_⟩
    rw [String.toList_ofList, hrest]
    refine hbefore _ ?_
    rw [normalizeOctets]
    · exact List.mem_cons_self
    · simp
  · cases (readHost_append hs hhost t).symm.trans hhost'
    refine .inr (readPathAfterAuthority_append ?_ hfront hwhole)
    exact hu

/-- An authority without brackets ends at a number sign as at the end of the text. -/
lemma readAuthority_append {u front whole : Uri} (hu : u.fragment = none) {index : ℕ}
    {s t : List Char} (hfront : readAuthority u index s = .ok front)
    (hwhole : readAuthority u index (s ++ '#' :: t) = .ok whole) :
    HasBracket front ∨ AddsFragment front whole := by
  obtain ⟨p, hp, hfront⟩ := readAuthority_eq_ok hfront
  obtain ⟨q, hq, hwhole⟩ := readAuthority_eq_ok hwhole
  cases (readPart_append (by decide) hp t).symm.trans hq
  dsimp only at hwhole
  have hhead : p.rest.head? ≠ some '@' → (p.rest ++ '#' :: t).head? ≠ some '@' := by
    cases p.rest with
    | nil => simp
    | cons c rest => exact id
  rcases hfront with ⟨rest, host, hrest, hhost, hfront⟩ | ⟨hmark, hchars, host, hhost, hfront⟩ |
    ⟨hmark, hchars, hfront⟩
  · obtain ⟨rest', host', hrest', hhost', hwhole⟩ | ⟨hmark', -⟩ | ⟨hmark', -⟩ := hwhole
    · rw [hrest] at hrest'
      cases hrest'
      rw [List.append_cons] at hfront hwhole
      refine readHost_path_append hu (fun t ht => ?_) hhost hhost' hfront hwhole
      rw [List.append_assoc, normalizeOctets_append hp]
      refine List.mem_append_right _ ?_
      rw [List.singleton_append, normalizeOctets]
      · exact List.mem_cons_of_mem _ ht
      · simp
    · exact absurd (by rw [hrest]; rfl) hmark'
    · exact absurd (by rw [hrest]; rfl) hmark'
  · obtain ⟨rest', _, hrest', -⟩ | ⟨-, -, host', hhost', hwhole⟩ | ⟨-, hchars', -⟩ := hwhole
    · exact absurd (by rw [hrest']; rfl) (hhead hmark)
    · have hbefore : ∀ t, '[' ∈ normalizeOctets t → '[' ∈ normalizeOctets ([] ++ t) := fun _ => id
      exact readHost_path_append hu hbefore hhost hhost' hfront hwhole
    · exact absurd hchars hchars'
  · obtain ⟨rest', _, hrest', -⟩ | ⟨-, hchars', -⟩ | ⟨-, -, hwhole⟩ := hwhole
    · exact absurd (by rw [hrest']; rfl) (hhead hmark)
    · exact absurd hchars' hchars
    · refine .inr (readPathAfterAuthority_append ?_ hfront hwhole)
      exact hu

/-- Two slashes before a number sign are there without it. -/
lemma exists_of_append_eq_slashes {s t rest : List Char} (h : s ++ '#' :: t = '/' :: '/' :: rest) :
    ∃ inner, s = '/' :: '/' :: inner ∧ rest = inner ++ '#' :: t := by
  match s with
  | [] => cases h
  | [c] => cases h
  | c :: c' :: inner =>
    cases h
    exact ⟨inner, rfl, rfl⟩

lemma readRelative_append {front whole : Uri} {s t : List Char}
    (hfront : readRelative s = .ok front) (hwhole : readRelative (s ++ '#' :: t) = .ok whole) :
    HasBracket front ∨ AddsFragment front whole := by
  unfold readRelative at hfront hwhole
  split at hwhole
  · rename_i rest hs
    obtain ⟨inner, rfl, rfl⟩ := exists_of_append_eq_slashes hs
    exact readAuthority_append rfl hfront hwhole
  · rename_i hslashes
    split at hfront
    · exact absurd rfl (hslashes _)
    obtain ⟨first, hfirst, hfront⟩ := bind_eq_ok_iff.mp hfront
    obtain ⟨first', hfirst', hwhole⟩ := bind_eq_ok_iff.mp hwhole
    cases (readPart_append (by decide) hfirst t).symm.trans hfirst'
    dsimp only at hfront hwhole
    split at hfront
    · cases hfront
    split at hwhole
    · cases hwhole
    obtain ⟨p, hp, hfront⟩ := bind_eq_ok_iff.mp hfront
    obtain ⟨p', hp', hwhole⟩ := bind_eq_ok_iff.mp hwhole
    cases (readPart_append (by decide) hp t).symm.trans hp'
    exact .inr (readTail_append rfl hfront hwhole)

/-- An identifier is read behind its scheme if it has one. -/
lemma read_ofList_eq_ok {s : List Char} {w : Uri} (h : read (String.ofList s) = .ok w) :
    (∃ rest, s.drop (s.takeWhile isSchemeChar).length = ':' :: rest ∧
      ((∃ inner, rest = '/' :: '/' :: inner ∧
          readAuthority { scheme := some (String.ofList (s.takeWhile isSchemeChar)) }
            ((s.takeWhile isSchemeChar).length + 3) inner = .ok w) ∨
        ((∀ inner, rest ≠ '/' :: '/' :: inner) ∧
          readPath { scheme := some (String.ofList (s.takeWhile isSchemeChar)) }
            ((s.takeWhile isSchemeChar).length + 1) rest = .ok w))) ∨
    ((s.drop (s.takeWhile isSchemeChar).length).head? ≠ some ':' ∧ readRelative s = .ok w) := by
  unfold read at h
  simp only [String.toList_ofList] at h
  split at h
  · rename_i rest hrest
    refine .inl ⟨rest, hrest, ?_⟩
    split at h
    · split at h
      · exact .inl ⟨_, rfl, h⟩
      · rename_i hslashes
        exact .inr ⟨fun inner heq => hslashes inner heq, h⟩
    · cases h
  · rename_i hcolon
    refine .inr ⟨fun hhead => ?_, h⟩
    obtain ⟨rest, hrest⟩ := List.head?_eq_some_iff.mp hhead
    exact hcolon rest hrest

/-- An identifier without brackets ends at a number sign as at the end of the text. -/
theorem read_append {front whole : Uri} {s t : List Char}
    (hfront : read (String.ofList s) = .ok front)
    (hwhole : read (String.ofList (s ++ '#' :: t)) = .ok whole) :
    HasBracket front ∨ AddsFragment front whole := by
  have hfront := read_ofList_eq_ok hfront
  have hwhole := read_ofList_eq_ok hwhole
  rw [takeWhile_append (by decide), List.drop_append_of_le_length
    (List.takeWhile_sublist isSchemeChar).length_le] at hwhole
  rcases hfront with ⟨rest, hrest, hfront⟩ | ⟨hcolon, hfront⟩
  · rw [hrest, List.cons_append] at hwhole
    obtain ⟨rest', hrest', hwhole⟩ | ⟨hcolon, -⟩ := hwhole
    · cases hrest'
      rcases hwhole with ⟨inner, hslashes, hwhole⟩ | ⟨hslashes, hwhole⟩
      · obtain ⟨inner, rfl, rfl⟩ := exists_of_append_eq_slashes hslashes
        rcases hfront with ⟨inner', hslashes', hfront⟩ | ⟨hnone, -⟩
        · cases hslashes'
          exact readAuthority_append rfl hfront hwhole
        · exact absurd rfl (hnone inner)
      · rcases hfront with ⟨inner, rfl, -⟩ | ⟨-, hfront⟩
        · exact absurd rfl (hslashes _)
        · exact .inr (readPath_append rfl hfront hwhole)
    · exact absurd rfl hcolon
  · rcases hwhole with ⟨rest, hrest, -⟩ | ⟨-, hwhole⟩
    · refine absurd ?_ hcolon
      cases hdrop : s.drop (s.takeWhile isSchemeChar).length with
      | nil =>
        rw [hdrop] at hrest
        cases hrest
      | cons c inner =>
        rw [hdrop] at hrest
        cases hrest
        rfl
    · exact readRelative_append hfront hwhole

end ConfigCheck.Uri
