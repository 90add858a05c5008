import ConfigCheck.Proofs.Uri.Reader
import ConfigCheck.Schema.Lookup
import Mathlib.Data.List.TakeWhile

/-!
# Identifiers with a fragment
-/

namespace ConfigCheck

namespace Uri

/-- The text of an identifier with a fragment goes on behind that of the front. -/
lemma AddsFragment.toString_eq {front whole : Uri} (h : AddsFragment front whole) :
    ∃ g, whole.toString = front.toString ++ ("#" ++ g) := by
  obtain ⟨hnone, g, rfl⟩ := h
  refine ⟨g, ?_⟩
  unfold toString
  rw [hnone]
  simp

/-- A fragment is left alone when the front is resolved. -/
lemma AddsFragment.resolve {base front whole f w : Uri} (h : AddsFragment front whole)
    (hfront : Uri.resolve base front = .ok f) (hwhole : Uri.resolve base whole = .ok w) :
    AddsFragment f w := by
  obtain ⟨hnone, g, rfl⟩ := h
  unfold Uri.resolve at hfront hwhole
  dsimp only at hwhole
  by_cases hbase : base.fragment.isSome = true
  · rw [if_pos hbase] at hfront
    cases hfront
  rw [if_neg hbase] at hfront hwhole
  split at hfront
  · rename_i hscheme
    rw [if_pos hscheme] at hwhole
    cases hfront
    cases hwhole
    exact ⟨hnone, g, rfl⟩
  rename_i hscheme
  rw [if_neg hscheme] at hwhole
  split at hfront
  · cases hfront
  rename_i hopaque
  rw [if_neg hopaque] at hwhole
  split at hfront
  · rename_i hauthority
    rw [if_pos hauthority] at hwhole
    cases hfront
    cases hwhole
    exact ⟨hnone, g, rfl⟩
  rename_i hauthority
  rw [if_neg hauthority] at hwhole
  split at hfront
  · rename_i hpath
    rw [if_pos hpath] at hwhole
    cases hfront
    cases hwhole
    exact ⟨hnone, g, rfl⟩
  · rename_i hpath
    rw [if_neg hpath] at hwhole
    cases hfront
    cases hwhole
    exact ⟨hnone, g, rfl⟩

/-- A fragment is brought into normal form apart from the front. -/
lemma AddsFragment.normalize {front whole : Uri} (h : AddsFragment front whole) :
    AddsFragment front.normalize whole.normalize := by
  obtain ⟨hnone, g, rfl⟩ := h
  refine ⟨?_, normalizeText g, rfl⟩
  unfold Uri.normalize
  rw [hnone]
  rfl

/-- Resolving keeps an authority. -/
lemma authority_of_resolve {base r u : Uri} {a : String} (hr : r.authority = some a)
    (h : Uri.resolve base r = .ok u) : u.authority = some a := by
  unfold Uri.resolve at h
  rw [hr] at h
  split at h
  · cases h
  split at h
  · cases h
    rfl
  split at h
  · cases h
  · rw [if_pos Option.isSome_some] at h
    cases h
    rfl

/-- The text of an identifier holds its authority. -/
lemma mem_toString_of_authority {u : Uri} {a : String} (ha : u.authority = some a) {c : Char}
    (hc : c ∈ a.toList) : c ∈ u.toString.toList := by
  unfold toString
  rw [ha, Option.elim_some]
  simp only [String.toList_append, List.mem_append]
  tauto

/-- The brackets of an authority are in the text of the normal form. -/
lemma HasBracket.mem_toString {base r u : Uri} (h : HasBracket r)
    (hu : Uri.resolve base r = .ok u) : '[' ∈ u.normalize.toString.toList := by
  obtain ⟨a, ha, hbracket⟩ := h
  have hauthority : u.normalize.authority = u.authority.map normalizeAuthority := rfl
  rw [authority_of_resolve ha hu] at hauthority
  exact mem_toString_of_authority hauthority hbracket

/-- An empty reference means its base. -/
lemma resolve_empty {base : Uri} (h : base.fragment = none) : Uri.resolve base {} = .ok base := by
  obtain ⟨scheme, authority, path, query, fragment⟩ := base
  cases h
  simp [Uri.resolve]

/-- A reference is resolved only against a base without a fragment. -/
lemma fragment_of_resolve {base r u : Uri} (h : Uri.resolve base r = .ok u) :
    base.fragment = none := by
  unfold Uri.resolve at h
  split at h
  · cases h
  · rename_i hnone
    exact Option.not_isSome_iff_eq_none.mp hnone

end Uri

namespace Schema

open Uri (AddsFragment)

/-- A text that does not begin with a number sign is read, resolved and brought into normal form. -/
lemma resolveText_eq_ok {base v : Uri} {text : String} (hmark : text.toList.head? ≠ some '#')
    (h : resolveText base text = .ok v) :
    ∃ r u, Uri.read text = .ok r ∧ Uri.resolve base r = .ok u ∧ v = u.normalize := by
  unfold resolveText at h
  rw [if_neg (by simp [hmark])] at h
  split at h
  · cases h
  · rename_i r hr
    split at h
    · cases h
    · rename_i u hu
      cases h
      exact ⟨r, u, hr, hu, rfl⟩

/-- A reference is split at a number sign if it has one. -/
lemma splitFragment_cases (text : String) :
    Registry.splitFragment text = (text, "") ∨
      text.toList = (Registry.splitFragment text).1.toList ++
        '#' :: (Registry.splitFragment text).2.toList := by
  unfold Registry.splitFragment
  dsimp only
  split
  · rename_i hmark
    right
    rw [String.toList_ofList, String.toList_ofList]
    generalize text.toList = s at hmark
    cases hrest : s.reverse.dropWhile (· != '#') with
    | nil =>
      rw [List.dropWhile_eq_nil_iff] at hrest
      have hnone := hrest '#' (List.mem_reverse.mpr (List.contains_iff_mem.mp hmark))
      simp at hnone
    | cons c before =>
      have hc : c = '#' := by
        have hhead := List.head?_dropWhile_not (· != '#') s.reverse
        rw [hrest] at hhead
        simpa using hhead
      have hs : s = before.reverse ++ '#' :: (s.reverse.takeWhile (· != '#')).reverse := by
        have hwhole := List.takeWhile_append_dropWhile (p := (· != '#')) (l := s.reverse)
        rw [hrest, hc] at hwhole
        have hreverse := congrArg List.reverse hwhole
        simpa using hreverse.symm
      generalize (s.reverse.takeWhile (· != '#')).reverse = fragment at hs ⊢
      subst hs
      have hlength : (before.reverse ++ '#' :: fragment).length - fragment.length - 1 =
          before.reverse.length := by
        simp
        omega
      rw [hlength, List.take_left']
      rfl
  · exact .inl rfl

/-- A reference means what its front means, with a fragment behind it if it has one. -/
theorem toString_of_resolveText {base uri v : Uri} {text : String}
    (hmark : text.toList.head? ≠ some '#')
    (hfront : resolveText base (Registry.splitFragment text).1 = .ok uri)
    (hbracket : '[' ∉ uri.toString.toList) (hwhole : resolveText base text = .ok v) :
    v = uri ∨ ∃ g, v.toString = uri.toString ++ ("#" ++ g) := by
  rcases splitFragment_cases text with hsplit | hsplit
  · rw [hsplit] at hfront
    cases hfront.symm.trans hwhole
    exact .inl rfl
  · -- Only a text that begins with the sign has a front that does.
    have hmark' : (Registry.splitFragment text).1.toList.head? ≠ some '#' := by
      intro hhead
      obtain ⟨rest, hrest⟩ := List.head?_eq_some_iff.mp hhead
      rw [hsplit, hrest] at hmark
      exact hmark rfl
    obtain ⟨front, f, hf, hresolve, rfl⟩ := resolveText_eq_ok hmark' hfront
    obtain ⟨whole, w, hw, hresolve', rfl⟩ := resolveText_eq_ok hmark hwhole
    rw [← String.ofList_toList (s := (Registry.splitFragment text).1)] at hf
    rw [← String.ofList_toList (s := text), hsplit] at hw
    rcases Uri.read_append hf hw with h | h
    · exact absurd (h.mem_toString hresolve) hbracket
    · exact .inr (h.resolve hresolve hresolve').normalize.toString_eq

/-- A fragment alone means a place in the base. -/
theorem toString_of_resolveText_mark {base v : Uri} {text : String}
    (hmark : text.toList.head? = some '#') (h : resolveText base text = .ok v) :
    v = base ∨ ∃ g, v.toString = base.normalize.toString ++ ("#" ++ g) := by
  unfold resolveText at h
  split at h
  · cases h
    exact .inl rfl
  right
  split at h
  · cases h
  · rename_i r hr
    split at h
    · cases h
    · rename_i u hu
      cases h
      obtain ⟨t, ht⟩ := List.head?_eq_some_iff.mp hmark
      rw [← String.ofList_toList (s := text), ht] at hr
      have hempty : Uri.read (String.ofList []) = .ok {} := by decide
      rcases Uri.read_append (s := []) hempty hr with ⟨_, hnone, -⟩ | hfragment
      · cases hnone
      · have hbase := Uri.resolve_empty (Uri.fragment_of_resolve hu)
        exact (hfragment.resolve hbase hu).normalize.toString_eq

end Schema

end ConfigCheck
