import ConfigCheck.Proofs.Json.Place
import ConfigCheck.Report.Diagnostic

/-!
# Rendered locations

A location is rendered without quotes, and an index looks like a name of digits.  Nevertheless two
places in one value are rendered alike only if they are one place, as long as no name on the way has
a dot in it (`renderLocation_inj`): between dots the texts of the segments come back, and whether a
text is a name or an index is decided by the node at which it stands.
-/

namespace ConfigCheck

open Json (Segment)

/-- A rendered location is a dollar sign and the texts of the segments, with a dot between any
two. -/
lemma toList_renderLocation (path : List Segment) :
    (renderLocation path).toList =
      ['.'].intercalate (['$'] :: path.map fun s => s.text.toList) := by
  have hfold : ∀ start : String,
      (path.foldl (fun s segment => s ++ "." ++ segment.text) start).toList =
        ['.'].intercalate (start.toList :: path.map fun s => s.text.toList) := by
    induction path with
    | nil =>
      intro start
      simp
    | cons segment rest ih =>
      intro start
      rw [List.foldl_cons, ih, List.map_cons, List.intercalate_cons_cons]
      cases rest <;> simp [List.intercalate_cons_cons]
  exact hfold "$"

/-- A rendered location is a dollar sign and the texts of the segments, with dots between them. -/
lemma renderLocation_eq (path : List Segment) :
    renderLocation path = ".".intercalate ("$" :: path.map Segment.text) := by
  apply String.toList_injective
  rw [toList_renderLocation, String.toList_intercalate, List.map_cons, List.map_map]
  rfl

/-- The text of an index is made of its digits. -/
lemma toList_text_index (i : ℕ) : (Segment.index i).text.toList = Nat.toDigits 10 i :=
  Nat.toList_repr

/-- There is no dot in the text of an index. -/
lemma dot_notMem_index (i : ℕ) : '.' ∉ (Segment.index i).text.toList := by
  intro hdot
  rw [toList_text_index] at hdot
  have hdigit : '.'.isDigit = true := Nat.isDigit_of_mem_toDigits (by decide) (by decide) hdot
  exact absurd hdigit (by decide)

/-- Where no name has a dot in it, the texts of the segments come back from a rendered location. -/
lemma texts_eq_of_renderLocation_eq {path other : List Segment}
    (hpath : ∀ name, .key name ∈ path → '.' ∉ name.toList)
    (hother : ∀ name, .key name ∈ other → '.' ∉ name.toList)
    (h : renderLocation path = renderLocation other) :
    path.map Segment.text = other.map Segment.text := by
  have hsplit : ∀ place : List Segment, (∀ name, .key name ∈ place → '.' ∉ name.toList) →
      (renderLocation place).toList.splitOn '.' =
        ['$'] :: place.map fun s => s.text.toList := by
    intro place hplace
    rw [toList_renderLocation]
    apply List.splitOn_intercalate
    · intro part hpart
      rcases List.mem_cons.mp hpart with rfl | hpart
      · decide
      · obtain ⟨segment, hsegment, rfl⟩ := List.mem_map.mp hpart
        cases segment with
        | key name => exact hplace name hsegment
        | index i => exact dot_notMem_index i
    · exact List.cons_ne_nil _ _
  have hlists : (path.map Segment.text).map String.toList =
      (other.map Segment.text).map String.toList := by
    have hcons := hsplit path hpath
    rw [h, hsplit other hother] at hcons
    rw [List.map_map, List.map_map]
    exact (List.cons.inj hcons).2.symm
  exact List.map_injective_iff.mpr (fun _ _ => String.toList_injective) hlists

/-- An index is known by its text. -/
lemma index_eq_of_text_eq {i j : ℕ} (h : (Segment.index i).text = (Segment.index j).text) :
    i = j := by
  have hdigits : Nat.toDigits 10 i = Nat.toDigits 10 j := by
    rw [← toList_text_index, ← toList_text_index, h]
  calc
    i = Nat.ofDigitChars 10 (Nat.toDigits 10 i) 0 := Nat.ofDigitChars_ten_toDigits.symm
    _ = Nat.ofDigitChars 10 (Nat.toDigits 10 j) 0 := by rw [hdigits]
    _ = j := Nat.ofDigitChars_ten_toDigits

/-- At one node a segment that can be taken is known by its text. -/
lemma Json.Segment.eq_of_text_eq {value v w : Json} {s t : Segment}
    (hs : value.step? s = some v) (ht : value.step? t = some w) (h : s.text = t.text) : s = t := by
  cases value with
  | object members =>
    cases s with
    | key name =>
      cases t with
      | key other => exact congrArg Segment.key h
      | index j => cases ht
    | index i => cases hs
  | array items =>
    cases s with
    | key name => cases hs
    | index i =>
      cases t with
      | key other => cases ht
      | index j => exact congrArg Segment.index (index_eq_of_text_eq h)
  | _ => cases hs

/-- Two places in one value are the same if their segments have the same texts. -/
lemma Json.eq_of_map_text_eq {value : Json} {path other : List Segment}
    (hpath : (value.walk? path).isSome = true) (hother : (value.walk? other).isSome = true)
    (h : path.map Segment.text = other.map Segment.text) : path = other := by
  -- Both walks go from node to node together: equal segments lead to equal nodes.
  induction path generalizing value other with
  | nil =>
    rw [List.map_nil] at h
    exact (List.map_eq_nil_iff.mp h.symm).symm
  | cons s rest ih =>
    cases other with
    | nil => cases h
    | cons t more =>
      rw [List.map_cons, List.map_cons] at h
      obtain ⟨htext, htexts⟩ := List.cons.inj h
      obtain ⟨v, hs, hrest⟩ := exists_step_of_walk? hpath
      obtain ⟨w, ht, hmore⟩ := exists_step_of_walk? hother
      have hsegment : s = t := Segment.eq_of_text_eq hs ht htext
      subst hsegment
      have hnode : v = w := Option.some.inj (hs.symm.trans ht)
      subst hnode
      rw [ih hrest hmore htexts]

/-- Two places that exist in one value, with no dot in the names on the way, are rendered alike
exactly if they are one place. -/
theorem renderLocation_inj {value : Json} {path other : List Segment}
    (hpath : (value.walk? path).isSome = true) (hother : (value.walk? other).isSome = true)
    (hnames : ∀ name, .key name ∈ path → '.' ∉ name.toList)
    (hothers : ∀ name, .key name ∈ other → '.' ∉ name.toList) :
    renderLocation path = renderLocation other ↔ path = other := by
  constructor
  · intro h
    exact Json.eq_of_map_text_eq hpath hother (texts_eq_of_renderLocation_eq hnames hothers h)
  · intro h
    rw [h]

/-- A value in which names are empty or look like an index. -/
def Json.withEmptyNames : Json :=
  .object [("", .array [.object [("", .null), ("0", .null)]])]

/-- In the value with empty names an item, the member of it without a name, and the member that
looks like an index are told apart by their rendered locations. -/
theorem renderLocation_withEmptyNames :
    (Json.withEmptyNames.walk? [.key "", .index 0]).isSome = true ∧
      (Json.withEmptyNames.walk? [.key "", .index 0, .key ""]).isSome = true ∧
      (Json.withEmptyNames.walk? [.key "", .index 0, .key "0"]).isSome = true ∧
      renderLocation [.key "", .index 0] ≠ renderLocation [.key "", .index 0, .key ""] ∧
      renderLocation [.key "", .index 0, .key ""] ≠
        renderLocation [.key "", .index 0, .key "0"] := by
  have hitem : (Json.withEmptyNames.walk? [.key "", .index 0]).isSome = true := by decide
  have hempty : (Json.withEmptyNames.walk? [.key "", .index 0, .key ""]).isSome = true := by
    decide
  have hdigit : (Json.withEmptyNames.walk? [.key "", .index 0, .key "0"]).isSome = true := by
    decide
  refine ⟨hitem, hempty, hdigit, ?_, ?_⟩
  · intro h
    have hpaths := (renderLocation_inj hitem hempty (by simp) (by simp)).mp h
    cases hpaths
  · intro h
    have hpaths := (renderLocation_inj hempty hdigit (by simp) (by simp)).mp h
    simp at hpaths

end ConfigCheck
