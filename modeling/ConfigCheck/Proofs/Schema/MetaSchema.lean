import ConfigCheck.Proofs.Json.Everywhere
import ConfigCheck.Proofs.Schema.Collect
import ConfigCheck.Proofs.Uri.Settled
import ConfigCheck.Schema.Lookup
import ConfigCheck.Schema.MetaSchema
import Mathlib.Data.List.Nodup

/-!
# The registry of meta-schemas

What the registry of all meta-schemas holds of the latest draft: under its place each document
itself (`MetaSchema.hasDocument_registry`), and under the name `meta` there the same document, which
schemas further out can take over (`MetaSchema.anchor_place`).

A document names itself by the page at which it stands, and from everywhere the text of a plain page
leads there (`resolveText_of_isPlainPage`).

The registry is too large to be evaluated.  Instead each document is seen to have no name inside it
but its own, so that collecting it adds just two entries and a name; the entries of the latest draft
come last and are found first.
-/

namespace ConfigCheck.Schema

/-! ## Schemas without names -/

/-- The members by which schemas name themselves, places in them, or their drafts. -/
def namingMembers : List String := ["$schema", "$id", "id", "$anchor", "$dynamicAnchor"]

/-- Whether a value has none of the members that name schemas, as texts. -/
def isAnonymous (value : Json) : Bool :=
  namingMembers.all fun name => (textOf? value.members name).isNone

lemma textOf?_eq_none {value : Json} {name : String} (h : isAnonymous value = true)
    (hname : name ∈ namingMembers) : textOf? value.members name = none :=
  Option.isNone_iff_eq_none.mp (List.all_eq_true.mp h name hname)

/-- A value without naming members names nothing. -/
lemma isNameless_of_isAnonymous {d : Draft} {value : Json} (h : isAnonymous value = true) :
    IsNameless d value where
  draft := textOf?_eq_none h (by decide)
  identifier := Draft.identifierOf?_eq_none (textOf?_eq_none h (by cases d <;> decide))
  anchors := by
    have hnone : ∀ name ∈ namingMembers, textOf? value.members name = none := fun name hname =>
      textOf?_eq_none h hname
    unfold Draft.anchors
    dsimp only
    cases d with
    | draft2020 =>
      dsimp only
      rw [hnone "$anchor" (by decide), hnone "$dynamicAnchor" (by decide)]
      rfl
    | draft2019 =>
      dsimp only
      rw [hnone "$anchor" (by decide)]
      rfl
    | draft4 | draft6 | draft7 =>
      dsimp only
      rw [hnone _ (by decide)]
      rfl

/-- The schemas inside a schema are values inside it. -/
lemma everywhere_of_mem_subschemas {test : Json → Bool} {d : Draft} {contents t : Json}
    (h : contents.everywhere test = true) (ht : t ∈ d.subschemas contents) :
    t.everywhere test = true := by
  obtain ⟨⟨keyword, v⟩, hm, ht⟩ := List.mem_flatMap.mp ht
  have hv : v.everywhere test = true := by
    cases contents with
    | object members => exact (Json.everywhere_object.mp h).2 _ hm
    | _ => cases hm
  dsimp only at ht
  split at ht
  · exact (Json.everywhere_array.mp hv).2 t ht
  · exact (Json.everywhere_array.mp hv).2 t ht
  · exact List.mem_singleton.mp ht ▸ hv
  · exact List.mem_singleton.mp ht ▸ hv
  · obtain ⟨m, hm, rfl⟩ := List.mem_map.mp ht
    exact (Json.everywhere_object.mp hv).2 m hm
  · cases ht

/-! ## Schemas that are named by pages -/

lemma Draft.trimMarks_eq_self {s : String} (h : '#' ∉ s.toList) : trimMarks s = s := by
  have hkeep : s.toList.reverse.dropWhile (· == '#') = s.toList.reverse := by
    rw [List.dropWhile_eq_self_iff]
    intro hlength hmark
    exact h (List.mem_reverse.mp (beq_iff_eq.mp hmark ▸ List.getElem_mem hlength))
  unfold trimMarks
  rw [hkeep, List.reverse_reverse, String.ofList_toList]

lemma Draft.trimMarks_append_mark (s : String) : trimMarks (s ++ "#") = trimMarks s := by
  unfold trimMarks
  rw [String.toList_append, List.reverse_append]
  rfl

section

variable {scheme host path : String} (h : Uri.IsPlainPage scheme host path)

include h

/-- The text of a plain page leads there from everywhere. -/
theorem resolveText_of_isPlainPage {base : Uri} (hbase : base.fragment = none) :
    resolveText base (Uri.page scheme host path).toString = .ok (Uri.page scheme host path) := by
  unfold resolveText
  rw [if_neg (by simp [h.head?_ne_mark]), h.read_toString]
  dsimp only
  rw [h.resolve_eq hbase]
  dsimp only
  rw [h.normalize_eq]

/-- A schema can name itself by a plain page with a number sign behind it. -/
lemma Draft.identifierOf?_of_isPlainPage {d : Draft} {members : Json.Members}
    (hreference : Json.Members.has members "$ref" = false) {text : String}
    (htext : textOf? members d.idKeyword = some text)
    (hpage : text = (Uri.page scheme host path).toString ∨
      text = (Uri.page scheme host path).toString ++ "#") :
    d.identifierOf? members = some (Uri.page scheme host path).toString := by
  have hmark : text.toList.head? ≠ some '#' := by
    rcases hpage with rfl | rfl
    · exact h.head?_ne_mark
    · rw [String.toList_append, List.head?_append_of_ne_nil _ (by simp [Uri.toList_page])]
      exact h.head?_ne_mark
  have htrim : trimMarks text = (Uri.page scheme host path).toString := by
    rcases hpage with rfl | rfl
    · exact trimMarks_eq_self h.mark_not_mem
    · rw [trimMarks_append_mark, trimMarks_eq_self h.mark_not_mem]
  have hkept : (if d.referencesStandAlone then
      (some text).filter fun s => !Json.Members.has members "$ref" && s.toList.head? != some '#'
      else some text) = some text := by
    split
    · rw [Option.filter_some, if_pos (by simp [hreference, hmark])]
    · rfl
  unfold identifierOf?
  dsimp only
  rw [htext, hkept, Option.map_some, htrim]

end

namespace MetaSchema

/-! ## Documents of the latest draft -/

/-- The paths of plain pages on the site of the meta-schemas have names behind slashes. -/
lemma isPlainPage_of_path {scheme path : String} (hscheme : scheme ∈ ["http", "https"])
    (hslash : path.toList.head? = some '/')
    (hsegments : path.toList.all (fun c => Uri.isSlugChar c || c = '/') = true) :
    Uri.IsPlainPage scheme "json-schema.org" path := by
  have hschemes : ∀ s ∈ ["http", "https"], s.toList ≠ [] ∧ s.toList.all Char.isLower = true := by
    decide
  obtain ⟨hne, hsmall⟩ := hschemes scheme hscheme
  exact ⟨hne, hsmall, by decide, by decide, hslash, hsegments⟩

/-- A place at which a document of the latest draft stands. -/
def place (name : String) : Uri where
  scheme := some "https"
  authority := some "json-schema.org"
  path := "/draft/2020-12/" ++ name

/-- The documents of the latest draft, by the names of their places. -/
def latestDocuments : List (String × Json) :=
  [("schema", draft2020), ("meta/core", core2020), ("meta/applicator", applicator2020),
    ("meta/unevaluated", unevaluated2020), ("meta/validation", validation2020),
    ("meta/meta-data", metaData2020), ("meta/format-annotation", formatAnnotation2020),
    ("meta/format-assertion", formatAssertion2020), ("meta/content", content2020)]

/-- The names of the places are plain. -/
lemma isPlainReference_latest {p : String × Json} (hp : p ∈ latestDocuments) :
    Uri.IsPlainReference p.1 := by
  have hnames : ∀ p ∈ latestDocuments, p.1.toList ≠ [] ∧ p.1.toList.head? ≠ some '/' ∧
      p.1.toList.all (fun c => Uri.isSlugChar c || c = '/') = true := by
    decide
  obtain ⟨hne, hslash, hsegments⟩ := hnames p hp
  exact ⟨hne, hslash, hsegments⟩

/-- The documents of the latest draft stand at plain pages. -/
lemma isPlainPage_place {p : String × Json} (hp : p ∈ latestDocuments) :
    Uri.IsPlainPage "https" "json-schema.org" ("/draft/2020-12/" ++ p.1) := by
  refine isPlainPage_of_path (by decide) (by rw [String.toList_append]; rfl) ?_
  rw [String.toList_append, List.all_append, (isPlainReference_latest hp).segments]
  decide

/-- Each document of the latest draft has one name, its own place, and no names inside it. -/
lemma names_latestDocuments : ∀ p ∈ latestDocuments,
    (textOf? p.2.members "$id" = some (place p.1).toString ∧
      Json.Members.has p.2.members "$ref" = false) ∧
      Draft.latest.anchors p.2 = [("meta", true)] ∧
        ∀ t ∈ Draft.latest.subschemas p.2, t.everywhere isAnonymous = true := by
  decide

/-- Each document of the latest draft names itself by its place. -/
lemma identifierOf?_latest {p : String × Json} (hp : p ∈ latestDocuments) :
    Draft.latest.identifierOf? p.2.members = some (place p.1).toString :=
  have hnames := (names_latestDocuments p hp).1
  Draft.identifierOf?_of_isPlainPage (isPlainPage_place hp) hnames.2 hnames.1 (.inl rfl)

/-- The text of a place is the name behind that of the draft. -/
lemma toString_place (name : String) :
    (place name).toString = "https://json-schema.org/draft/2020-12/" ++ name := by
  have hdraft : "https" ++ ":" ++ ("//" ++ "json-schema.org") ++ "/draft/2020-12/" =
      "https://json-schema.org/draft/2020-12/" := by decide
  have htext : (place name).toString =
      "https" ++ ":" ++ ("//" ++ "json-schema.org") ++ ("/draft/2020-12/" ++ name) := by
    simp only [Uri.toString, place, Option.elim_some, Option.elim_none, String.append_empty]
  rw [htext, ← String.append_assoc, hdraft]

lemma eq_of_toString_place {name other : String}
    (h : (place name).toString = (place other).toString) : name = other := by
  rwa [toString_place, toString_place, String.append_right_inj] at h

/-- No two documents of the latest draft stand at the same place. -/
lemma nodup_places : (latestDocuments.map fun p => (place p.1).toString).Nodup := by
  have hnames : (latestDocuments.map Prod.fst).Nodup := by decide
  have hplaces : latestDocuments.map (fun p => (place p.1).toString) =
      (latestDocuments.map Prod.fst).map fun name => (place name).toString := rfl
  rw [hplaces]
  exact List.Nodup.map (fun _ _ heq => eq_of_toString_place heq) hnames

/-- The identifier of a document of the latest draft leads to its place from everywhere. -/
theorem baseWithin_latest {p : String × Json} (hp : p ∈ latestDocuments) {base : Uri}
    (hbase : base.fragment = none) : baseWithin base .latest p.2.members = .ok (place p.1) := by
  unfold baseWithin
  rw [identifierOf?_latest hp]
  exact resolveText_of_isPlainPage (isPlainPage_place hp) hbase

/-- References in the documents of the latest draft are known to lead to meta-schemas. -/
lemma isWellKnown_place (name text : String) : isWellKnown (place name) text = true := by
  have hplace : (place name).toString.startsWith "https://json-schema.org/draft/2020-12/" =
      true := by
    rw [toString_place, String.startsWith_string_iff, String.toList_append]
    exact List.prefix_append _ _
  unfold isWellKnown wellKnownPlaces
  rw [List.any_cons, hplace, Bool.or_true, Bool.true_or]

/-! ## The registry -/

/-- A registry with a document of the latest draft, at its place and under the name `meta`. -/
def withDocument (r : Registry) (p : String × Json) : Registry :=
  (((r.insert (place p.1) ⟨p.2, .latest⟩).insert (place p.1) ⟨p.2, .latest⟩)).insertAnchor
    (place p.1) "meta" ⟨true, ⟨p.2, .latest⟩⟩

/-- What the documents of the latest draft add to a registry. -/
theorem add_latest {p : String × Json} (hp : p ∈ latestDocuments) (r : Registry) :
    r.add (place p.1) ⟨p.2, .latest⟩ = withDocument r p := by
  obtain ⟨-, hanchors, hinside⟩ := names_latestDocuments p hp
  have hsilent : ∀ contents : Json, contents.everywhere isAnonymous = true →
      IsSilent (place p.1) .latest contents ∧
        ∀ t ∈ Draft.latest.subschemas contents, t.everywhere isAnonymous = true := by
    intro contents hcontents
    refine ⟨⟨isNameless_of_isAnonymous (Json.test_of_everywhere hcontents), .inr ?_⟩, ?_⟩
    · exact isWellKnown_place _
    · exact fun t ht => everywhere_of_mem_subschemas hcontents ht
  rw [Registry.add_eq hsilent (baseWithin_latest hp rfl) (.inr (isWellKnown_place _))
    (fun text _ => isWellKnown_place _ text) hinside]
  unfold Collection.enter
  dsimp only
  rw [identifierOf?_latest hp, hanchors]
  rfl

/-- The documents of the earlier drafts, with the schemes and the paths of their pages. -/
def earlierDocuments : List ((String × String) × Draft × Json) :=
  [(("http", "/draft-04/schema"), .draft4, draft4),
    (("http", "/draft-06/schema"), .draft6, draft6),
    (("http", "/draft-07/schema"), .draft7, draft7),
    (("https", "/draft/2019-09/schema"), .draft2019, draft2019),
    (("https", "/draft/2019-09/meta/core"), .draft2019, core2019),
    (("https", "/draft/2019-09/meta/applicator"), .draft2019, applicator2019),
    (("https", "/draft/2019-09/meta/validation"), .draft2019, validation2019),
    (("https", "/draft/2019-09/meta/meta-data"), .draft2019, metaData2019),
    (("https", "/draft/2019-09/meta/format"), .draft2019, format2019),
    (("https", "/draft/2019-09/meta/content"), .draft2019, content2019)]

/-- The documents of the latest draft come behind those of the earlier ones. -/
lemma documents_eq : documents =
    earlierDocuments.map Prod.snd ++ latestDocuments.map fun p => (.latest, p.2) := rfl

/-- The registry is made from what is collected of the earlier drafts by adding the documents of
the latest. -/
theorem registry_eq : ∃ earlier, registry = latestDocuments.foldl withDocument earlier := by
  unfold registry
  rw [documents_eq, List.foldl_append, List.foldl_map]
  refine ⟨_, List.foldl_ext _ _ _ fun r p hp => ?_⟩
  have hbase : baseOf .latest p.2 = place p.1 := by
    unfold baseOf
    rw [baseWithin_latest hp rfl]
  dsimp only
  rw [hbase, add_latest hp]

/-- A registry has a document of the latest draft at its place, and there under the name `meta`. -/
structure HasDocument (r : Registry) (p : String × Json) : Prop where
  /-- It is found at its place. -/
  found : r.find? (place p.1) = some ⟨p.2, .latest⟩
  /-- It is found by its name, and schemas further out can take over the name. -/
  named : r.anchors.lookup ((place p.1).toString, "meta") = some ⟨true, ⟨p.2, .latest⟩⟩

lemma hasDocument_withDocument (r : Registry) (p : String × Json) :
    HasDocument (withDocument r p) p where
  found := List.lookup_cons_self
  named := List.lookup_cons_self

lemma HasDocument.withDocument {r : Registry} {p q : String × Json}
    (hne : (place p.1).toString ≠ (place q.1).toString) (h : HasDocument r p) :
    HasDocument (withDocument r q) p where
  found := by
    change List.lookup _ (_ :: _ :: r.resources) = _
    rw [List.lookup_cons, beq_false_of_ne hne, List.lookup_cons, beq_false_of_ne hne]
    exact h.found
  named := by
    have hkey : ((place p.1).toString, "meta") ≠ ((place q.1).toString, "meta") := fun heq =>
      hne (congrArg Prod.fst heq)
    change List.lookup _ (_ :: r.anchors) = _
    rw [List.lookup_cons, beq_false_of_ne hkey]
    exact h.named

/-- A document stays where it is when documents at other places are added. -/
lemma HasDocument.foldl {r : Registry} {p : String × Json} {list : List (String × Json)}
    (hne : (place p.1).toString ∉ list.map fun q => (place q.1).toString)
    (h : HasDocument r p) : HasDocument (list.foldl MetaSchema.withDocument r) p := by
  induction list generalizing r with
  | nil => exact h
  | cons q rest ih =>
    rw [List.map_cons, List.mem_cons, not_or] at hne
    exact ih hne.2 (h.withDocument hne.1)

/-- Of documents at different places each is there once all are added. -/
lemma hasDocument_foldl {list : List (String × Json)}
    (hnodup : (list.map fun p => (place p.1).toString).Nodup) {p : String × Json} (hp : p ∈ list)
    (r : Registry) : HasDocument (list.foldl withDocument r) p := by
  induction list generalizing r with
  | nil => cases hp
  | cons q rest ih =>
    rw [List.map_cons, List.nodup_cons] at hnodup
    rw [List.foldl_cons]
    rcases List.mem_cons.mp hp with rfl | hrest
    · exact (hasDocument_withDocument r p).foldl hnodup.1
    · exact ih hnodup.2 hrest _

/-- The registry has the documents of the latest draft. -/
theorem hasDocument_registry {p : String × Json} (hp : p ∈ latestDocuments) :
    HasDocument registry p := by
  obtain ⟨earlier, hearlier⟩ := registry_eq
  rw [hearlier]
  exact hasDocument_foldl nodup_places hp earlier

lemma anchor_place {p : String × Json} (hp : p ∈ latestDocuments) :
    registry.anchor (place p.1) "meta" = .ok ⟨true, ⟨p.2, .latest⟩⟩ := by
  unfold Registry.anchor
  dsimp only
  rw [(hasDocument_registry hp).named]

end MetaSchema

end ConfigCheck.Schema
