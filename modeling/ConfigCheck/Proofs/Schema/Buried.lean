import ConfigCheck.Proofs.Json.Everywhere
import ConfigCheck.Proofs.Json.Place
import ConfigCheck.Proofs.Schema.Assembly
import ConfigCheck.Proofs.Schema.Refuse
import ConfigCheck.Schema.Resource
import Mathlib.Logic.Relation

/-!
# Faults at any depth

A schema can stand in another one as a negated schema, as the schema of items, as a branch or as the
schema of a member (`IsNested`), and so at any depth.  In a document of the latest draft in which no
schema names anything (`IsPlain`) it is read there as it would be read alone, and it is searched
whatever stands around it (`exists_looks_of_isNested`).  So the whole document is refused if such
a schema is (`refused_of_buried`).
-/

namespace ConfigCheck.Schema

/-! ## Schemas inside schemas -/

/-- The values that stand for schemas in the value of a keyword, by the role of the keyword. -/
def Role.schemasIn (role : Role) (v : Json) : List Json :=
  match role, v with
  | .schemas, .array items | .schemaOrSchemas, .array items => items
  | .schema, v | .schemaOrSchemas, v => [v]
  | .namedSchemas, .object members => members.map (·.2)
  | _, _ => []

/-- The schemas inside a part are read from the values that stand for schemas. -/
lemma partOf_list (scope : Scope) (keyword : String) (v : Json) :
    (partOf scope keyword v).list =
      ((scope.draft.role keyword).schemasIn v).map (ofJson scope) := by
  unfold partOf
  cases scope.draft.role keyword with
  | plain | schema => rfl
  | schemas | schemaOrSchemas =>
    cases v with
    | array items => exact schemasOf_eq_map scope items
    | _ => rfl
  | namedSchemas =>
    cases v with
    | object members =>
      change (namedSchemasOf scope members).map (·.2) = (members.map (·.2)).map (ofJson scope)
      rw [namedSchemasOf_eq_map, List.map_map, List.map_map]
      rfl
    | _ => rfl

/-- A value stands for a schema directly inside another one: it is read as one, or looked at when
schemas are collected. -/
def IsInside (sub contents : Json) : Prop :=
  ∃ m ∈ contents.members, sub ∈ (Draft.latest.role m.1).schemasIn m.2 ∨
    sub ∈ (Draft.latest.holds m.1).schemasIn m.2

/-- A schema stands directly in another one, as a negated schema, as the schema of items, as a
branch or as the schema of a member. -/
inductive IsNested (sub contents : Json) : Prop where
  /-- The keyword has one schema. -/
  | single {keyword : String} : keyword ∈ ["not", "items"] →
    contents.get? keyword = some sub → IsNested sub contents
  /-- The keyword has a list of schemas. -/
  | listed {keyword : String} {items : List Json} :
    keyword ∈ ["items", "allOf", "anyOf", "oneOf"] →
    contents.get? keyword = some (.array items) → sub ∈ items → IsNested sub contents
  /-- The schemas have names. -/
  | named {members : Json.Members} {name : String} :
    contents.get? "properties" = some (.object members) → (name, sub) ∈ members →
    IsNested sub contents

/-- Only objects have members. -/
lemma exists_object_of_get? {contents v : Json} {name : String} (h : contents.get? name = some v) :
    ∃ members, contents = .object members ∧ (name, v) ∈ members := by
  cases contents with
  | object members => exact ⟨members, rfl, Json.Members.mem_of_get? h⟩
  | _ => cases h

/-- Schemas stand in objects. -/
lemma IsNested.exists_object {sub contents : Json} (h : IsNested sub contents) :
    ∃ members, contents = .object members := by
  cases h with
  | single _ hget | listed _ hget _ | named hget _ =>
    obtain ⟨members, rfl, -⟩ := exists_object_of_get? hget
    exact ⟨members, rfl⟩

/-- What stands in a schema is a schema inside it. -/
lemma IsNested.isInside {sub : Json.Members} {contents : Json}
    (h : IsNested (.object sub) contents) : IsInside (.object sub) contents := by
  cases h with
  | @single keyword hkeyword hget =>
    obtain ⟨members, rfl, hmem⟩ := exists_object_of_get? hget
    refine ⟨_, hmem, .inl ?_⟩
    simp only [List.mem_cons, List.not_mem_nil, or_false] at hkeyword
    rcases hkeyword with rfl | rfl <;> exact List.mem_singleton_self _
  | @listed keyword items hkeyword hget hsub =>
    obtain ⟨members, rfl, hmem⟩ := exists_object_of_get? hget
    refine ⟨_, hmem, .inl ?_⟩
    simp only [List.mem_cons, List.not_mem_nil, or_false] at hkeyword
    rcases hkeyword with rfl | rfl | rfl | rfl <;> exact hsub
  | named hget hsub =>
    obtain ⟨members, rfl, hmem⟩ := exists_object_of_get? hget
    exact ⟨_, hmem, .inl (List.mem_map_of_mem hsub)⟩

/-! ## Plain documents -/

/-- In none of the schemas inside a document a keyword begins with a dollar sign, but for
references. -/
def IsPlain (document : Json) : Prop :=
  ∀ s, Relation.ReflTransGen IsInside s document →
    ∀ m ∈ s.members, m.1.toList.head? = some '$' → m.1 = "$ref"

/-- Whether all members of a value that begin with a dollar sign are references. -/
def hasPlainMembers (value : Json) : Bool :=
  value.members.all fun m => m.1.toList.head? != some '$' || m.1 == "$ref"

/-- The schemas inside a value are values inside it. -/
lemma everywhere_of_mem_schemasIn {test : Json → Bool} {role : Role} {v sub : Json}
    (hv : v.everywhere test = true) (hsub : sub ∈ role.schemasIn v) :
    sub.everywhere test = true := by
  unfold Role.schemasIn at hsub
  split at hsub
  · exact (Json.everywhere_array.mp hv).2 sub hsub
  · exact (Json.everywhere_array.mp hv).2 sub hsub
  · exact List.mem_singleton.mp hsub ▸ hv
  · exact List.mem_singleton.mp hsub ▸ hv
  · obtain ⟨m, hm, rfl⟩ := List.mem_map.mp hsub
    exact (Json.everywhere_object.mp hv).2 m hm
  · cases hsub

/-- A document is plain if all its members, at any depth, that begin with a dollar sign are
references. -/
theorem isPlain_of_everywhere {document : Json}
    (h : document.everywhere hasPlainMembers = true) : IsPlain document := by
  intro s hs
  have hinside : s.everywhere hasPlainMembers = true := by
    induction hs using Relation.ReflTransGen.head_induction_on with
    | refl => exact h
    | @head sub outer hstep _ ih =>
      obtain ⟨m, hm, hsub⟩ := hstep
      have hm : m.2.everywhere hasPlainMembers = true := by
        cases outer with
        | object members => exact (Json.everywhere_object.mp ih).2 m hm
        | _ => cases hm
      exact hsub.elim (everywhere_of_mem_schemasIn hm) (everywhere_of_mem_schemasIn hm)
  intro m hm hmark
  have hplain := List.all_eq_true.mp (Json.test_of_everywhere hinside) m hm
  simpa [hmark] using hplain

namespace IsPlain

variable {document sub : Json} {scope : Scope}

/-- The schemas inside a plain document are plain. -/
lemma of_isInside (h : IsPlain document) (hsub : IsInside sub document) : IsPlain sub :=
  fun s hs => h s (hs.tail hsub)

/-- A plain schema has none of the members by which schemas name themselves and drafts. -/
lemma textOf?_eq_none (h : IsPlain document) {name : String} (hmark : name.toList.head? = some '$')
    (hname : name ≠ "$ref") : textOf? document.members name = none := by
  have hget : Json.Members.get? document.members name = none := by
    rw [Json.Members.get?, List.lookup_eq_none_iff]
    intro m hm
    refine bne_iff_ne.mpr fun heq => hname ?_
    rw [heq] at hmark ⊢
    exact h document .refl m hm hmark
  unfold textOf?
  rw [hget, Option.bind_none]

/-- A plain schema is read in the scope around it. -/
lemma enter_eq_self (hscope : scope.IsLatest) {members : Json.Members}
    (h : IsPlain (.object members)) : scope.enter members = scope := by
  refine Scope.enter_eq_self (h.textOf?_eq_none (by decide) (by decide)) ?_
  refine Draft.identifierOf?_eq_none ?_
  rw [hscope.draft]
  exact h.textOf?_eq_none (by decide) (by decide)

/-- A plain object is read into the keywords of its members. -/
lemma ofJson_eq (hscope : scope.IsLatest) {members : Json.Members}
    (h : IsPlain (.object members)) :
    ofJson scope (.object members) = .keywords (members.flatMap fun m =>
      partKeywords scope members (partsOf scope members) m.1 (partOf scope m.1 m.2)) := by
  rw [ofJson, h.enter_eq_self hscope, assemble_eq_flatMap hscope]

end IsPlain

/-! ## References -/

/-- A reference is made by a member for it. -/
lemma reference_of_mem_partKeywords {scope : Scope} {members : Json.Members} {m : String × Json}
    (hm : m ∈ members) (hmark : m.1.toList.head? = some '$' → m.1 = "$ref") {keyword : String}
    {r : Reference} (hk : .reference keyword r ∈
      partKeywords scope members (partsOf scope members) m.1 (partOf scope m.1 m.2)) :
    ∃ text, m = ("$ref", .string text) ∧ r = ⟨.named text, scope⟩ := by
  have hpart : (m.1, partOf scope m.1 m.2) ∈ partsOf scope members := by
    rw [partsOf_eq_map]
    exact List.mem_map_of_mem hm
  have hbuilt := areBuilt_partKeywords scope members hpart _ hk
  obtain ⟨name, v⟩ := m
  have hname : name = "$ref" := by
    cases hbuilt.made with
    | reference _ hdollar => exact hmark hdollar
    | compound hcompound => cases hcompound
  subst hname
  change _ ∈ plainKeywords scope members "$ref" v at hk
  cases v with
  | string text =>
    cases List.mem_singleton.mp hk
    exact ⟨text, rfl, rfl⟩
  | _ => cases List.mem_singleton.mp hk

/-- Only objects are read into keywords. -/
lemma exists_object_of_ofJson_eq {scope : Scope} {document : Json} {list : List Keyword}
    (h : ofJson scope document = .keywords list) : ∃ members, document = .object members := by
  cases document with
  | object members => exact ⟨members, rfl⟩
  | _ =>
    rw [ofJson] at h
    · cases h
    all_goals simp

/-- Each reference in a plain document is that of a schema inside it. -/
theorem exists_of_occurs {scope : Scope} (hscope : scope.IsLatest) {document : Json}
    (hplain : IsPlain document) {keyword : String} {r : Reference}
    (h : Occurs (.reference keyword r) (ofJson scope document)) :
    ∃ s, Relation.ReflTransGen IsInside s document ∧
      ∃ text, ("$ref", .string text) ∈ s.members ∧ r = ⟨.named text, scope⟩ := by
  generalize hread : ofJson scope document = schema at h
  generalize hkeyword : Keyword.reference keyword r = k at h
  induction h generalizing document with
  | here hk =>
    obtain ⟨members, rfl⟩ := exists_object_of_ofJson_eq hread
    rw [hplain.ofJson_eq hscope] at hread
    cases hread
    cases hkeyword
    obtain ⟨m, hm, hk⟩ := List.mem_flatMap.mp hk
    obtain ⟨text, rfl, rfl⟩ := reference_of_mem_partKeywords hm (hplain _ .refl m hm) hk
    exact ⟨_, .refl, text, hm, rfl⟩
  | @inside l list t hl ht hk ih =>
    obtain ⟨members, rfl⟩ := exists_object_of_ofJson_eq hread
    rw [hplain.ofJson_eq hscope] at hread
    cases hread
    obtain ⟨m, hm, hl⟩ := List.mem_flatMap.mp hl
    have hpart : (m.1, partOf scope m.1 m.2) ∈ partsOf scope members := by
      rw [partsOf_eq_map]
      exact List.mem_map_of_mem hm
    rcases (areBuilt_partKeywords scope members hpart l hl).offered t ht with rfl | ⟨p, hp, ht⟩
    · cases hk
    · rw [partsOf_eq_map] at hp
      obtain ⟨n, hn, rfl⟩ := List.mem_map.mp hp
      rw [partOf_list, hscope.draft] at ht
      obtain ⟨sub, hsub, rfl⟩ := List.mem_map.mp ht
      have hinside : IsInside sub (.object members) := ⟨n, hn, .inl hsub⟩
      obtain ⟨s, hs, hreference⟩ := ih (hplain.of_isInside hinside) rfl
      exact ⟨s, hs.tail hinside, hreference⟩

/-! ## Schemas that are searched -/

/-- The part of a keyword is that of its member. -/
lemma lookup_partsOf (scope : Scope) (members : Json.Members) (keyword : String) :
    (partsOf scope members).lookup keyword =
      (Json.Members.get? members keyword).map (partOf scope keyword) := by
  rw [partsOf_eq_map, Json.Members.get?]
  induction members with
  | nil => rfl
  | cons m rest ih =>
    obtain ⟨name, v⟩ := m
    rw [List.map_cons, List.lookup_cons, List.lookup_cons, ih]
    by_cases h : keyword = name
    · subst h
      simp
    · rw [beq_false_of_ne h]

/-- The listed members are searched with the schema for other members. -/
lemma exists_looks_of_mem_othersBeside {parts : Parts} {values : Json.Members}
    {list : List (String × Schema)} (hlookup : parts.lookup "properties" =
      some (.namedSchemas values list)) {value : Json} (hvalue : value ≠ .bool true)
    (others : Schema) (patterns : List (Regex.Pattern × Schema)) {s : Schema}
    (hs : s ∈ list.map (·.2)) :
    ∃ k ∈ othersBeside parts value others patterns, k.Looks s := by
  have hclosed : s ∈ (Keyword.closedMembers list patterns).searched :=
    List.mem_append_right _ hs
  have hmembers : s ∈ (Keyword.members list patterns others).searched := by
    refine List.mem_append_right _ ?_
    split
    · exact List.mem_append_left _ hs
    · exact List.mem_cons_of_mem _ hs
  unfold othersBeside
  rw [hlookup]
  split
  · exact absurd rfl hvalue
  · rename_i h
    cases h
  · rename_i h
    cases h
    exact ⟨_, List.mem_singleton_self _, .inr hclosed⟩
  · rename_i h
    cases h
  · rename_i h
    cases h
    exact ⟨_, List.mem_singleton_self _, .inr hmembers⟩
  · rename_i h
    cases h
    exact ⟨_, List.mem_singleton_self _, .inl ⟨_, rfl⟩⟩

/-- The listed members are searched with the schema for other members, unless a pattern beside them
is none. -/
lemma exists_looks_of_mem_othersKeywords {parts : Parts} {values : Json.Members}
    {list : List (String × Schema)} (hlookup : parts.lookup "properties" =
      some (.namedSchemas values list)) {value : Json} (hvalue : value ≠ .bool true)
    (others : Schema) {s : Schema} (hs : s ∈ list.map (·.2)) :
    ∃ k ∈ othersKeywords parts value others, k.Looks s := by
  have hbeside := exists_looks_of_mem_othersBeside hlookup hvalue others
  unfold othersKeywords
  split
  · unfold withPatterns
    split
    · exact hbeside _ hs
    · exact ⟨_, List.mem_cons_of_mem _ (List.mem_singleton_self _), .inl ⟨_, rfl⟩⟩
  · exact ⟨_, List.mem_singleton_self _, .inl ⟨_, rfl⟩⟩
  · exact hbeside _ hs

/-- Where the schema for other members takes over the listed ones, it is searched with them. -/
lemma exists_looks_of_othersTakeOver {scope : Scope} {members list : Json.Members}
    (hget : Json.Members.get? members "properties" = some (.object list))
    (htake : othersTakeOver (partsOf scope members) = true) {name : String} {sub : Json}
    (hsub : (name, sub) ∈ list) :
    ∃ m ∈ members, ∃ k ∈ partKeywords scope members (partsOf scope members) m.1
      (partOf scope m.1 m.2), k.Looks (ofJson scope sub) := by
  have hlookup : (partsOf scope members).lookup "properties" =
      some (.namedSchemas list (namedSchemasOf scope list)) := by
    rw [lookup_partsOf, hget]
    rfl
  have hread : ofJson scope sub ∈ (namedSchemasOf scope list).map (·.2) := by
    rw [namedSchemasOf_eq_map, List.map_map]
    exact List.mem_map.mpr ⟨_, hsub, rfl⟩
  obtain ⟨value, hvalue, hothers⟩ : ∃ value, value ≠ .bool true ∧
      Json.Members.get? members "additionalProperties" = some value := by
    unfold othersTakeOver at htake
    rw [lookup_partsOf] at htake
    cases hothers : Json.Members.get? members "additionalProperties" with
    | none =>
      rw [hothers] at htake
      cases htake
    | some value =>
      rw [hothers] at htake
      refine ⟨value, ?_, rfl⟩
      rintro rfl
      cases htake
  exact ⟨_, Json.Members.mem_of_get? hothers,
    exists_looks_of_mem_othersKeywords hlookup hvalue (ofJson scope value) hread⟩

/-- A schema that stands in another one is searched with it, or cannot be reached because a keyword
around it is unusable. -/
theorem exists_looks_of_isNested (scope : Scope) {members sub : Json.Members}
    (h : IsNested (.object sub) (.object members)) :
    ∃ m ∈ members, ∃ k ∈ partKeywords scope members (partsOf scope members) m.1
      (partOf scope m.1 m.2), k.Looks (ofJson scope (.object sub)) := by
  cases h with
  | @single keyword hkeyword hget =>
    refine ⟨_, Json.Members.mem_of_get? hget, ?_⟩
    simp only [List.mem_cons, List.not_mem_nil, or_false] at hkeyword
    rcases hkeyword with rfl | rfl
    · exact ⟨_, List.mem_singleton_self _, .inr (List.mem_singleton_self _)⟩
    · exact ⟨_, List.mem_singleton_self _, .inr (List.mem_singleton_self _)⟩
  | @listed keyword items hkeyword hget hsub =>
    refine ⟨_, Json.Members.mem_of_get? hget, ?_⟩
    have hread : ofJson scope (.object sub) ∈ schemasOf scope items := by
      rw [schemasOf_eq_map]
      exact List.mem_map_of_mem hsub
    simp only [List.mem_cons, List.not_mem_nil, or_false] at hkeyword
    rcases hkeyword with rfl | rfl | rfl | rfl <;>
      exact ⟨_, List.mem_singleton_self _, .inr hread⟩
  | @named list name hget hsub =>
    by_cases htake : othersTakeOver (partsOf scope members) = true
    · exact exists_looks_of_othersTakeOver hget htake hsub
    · refine ⟨_, Json.Members.mem_of_get? hget, .properties (namedSchemasOf scope list), ?_,
        .inr ?_⟩
      · change _ ∈ if othersTakeOver (partsOf scope members) = true then _ else _
        rw [if_neg htake]
        exact List.mem_singleton_self _
      · change _ ∈ (namedSchemasOf scope list).map (·.2)
        rw [namedSchemasOf_eq_map, List.map_map]
        exact List.mem_map.mpr ⟨_, hsub, rfl⟩

/-! ## Refused documents -/

section

variable {visit : Reference → Followed → Except Defect Followed} {I : Followed → Prop}
  {scope : Scope}

/-- The visits of all references inside a document keep a property of what has been followed. -/
def VisitsKeep (visit : Reference → Followed → Except Defect Followed) (I : Followed → Prop)
    (scope : Scope) (document : Json) : Prop :=
  ∀ s, Relation.ReflTransGen IsInside s document → ∀ text, ("$ref", .string text) ∈ s.members →
    Keeps I (visit ⟨.named text, scope⟩)

lemma VisitsKeep.of_isInside {document sub : Json} (h : VisitsKeep visit I scope document)
    (hsub : IsInside sub document) : VisitsKeep visit I scope sub :=
  fun s hs => h s (hs.tail hsub)

/-- The visits of the references in a schema are those of the references inside the document. -/
lemma VisitsKeep.of_occurs (hscope : scope.IsLatest) {document : Json} (hplain : IsPlain document)
    (hvisit : VisitsKeep visit I scope document) (keyword : String) (r : Reference)
    (h : Occurs (.reference keyword r) (ofJson scope document)) : Keeps I (visit r) := by
  obtain ⟨s, hs, text, hmem, rfl⟩ := exists_of_occurs hscope hplain h
  exact hvisit s hs text hmem

/-- An object is refused if the search of one of its keywords is. -/
lemma refused_of_mem_partKeywords (hscope : scope.IsLatest) {members : Json.Members}
    (hplain : IsPlain (.object members)) (hvisit : VisitsKeep visit I scope (.object members))
    {m : String × Json} (hm : m ∈ members) {k : Keyword} (hk : k ∈
      partKeywords scope members (partsOf scope members) m.1 (partOf scope m.1 m.2))
    (hrefused : Refused I (searchKeyword visit k)) :
    Refused I (searchSchema visit (ofJson scope (.object members))) := by
  have hoccurs := VisitsKeep.of_occurs hscope hplain hvisit
  rw [hplain.ofJson_eq hscope] at hoccurs ⊢
  exact refused_of_mem hoccurs (List.mem_flatMap.mpr ⟨m, hm, hk⟩) hrefused

/-- A document is refused if a schema that stands in it is. -/
lemma refused_of_isNested (hscope : scope.IsLatest) {sub members : Json.Members}
    (h : IsNested (.object sub) (.object members)) (hplain : IsPlain (.object members))
    (hvisit : VisitsKeep visit I scope (.object members))
    (hrefused : Refused I (searchSchema visit (ofJson scope (.object sub)))) :
    Refused I (searchSchema visit (ofJson scope (.object members))) := by
  obtain ⟨m, hm, k, hk, hlooks⟩ := exists_looks_of_isNested scope h
  have hoccurs := VisitsKeep.of_occurs hscope hplain hvisit
  rw [hplain.ofJson_eq hscope] at hoccurs ⊢
  exact refused_of_mem_looks hoccurs (List.mem_flatMap.mpr ⟨m, hm, hk⟩) hlooks hrefused

/-- What an object stands in at any depth is an object. -/
lemma exists_object_of_buried {fault : Json.Members} {outer : Json}
    (h : Relation.ReflTransGen IsNested (.object fault) outer) :
    ∃ members, outer = .object members := by
  cases h with
  | refl => exact ⟨fault, rfl⟩
  | tail _ hstep => exact hstep.exists_object

/-- A document is refused if a schema is that stands in it at any depth. -/
theorem refused_of_buried (hscope : scope.IsLatest) {fault : Json.Members} {document : Json}
    (h : Relation.ReflTransGen IsNested (.object fault) document) (hplain : IsPlain document)
    (hvisit : VisitsKeep visit I scope document)
    (hrefused : IsPlain (.object fault) → VisitsKeep visit I scope (.object fault) →
      Refused I (searchSchema visit (ofJson scope (.object fault)))) :
    Refused I (searchSchema visit (ofJson scope document)) := by
  -- From the schema outwards: each schema around it is refused because the one inside it is.
  induction h with
  | refl => exact hrefused hplain hvisit
  | tail hpath hstep ih =>
    obtain ⟨sub, rfl⟩ := exists_object_of_buried hpath
    obtain ⟨members, rfl⟩ := hstep.exists_object
    have hinside := hstep.isInside
    exact refused_of_isNested hscope hstep hplain hvisit
      (ih (hplain.of_isInside hinside) (hvisit.of_isInside hinside))

end

end ConfigCheck.Schema
