import ConfigCheck.Proofs.Json.Place
import ConfigCheck.Proofs.Schema.Reading

/-!
# What a schema is put together from

Reading makes the keywords of a schema from its members, one member after the other.  Each keyword
that a member makes is a rule under one of the rule's own keywords, a reference, a keyword with
schemas inside it, or unusable (`Keyword.IsMade`), and the schemas inside it are those that have
been read from the members (`Parts.OffersAt`); both are said once for all ways of making keywords
(`areBuilt_partKeywords`).

So every schema inside a schema that has been read has been read itself (`IsRead.of_mem`), and what
holds of the keywords of each schema on its own holds of all keywords in it (`isProper_of_occurs`).
-/

namespace ConfigCheck

/-- The values directly inside a value. -/
def Json.children : Json → List Json
  | .array items => items
  | .object members => members.map (·.2)
  | _ => []

namespace Schema

/-! ## Keywords of rules -/

/-- The keywords under which a rule can stand. -/
def Assertion.keywords : Assertion → List String
  | never => ["additionalItems"]
  | type _ _ | types _ _ => ["type"]
  | const _ => ["const"]
  | enum _ => ["enum"]
  | minimum _ => ["minimum"]
  | maximum _ => ["maximum"]
  | exclusiveMinimum _ => ["exclusiveMinimum"]
  | exclusiveMaximum _ => ["exclusiveMaximum"]
  | multipleOf _ => ["multipleOf"]
  | minLength _ => ["minLength"]
  | maxLength _ => ["maxLength"]
  | pattern _ => ["pattern"]
  | format _ => ["format"]
  | minItems _ => ["minItems"]
  | maxItems _ => ["maxItems"]
  | uniqueItems => ["uniqueItems"]
  | noItemsAfter _ => ["additionalItems"]
  | required _ => ["required"]
  | requiredWith _ _ => ["dependentRequired", "dependencies"]
  | minProperties _ => ["minProperties"]
  | maxProperties _ => ["maxProperties"]
  | encoded => ["contentEncoding"]
  | holdsJson | encodedJson => ["contentMediaType"]

/-- Whether a rule stands under one of its own keywords. -/
def Keyword.isProper : Keyword → Bool
  | .assertion keyword a => keyword ∈ a.keywords
  | _ => true

/-- Whether content is looked into. -/
def Draft.looksIntoContent (d : Draft) : Bool := d == .draft6 || d == .draft7

/-- Whether a keyword is more than a rule, a reference or a fault. -/
def Keyword.isCompound : Keyword → Bool
  | .assertion _ _ | .unusable _ | .reference _ _ => false
  | _ => true

/-- What a member of a schema can make; `keyword` is the name of the member. -/
inductive Keyword.IsMade (d : Draft) (keyword : String) : Keyword → Prop where
  /-- A rule under one of its own keywords.  Only two drafts look into content. -/
  | rule {name : String} {a : Assertion} : name ∈ a.keywords →
    (a.isNamed = true ∨ d.looksIntoContent = true) → IsMade d keyword (.assertion name a)
  /-- A keyword that is unusable. -/
  | unusable (cause : Complaint) : IsMade d keyword (.unusable cause)
  /-- A reference. -/
  | reference (target : Reference) : keyword.toList.head? = some '$' →
    IsMade d keyword (.reference keyword target)
  /-- A keyword with schemas inside it, or about all members. -/
  | compound {k : Keyword} : k.isCompound = true → IsMade d keyword k

lemma Keyword.IsMade.isProper {d : Draft} {keyword : String} {k : Keyword}
    (h : k.IsMade d keyword) : k.isProper = true := by
  cases h with
  | rule hname => exact decide_eq_true hname
  | unusable | reference => rfl
  | compound hk => cases k <;> first | rfl | cases hk

/-! ## Parts -/

/-- The schemas inside a part. -/
def Part.list : Part → List Schema
  | .plain _ => []
  | .schema _ s => [s]
  | .schemas list => list
  | .namedSchemas _ list => list.map (·.2)

/-- The schemas inside a part, each with the tokens that lead to it; `name` is that of the part. -/
def Part.places (name : String) : Part → List (List String × Schema)
  | .plain _ => []
  | .schema _ s => [([name], s)]
  | .schemas list => list.zipIdx.map fun (s, i) => ([name, toString i], s)
  | .namedSchemas _ list => list.map fun (key, s) => ([name, key], s)

/-- The schemas at the places of a part are those inside it. -/
lemma Part.map_snd_places (name : String) (part : Part) :
    (part.places name).map Prod.snd = part.list := by
  cases part with
  | plain value => rfl
  | schema value s => rfl
  | schemas list => exact map_snd_numbered (fun i => [name, toString i]) list
  | namedSchemas values list => exact map_snd_tokens (fun key => [name, key]) list

/-- A schema is inside one of the parts, or it stands for one that is not there and allows all
values. -/
def Parts.Offers (parts : Parts) (s : Schema) : Prop :=
  s = .always true ∨ ∃ p ∈ parts, s ∈ p.2.list

/-- A schema stands where its tokens lead in the parts, or it stands for one that is not there and
allows all values. -/
def Parts.OffersAt (parts : Parts) (place : List String × Schema) : Prop :=
  place.2 = .always true ∨ ∃ p ∈ parts, place ∈ p.2.places p.1

lemma Parts.OffersAt.offers {parts : Parts} {place : List String × Schema}
    (h : parts.OffersAt place) : parts.Offers place.2 := by
  refine h.imp_right ?_
  rintro ⟨p, hp, hplace⟩
  refine ⟨p, hp, ?_⟩
  rw [← p.2.map_snd_places p.1]
  exact List.mem_map_of_mem hplace

/-- A keyword is one that the member can make, with schemas that the parts offer where the tokens of
the keyword lead, and it complains under names that are there. -/
structure Keyword.IsBuilt (d : Draft) (keyword : String) (members : Json.Members) (parts : Parts)
    (k : Keyword) : Prop where
  /-- The member can make it. -/
  made : k.IsMade d keyword
  /-- Its schemas are offered where its tokens lead. -/
  placed : ∀ place ∈ k.places, parts.OffersAt place
  /-- The names under which it complains are those of members. -/
  named : ∀ name ∈ k.ownNames, name ∈ members.map Prod.fst
  /-- If it is a reference, the member is a text. -/
  texted : ∀ {name r}, k = .reference name r → ∃ text, (keyword, .string text) ∈ members

/-- The schemas of a keyword that is built from parts are offered. -/
lemma Keyword.IsBuilt.offered {d : Draft} {keyword : String} {members : Json.Members}
    {parts : Parts} {k : Keyword} (h : k.IsBuilt d keyword members parts) :
    ∀ s ∈ k.subschemas, parts.Offers s := by
  intro s hs
  rw [← k.map_snd_places] at hs
  obtain ⟨place, hplace, rfl⟩ := List.mem_map.mp hs
  exact (h.placed place hplace).offers

/-- All keywords of a list are built from parts. -/
def AreBuilt (d : Draft) (keyword : String) (members : Json.Members) (parts : Parts)
    (list : List Keyword) : Prop :=
  ∀ k ∈ list, k.IsBuilt d keyword members parts

section

variable {d : Draft} {keyword : String} {members : Json.Members} {parts : Parts}

lemma areBuilt_nil : AreBuilt d keyword members parts [] := fun _ h => by cases h

lemma areBuilt_unusable (cause : Complaint) :
    AreBuilt d keyword members parts [.unusable cause] := by
  refine List.forall_mem_singleton.mpr ?_
  exact ⟨.unusable cause, List.forall_mem_nil _, List.forall_mem_nil _, fun h => by cases h⟩

/-- A rule, also one about content, whose complaints stand under other names too. -/
lemma areBuilt_assertion {name : String} {a : Assertion} (hname : name ∈ a.keywords)
    (ha : a.isNamed = true ∨ d.looksIntoContent = true)
    (hnames : ∀ n ∈ a.ownNames name, n ∈ members.map Prod.fst) :
    AreBuilt d keyword members parts (rule name a) := by
  refine List.forall_mem_singleton.mpr ?_
  exact ⟨.rule hname ha, List.forall_mem_nil _, hnames, fun h => by cases h⟩

lemma areBuilt_rule {name : String} {a : Assertion} (hname : name ∈ a.keywords)
    (ha : a.isNamed = true) (hmember : name ∈ members.map Prod.fst) :
    AreBuilt d keyword members parts (rule name a) := by
  apply areBuilt_assertion hname (.inl ha)
  rw [Assertion.ownNames_of_isNamed ha]
  exact List.forall_mem_singleton.mpr hmember

lemma areBuilt_reference (target : Reference) (hkeyword : keyword.toList.head? = some '$')
    {text : String} (hmember : (keyword, .string text) ∈ members) :
    AreBuilt d keyword members parts [.reference keyword target] := by
  refine List.forall_mem_singleton.mpr ?_
  exact ⟨.reference target hkeyword, List.forall_mem_nil _, List.forall_mem_nil _,
    fun _ => ⟨text, hmember⟩⟩

lemma areBuilt_compound {k : Keyword} (hk : k.isCompound = true)
    (hplaces : ∀ place ∈ k.places, parts.OffersAt place)
    (hnames : ∀ name ∈ k.ownNames, name ∈ members.map Prod.fst) :
    AreBuilt d keyword members parts [k] := by
  refine List.forall_mem_singleton.mpr ?_
  refine ⟨.compound hk, hplaces, hnames, ?_⟩
  rintro name r rfl
  cases hk

lemma AreBuilt.append {list others : List Keyword} (hlist : AreBuilt d keyword members parts list)
    (hothers : AreBuilt d keyword members parts others) :
    AreBuilt d keyword members parts (list ++ others) :=
  List.forall_mem_append.mpr ⟨hlist, hothers⟩

lemma areBuilt_ite {p : Prop} [Decidable p] {list others : List Keyword}
    (hlist : p → AreBuilt d keyword members parts list)
    (hothers : AreBuilt d keyword members parts others) :
    AreBuilt d keyword members parts (if p then list else others) := by
  split
  · exact hlist ‹_›
  · exact hothers

lemma areBuilt_flatMap {α : Type} {list : List α} {keywords : α → List Keyword}
    (h : ∀ a ∈ list, AreBuilt d keyword members parts (keywords a)) :
    AreBuilt d keyword members parts (list.flatMap keywords) := by
  intro k hk
  obtain ⟨a, ha, hk⟩ := List.mem_flatMap.mp hk
  exact h a ha k hk

/-- The name of a member that is found is there. -/
lemma mem_names_of_get? {name : String} {v : Json}
    (h : Json.Members.get? members name = some v) : name ∈ members.map Prod.fst :=
  List.mem_map_of_mem (Json.Members.mem_of_get? h)

/-- The name of a member that is `true` is there. -/
lemma mem_names_of_isTrue {name : String} (h : isTrue members name = true) :
    name ∈ members.map Prod.fst := by
  unfold isTrue at h
  split at h
  · rename_i b hget
    exact mem_names_of_get? hget
  · cases h

/-! ### Rules -/

lemma areBuilt_counting {name : String} {value : Json} {a : ℕ → Assertion}
    (hname : ∀ n, name ∈ (a n).keywords) (ha : ∀ n, (a n).isNamed = true)
    (hmember : name ∈ members.map Prod.fst) :
    AreBuilt d keyword members parts (counting d name value a) := by
  unfold counting
  split
  · exact areBuilt_rule (hname _) (ha _) hmember
  · exact areBuilt_unusable _

lemma areBuilt_comparing {name : String} {value : Json} {a : Number → Assertion}
    (hname : ∀ n, name ∈ (a n).keywords) (ha : ∀ n, (a n).isNamed = true)
    (hmember : name ∈ members.map Prod.fst) :
    AreBuilt d keyword members parts (comparing name value a) := by
  unfold comparing
  split
  · exact areBuilt_rule (hname _) (ha _) hmember
  · exact areBuilt_unusable _

lemma areBuilt_typeKeywords (strict : Bool) (value : Json)
    (hmember : "type" ∈ members.map Prod.fst) :
    AreBuilt d keyword members parts (typeKeywords strict "type" value) := by
  unfold typeKeywords
  split
  · split
    · exact areBuilt_rule (List.mem_singleton_self _) rfl hmember
    · exact areBuilt_unusable _
  · split
    · exact areBuilt_rule (List.mem_singleton_self _) rfl hmember
    · exact areBuilt_unusable _
  · split
    · exact areBuilt_unusable _
    · exact areBuilt_rule (List.mem_singleton_self _) rfl hmember
  · exact areBuilt_unusable _

lemma areBuilt_requirement {name : String} (hname : name ∈ ["dependentRequired", "dependencies"])
    (hmember : name ∈ members.map Prod.fst) (trigger : String) (value : Json) :
    AreBuilt d keyword members parts (requirement name trigger value) := by
  unfold requirement
  split
  · exact areBuilt_rule hname rfl hmember
  · exact areBuilt_unusable _

lemma areBuilt_requirements (hmember : "dependentRequired" ∈ members.map Prod.fst)
    (value : Json) :
    AreBuilt d keyword members parts (requirements "dependentRequired" value) := by
  unfold requirements
  split
  · refine areBuilt_flatMap fun ⟨trigger, v⟩ _ => ?_
    dsimp only
    split
    · exact areBuilt_ite (fun _ => areBuilt_requirement (by decide) hmember _ _)
        (areBuilt_unusable _)
    · exact areBuilt_unusable _
  · exact areBuilt_unusable _

lemma areBuilt_contentRule {name : String} (hname : name ∈ ["contentEncoding", "contentMediaType"])
    (hd : d.looksIntoContent = true) (hmember : name ∈ members.map Prod.fst) (value : Json) :
    AreBuilt d keyword members parts (contentRule name members value) := by
  unfold contentRule
  split
  · split
    · rename_i hmedia
      subst hmedia
      split
      · split
        · exact areBuilt_rule (by decide) rfl hmember
        · rename_i e hencoding
          have hboth : ∀ n ∈ Assertion.encodedJson.ownNames "contentMediaType",
              n ∈ members.map Prod.fst := by
            intro n hn
            simp only [Assertion.ownNames, List.mem_cons, List.not_mem_nil, or_false] at hn
            rcases hn with rfl | rfl
            · exact mem_names_of_get? hencoding
            · exact hmember
          exact areBuilt_ite (fun _ => areBuilt_assertion (by decide) (.inr hd) hboth) areBuilt_nil
        · exact areBuilt_unusable _
      · exact areBuilt_nil
    · rename_i hmedia
      have hencoding : name = "contentEncoding" := by simpa [hmedia] using hname
      subst hencoding
      exact areBuilt_ite (fun _ => areBuilt_rule (by decide) rfl hmember) areBuilt_nil
  · exact areBuilt_unusable _

/-- Plain values make rules and references. -/
theorem areBuilt_plainKeywords (scope : Scope) {value : Json}
    (hvalue : (keyword, value) ∈ members) :
    AreBuilt scope.draft keyword members parts (plainKeywords scope members keyword value) := by
  have hmember : keyword ∈ members.map Prod.fst := List.mem_map_of_mem hvalue
  unfold plainKeywords
  dsimp only
  split
  case h_1 => exact areBuilt_typeKeywords _ _ hmember
  case h_2 | h_17 | h_18 =>
    split
    · exact areBuilt_rule (List.mem_singleton_self _) rfl hmember
    · first | exact areBuilt_unusable _ | exact areBuilt_nil
  case h_3 =>
    exact areBuilt_ite (fun _ => areBuilt_rule (List.mem_singleton_self _) rfl hmember) areBuilt_nil
  case h_4 | h_5 =>
    refine areBuilt_ite (fun hexclusive => ?_)
      (areBuilt_comparing (fun _ => List.mem_singleton_self _) (fun _ => rfl) hmember)
    have htrue := mem_names_of_isTrue (Bool.and_eq_true_iff.mp hexclusive).2
    exact areBuilt_comparing (fun _ => List.mem_singleton_self _) (fun _ => rfl) htrue
  case h_6 | h_7 =>
    exact areBuilt_ite
      (fun _ => areBuilt_comparing (fun _ => List.mem_singleton_self _) (fun _ => rfl) hmember)
      areBuilt_nil
  case h_8 => exact areBuilt_comparing (fun _ => List.mem_singleton_self _) (fun _ => rfl) hmember
  case h_9 | h_10 | h_11 | h_12 | h_13 | h_14 =>
    exact areBuilt_counting (fun _ => List.mem_singleton_self _) (fun _ => rfl) hmember
  case h_15 =>
    split
    · split
      · exact areBuilt_rule (List.mem_singleton_self _) rfl hmember
      · exact areBuilt_unusable _
    · exact areBuilt_unusable _
  case h_16 =>
    split
    · rename_i name
      cases StringFormat.ofName? scope.draft name with
      | none => exact areBuilt_nil
      | some f => exact areBuilt_rule (List.mem_singleton_self _) rfl hmember
    · exact areBuilt_nil
  case h_19 => exact areBuilt_ite (fun _ => areBuilt_requirements hmember _) areBuilt_nil
  case h_20 | h_21 =>
    exact areBuilt_ite (fun hd => areBuilt_contentRule (by decide) hd hmember _) areBuilt_nil
  case h_22 =>
    split
    · exact areBuilt_reference _ (by decide) hvalue
    · exact areBuilt_unusable _
  case h_23 | h_24 =>
    split
    · exact areBuilt_ite (fun _ => areBuilt_reference _ (by decide) hvalue) areBuilt_nil
    · exact areBuilt_ite (fun _ => areBuilt_unusable _) areBuilt_nil
  case h_28 | h_32 => exact areBuilt_ite (fun _ => areBuilt_unusable _) areBuilt_nil
  case h_33 => exact areBuilt_nil
  all_goals exact areBuilt_unusable _

/-! ### Keywords with schemas -/

/-- The schemas of the part under a keyword are offered. -/
lemma offersAt_of_lookup {name : String} {part : Part} {place : List String × Schema}
    (h : parts.lookup name = some part) (hplace : place ∈ part.places name) :
    parts.OffersAt place := by
  obtain ⟨before, after, rfl, -⟩ := List.lookup_eq_some_iff.mp h
  exact .inr ⟨(name, part), List.mem_append_right _ List.mem_cons_self, hplace⟩

/-- The schema under a keyword is offered, also if there is none. -/
lemma offersAt_schema? (parts : Parts) (name : String) :
    parts.OffersAt ([name], (parts.schema? name).getD (.always true)) := by
  unfold Parts.schema?
  split
  · rename_i h
    exact offersAt_of_lookup h (List.mem_singleton_self _)
  · exact .inl rfl

/-- The source of a pattern is the text under which it stands. -/
lemma source_of_patternOf {value : Json} {text : String} {p : Regex.Pattern}
    (h : patternOf value text = .ok p) : p.source = text := by
  unfold patternOf at h
  split at h
  · rename_i q hq
    cases h
    unfold Regex.Pattern.ofString? at hq
    simp only [Option.bind_eq_bind, Option.bind_eq_some_iff, Option.some.injEq] at hq
    obtain ⟨_, _, _, _, _, _, rfl⟩ := hq
    rfl
  · cases h

/-- The schemas of patterns are those that stand under them. -/
lemma mem_of_mem_patternsOf {values : Json.Members} {list : List (String × Schema)}
    {p : Regex.Pattern} {s : Schema} (h : (p, s) ∈ (patternsOf values list).1) :
    (p.source, s) ∈ list := by
  induction list with
  | nil => cases h
  | cons m rest ih =>
    obtain ⟨text, t⟩ := m
    unfold patternsOf at h ih
    rw [List.foldr_cons] at h
    generalize List.foldr _ _ rest = found at h ih
    obtain ⟨patterns, fault⟩ := found
    dsimp only at h
    split at h
    · rename_i q hq
      rcases List.mem_cons.mp h with heq | h
      · cases heq
        rw [source_of_patternOf hq]
        exact List.mem_cons_self
      · exact List.mem_cons_of_mem _ (ih h)
    · cases h

lemma areBuilt_withPatterns {values : Json.Members} {list : List (String × Schema)}
    {keywords : List (Regex.Pattern × Schema) → List Keyword}
    (hlist : ∀ m ∈ list, parts.OffersAt (["patternProperties", m.1], m.2))
    (hkeywords : ∀ patterns : List (Regex.Pattern × Schema),
      (∀ place ∈ (Keyword.patternProperties patterns).places, parts.OffersAt place) →
        AreBuilt d keyword members parts (keywords patterns)) :
    AreBuilt d keyword members parts (withPatterns values list keywords) := by
  have hpatterns : ∀ place ∈ (Keyword.patternProperties (patternsOf values list).1).places,
      parts.OffersAt place := by
    intro place hplace
    obtain ⟨⟨p, s⟩, hmem, rfl⟩ := List.mem_map.mp hplace
    exact hlist (p.source, s) (mem_of_mem_patternsOf hmem)
  unfold withPatterns
  generalize patternsOf values list = found at hpatterns
  obtain ⟨patterns, fault⟩ := found
  cases fault with
  | none => exact hkeywords patterns hpatterns
  | some c =>
    exact (areBuilt_compound rfl hpatterns (List.forall_mem_nil _)).append (areBuilt_unusable c)

lemma areBuilt_othersBeside {value : Json} {others : Schema}
    {patterns : List (Regex.Pattern × Schema)}
    (hmember : "additionalProperties" ∈ members.map Prod.fst)
    (hothers : parts.OffersAt (["additionalProperties"], others))
    (hpatterns : ∀ place ∈ (Keyword.patternProperties patterns).places, parts.OffersAt place) :
    AreBuilt d keyword members parts (othersBeside parts value others patterns) := by
  have hlisted : ∀ {values list}, parts.lookup "properties" = some (.namedSchemas values list) →
      ∀ place ∈ (Keyword.properties list).places, parts.OffersAt place := by
    intro values list h place hplace
    exact offersAt_of_lookup h hplace
  have hother : ∀ place ∈ [(["additionalProperties"], others)], parts.OffersAt place :=
    List.forall_mem_singleton.mpr hothers
  have hnone : ∀ place ∈ ([] : List (List String × Schema)), parts.OffersAt place :=
    List.forall_mem_nil _
  have hown : ∀ name ∈ ["additionalProperties"], name ∈ members.map Prod.fst :=
    List.forall_mem_singleton.mpr hmember
  have hsilent : ∀ name ∈ ([] : List String), name ∈ members.map Prod.fst :=
    List.forall_mem_nil _
  unfold othersBeside
  split
  · exact areBuilt_compound rfl hother hsilent
  · split
    · exact areBuilt_compound rfl hpatterns hown
    · exact areBuilt_compound rfl hnone hown
  · rename_i h
    exact areBuilt_compound rfl (List.forall_mem_append.mpr ⟨hlisted h, hpatterns⟩) hown
  · exact areBuilt_compound rfl (List.forall_mem_append.mpr ⟨hpatterns, hother⟩) hsilent
  · rename_i h
    have hknown := List.forall_mem_append.mpr ⟨hlisted h, hpatterns⟩
    exact areBuilt_compound rfl (List.forall_mem_append.mpr ⟨hknown, hother⟩) hsilent
  · exact areBuilt_unusable _

lemma areBuilt_othersKeywords {value : Json} {others : Schema}
    (hmember : "additionalProperties" ∈ members.map Prod.fst)
    (hothers : parts.OffersAt (["additionalProperties"], others)) :
    AreBuilt d keyword members parts (othersKeywords parts value others) := by
  unfold othersKeywords
  split
  · rename_i h
    refine areBuilt_withPatterns (fun m hm => offersAt_of_lookup h ?_) fun patterns hpatterns =>
      areBuilt_othersBeside hmember hothers hpatterns
    exact List.mem_map_of_mem hm
  · exact areBuilt_unusable _
  · exact areBuilt_othersBeside hmember hothers (List.forall_mem_nil _)

lemma areBuilt_itemsBeyond {items? : Option Json} {value : Json} {s : Schema}
    (hmember : "additionalItems" ∈ members.map Prod.fst)
    (hs : parts.OffersAt (["additionalItems"], s)) :
    AreBuilt d keyword members parts (itemsBeyond "additionalItems" items? value s) := by
  have hitems : ∀ (skip : ℕ) {t : Schema}, parts.OffersAt (["additionalItems"], t) →
      AreBuilt d keyword members parts [.items "additionalItems" skip t] := fun skip t ht =>
    areBuilt_compound rfl (List.forall_mem_singleton.mpr ht) (List.forall_mem_nil _)
  have hrule : ∀ {a : Assertion}, a.keywords = ["additionalItems"] → a.isNamed = true →
      AreBuilt d keyword members parts (rule "additionalItems" a) := fun hname ha =>
    areBuilt_rule (hname ▸ List.mem_singleton_self _) ha hmember
  unfold itemsBeyond
  split
  · exact areBuilt_nil
  · exact areBuilt_nil
  · exact areBuilt_nil
  · exact hrule rfl rfl
  · exact hitems _ hs
  · exact (hrule rfl rfl).append (hitems _ (.inl rfl))
  · exact hitems _ hs
  · exact areBuilt_nil
  · exact areBuilt_unusable _

lemma areBuilt_containsKeywords {e : Draft} {s : Schema}
    (hmember : "contains" ∈ members.map Prod.fst) (hs : parts.OffersAt (["contains"], s)) :
    AreBuilt d keyword members parts (containsKeywords e members s) := by
  -- A bound is there only if the member for it is.
  have hbound : ∀ {name : String} {bound : Option ℕ} {n : ℕ},
      (Json.Members.get? members name = none → bound = none) → bound = some n →
        name ∈ members.map Prod.fst := by
    intro name bound n hnone hn
    cases hget : Json.Members.get? members name with
    | some v => exact mem_names_of_get? hget
    | none =>
      rw [hnone hget] at hn
      cases hn
  unfold containsKeywords
  dsimp only
  split
  · exact areBuilt_unusable _
  · exact areBuilt_unusable _
  · rename_i low high hlow hhigh
    have hmin : Json.Members.get? members "minContains" = none → low = none := by
      intro hget
      rw [hget] at hlow
      exact (Except.ok.inj hlow).symm
    have hmax : Json.Members.get? members "maxContains" = none → high = none := by
      intro hget
      rw [hget] at hhigh
      exact (Except.ok.inj hhigh).symm
    refine areBuilt_compound rfl (List.forall_mem_singleton.mpr hs) fun name hname => ?_
    cases low with
    | none =>
      cases high with
      | none =>
        cases List.mem_singleton.mp hname
        exact hmember
      | some n =>
        cases List.mem_singleton.mp hname
        exact hbound hmax rfl
    | some m =>
      cases high with
      | none =>
        cases List.mem_singleton.mp hname
        exact hbound hmin rfl
      | some n =>
        rcases List.mem_cons.mp hname with rfl | hname
        · exact hbound hmin rfl
        · cases List.mem_singleton.mp hname
          exact hbound hmax rfl

lemma areBuilt_schemaKeywords {e : Draft} {value : Json} {s : Schema}
    (hmember : keyword ∈ members.map Prod.fst) (hs : parts.OffersAt ([keyword], s)) :
    AreBuilt d keyword members parts (schemaKeywords e members parts keyword value s) := by
  have hsingle : ∀ place ∈ [([keyword], s)], parts.OffersAt place :=
    List.forall_mem_singleton.mpr hs
  have hown : ∀ name ∈ [keyword], name ∈ members.map Prod.fst :=
    List.forall_mem_singleton.mpr hmember
  have hsilent : ∀ name ∈ ([] : List String), name ∈ members.map Prod.fst :=
    List.forall_mem_nil _
  unfold schemaKeywords
  split
  case h_1 | h_8 | h_9 => exact areBuilt_compound rfl hsingle hown
  case h_2 => exact areBuilt_othersKeywords hmember hs
  case h_3 =>
    split
    · exact areBuilt_compound rfl hsingle hsilent
    · exact areBuilt_compound rfl (List.forall_mem_nil _) hown
    · exact areBuilt_nil
  case h_4 =>
    dsimp only
    split
    · exact areBuilt_compound rfl hsingle hsilent
    · exact areBuilt_compound rfl hsingle hsilent
    · exact areBuilt_nil
  case h_5 => exact areBuilt_itemsBeyond hmember hs
  case h_6 => exact areBuilt_containsKeywords hmember hs
  case h_7 =>
    dsimp only
    split
    · refine areBuilt_compound rfl (fun place hplace => ?_) hsilent
      simp only [Keyword.places, List.mem_cons, List.not_mem_nil, or_false] at hplace
      rcases hplace with rfl | rfl | rfl
      · exact hs
      · exact offersAt_schema? parts "then"
      · exact offersAt_schema? parts "else"
    · exact areBuilt_compound rfl hsingle hsilent
  case h_10 => exact areBuilt_nil

lemma areBuilt_listKeywords {name : String} {list : List Schema}
    (hmember : name ∈ members.map Prod.fst)
    (hlist : ∀ place ∈ (Part.schemas list).places name, parts.OffersAt place) :
    AreBuilt d keyword members parts (listKeywords name list) := by
  have hown : ∀ n ∈ [name], n ∈ members.map Prod.fst := List.forall_mem_singleton.mpr hmember
  have hsilent : ∀ name ∈ ([] : List String), name ∈ members.map Prod.fst :=
    List.forall_mem_nil _
  unfold listKeywords
  split
  case h_1 | h_4 => exact areBuilt_compound rfl hlist hsilent
  case h_2 | h_3 => exact areBuilt_compound rfl hlist hown

lemma areBuilt_namedKeywords {name : String} {values : Json.Members}
    {list : List (String × Schema)} (hmember : name ∈ members.map Prod.fst)
    (hlist : ∀ m ∈ list, parts.OffersAt ([name, m.1], m.2)) :
    AreBuilt d keyword members parts (namedKeywords parts name values list) := by
  have hsilent : ∀ name ∈ ([] : List String), name ∈ members.map Prod.fst :=
    List.forall_mem_nil _
  have hdependent : ∀ m ∈ list, AreBuilt d keyword members parts [.dependent name m.1 m.2] :=
    fun m hm => areBuilt_compound rfl (List.forall_mem_singleton.mpr (hlist m hm)) hsilent
  unfold namedKeywords
  split
  case h_1 =>
    split
    · exact areBuilt_nil
    · exact areBuilt_compound rfl (List.forall_mem_map.mpr hlist) hsilent
  case h_2 =>
    split
    · exact areBuilt_nil
    · exact areBuilt_withPatterns hlist fun patterns h => areBuilt_compound rfl h hsilent
  case h_3 =>
    refine areBuilt_flatMap fun m hm => ?_
    dsimp only
    split
    · exact areBuilt_requirement (by decide) hmember _ _
    · exact hdependent m hm
  case h_4 =>
    intro k hk
    obtain ⟨m, hm, rfl⟩ := List.mem_map.mp hk
    exact hdependent m hm _ (List.mem_singleton_self _)

/-- The keywords that a member makes are built from the parts. -/
theorem areBuilt_partKeywords (scope : Scope) (members : Json.Members) {part : Part}
    (hpart : (keyword, part) ∈ partsOf scope members) :
    AreBuilt scope.draft keyword members (partsOf scope members)
      (partKeywords scope members (partsOf scope members) keyword part) := by
  have hoffers : ∀ place ∈ part.places keyword, (partsOf scope members).OffersAt place :=
    fun place hplace => .inr ⟨(keyword, part), hpart, hplace⟩
  obtain ⟨⟨name, v⟩, hmem, heq⟩ : ∃ m ∈ members, (m.1, partOf scope m.1 m.2) = (keyword, part) := by
    rw [partsOf_eq_map] at hpart
    exact List.mem_map.mp hpart
  obtain ⟨rfl, hv⟩ := Prod.mk.inj heq
  have hmember : name ∈ members.map Prod.fst := List.mem_map_of_mem hmem
  cases part with
  | plain value =>
    cases eq_of_partOf_eq_plain hv
    exact areBuilt_plainKeywords scope hmem
  | schema value s =>
    exact areBuilt_schemaKeywords hmember (hoffers _ (List.mem_singleton_self _))
  | schemas list => exact areBuilt_listKeywords hmember hoffers
  | namedSchemas values list =>
    exact areBuilt_namedKeywords hmember fun m hm => hoffers _ (List.mem_map_of_mem hm)

/-- Each keyword of a schema is made by one of its members. -/
theorem exists_isBuilt_of_mem_assemble {scope : Scope} {members : Json.Members} {k : Keyword}
    (hk : k ∈ assemble scope members (partsOf scope members)) :
    ∃ p ∈ partsOf scope members,
      k.IsBuilt scope.draft p.1 members (partsOf scope members) := by
  unfold assemble at hk
  obtain ⟨⟨name, part⟩, hpart, hk⟩ := List.mem_flatMap.mp hk
  have hmem : (name, part) ∈ partsOf scope members := by
    split at hpart <;> exact (List.mem_filter.mp hpart).1
  exact ⟨(name, part), hmem, areBuilt_partKeywords scope members hmem k hk⟩

end

/-! ## Schemas that have been read -/

/-- The schemas inside a part are read from the value of the member or from values inside it. -/
lemma exists_eq_ofJson_of_mem_partOf {scope : Scope} {keyword : String} {v : Json} {s : Schema}
    (hs : s ∈ (partOf scope keyword v).list) : ∃ w ∈ v :: v.children, s = ofJson scope w := by
  have hself : s ∈ [ofJson scope v] → ∃ w ∈ v :: v.children, s = ofJson scope w := fun h =>
    ⟨v, List.mem_cons_self, List.mem_singleton.mp h⟩
  have hitems : ∀ {items}, v = .array items → s ∈ schemasOf scope items →
      ∃ w ∈ v :: v.children, s = ofJson scope w := by
    rintro items rfl h
    rw [schemasOf_eq_map] at h
    obtain ⟨w, hw, rfl⟩ := List.mem_map.mp h
    exact ⟨w, List.mem_cons_of_mem _ hw, rfl⟩
  have hmembers : ∀ {members}, v = .object members →
      s ∈ (namedSchemasOf scope members).map (·.2) →
        ∃ w ∈ v :: v.children, s = ofJson scope w := by
    rintro members rfl h
    rw [namedSchemasOf_eq_map, List.map_map] at h
    obtain ⟨m, hm, rfl⟩ := List.mem_map.mp h
    exact ⟨m.2, List.mem_cons_of_mem _ (List.mem_map_of_mem hm), rfl⟩
  unfold partOf at hs
  split at hs
  · cases hs
  · exact hself hs
  · split at hs
    · exact hitems rfl hs
    · cases hs
  · split at hs
    · exact hitems rfl hs
    · exact hself hs
  · split at hs
    · exact hmembers rfl hs
    · cases hs

/-- The schemas that the parts of members offer are read from the values of the members or from
values inside them, or allow all values. -/
lemma Parts.Offers.exists_eq_ofJson {scope : Scope} {members : Json.Members} {s : Schema}
    (h : (partsOf scope members).Offers s) :
    s = .always true ∨ ∃ m ∈ members, ∃ w ∈ m.2 :: m.2.children, s = ofJson scope w := by
  refine h.imp_right ?_
  rintro ⟨p, hp, hs⟩
  rw [partsOf_eq_map] at hp
  obtain ⟨m, hm, rfl⟩ := List.mem_map.mp hp
  exact ⟨m, hm, exists_eq_ofJson_of_mem_partOf hs⟩

/-- A schema is what some value is read into. -/
def IsRead (s : Schema) : Prop :=
  ∃ scope v, s = ofJson scope v ∨ s = ofContents scope v

lemma isRead_ofJson (scope : Scope) (v : Json) : IsRead (ofJson scope v) := ⟨scope, v, .inl rfl⟩

/-- A list of keywords that has been read is put together from the parts of members. -/
lemma IsRead.eq_assemble {list : List Keyword} (h : IsRead (.keywords list)) :
    ∃ scope members, list = assemble scope members (partsOf scope members) := by
  obtain ⟨scope, v, hread⟩ := h
  cases v with
  | object members =>
    rw [ofJson, ofContents] at hread
    rcases hread with hlist | hlist
    · exact ⟨scope.enter members, members, Schema.keywords.inj hlist⟩
    · exact ⟨scope, members, Schema.keywords.inj hlist⟩
  | _ => simp [ofJson, ofContents] at hread

/-- Each keyword of a schema that has been read stands where it can, and the schemas inside it have
been read. -/
lemma IsRead.of_mem {list : List Keyword} {k : Keyword} (h : IsRead (.keywords list))
    (hk : k ∈ list) : k.isProper = true ∧ ∀ s ∈ k.subschemas, IsRead s := by
  obtain ⟨scope, members, rfl⟩ := h.eq_assemble
  obtain ⟨p, -, hbuilt⟩ := exists_isBuilt_of_mem_assemble hk
  refine ⟨hbuilt.made.isProper, fun s hs => ?_⟩
  rcases (hbuilt.offered s hs).exists_eq_ofJson with rfl | ⟨m, -, w, -, rfl⟩
  · exact ⟨scope, .bool true, .inl (by rw [ofJson])⟩
  · exact isRead_ofJson scope w

/-- Every rule in a schema that has been read stands under one of its own keywords. -/
theorem isProper_of_occurs {k : Keyword} {s : Schema} (hs : IsRead s) (hk : Occurs k s) :
    k.isProper = true := by
  induction hk with
  | here hmem => exact (hs.of_mem hmem).1
  | inside hmem hsub _ ih => exact ih ((hs.of_mem hmem).2 _ hsub)

end Schema

end ConfigCheck
