import ConfigCheck.Proofs.Schema.Missing
import ConfigCheck.Proofs.Schema.Pointer
import ConfigCheck.Proofs.Shape.Refer

/-!
# Where rules stand

The tokens of a failure lead from the schema to the keyword that complains, or to the schema that
allows nothing.  While they stay in one document this is a pointer into it: each step of a schema
into a schema inside it is a step of the value from which it was read (`Parts.OffersAt.reaches`).
A reference leaves the document: its name stays among the tokens, and what follows leads on from
the target (`Traces.through`).  But the value of the reference is a text, so a pointer that goes on
behind it finds nothing.

So the schema path of a violation finds the node that it means exactly if no reference has been
followed on the way (`Validator.localTarget?_schemaPath`).
-/

namespace ConfigCheck

namespace Schema

/-! ## Reading, place by place -/

/-- A schema inside a part is read from the value to which its tokens lead. -/
lemma reaches_of_mem_places {scope : Scope} {members : Json.Members} {name : String} {v : Json}
    {place : List String × Schema} (hmem : (name, v) ∈ members)
    (h : place ∈ (partOf scope name v).places name) :
    ∃ w, (Json.object members).Reaches place.1 w ∧ place.2 = ofJson scope w := by
  have hself : place ∈ [([name], ofJson scope v)] →
      ∃ w, (Json.object members).Reaches place.1 w ∧ place.2 = ofJson scope w := by
    intro hplace
    cases List.mem_singleton.mp hplace
    exact ⟨v, .member hmem (.here v), rfl⟩
  have hitems : ∀ {items}, v = .array items →
      place ∈ (Part.schemas (schemasOf scope items)).places name →
        ∃ w, (Json.object members).Reaches place.1 w ∧ place.2 = ofJson scope w := by
    rintro items rfl hplace
    obtain ⟨⟨s, i⟩, hs, rfl⟩ := List.mem_map.mp hplace
    have hget := List.mem_zipIdx_iff_getElem?.mp hs
    rw [schemasOf_eq_map, List.getElem?_map] at hget
    obtain ⟨w, hw, rfl⟩ := Option.map_eq_some_iff.mp hget
    exact ⟨w, .member hmem (.item hw (.here w)), rfl⟩
  have hnamed : ∀ {inner}, v = .object inner →
      place ∈ (Part.namedSchemas inner (namedSchemasOf scope inner)).places name →
        ∃ w, (Json.object members).Reaches place.1 w ∧ place.2 = ofJson scope w := by
    rintro inner rfl hplace
    obtain ⟨⟨key, s⟩, hs, rfl⟩ := List.mem_map.mp hplace
    rw [namedSchemasOf_eq_map] at hs
    obtain ⟨⟨listed, w⟩, hw, heq⟩ := List.mem_map.mp hs
    cases heq
    exact ⟨w, .member hmem (.member hw (.here w)), rfl⟩
  unfold partOf at h
  split at h
  · cases h
  · exact hself h
  · split at h
    · exact hitems rfl h
    · cases h
  · split at h
    · exact hitems rfl h
    · exact hself h
  · split at h
    · exact hnamed rfl h
    · cases h

/-- What the parts of members offer is read from the value to which the tokens lead, unless it
stands for a schema that is not there. -/
lemma Parts.OffersAt.reaches {scope : Scope} {members : Json.Members}
    {place : List String × Schema} (h : (partsOf scope members).OffersAt place) :
    place.2 = .always true ∨
      ∃ w, (Json.object members).Reaches place.1 w ∧ place.2 = ofJson scope w := by
  refine h.imp_right ?_
  rintro ⟨p, hp, hplace⟩
  rw [partsOf_eq_map] at hp
  obtain ⟨⟨name, v⟩, hmem, rfl⟩ := List.mem_map.mp hp
  exact reaches_of_mem_places hmem hplace

/-- A schema is what a value is read into. -/
def IsReadFrom (s : Schema) (v : Json) : Prop :=
  ∃ scope, s = ofJson scope v ∨ s = ofContents scope v

/-- Only an object is read into keywords. -/
lemma IsReadFrom.eq_assemble {list : List Keyword} {v : Json} (h : IsReadFrom (.keywords list) v) :
    ∃ scope members, v = .object members ∧
      list = assemble scope members (partsOf scope members) := by
  obtain ⟨scope, hread⟩ := h
  cases v with
  | object members =>
    rw [ofJson, ofContents] at hread
    rcases hread with hlist | hlist
    · exact ⟨scope.enter members, members, rfl, Schema.keywords.inj hlist⟩
    · exact ⟨scope, members, rfl, Schema.keywords.inj hlist⟩
  | _ => simp [ofJson, ofContents] at hread

/-- Only a verdict is read into one. -/
lemma IsReadFrom.eq_bool {verdict : Bool} {v : Json} (h : IsReadFrom (.always verdict) v) :
    v = .bool verdict := by
  obtain ⟨scope, hread⟩ := h
  cases v with
  | bool b =>
    simp only [ofJson, ofContents, or_self, Schema.always.injEq] at hread
    rw [hread]
  | _ => simp [ofJson, ofContents] at hread

/-! ## Traces -/

/-- What a keyword complains about itself, under one of its names: as a rule, or as a keyword with
schemas inside it. -/
inductive Keyword.Complains : Keyword → String → Complaint → Prop where
  /-- It is a rule. -/
  | rule {keyword name : String} {a : Assertion} {value : Json} {f : Failure} :
    f ∈ a.failures keyword value → f.rule = [name] →
      Complains (.assertion keyword a) name f.complaint
  /-- It has schemas inside it. -/
  | own {k : Keyword} {name : String} {value : Json} {c : Complaint} : name ∈ k.ownNames →
    c.IsOwn value name → Complains k name c

/-- Tokens lead through a schema to the node of a complaint: to the value `false` if a schema allows
nothing, or to the member under which a keyword complains.  They start in the value from which the
schema was read, and `n` times a reference on the way leaves it for the target of the reference. -/
inductive Traces (registry : Registry) :
    ℕ → Schema → Json → List String → Complaint → Json → Prop where
  /-- The schema allows nothing. -/
  | verdict (value : Json) :
    Traces registry 0 (.always false) (.bool false) [] (.falseSchema value) (.bool false)
  /-- A keyword complains under the name of a member. -/
  | keyword {list : List Keyword} {k : Keyword} {members : Json.Members} {name : String}
      {c : Complaint} {node : Json} : k ∈ list → k.Complains name c → (name, node) ∈ members →
    Traces registry 0 (.keywords list) (.object members) [name] c node
  /-- The target of a reference allows nothing: the tokens end at the reference. -/
  | stop {list : List Keyword} {members : Json.Members} {name text : String} {r : Reference}
      {target : Target} (value : Json) : .reference name r ∈ list →
    (name, .string text) ∈ members → registry.follow r = .ok target →
      target.contents = .bool false →
      Traces registry 0 (.keywords list) (.object members) [name] (.falseSchema value)
        (.string text)
  /-- The tokens lead into a schema inside a keyword. -/
  | inside {n : ℕ} {list : List Keyword} {k : Keyword} {members : Json.Members}
      {before after : List String} {s : Schema} {w node : Json} {c : Complaint} : k ∈ list →
    (before, s) ∈ k.places → (Json.object members).Reaches before w →
      Traces registry n s w after c node →
        Traces registry n (.keywords list) (.object members) (before ++ after) c node
  /-- The tokens lead into a schema for names, which complains about a name. -/
  | name {n : ℕ} {list : List Keyword} {members : Json.Members} {tokens : List String} {s : Schema}
      {w node : Json} {c : Complaint} : .propertyNames s ∈ list →
    (Json.object members).Reaches ["propertyNames"] w → Traces registry n s w tokens c node →
      Traces registry n (.keywords list) (.object members) ("propertyNames" :: tokens)
        (.propertyName c) node
  /-- The tokens lead into the target of a reference. -/
  | through {n : ℕ} {list : List Keyword} {members : Json.Members} {name text first : String}
      {rest : List String} {r : Reference} {target : Target} {c : Complaint} {node : Json} :
    .reference name r ∈ list → (name, .string text) ∈ members →
      registry.follow r = .ok target →
        Traces registry n (ofContents target.scope target.contents) target.contents
          (first :: rest) c node →
        Traces registry (n + 1) (.keywords list) (.object members) (name :: first :: rest) c node

/-- Some tokens lead to each schema inside a keyword. -/
lemma Keyword.ne_nil_of_mem_places {k : Keyword} {tokens : List String} {s : Schema}
    (h : (tokens, s) ∈ k.places) : tokens ≠ [] := by
  have hmap : ∀ {α : Type} {list : List α} {place : α → List String × Schema},
      (∀ a, (place a).1 ≠ []) → (tokens, s) ∈ list.map place → tokens ≠ [] := by
    intro α list place hne hmem
    obtain ⟨a, -, heq⟩ := List.mem_map.mp hmem
    have hfirst := hne a
    rw [heq] at hfirst
    exact hfirst
  have hcons : ∀ {name : String} {rest : List String}, name :: rest ≠ [] :=
    List.cons_ne_nil _ _
  cases k with
  | allOf | anyOf | oneOf | itemList | properties | patternProperties =>
    exact hmap (fun _ => hcons) h
  | members list patterns others =>
    rcases List.mem_append.mp h with hknown | hother
    · rcases List.mem_append.mp hknown with hlisted | hmatching
      · exact hmap (fun _ => hcons) hlisted
      · exact hmap (fun _ => hcons) hmatching
    · cases List.mem_singleton.mp hother
      exact hcons
  | closedMembers list patterns =>
    rcases List.mem_append.mp h with hlisted | hmatching
    · exact hmap (fun _ => hcons) hlisted
    · exact hmap (fun _ => hcons) hmatching
  | conditional c t e =>
    simp only [places, List.mem_cons, Prod.mk.injEq, List.not_mem_nil, or_false] at h
    rcases h with ⟨rfl, -⟩ | ⟨rfl, -⟩ | ⟨rfl, -⟩ <;> exact hcons
  | assertion | unusable | noMembers | noPropertyNames | reference => cases h
  | _ =>
    cases List.mem_singleton.mp h
    exact hcons

namespace Traces

variable {registry : Registry} {n : ℕ} {s : Schema} {v node : Json} {tokens : List String}
  {c : Complaint}

/-- No tokens lead only to a schema that allows nothing. -/
lemma eq_false_of_nil (h : Traces registry n s v tokens c node) (htokens : tokens = []) :
    v = .bool false ∧ ∃ value, c = .falseSchema value := by
  cases h with
  | verdict value => exact ⟨rfl, value, rfl⟩
  | keyword | stop | name | through => cases htokens
  | inside _ hplace _ _ =>
    obtain ⟨hnil, -⟩ := List.append_eq_nil_iff.mp htokens
    exact absurd hnil (Keyword.ne_nil_of_mem_places hplace)

/-- Without references the tokens lead to the node in the value itself. -/
lemma reaches (h : Traces registry n s v tokens c node) (hn : n = 0) : v.Reaches tokens node := by
  induction h with
  | verdict => exact .here _
  | keyword _ _ hmem => exact .member hmem (.here _)
  | stop _ _ hmem _ _ => exact .member hmem (.here _)
  | inside _ _ hreaches _ ih => exact hreaches.append (ih hn)
  | name _ hreaches _ ih => exact hreaches.append (ih hn)
  | through => cases hn

/-- With a reference the tokens go on behind a text. -/
lemma exists_text (h : Traces registry n s v tokens c node) (hn : n ≠ 0) :
    ∃ before text first rest, tokens = before ++ first :: rest ∧
      v.Reaches before (.string text) := by
  have hbehind : ∀ {before after : List String} {v w : Json}, v.Reaches before w →
      (∃ front text first rest, after = front ++ first :: rest ∧
        w.Reaches front (.string text)) →
      ∃ front text first rest, before ++ after = front ++ first :: rest ∧
        v.Reaches front (.string text) := by
    rintro before after v w hreaches ⟨front, text, first, rest, rfl, htext⟩
    refine ⟨before ++ front, text, first, rest, ?_, hreaches.append htext⟩
    rw [List.append_assoc]
  induction h with
  | verdict | keyword | stop => exact absurd rfl hn
  | inside _ _ hreaches _ ih => exact hbehind hreaches (ih hn)
  | name _ hreaches _ ih => exact hbehind hreaches (ih hn)
  | @through n list members name text first rest r target c node _ hmem _ _ _ =>
    exact ⟨[name], text, first, rest, rfl, .member hmem (.here _)⟩

/-- Tokens that lead through the target of a reference lead on through the reference; if there are
none, they end at it. -/
lemma exists_of_follow {list : List Keyword} {members : Json.Members} {name text : String}
    {r : Reference} {target : Target} (hk : .reference name r ∈ list)
    (hmem : (name, .string text) ∈ members) (hfollow : registry.follow r = .ok target)
    (h : Traces registry n (ofContents target.scope target.contents) target.contents tokens c
      node) :
    ∃ n node, Traces registry n (.keywords list) (.object members) (name :: tokens) c node := by
  cases tokens with
  | nil =>
    obtain ⟨hfalse, value, rfl⟩ := h.eq_false_of_nil rfl
    exact ⟨0, .string text, .stop value hk hmem hfollow hfalse⟩
  | cons first rest => exact ⟨n + 1, node, .through hk hmem hfollow h⟩

/-- In a value that a document can have, the pointer of the tokens finds the node exactly if no
reference has been followed. -/
theorem localTarget?_eq (hformed : v.isWellFormed = true)
    (h : Traces registry n s v tokens c node) :
    localTarget? v (Json.pointerText tokens) = if n = 0 then some node else none := by
  by_cases hn : n = 0
  · have hreaches := h.reaches hn
    rw [if_pos hn, hreaches.localTarget? hformed]
  · obtain ⟨before, text, first, rest, htokens, htext⟩ := h.exists_text hn
    rw [if_neg hn, htokens, htext.localTarget?_behind hformed]

end Traces

/-! ## Traces of failures -/

/-- The complaints of a rule stand under one of its names, if they say where. -/
lemma Assertion.exists_rule_of_mem_failures {a : Assertion} {keyword : String} {v : Json}
    {f : Failure} (hf : f ∈ a.failures keyword v) (htraced : f.complaint.isTraced = true) :
    ∃ name ∈ a.ownNames keyword, f.rule = [name] := by
  cases hnamed : a.isNamed with
  | true =>
    obtain ⟨c, -, rfl⟩ := exists_complaint_of_mem_failures hnamed hf
    rw [ownNames_of_isNamed hnamed]
    exact ⟨keyword, List.mem_singleton_self _, rfl⟩
  | false =>
    cases a with
    | encodedJson =>
      cases v with
      | string s =>
        unfold failures at hf
        dsimp only at hf
        split at hf
        · cases List.mem_singleton.mp hf
          exact ⟨"contentEncoding", List.mem_cons_self, rfl⟩
        · split at hf
          · cases List.mem_singleton.mp hf
            cases htraced
          · cases List.mem_singleton.mp (List.mem_filter.mp hf).1
            exact ⟨"contentMediaType", List.mem_cons_of_mem _ List.mem_cons_self, rfl⟩
      | _ => cases hf
    | _ => cases hnamed

section

variable {registry : Registry} {follow : Reference → Json → Outcome}

/-- Some tokens of a failure lead through a schema that was read from a value. -/
def Failure.IsTracedIn (registry : Registry) (s : Schema) (v : Json) (f : Failure) : Prop :=
  f.complaint.isTraced = true → ∃ n node, Traces registry n s v f.rule f.complaint node

section

variable (hfollow : ∀ r value, ∀ g ∈ (follow r value).failures, ∃ target,
  registry.follow r = .ok target ∧
    g.IsTracedIn registry (ofContents target.scope target.contents) target.contents)

include hfollow

/-- What a keyword finds is traced if what the schemas inside it find is, and what the targets of
references find. -/
lemma isTracedIn_of_finds {scope : Scope} {members : Json.Members} {k : Keyword} {value : Json}
    {f : Failure} (hk : k ∈ assemble scope members (partsOf scope members))
    (hsub : ∀ s ∈ k.subschemas, ∀ w, IsReadFrom s w → ∀ value,
      ∀ g ∈ (evaluate follow s value).failures, g.IsTracedIn registry s w)
    (hf : k.Finds follow value f) :
    f.IsTracedIn registry (.keywords (assemble scope members (partsOf scope members)))
      (.object members) := by
  intro htraced
  obtain ⟨p, -, hbuilt⟩ := exists_isBuilt_of_mem_assemble hk
  have hown : ∀ name ∈ k.ownNames, ∃ node, (name, node) ∈ members := by
    intro name hname
    obtain ⟨⟨listed, node⟩, hmem, rfl⟩ := List.mem_map.mp (hbuilt.named name hname)
    exact ⟨node, hmem⟩
  -- A schema inside the keyword that finds something was read from a value to which tokens lead.
  have hread : ∀ {before s value g}, (before, s) ∈ k.places →
      g ∈ (evaluate follow s value).failures → g.complaint.isTraced = true →
        ∃ w n node, (Json.object members).Reaches before w ∧
          Traces registry n s w g.rule g.complaint node := by
    intro before s value g hplace hg htraced
    rcases (hbuilt.placed _ hplace).reaches with hnone | ⟨w, hreaches, hread⟩
    · dsimp only at hnone
      rw [hnone, evaluate] at hg
      cases hg
    · have hmem := Keyword.mem_subschemas_of_mem_places hplace
      obtain ⟨n, node, htrace⟩ := hsub s hmem w ⟨scope, .inl hread⟩ value g hg htraced
      exact ⟨w, n, node, hreaches, htrace⟩
  have hinside : ∀ {before s value g}, (before, s) ∈ k.places →
      g ∈ (evaluate follow s value).failures → g.complaint.isTraced = true →
        ∃ n node, Traces registry n
          (.keywords (assemble scope members (partsOf scope members))) (.object members)
          (before ++ g.rule) g.complaint node := by
    intro before s value g hplace hg htraced
    obtain ⟨w, n, node, hreaches, htrace⟩ := hread hplace hg htraced
    exact ⟨n, node, .inside hk hplace hreaches htrace⟩
  cases hf with
  | rule hf =>
    obtain ⟨name, hname, hrule⟩ := Assertion.exists_rule_of_mem_failures hf htraced
    obtain ⟨node, hmem⟩ := hown name hname
    rw [hrule]
    exact ⟨0, node, .keyword hk (.rule hf hrule) hmem⟩
  | own hname hc =>
    obtain ⟨node, hmem⟩ := hown _ hname
    exact ⟨0, node, .keyword hk (.own hname hc) hmem⟩
  | branch hplace hg => exact hinside hplace hg htraced
  | member hmem hplace hg => exact hinside hplace hg htraced
  | item hitem hplace hg => exact hinside hplace hg htraced
  | name hmem hg =>
    obtain ⟨w, n, node, hreaches, htrace⟩ := hread (List.mem_singleton_self _) hg htraced
    exact ⟨n, node, .name hk hreaches htrace⟩
  | @reference name r _ g hg =>
    obtain ⟨target, htarget, htrace⟩ := hfollow r value g hg
    obtain ⟨n, node, htrace⟩ := htrace htraced
    obtain ⟨text, hmem⟩ := hbuilt.texted rfl
    have hname : name = p.1 := by
      cases hbuilt.made with
      | reference => rfl
      | compound hcompound => cases hcompound
    rw [← hname] at hmem
    exact htrace.exists_of_follow hk hmem htarget

/-- What a schema finds is traced if what the targets of references find is. -/
theorem isTracedIn_of_mem_evaluate {s : Schema} {v : Json} (hread : IsReadFrom s v) {value : Json}
    {f : Failure} (hf : f ∈ (evaluate follow s value).failures) : f.IsTracedIn registry s v := by
  induction s using Schema.tree_induction generalizing v value f with
  | always verdict =>
    intro _
    have hv := hread.eq_bool
    cases verdict with
    | true =>
      rw [evaluate] at hf
      cases hf
    | false =>
      rw [evaluate] at hf
      cases List.mem_singleton.mp hf
      rw [hv]
      exact ⟨0, _, .verdict value⟩
  | unusable value =>
    rw [evaluate] at hf
    cases hf
  | keywords list ih =>
    obtain ⟨scope, members, rfl, rfl⟩ := hread.eq_assemble
    rw [evaluate, Outcome.failures_ofFindings, findings_eq_map] at hf
    obtain ⟨finding, hfinding, hf⟩ := List.mem_flatMap.mp hf
    obtain ⟨k, hk, rfl⟩ := List.mem_map.mp hfinding
    refine isTracedIn_of_finds hfollow hk ?_ (Keyword.finds_of_mem hf)
    intro s hs w hw value g hg
    exact ih k hk s hs hw hg

end

/-- What a schema finds is traced however many references are followed. -/
theorem isTracedIn_of_mem_outcomeWithin (n : ℕ) {s : Schema} {v : Json} (hread : IsReadFrom s v)
    {value : Json} {f : Failure} (hf : f ∈ (outcomeWithin registry n s value).failures) :
    f.IsTracedIn registry s v := by
  induction n generalizing s v value f with
  | zero =>
    rw [outcomeWithin] at hf
    refine isTracedIn_of_mem_evaluate ?_ hread hf
    intro r value g hg
    cases hg
  | succ n ih =>
    rw [outcomeWithin] at hf
    refine isTracedIn_of_mem_evaluate ?_ hread hf
    intro r value g hg
    split at hg
    · rename_i target htarget
      exact ⟨target, htarget, ih ⟨target.scope, .inr rfl⟩ hg⟩
    · cases hg

end

end Schema

namespace Validator

/-- The schema path of a violation is a pointer into the schema as long as no reference is followed:
then it finds the keyword that complains, or the schema that allows nothing.  Behind a reference it
finds nothing, and what follows the reference leads on from its target.  A violation that does not
say where the rule stands has the empty path, which is that of the whole schema. -/
theorem localTarget?_schemaPath {schema document : Json} {v : Validator} {violation : Violation}
    (hv : ofJson schema = .ok v) (hschema : schema.isWellFormed = true)
    (h : violation ∈ v.violations document) :
    ∃ f ∈ v.failures document, violation = f.toViolation document ∧
      (f.complaint.isTraced = false ∧ violation.schemaPath = "" ∨
        ∃ n node, Schema.Traces v.registry n v.schema schema f.rule f.complaint node ∧
          violation.schemaPath = Json.pointerText f.rule ∧
          Schema.localTarget? schema violation.schemaPath = if n = 0 then some node else none) := by
  obtain ⟨f, hf, rfl⟩ := List.mem_map.mp h
  refine ⟨f, hf, rfl, ?_⟩
  cases htraced : f.complaint.isTraced with
  | false =>
    left
    have hpath : f.reported.rule = [] := by
      unfold Schema.Failure.reported
      rw [htraced]
      rfl
    refine ⟨rfl, ?_⟩
    unfold Schema.Failure.toViolation
    rw [hpath]
    rfl
  | true =>
    right
    have hread : Schema.IsReadFrom v.schema schema := by
      obtain ⟨draft, base, collection, -, rfl⟩ := ofJson_eq_ok_iff.mp hv
      exact ⟨_, .inl rfl⟩
    obtain ⟨n, node, htrace⟩ := Schema.isTracedIn_of_mem_outcomeWithin _ hread hf htraced
    have hpath : (f.toViolation document).schemaPath = Json.pointerText f.rule := by
      unfold Schema.Failure.toViolation
      rw [Schema.Failure.reported_eq_self htraced]
    refine ⟨n, node, htrace, hpath, ?_⟩
    rw [hpath]
    exact htrace.localTarget?_eq hschema

end Validator

/-- The path of the only violation leads to the list of required names. -/
theorem Component.localTarget?_serverPorts :
    Validator.ofJson serverPorts.source = .ok serverPorts.validator ∧
      serverPorts.source.isWellFormed = true ∧
      ∃ violation ∈ serverPorts.validator.violations (.object [("servers", .array [.object []])]),
        violation.schemaPath = "/properties/servers/items/required" ∧
        ∃ (f : Schema.Failure) (node : Json),
          violation = f.toViolation (.object [("servers", .array [.object []])]) ∧
          Schema.Traces serverPorts.validator.registry 0 serverPorts.validator.schema
            serverPorts.source f.rule f.complaint node ∧
          Schema.localTarget? serverPorts.source violation.schemaPath = some node := by
  have hformed : serverPorts.source.isWellFormed = true := by decide
  have hfound : (serverPorts.validator.violations
      (.object [("servers", .array [.object []])])).map Violation.schemaPath =
        ["/properties/servers/items/required"] := by
    rw [violations_eq_map]
    decide
  obtain ⟨violation, hmem, hpath⟩ := List.mem_map.mp (hfound ▸ List.mem_singleton_self _)
  refine ⟨serverPorts.compiles, hformed, violation, hmem, hpath, ?_⟩
  obtain ⟨f, -, hviolation, hnone | ⟨n, node, htrace, -, htarget⟩⟩ :=
    Validator.localTarget?_schemaPath serverPorts.compiles hformed hmem
  · rw [hpath] at hnone
    exact absurd hnone.2 (by decide)
  · have hleads : (Schema.localTarget? serverPorts.source violation.schemaPath).isSome = true := by
      rw [hpath]
      decide
    have hn : n = 0 := by
      by_contra hn
      rw [htarget, if_neg hn] at hleads
      cases hleads
    rw [hn, if_pos rfl] at htarget
    rw [hn] at htrace
    exact ⟨f, node, hviolation, htrace, htarget⟩

/-- A schema that refers to the type of integers. -/
def Shape.integerReference : Json :=
  .object [("$defs", .object [("shape", .object [("type", .string "integer")])]),
    ("$ref", .string "#/$defs/shape")]

/-- A text is no integer, and the path of the violation goes on behind the reference, where there is
nothing. -/
theorem Shape.localTarget?_behindReference :
    integerReference.isWellFormed = true ∧ ∃ v, Validator.ofJson integerReference = .ok v ∧
      ∃ violation ∈ v.violations (.string "x"), violation.schemaPath = "/$ref/type" ∧
        Schema.localTarget? integerReference violation.schemaPath = none := by
  have hinteger : (clauses [.type .integer]).WellFormed := .type .integer
  have hsource : integerReference = .object (clauses [.type .integer]).referring := rfl
  have hcompiles : Validator.ofJson integerReference = .ok (clauses [.type .integer]).referrer := by
    rw [hsource]
    exact ofJson_referring_eq_ok hinteger
  have hschema : (clauses [.type .integer]).toSchema =
      .keywords [.assertion "type" (.type false .integer)] := rfl
  have hmem : Schema.Failure.below ["$ref"] ⟨[], ["type"], .type (.string "x") .integer⟩ ∈
      (clauses [.type .integer]).referrer.failures (.string "x") := by
    rw [failures_referrer hinteger, failures_validator hinteger, hschema, Schema.evaluate,
      Schema.findings_eq_map, List.map_singleton, Schema.Outcome.failures_ofFindings,
      List.flatMap_singleton, Schema.finding]
    exact List.mem_map_of_mem (List.mem_singleton_self _)
  refine ⟨by decide, _, hcompiles, _, List.mem_map_of_mem hmem, ?_, ?_⟩
  · decide
  · decide

end ConfigCheck
