import ConfigCheck.Proofs.Outcome
import ConfigCheck.Proofs.Schema.Assembly
import ConfigCheck.Proofs.Uri.Fragment
import ConfigCheck.Proofs.Uri.Settled
import ConfigCheck.Schema.Defect

/-!
# Places that are reached

References lead from one base to the next.  From a base in normal form they lead only to such
bases (`Registry.isNormal_of_follow`), and all references in a schema that is read at such a base
stand at one (`isNormal_of_occurs`).

Where the names in the registry are settled, a reference that can be followed means one of the
resources, or a place in one (`Registry.exists_isKeyIn_of_follow`).
-/

namespace ConfigCheck

namespace Uri

/-- An identifier is the normal form of one. -/
def IsNormal (u : Uri) : Prop := ∃ w : Uri, u = w.normalize

/-- The path of a normal form without an authority does not look like one. -/
lemma IsNormal.take_path {u : Uri} (h : u.IsNormal) (hauthority : u.authority = none) :
    u.path.toList.take 2 ≠ ['/', '/'] := by
  obtain ⟨w, rfl⟩ := h
  have hw : w.authority = none := by
    cases hw : w.authority with
    | none => rfl
    | some a =>
      unfold normalize at hauthority
      rw [hw] at hauthority
      cases hauthority
  have hguarded : ∀ path : List Char,
      (if path.take 2 = ['/', '/'] then '/' :: '.' :: path else path).take 2 ≠ ['/', '/'] := by
    intro path
    split
    · simp
    · assumption
  simp [normalize, hw, hguarded]

/-- The text of an identifier is settled. -/
def HasSettledText (text : String) : Prop :=
  ∃ scheme rest, IsSettled scheme rest ∧ text.toList = scheme ++ ':' :: '/' :: '/' :: rest

/-- Where the text is settled, a normal form is its own one. -/
lemma IsNormal.normalize_eq_self {u : Uri} (h : u.IsNormal) (hu : HasSettledText u.toString) :
    u.normalize = u := by
  obtain ⟨scheme, rest, hsettled, htext⟩ := hu
  exact normalize_of_isSettled hsettled htext h.take_path

/-- The text of the base of a document without an identifier is settled. -/
lemma hasSettledText_unnamed : HasSettledText unnamed.toString :=
  ⟨"json-schema".toList, ['/'], by decide, by decide⟩

/-- The base of a document without an identifier is in normal form. -/
lemma isNormal_unnamed : unnamed.IsNormal := by
  obtain ⟨scheme, rest, hsettled, htext⟩ := hasSettledText_unnamed
  exact ⟨unnamed, (normalize_of_isSettled hsettled htext (by simp [unnamed])).symm⟩

/-- There are no brackets in a settled text. -/
lemma HasSettledText.bracket_not_mem {text : String} (h : HasSettledText text) :
    '[' ∉ text.toList := by
  obtain ⟨scheme, rest, hsettled, htext⟩ := h
  rw [htext]
  exact hsettled.sign_not_mem rfl (by decide) (by decide)

end Uri

namespace Schema

open Uri (IsNormal HasSettledText)

/-! ## Bases -/

lemma isNormal_of_resolveText {base u : Uri} {text : String} (hbase : base.IsNormal)
    (h : resolveText base text = .ok u) : u.IsNormal := by
  unfold resolveText at h
  split at h
  · cases h
    exact hbase
  · split at h
    · cases h
    · split at h
      · cases h
      · rename_i w _
        cases h
        exact ⟨w, rfl⟩

lemma isNormal_of_baseWithin {base u : Uri} {d : Draft} {members : Json.Members}
    (hbase : base.IsNormal) (h : baseWithin base d members = .ok u) : u.IsNormal := by
  unfold baseWithin at h
  split at h
  · cases h
    exact hbase
  · exact isNormal_of_resolveText hbase h

lemma Scope.isNormal_enter {scope : Scope} (h : scope.base.IsNormal) (members : Json.Members) :
    (scope.enter members).base.IsNormal := by
  unfold enter
  dsimp only
  split
  · rename_i base hbase
    exact isNormal_of_baseWithin h hbase
  · exact h

lemma Scope.base_evolve (scope : Scope) (base : Uri) : (scope.evolve base).base = base := by
  unfold evolve
  split
  · rfl
  · rename_i hsame
    simp only [Bool.or_eq_true, bne_iff_ne, ne_eq, not_or, not_not] at hsame
    exact hsame.2.symm

/-! ## References in a schema -/

/-- A keyword that begins with a dollar sign holds no schemas. -/
lemma Draft.role_of_head?_eq_dollar {d : Draft} {name : String}
    (h : name.toList.head? = some '$') : d.role name = .plain := by
  unfold role
  split <;> first | rfl | exact absurd h (by decide)

/-- A reference that a plain value makes stands where the value does. -/
lemma scope_of_mem_plainKeywords {scope : Scope} {members : Json.Members} {name keyword : String}
    (hname : name.toList.head? = some '$') {v : Json} {r : Reference}
    (h : .reference keyword r ∈ plainKeywords scope members name v) : r.scope = scope := by
  unfold plainKeywords at h
  dsimp only at h
  split at h
  case h_22 =>
    split at h
    · cases List.mem_singleton.mp h
      rfl
    · cases List.mem_singleton.mp h
  case h_23 | h_24 =>
    split at h
    · split at h
      · cases List.mem_singleton.mp h
        rfl
      · cases h
    · split at h
      · cases List.mem_singleton.mp h
      · cases h
  case h_33 => cases h
  all_goals exact absurd hname (by decide)

/-- A reference that a member makes stands where the member does. -/
lemma scope_of_mem_partKeywords {scope : Scope} {members : Json.Members} {p : String × Part}
    (hp : p ∈ partsOf scope members) {keyword : String} {r : Reference} (h : .reference keyword r ∈
      partKeywords scope members (partsOf scope members) p.1 p.2) : r.scope = scope := by
  have hbuilt := areBuilt_partKeywords scope members hp _ h
  rw [partsOf_eq_map] at hp
  obtain ⟨⟨name, v⟩, -, rfl⟩ := List.mem_map.mp hp
  cases hbuilt.made with
  | compound hcompound => cases hcompound
  | reference _ hname =>
    have hpart : partOf scope name v = .plain v := by
      unfold partOf
      rw [Draft.role_of_head?_eq_dollar hname]
    dsimp only at h
    rw [hpart] at h
    exact scope_of_mem_plainKeywords hname h

/-- A list of keywords that has been read at a base in normal form is put together at such a
base. -/
lemma exists_eq_assemble {scope : Scope} (hscope : scope.base.IsNormal) {v : Json}
    {list : List Keyword}
    (hread : .keywords list = ofJson scope v ∨ .keywords list = ofContents scope v) :
    ∃ inner members, inner.base.IsNormal ∧
      list = assemble inner members (partsOf inner members) := by
  cases v with
  | object members =>
    rw [ofJson, ofContents] at hread
    rcases hread with hlist | hlist
    · exact ⟨_, members, Scope.isNormal_enter hscope members, Schema.keywords.inj hlist⟩
    · exact ⟨scope, members, hscope, Schema.keywords.inj hlist⟩
  | _ => simp [ofJson, ofContents] at hread

/-- The references in a schema that is read at a base in normal form stand at such bases. -/
theorem isNormal_of_occurs {scope : Scope} (hscope : scope.base.IsNormal) {v : Json} {s : Schema}
    (hread : s = ofJson scope v ∨ s = ofContents scope v) {keyword : String} {r : Reference}
    (h : Occurs (.reference keyword r) s) : r.scope.base.IsNormal := by
  generalize hk : Keyword.reference keyword r = k at h
  induction h generalizing scope v with
  | here hmem =>
    obtain ⟨inner, members, hinner, rfl⟩ := exists_eq_assemble hscope hread
    obtain ⟨p, hp, hk'⟩ := List.mem_flatMap.mp hmem
    have hpart : p ∈ partsOf inner members := by
      split at hp <;> exact (List.mem_filter.mp hp).1
    subst hk
    rw [scope_of_mem_partKeywords hpart hk']
    exact hinner
  | inside hmem hsub _ ih =>
    obtain ⟨inner, members, hinner, rfl⟩ := exists_eq_assemble hscope hread
    obtain ⟨p, -, hbuilt⟩ := exists_isBuilt_of_mem_assemble hmem
    rcases (hbuilt.offered _ hsub).exists_eq_ofJson with rfl | ⟨m, -, w, -, rfl⟩
    · exact ih hinner (v := .bool true) (.inl (by rw [ofJson]))
    · exact ih hinner (.inl rfl)

/-! ## Targets -/

/-- A text leads to a resource: to the one around it if it begins with a number sign, else to the
one that its front means. -/
def LeadsTo (base : Uri) (text : String) (uri : Uri) : Prop :=
  (text.toList.head? = some '#' ∧ uri = base) ∨
    (text.toList.head? ≠ some '#' ∧ resolveText base (Registry.splitFragment text).1 = .ok uri)

/-- Follows a fragment in a resource that has been found. -/
def Registry.enterFragment (r : Registry) (inner : Scope) (uri : Uri) (fragment : String)
    (resource : Resource) : Except LookupFault Target :=
  let target (scope : Scope) (d : Draft) (contents : Json) : Target :=
    ⟨contents, { scope with draft := d.within contents.members }⟩
  if fragment.toList.head? = some '/' then do
    let parts ← partsOfPointer fragment
    let (scope, contents) ← walkParts resource.draft fragment parts [] inner resource.contents
    return target scope resource.draft contents
  else if fragment != "" then do
    let a ← r.anchor uri fragment
    if a.dynamic then do
      let found ← r.outermost fragment a.resource inner.outer
      match baseWithin inner.base found.draft found.contents.members with
      | .ok base => return target { inner with base } found.draft found.contents
      | .error fault => .error (.base fault)
    else return target inner a.resource.draft a.resource.contents
  else return target inner resource.draft resource.contents

/-- A reference is followed to a resource of the registry, and there its fragment is followed. -/
theorem Registry.lookup_eq_ok {r : Registry} {scope : Scope} {text : String} {target : Target}
    (h : r.lookup scope text = .ok target) :
    ∃ uri fragment resource, LeadsTo scope.base text uri ∧ r.find? uri = some resource ∧
      r.enterFragment (scope.evolve uri) uri fragment resource = .ok target := by
  unfold lookup at h
  dsimp only at h
  split at h
  · rename_i rest hmark
    rw [pure_bind] at h
    dsimp only at h
    split at h
    · rename_i resource hfound
      exact ⟨scope.base, _, resource, .inl ⟨by rw [hmark]; rfl, rfl⟩, hfound, h⟩
    · cases h
  · rename_i hmark
    split at h
    · rename_i uri hresolve
      rw [pure_bind] at h
      dsimp only at h
      split at h
      · rename_i resource hfound
        refine ⟨uri, _, resource, .inr ⟨fun hhead => ?_, hresolve⟩, hfound, h⟩
        obtain ⟨rest, hrest⟩ := List.head?_eq_some_iff.mp hhead
        exact hmark rest hrest
      · cases h
    · cases h

lemma isNormal_of_enterAlong {scope inner : Scope} {d : Draft} {path after : List Json.Segment}
    {contents : Json} (hscope : scope.base.IsNormal)
    (h : enterAlong scope d path contents = .ok (inner, after)) : inner.base.IsNormal := by
  unfold enterAlong at h
  split at h
  · split at h
    · cases h
    · rename_i base hbase
      cases h
      exact isNormal_of_baseWithin hscope hbase
  · cases h
    exact hscope

lemma isNormal_of_walkParts {d : Draft} {pointer : String} {parts : List String}
    {path : List Json.Segment} {scope inner : Scope} {contents found : Json}
    (hscope : scope.base.IsNormal)
    (h : walkParts d pointer parts path scope contents = .ok (inner, found)) :
    inner.base.IsNormal := by
  induction parts generalizing path scope contents with
  | nil =>
    rw [walkParts] at h
    cases h
    exact hscope
  | cons part rest ih =>
    have hstep : ∀ segment next, (enterAlong scope d (path ++ [segment]) next >>=
        fun entered => walkParts d pointer rest entered.2 entered.1 next) = .ok (inner, found) →
          inner.base.IsNormal := by
      intro segment next h
      obtain ⟨⟨entered, after⟩, henter, h⟩ := bind_eq_ok_iff.mp h
      exact ih (isNormal_of_enterAlong hscope henter) h
    unfold walkParts at h
    dsimp only at h
    split at h
    · split at h
      · cases h
      · split at h
        · exact hstep _ _ h
        · cases h
    · split at h
      · exact hstep _ _ h
      · cases h

/-- A key is the name of a resource, or that of a place in the resource. -/
def IsKeyIn (name key : String) : Prop := key = name ∨ ∃ g, key = name ++ ("#" ++ g)

namespace Registry

variable {r : Registry} {scope : Scope} {target : Target}

lemma isNormal_of_enterFragment {uri : Uri} {fragment : String} {resource : Resource}
    (hscope : scope.base.IsNormal)
    (h : r.enterFragment scope uri fragment resource = .ok target) :
    target.scope.base.IsNormal := by
  unfold enterFragment at h
  dsimp only at h
  split at h
  · obtain ⟨parts, -, h⟩ := bind_eq_ok_iff.mp h
    obtain ⟨⟨inner, contents⟩, hwalk, h⟩ := bind_eq_ok_iff.mp h
    cases h
    have hinner := isNormal_of_walkParts hscope hwalk
    exact hinner
  · split at h
    · obtain ⟨a, -, h⟩ := bind_eq_ok_iff.mp h
      split at h
      · obtain ⟨found, -, h⟩ := bind_eq_ok_iff.mp h
        split at h
        · rename_i base hbase
          cases h
          exact isNormal_of_baseWithin hscope hbase
        · cases h
      · cases h
        exact hscope
    · cases h
      exact hscope

/-- What is followed from a base in normal form stands at such a base. -/
lemma isNormal_of_lookup {text : String} (hscope : scope.base.IsNormal)
    (h : r.lookup scope text = .ok target) : target.scope.base.IsNormal := by
  obtain ⟨uri, fragment, resource, hleads, -, htarget⟩ := lookup_eq_ok h
  refine isNormal_of_enterFragment ?_ htarget
  rw [Scope.base_evolve]
  rcases hleads with ⟨-, rfl⟩ | ⟨-, hresolve⟩
  · exact hscope
  · exact isNormal_of_resolveText hscope hresolve

lemma isNormal_of_climb (hscope : scope.base.IsNormal) {outer : List Uri} {start : Target}
    (hstart : start.scope.base.IsNormal)
    (h : lookupRecursive.climb r scope start outer = .ok target) :
    target.scope.base.IsNormal := by
  induction outer generalizing start with
  | nil =>
    cases h
    exact hstart
  | cons uri rest ih =>
    rw [lookupRecursive.climb] at h
    obtain ⟨next, hnext, h⟩ := bind_eq_ok_iff.mp h
    split at h
    · exact ih (isNormal_of_lookup hscope hnext) h
    · cases h
      exact hstart

/-- From a base in normal form references lead to such bases. -/
theorem isNormal_of_follow {reference : Reference} (hscope : reference.scope.base.IsNormal)
    (h : r.follow reference = .ok target) : target.scope.base.IsNormal := by
  unfold follow at h
  split at h
  · exact isNormal_of_lookup hscope h
  · unfold lookupRecursive at h
    obtain ⟨start, hstart, h⟩ := bind_eq_ok_iff.mp h
    split at h
    · exact isNormal_of_climb hscope (isNormal_of_lookup hscope hstart) h
    · cases h
      exact isNormal_of_lookup hscope hstart

/-! ## Keys -/

/-- The names in a registry are settled. -/
def IsSettled (r : Registry) : Prop := ∀ e ∈ r.resources, Uri.HasSettledText e.1

lemma IsSettled.of_find? (hr : r.IsSettled) {uri : Uri} {resource : Resource}
    (h : r.find? uri = some resource) : Uri.HasSettledText uri.toString := by
  obtain ⟨before, after, hresources, -⟩ := List.lookup_eq_some_iff.mp h
  exact hr (uri.toString, resource) (hresources ▸ List.mem_append_right _ List.mem_cons_self)

/-- What is looked up is a resource of the registry, or a place in one. -/
lemma exists_isKeyIn_of_lookup (hr : r.IsSettled) (hscope : scope.base.IsNormal) {text : String}
    {v : Uri} (hv : resolveText scope.base text = .ok v) (h : r.lookup scope text = .ok target) :
    ∃ e ∈ r.resources, IsKeyIn e.1 v.toString := by
  obtain ⟨uri, -, resource, hleads, hfound, -⟩ := lookup_eq_ok h
  have hsettled := hr.of_find? hfound
  obtain ⟨before, after, hresources, -⟩ := List.lookup_eq_some_iff.mp hfound
  refine ⟨(uri.toString, resource), hresources ▸ List.mem_append_right _ List.mem_cons_self, ?_⟩
  rcases hleads with ⟨hmark, rfl⟩ | ⟨hmark, hresolve⟩
  · refine (toString_of_resolveText_mark hmark hv).imp (congrArg _) fun hfragment => ?_
    rw [hscope.normalize_eq_self hsettled] at hfragment
    exact hfragment
  · exact (toString_of_resolveText hmark hresolve hsettled.bracket_not_mem hv).imp_left (congrArg _)

/-- A reference that is followed is looked up by its text. -/
lemma exists_lookup_of_follow {reference : Reference} {key : String}
    (hkey : reference.key = .ok key) (h : r.follow reference = .ok target) :
    ∃ text v found, resolveText reference.scope.base text = .ok v ∧ key = v.toString ∧
      r.lookup reference.scope text = .ok found := by
  obtain ⟨kind, scope⟩ := reference
  have hresolve : ∀ {text}, (match resolveText scope.base text with
      | .ok uri => .ok uri.toString
      | .error fault => .error (Defect.lookup (.base fault))) = Except.ok key →
        ∃ v, resolveText scope.base text = .ok v ∧ key = v.toString := by
    intro text hkey
    split at hkey
    · rename_i v hv
      cases hkey
      exact ⟨v, hv, rfl⟩
    · cases hkey
  cases kind with
  | named text =>
    obtain ⟨v, hv, hkey⟩ := hresolve hkey
    exact ⟨text, v, target, hv, hkey, h⟩
  | recursive =>
    obtain ⟨v, hv, hkey⟩ := hresolve hkey
    obtain ⟨start, hstart, -⟩ := bind_eq_ok_iff.mp h
    exact ⟨"#", v, start, hv, hkey, hstart⟩

/-- What is followed is a resource of the registry, or a place in one. -/
theorem exists_isKeyIn_of_follow (hr : r.IsSettled) {reference : Reference}
    (hscope : reference.scope.base.IsNormal) {key : String} (hkey : reference.key = .ok key)
    (h : r.follow reference = .ok target) : ∃ e ∈ r.resources, IsKeyIn e.1 key := by
  obtain ⟨text, v, found, hv, rfl, hfound⟩ := exists_lookup_of_follow hkey h
  exact exists_isKeyIn_of_lookup hr hscope hv hfound

end Registry

end Schema

end ConfigCheck
