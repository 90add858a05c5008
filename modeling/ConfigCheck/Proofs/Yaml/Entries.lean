import ConfigCheck.Proofs.Json.Members
import ConfigCheck.Proofs.Json.Place
import ConfigCheck.Proofs.Outcome
import ConfigCheck.Proofs.Yaml.KeyText
import ConfigCheck.Proofs.Yaml.Regular
import Mathlib.Data.List.Perm.Subperm

/-!
# Entries that are kept

Keys become names, and two keys may become one name: then the later entry takes the place of the
earlier one.  A conversion keeps all entries (`Yaml.Node.KeepsEntries`) if each object has as many
members as the mapping has entries, with the value of each entry under its name, at any depth.

Keys of one kind keep apart: two different keys have one name only if one of them is a string that
spells the other one, or if they have tags (`Yaml.Node.areTwins`).  So all entries are kept exactly
if no mapping has such twins (`Yaml.Node.keepsEntries_iff`).
-/

namespace ConfigCheck

namespace Json.Members

/-- An entry is lost exactly if a name comes twice. -/
theorem length_ofList_eq_iff {entries : List (String × Json)} :
    (ofList entries).length = entries.length ↔ (entries.map Prod.fst).Nodup := by
  constructor
  · intro hlength
    have hnames : ((ofList entries).map Prod.fst).Nodup := (inOrder_ofList entries).nodup
    have hle : (entries.map Prod.fst).length ≤ ((ofList entries).map Prod.fst).length := by
      rw [List.length_map, List.length_map, hlength]
    have hsub := hnames.subperm (List.map_subset Prod.fst (ofList_subset entries))
    exact (hsub.perm_of_length_le hle).nodup_iff.mp hnames
  · intro hnames
    exact (ofList_perm hnames).length_eq

end Json.Members

namespace Yaml.Node

/-! ## What is converted -/

/-- An entry is converted into a member. -/
structure Converts (entry : Node × Node) (member : String × Json) : Prop where
  /-- The key becomes the name. -/
  name : entry.1.keyText = .ok member.1
  /-- The value becomes the value. -/
  value : entry.2.toJson = .ok member.2

/-- A number is converted into a number. -/
lemma exists_number_of_toJson {x : Number} {value : Json} (h : (number x).toJson = .ok value) :
    ∃ y, value = .number y := by
  change finite x = .ok value at h
  unfold finite at h
  dsimp only at h
  split at h
  · cases h
    exact ⟨_, rfl⟩
  · cases h
    exact ⟨_, rfl⟩
  · split at h
    · cases h
      exact ⟨_, rfl⟩
    · cases h

/-- Items are converted one by one. -/
lemma toJsonItems_eq_ok_iff {items : List Node} {values : List Json} :
    toJson.toJsonItems items = .ok values ↔
      List.Forall₂ (fun item value => item.toJson = .ok value) items values := by
  induction items generalizing values with
  | nil =>
    rw [toJson.toJsonItems, List.forall₂_nil_left_iff]
    exact ⟨fun h => (Except.ok.inj h).symm, fun h => congrArg _ h.symm⟩
  | cons item rest ih =>
    rw [toJson.toJsonItems]
    constructor
    · intro h
      obtain ⟨value, hvalue, h⟩ := bind_eq_ok_iff.mp h
      obtain ⟨more, hmore, h⟩ := bind_eq_ok_iff.mp h
      cases h
      exact .cons hvalue (ih.mp hmore)
    · rintro (_ | ⟨hvalue, hmore⟩)
      exact bind_eq_ok_iff.mpr ⟨_, hvalue, bind_eq_ok_iff.mpr ⟨_, ih.mpr hmore, rfl⟩⟩

/-- Entries are converted one by one. -/
lemma toJsonEntries_eq_ok_iff {entries : List (Node × Node)} {members : Json.Members} :
    toJson.toJsonEntries entries = .ok members ↔ List.Forall₂ Converts entries members := by
  induction entries generalizing members with
  | nil =>
    rw [toJson.toJsonEntries, List.forall₂_nil_left_iff]
    exact ⟨fun h => (Except.ok.inj h).symm, fun h => congrArg _ h.symm⟩
  | cons entry rest ih =>
    obtain ⟨key, node⟩ := entry
    rw [toJson.toJsonEntries]
    constructor
    · intro h
      obtain ⟨name, hname, h⟩ := bind_eq_ok_iff.mp h
      obtain ⟨value, hvalue, h⟩ := bind_eq_ok_iff.mp h
      obtain ⟨more, hmore, h⟩ := bind_eq_ok_iff.mp h
      cases h
      exact .cons ⟨hname, hvalue⟩ (ih.mp hmore)
    · rintro (_ | ⟨hentry, hmore⟩)
      exact bind_eq_ok_iff.mpr ⟨_, hentry.name, bind_eq_ok_iff.mpr ⟨_, hentry.value,
        bind_eq_ok_iff.mpr ⟨_, ih.mpr hmore, rfl⟩⟩⟩

/-- A sequence is converted into an array of the values of its items. -/
theorem toJson_sequence_eq_ok_iff {items : List Node} {value : Json} :
    (sequence items).toJson = .ok value ↔ ∃ values, value = .array values ∧
      List.Forall₂ (fun item value => item.toJson = .ok value) items values := by
  rw [toJson]
  constructor
  · intro h
    obtain ⟨values, hvalues, h⟩ := bind_eq_ok_iff.mp h
    cases h
    exact ⟨values, rfl, toJsonItems_eq_ok_iff.mp hvalues⟩
  · rintro ⟨values, rfl, hvalues⟩
    exact bind_eq_ok_iff.mpr ⟨values, toJsonItems_eq_ok_iff.mpr hvalues, rfl⟩

/-- A mapping is converted into an object of the members that its entries become. -/
theorem toJson_mapping_eq_ok_iff {entries : List (Node × Node)} {value : Json} :
    (mapping entries).toJson = .ok value ↔ ∃ members,
      value = .object (Json.Members.ofList members) ∧ List.Forall₂ Converts entries members := by
  rw [toJson]
  constructor
  · intro h
    obtain ⟨members, hmembers, h⟩ := bind_eq_ok_iff.mp h
    cases h
    exact ⟨members, rfl, toJsonEntries_eq_ok_iff.mp hmembers⟩
  · rintro ⟨members, rfl, hmembers⟩
    exact bind_eq_ok_iff.mpr ⟨members, toJsonEntries_eq_ok_iff.mpr hmembers, rfl⟩

/-! ## What is kept -/

/-- All entries of a tree are kept in a value: each object has as many members as the mapping that
it comes from has entries, and the value of each entry stands under the name of its key. -/
def KeepsEntries (n : Node) (value : Json) : Prop :=
  match n with
  | .sequence items => ∃ values, value = .array values ∧ keepsItems items values
  | .mapping entries => ∃ members, value = .object members ∧
      members.length = entries.length ∧ keepsAll entries members
  | .tagged _ node => node.KeepsEntries value
  | _ => True
where
  /-- The entries of items are kept in the values. -/
  keepsItems : List Node → List Json → Prop
    | [], [] => True
    | item :: rest, value :: values => item.KeepsEntries value ∧ keepsItems rest values
    | _, _ => False
  /-- Entries, and all entries in their values, are kept among the members. -/
  keepsAll : List (Node × Node) → Json.Members → Prop
    | [], _ => True
    | (key, node) :: rest, members =>
      (∃ name value, key.keyText = .ok name ∧ members.get? name = some value ∧
        node.toJson = .ok value ∧ node.KeepsEntries value) ∧ keepsAll rest members

lemma keepsItems_iff {items : List Node} {values : List Json} :
    KeepsEntries.keepsItems items values ↔ List.Forall₂ KeepsEntries items values := by
  induction items generalizing values with
  | nil => cases values <;> simp [KeepsEntries.keepsItems]
  | cons item rest ih =>
    cases values with
    | nil => simp [KeepsEntries.keepsItems]
    | cons value values => rw [KeepsEntries.keepsItems, List.forall₂_cons, ih]

lemma keepsAll_iff {entries : List (Node × Node)} {members : Json.Members} :
    KeepsEntries.keepsAll entries members ↔ ∀ entry ∈ entries, ∃ name value,
      entry.1.keyText = .ok name ∧ members.get? name = some value ∧
      entry.2.toJson = .ok value ∧ entry.2.KeepsEntries value := by
  induction entries with
  | nil => simp [KeepsEntries.keepsAll]
  | cons entry rest ih =>
    obtain ⟨key, node⟩ := entry
    rw [KeepsEntries.keepsAll, List.forall_mem_cons, ih]

/-- The names that keys become, as far as they become names. -/
def names (entries : List (Node × Node)) : List String :=
  entries.filterMap fun entry => entry.1.keyText.toOption

/-- Whether no two keys of a node that is a mapping become one name. -/
def hasDistinctNames : Node → Bool
  | .mapping entries => decide (names entries).Nodup
  | _ => true

/-- The names of converted entries are the names of the members. -/
lemma names_of_converts {entries : List (Node × Node)} {members : Json.Members}
    (h : List.Forall₂ Converts entries members) : names entries = members.map Prod.fst := by
  induction h with
  | nil => rfl
  | @cons entry member _ _ hentry _ ih =>
    have hname : entry.1.keyText.toOption = some member.1 :=
      toOption_eq_some_iff.mpr hentry.name
    unfold names at ih ⊢
    rw [List.filterMap_cons, hname, List.map_cons, ih]

/-- A conversion keeps all entries exactly if no mapping has two keys with one name. -/
lemma keepsEntries_iff_hasDistinctNames {n : Node} {value : Json} (h : n.toJson = .ok value) :
    n.KeepsEntries value ↔ n.everywhere hasDistinctNames = true := by
  induction n using Node.ind generalizing value with
  | null | bool | number | string => exact ⟨fun _ => rfl, fun _ => trivial⟩
  | tagged tag node ih =>
    rw [everywhere_tagged, KeepsEntries, ih h]
    exact ⟨fun hnode => ⟨rfl, hnode⟩, And.right⟩
  | sequence items ih =>
    obtain ⟨values, rfl, hvalues⟩ := toJson_sequence_eq_ok_iff.mp h
    have hitems : List.Forall₂ KeepsEntries items values ↔
        ∀ item ∈ items, item.everywhere hasDistinctNames = true :=
      forall₂_iff_forall hvalues fun item hitem _ hvalue => ih item hitem hvalue
    rw [everywhere_sequence, KeepsEntries, ← hitems]
    constructor
    · rintro ⟨_, ⟨⟩, hkeeps⟩
      exact ⟨rfl, keepsItems_iff.mp hkeeps⟩
    · rintro ⟨-, hkeeps⟩
      exact ⟨values, rfl, keepsItems_iff.mpr hkeeps⟩
  | mapping entries ih =>
    obtain ⟨members, rfl, hmembers⟩ := toJson_mapping_eq_ok_iff.mp h
    rw [everywhere_mapping, KeepsEntries, hasDistinctNames, decide_eq_true_iff,
      names_of_converts hmembers, ← Json.Members.length_ofList_eq_iff, hmembers.length_eq]
    constructor
    · rintro ⟨_, ⟨⟩, hlength, hkeeps⟩
      refine ⟨hlength, fun entry hentry => ?_⟩
      obtain ⟨_, value, -, -, hvalue, hkept⟩ := keepsAll_iff.mp hkeeps entry hentry
      exact (ih entry hentry hvalue).mp hkept
    · rintro ⟨hlength, hvalues⟩
      refine ⟨_, rfl, hlength, keepsAll_iff.mpr fun entry hentry => ?_⟩
      obtain ⟨member, hmember, hconverts⟩ := exists_of_forall₂ hmembers hentry
      have hnames := Json.Members.length_ofList_eq_iff.mp hlength
      have hmem := (Json.Members.ofList_perm hnames).mem_iff.mpr hmember
      have hget := Json.Members.get?_of_mem (Json.Members.inOrder_ofList members).nodup hmem
      exact ⟨member.1, member.2, hconverts.name, hget, hconverts.value,
        (ih entry hentry hconverts.value).mpr (hvalues entry hentry)⟩

/-! ## Twins -/

/-- Whether two keys become one name, though one of them is a string and the other one is not, or
one of them has a tag. -/
def areTwins (a b : Node) : Bool :=
  a.keyText.toOption == b.keyText.toOption &&
    (a.isString != b.isString || !a.isUntagged || !b.isUntagged)

/-- Whether no two keys of a node that is a mapping are twins. -/
def hasNoTwins : Node → Bool
  | .mapping entries => decide (entries.Pairwise fun a b => areTwins a.1 b.1 = false)
  | _ => true

/-- Different keys become one name exactly if they are twins. -/
lemma areTwins_iff {a b : Node} {s t : String} (ha : a.keyText = .ok s) (hb : b.keyText = .ok t)
    (hne : a.same b = false) : areTwins a b = true ↔ s = t := by
  rw [areTwins, ha, hb, Bool.and_eq_true]
  constructor
  · rintro ⟨hname, -⟩
    exact Option.some.inj (beq_iff_eq.mp hname)
  · rintro rfl
    refine ⟨beq_self_eq_true _, ?_⟩
    by_contra hsame
    simp only [Bool.or_eq_true, not_or, bne_iff_ne, not_not, Bool.not_eq_true', Bool.not_eq_false]
      at hsame
    obtain ⟨⟨hstring, hua⟩, hub⟩ := hsame
    rw [same_of_keyText hua hub hstring ha hb] at hne
    cases hne

/-- Different keys that all become names become different names if none of them are twins. -/
lemma hasDistinctNames_iff_hasNoTwins {entries : List (Node × Node)}
    (hkeys : (mapping entries).hasDistinctKeys = true)
    (hnamed : ∀ entry ∈ entries, ∃ name, entry.1.keyText = .ok name) :
    (mapping entries).hasDistinctNames = true ↔ (mapping entries).hasNoTwins = true := by
  have hdistinct : entries.Pairwise fun a b => a.1.same b.1 = false := of_decide_eq_true hkeys
  rw [hasDistinctNames, hasNoTwins, decide_eq_true_iff, decide_eq_true_iff, names, List.Nodup,
    List.pairwise_filterMap]
  constructor
  · intro hnames
    refine (hdistinct.and hnames).imp_of_mem fun {a b} hamem hbmem ⟨hne, hnames⟩ => ?_
    obtain ⟨s, hs⟩ := hnamed a hamem
    obtain ⟨t, ht⟩ := hnamed b hbmem
    rw [← Bool.not_eq_true, areTwins_iff hs ht hne]
    exact hnames s (toOption_eq_some_iff.mpr hs) t (toOption_eq_some_iff.mpr ht)
  · intro htwins
    refine (hdistinct.and htwins).imp fun {a b} ⟨hne, htwins⟩ s hs t ht => ?_
    rw [toOption_eq_some_iff] at hs ht
    rw [← Bool.not_eq_true, areTwins_iff hs ht hne] at htwins
    exact htwins

/-- A conversion of a tree with distinct keys keeps all entries exactly if there are no twins: no
string spells another key of its mapping, and no two keys are told apart by tags alone. -/
theorem keepsEntries_iff {n : Node} {value : Json} (hkeys : n.everywhere hasDistinctKeys = true)
    (h : n.toJson = .ok value) : n.KeepsEntries value ↔ n.everywhere hasNoTwins = true := by
  rw [keepsEntries_iff_hasDistinctNames h]
  induction n using Node.ind generalizing value with
  | null | bool | number | string => exact Iff.rfl
  | tagged tag node ih =>
    rw [everywhere_tagged, everywhere_tagged, ih (everywhere_tagged.mp hkeys).2 h]
    exact Iff.rfl
  | sequence items ih =>
    obtain ⟨values, rfl, hvalues⟩ := toJson_sequence_eq_ok_iff.mp h
    rw [everywhere_sequence, everywhere_sequence]
    refine and_congr Iff.rfl (forall₂_congr fun item hitem => ?_)
    obtain ⟨_, -, hvalue⟩ := exists_of_forall₂ hvalues hitem
    exact ih item hitem ((everywhere_sequence.mp hkeys).2 item hitem) hvalue
  | mapping entries ih =>
    obtain ⟨members, rfl, hmembers⟩ := toJson_mapping_eq_ok_iff.mp h
    obtain ⟨hself, hinside⟩ := everywhere_mapping.mp hkeys
    have hconverts : ∀ entry ∈ entries, ∃ member, Converts entry member := fun entry hentry => by
      obtain ⟨member, -, hmember⟩ := exists_of_forall₂ hmembers hentry
      exact ⟨member, hmember⟩
    rw [everywhere_mapping, everywhere_mapping]
    refine and_congr (hasDistinctNames_iff_hasNoTwins hself fun entry hentry => ?_)
      (forall₂_congr fun entry hentry => ?_)
    · obtain ⟨member, hmember⟩ := hconverts entry hentry
      exact ⟨member.1, hmember.name⟩
    · obtain ⟨member, hmember⟩ := hconverts entry hentry
      exact ih entry hentry (hinside entry hentry) hmember.value

/-- Keys of all kinds, one mapping inside another one. -/
def mixedKeys : Node :=
  .mapping [(.number (.int 1), .string "a"), (.bool true, .string "b"),
    (.null, .mapping [(.string "x", .null), (.number (.float (.ofInt 1)), .sequence [])])]

/-- All entries of the mixed keys are kept: the two ones are written in two ways. -/
theorem keepsEntries_mixedKeys :
    ∃ value, mixedKeys.everywhere hasDistinctKeys = true ∧ mixedKeys.toJson = .ok value ∧
      mixedKeys.KeepsEntries value := by
  have hvalue : mixedKeys.toJson.toOption.isSome = true := by decide
  have hkeys : mixedKeys.everywhere hasDistinctKeys = true := by decide
  obtain ⟨value, hvalue⟩ := Option.isSome_iff_exists.mp hvalue
  rw [toOption_eq_some_iff] at hvalue
  exact ⟨value, hkeys, hvalue, (keepsEntries_iff hkeys hvalue).mpr (by decide +kernel)⟩

/-- A text with a number and the string that spells it. -/
def twinText : String := "1: a\n\"1\": b\n"

/-- The keys of the twins are different, but only the entry of the second one is kept. -/
theorem not_keepsEntries_twinText :
    ∃ n value, Yaml.read twinText = .ok n ∧ n.everywhere hasDistinctKeys = true ∧
      n.toJson = .ok value ∧ ¬ n.KeepsEntries value := by
  have hread : (Yaml.read twinText).toOption.any (fun n =>
      n.toJson.toOption.isSome && !n.everywhere hasDistinctNames) = true := by
    decide +kernel
  obtain ⟨n, hn, htests⟩ := exists_of_any_toOption hread
  rw [Bool.and_eq_true, Bool.not_eq_true'] at htests
  obtain ⟨hsome, hnames⟩ := htests
  obtain ⟨value, hvalue⟩ := Option.isSome_iff_exists.mp hsome
  rw [toOption_eq_some_iff] at hvalue
  have hkeys : n.everywhere hasDistinctKeys = true :=
    everywhere_mono (fun n hregular => (Bool.and_eq_true_iff.mp hregular).2)
      (everywhere_isRegular_of_read hn)
  refine ⟨n, value, hn, hkeys, hvalue, ?_⟩
  rw [keepsEntries_iff_hasDistinctNames hvalue, hnames]
  exact Bool.false_ne_true

end Yaml.Node

end ConfigCheck
