import ConfigCheck.File.Tree
import ConfigCheck.Proofs.Document.Load
import ConfigCheck.Proofs.Yaml.Merging

/-!
# What cannot be converted

A tree has spots, in the order of the text: the places of its values and those of its keys, tags
left out (`Yaml.Node.spots`).  A value that is a number and not finite has no JSON counterpart, nor
has a key that is a collection (`Yaml.Spot.fault?`).  A conversion fails exactly if some spot is at
fault, with the fault of the first one, and a document is refused for it
(`Yaml.Node.toJson_eq_error_iff`).
-/

namespace ConfigCheck

namespace Yaml

/-- A place in a tree and what stands there, without the tags around it. -/
inductive Spot where
  /-- The place of a value. -/
  | value (node : Node)
  /-- The place of a key. -/
  | key (node : Node)
deriving Repr, Inhabited

/-- What is wrong at a spot. -/
def Spot.fault? : Spot → Option ConversionError
  | .value (.number (.float x)) =>
    if x.isNaN || x.isInfinite then some (.notFinite (.float x)) else none
  | .key (.sequence items) => some (.collectionKey (.sequence items))
  | .key (.mapping entries) => some (.collectionKey (.mapping entries))
  | _ => none

/-- An error is the fault of the first spot that is at fault. -/
def IsFirstFault (spots : List Spot) (e : ConversionError) : Prop :=
  ∃ before spot after, spots = before ++ spot :: after ∧
    (∀ other ∈ before, other.fault? = none) ∧ spot.fault? = some e

namespace Node

mutual

/-- The spots of a tree in the place of a value, in the order of the text: a collection before what
is inside it, a key before its value. -/
def spots : Node → List Spot
  | .tagged _ node => node.spots
  | .sequence items => .value (.sequence items) :: spotsOfItems items
  | .mapping entries => .value (.mapping entries) :: spotsOfEntries entries
  | n => [.value n]

/-- The spots of a tree in the place of a key. -/
def keySpots : Node → List Spot
  | .tagged _ node => node.keySpots
  | .sequence items => .key (.sequence items) :: spotsOfItems items
  | .mapping entries => .key (.mapping entries) :: spotsOfEntries entries
  | n => [.key n]

/-- The spots of items. -/
def spotsOfItems : List Node → List Spot
  | [] => []
  | item :: rest => item.spots ++ spotsOfItems rest

/-- The spots of entries, each key before its value. -/
def spotsOfEntries : List (Node × Node) → List Spot
  | [] => []
  | (key, value) :: rest => key.keySpots ++ (value.spots ++ spotsOfEntries rest)

end

end Node

/-! ## Computations that stop at the first fault -/

section

variable {α β : Type} {x : Except ConversionError α} {spots more : List Spot}

/-- The first fault is the one that a search finds. -/
lemma isFirstFault_iff {e : ConversionError} :
    IsFirstFault spots e ↔ spots.findSome? Spot.fault? = some e := by
  rw [List.findSome?_eq_some_iff]
  constructor
  · rintro ⟨before, spot, after, hspots, hbefore, hspot⟩
    exact ⟨before, spot, after, hspots, hspot, hbefore⟩
  · rintro ⟨before, spot, after, hspots, hspot, hbefore⟩
    exact ⟨before, spot, after, hspots, hbefore, hspot⟩

/-- A computation goes through spots: it fails with the first fault and succeeds if there is
none. -/
def StopsAt (x : Except ConversionError α) (spots : List Spot) : Prop :=
  ∀ e, x = .error e ↔ spots.findSome? Spot.fault? = some e

/-- A result is right where nothing is at fault. -/
lemma stopsAt_ok {a : α} (h : spots.findSome? Spot.fault? = none) : StopsAt (.ok a) spots := by
  intro e
  rw [h]
  constructor
  · intro herror
    cases herror
  · intro hfault
    cases hfault

/-- A step that succeeds adds nothing to what is at fault. -/
lemma StopsAt.map (h : StopsAt x spots) (f : α → β) : StopsAt (x >>= fun a => .ok (f a)) spots := by
  intro e
  rw [← h e, bind_eq_error_iff]
  constructor
  · rintro (herror | ⟨a, -, hok⟩)
    · exact herror
    · cases hok
  · exact .inl

/-- Two steps go through the spots of both. -/
lemma StopsAt.bind {f : α → Except ConversionError β} (h : StopsAt x spots)
    (hnext : ∀ a, StopsAt (f a) more) : StopsAt (x >>= f) (spots ++ more) := by
  intro e
  rw [List.findSome?_append, bind_eq_error_iff]
  cases x with
  | error e' =>
    rw [(h e').mp rfl, Option.some_or]
    constructor
    · rintro (herror | ⟨a, hok, -⟩)
      · cases herror
        rfl
      · cases hok
    · intro hfault
      cases hfault
      exact .inl rfl
  | ok a =>
    have hnone : spots.findSome? Spot.fault? = none := by
      rw [Option.eq_none_iff_forall_ne_some]
      intro e' hfault
      cases (h e').mpr hfault
    rw [hnone, Option.none_or, ← hnext a e]
    constructor
    · rintro (herror | ⟨a', hok, hfails⟩)
      · cases herror
      · cases hok
        exact hfails
    · intro hfails
      exact .inr ⟨a, rfl, hfails⟩

end

namespace Node

/-! ## Walks through a tree -/

/-- A number is refused if it is not finite. -/
lemma stopsAt_finite {x : Number} (hword : (number x).isWord = true) :
    StopsAt (finite x) [.value (.number x)] := by
  cases x with
  | int i =>
    have hrepresentable : isRepresentable (.int i) = true := hword
    rw [finite_of_isRepresentable hrepresentable]
    exact stopsAt_ok rfl
  | float x =>
    intro e
    have hfinite : finite (.float x) =
        if x.isFinite then .ok (.number (.float x)) else .error (.notFinite (.float x)) := rfl
    have hkinds : (x.isNaN || x.isInfinite) = !x.isFinite := by
      unfold Binary64.isNaN Binary64.isInfinite Binary64.isFinite
      cases hexponent : x.biasedExponent == 2047 <;> cases hfraction : x.fraction == 0 <;>
        simp [bne, hexponent, hfraction]
    rw [hfinite, List.findSome?_cons, Spot.fault?, hkinds]
    cases x.isFinite <;> simp

/-- A key is refused if it is a collection. -/
lemma stopsAt_keyText (key : Node) : StopsAt key.keyText key.keySpots := by
  induction key using Node.ind with
  | null | bool | number | string => exact stopsAt_ok rfl
  | tagged tag node ih => exact ih
  | sequence | mapping =>
    intro e
    rw [keyText, keySpots, List.findSome?_cons, Spot.fault?]
    constructor
    · intro herror
      cases herror
      rfl
    · intro hfault
      cases hfault
      rfl

/-- Items are converted up to the first fault. -/
lemma stopsAt_toJsonItems {items : List Node}
    (h : ∀ item ∈ items, StopsAt item.toJson item.spots) :
    StopsAt (toJson.toJsonItems items) (spotsOfItems items) := by
  induction items with
  | nil => exact stopsAt_ok rfl
  | cons item rest ih =>
    obtain ⟨hitem, hrest⟩ := List.forall_mem_cons.mp h
    rw [toJson.toJsonItems, spotsOfItems]
    exact hitem.bind fun value => (ih hrest).map _

/-- Entries are converted up to the first fault. -/
lemma stopsAt_toJsonEntries {entries : List (Node × Node)}
    (h : ∀ entry ∈ entries, StopsAt entry.2.toJson entry.2.spots) :
    StopsAt (toJson.toJsonEntries entries) (spotsOfEntries entries) := by
  induction entries with
  | nil => exact stopsAt_ok rfl
  | cons entry rest ih =>
    obtain ⟨key, value⟩ := entry
    obtain ⟨hvalue, hrest⟩ := List.forall_mem_cons.mp h
    rw [toJson.toJsonEntries, spotsOfEntries]
    exact (stopsAt_keyText key).bind fun name => hvalue.bind fun v => (ih hrest).map _

/-- A tree is converted up to the first fault. -/
lemma stopsAt_toJson {n : Node} (hword : n.everywhere isWord = true) :
    StopsAt n.toJson n.spots := by
  induction n using Node.ind with
  | null | bool | string => exact stopsAt_ok rfl
  | number x => exact stopsAt_finite hword
  | tagged tag node ih => exact ih (everywhere_tagged.mp hword).2
  | sequence items ih =>
    obtain ⟨-, hitems⟩ := everywhere_sequence.mp hword
    have hstops := stopsAt_toJsonItems fun item hitem => ih item hitem (hitems item hitem)
    exact hstops.map Json.array
  | mapping entries ih =>
    obtain ⟨-, hentries⟩ := everywhere_mapping.mp hword
    have hstops := stopsAt_toJsonEntries fun entry hentry => ih entry hentry (hentries entry hentry)
    exact hstops.map fun members => Json.object (Json.Members.ofList members)

/-- Something is at fault exactly if there is a first fault. -/
lemma exists_isFirstFault_iff {spots : List Spot} :
    (∃ e, IsFirstFault spots e) ↔ ∃ spot ∈ spots, spot.fault?.isSome = true := by
  constructor
  · rintro ⟨e, before, spot, after, rfl, -, hspot⟩
    refine ⟨spot, List.mem_append_right _ List.mem_cons_self, ?_⟩
    rw [hspot]
    rfl
  · rintro ⟨spot, hmem, hsome⟩
    have hfound : (spots.findSome? Spot.fault?).isSome = true :=
      List.findSome?_isSome_iff.mpr ⟨spot, hmem, hsome⟩
    obtain ⟨e, he⟩ := Option.isSome_iff_exists.mp hfound
    exact ⟨e, isFirstFault_iff.mpr he⟩

/-- A conversion fails exactly if a number in the place of a value is not finite or a key is a
collection, with the first of these faults; integers have 64 bits, as in all trees that are read.  A
document that has a fault is refused with the first one, and a document that is loaded is the whole
tree. -/
theorem toJson_eq_error_iff :
    (∀ n : Node, n.everywhere isWord = true →
      (∀ e, n.toJson = .error e ↔ IsFirstFault n.spots e) ∧
      ((∃ e, n.toJson = .error e) ↔ ∃ spot ∈ n.spots, spot.fault?.isSome = true)) ∧
    ∀ (fs : FileSystem) (path : Path) (bytes : List UInt8) (text : String) (raw n : Node),
      Format.ofPath path = .yaml → fs.read path = .ok bytes → Utf8.decode? bytes = some text →
      isBlankYaml text = false → read text = .ok raw → raw.merge = .ok n →
      (∀ e, (Document.load fs path).outcome = .error (.parseError path (.conversion e)) ↔
        IsFirstFault n.spots e) ∧
      ∀ d, (Document.load fs path).outcome = .ok d →
        n.toJson = .ok d.value ∧ ∀ spot ∈ n.spots, spot.fault? = none := by
  have hfirst : ∀ n : Node, n.everywhere isWord = true →
      ∀ e, n.toJson = .error e ↔ IsFirstFault n.spots e := by
    intro n hword e
    rw [isFirstFault_iff]
    exact stopsAt_toJson hword e
  refine ⟨fun n hword => ⟨hfirst n hword, ?_⟩, ?_⟩
  · rw [← exists_isFirstFault_iff]
    exact exists_congr (hfirst n hword)
  · intro fs path bytes text raw n hformat hbytes htext hblank hraw hmerge
    have hword := everywhere_isWord_of_mergeNode (everywhere_isRegular_of_read hraw) hmerge
    rw [Document.outcome_load_of_tree hformat hbytes htext hblank hraw hmerge]
    cases hvalue : n.toJson with
    | error e' =>
      constructor
      · intro e
        rw [← hfirst n hword e, hvalue]
        simp
      · intro d h
        cases h
    | ok value =>
      have hnone : ¬ ∃ e, IsFirstFault n.spots e := by
        rintro ⟨e, he⟩
        rw [← hfirst n hword e, hvalue] at he
        cases he
      constructor
      · intro e
        constructor
        · intro h
          cases value <;> cases h
        · intro he
          exact absurd ⟨e, he⟩ hnone
      · intro d h
        rw [Option.some.inj (Document.eq_of_ofContent h)]
        refine ⟨rfl, fun spot hspot => ?_⟩
        rw [exists_isFirstFault_iff] at hnone
        exact Option.not_isSome_iff_eq_none.mp fun hsome => hnone ⟨spot, hspot, hsome⟩

/-- A text with two faults and, as a key, a number that is no fault: the first value is fine, the
second one is not a number, and the third key is a collection. -/
def faultyText : String := ".inf: x\na: !t .nan\n? [b]\n: c\n"

/-- The text with the two faults is refused with the first of them. -/
theorem toJson_faultyText :
    ∃ raw n e, read faultyText = .ok raw ∧ raw.merge = .ok n ∧ n.toJson = .error e ∧
      IsFirstFault n.spots e ∧ e.message = "cannot represent number .nan in JSON" ∧
      (∃ spot ∈ n.spots, spot.fault?.isSome = true) ∧
      (Document.load (Tree.withText faultyText).fileSystem Tree.configPath).outcome =
        .error (.parseError Tree.configPath (.conversion e)) := by
  let message (n : Node) : Except ConversionError String :=
    (n.toJson.map fun _ => "").tryCatch fun e => .ok e.message
  have hread : (read faultyText).toOption.any (fun raw => raw.merge.toOption.any fun n =>
      (message n).toOption = some "cannot represent number .nan in JSON") = true := by
    decide +kernel
  obtain ⟨raw, hraw, hmerged⟩ := exists_of_any_toOption hread
  obtain ⟨n, hmerge, hmessage⟩ := exists_of_any_toOption hmerged
  cases hjson : n.toJson with
  | ok value => simp [message, hjson, Except.toOption, Except.map, Except.tryCatch] at hmessage
  | error e =>
    have htext : e.message = "cannot represent number .nan in JSON" := by
      simpa [message, hjson, Except.toOption, Except.map, Except.tryCatch] using hmessage
    have hword := everywhere_isWord_of_mergeNode (everywhere_isRegular_of_read hraw) hmerge
    obtain ⟨hfirst, hexists⟩ := toJson_eq_error_iff.1 n hword
    have hfault := (hfirst e).mp hjson
    obtain ⟨hload, -⟩ := toJson_eq_error_iff.2 _ _ _ _ raw n Tree.ofPath_configPath
      (Tree.read_withText faultyText) (Utf8.decode?_encode faultyText) (by decide +kernel) hraw
      hmerge
    exact ⟨raw, n, e, hraw, hmerge, hjson, hfault, htext, hexists.mp ⟨e, hjson⟩,
      (hload e).mpr hfault⟩

end Node

end Yaml

end ConfigCheck
