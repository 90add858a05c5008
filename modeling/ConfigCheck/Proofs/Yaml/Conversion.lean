import ConfigCheck.Proofs.Json.Everywhere
import ConfigCheck.Proofs.Json.Members
import ConfigCheck.Proofs.Outcome
import ConfigCheck.Yaml.ToJson

/-!
# Conversion loses nothing

A tree represents a value if it has the same shape (`Yaml.Represents`): the entries of a mapping may
come in any order, and tags may stand around all nodes and keys.  A tree that represents a value
that JSON has (`Json.isProper`) is converted into this value (`Yaml.Node.toJson_eq_ok`).  The order
of the entries is lost again when members are collected (`Json.Members.ofList_of_perm`), and numbers
stay what they are (`Yaml.Node.finite_of_isRepresentable`).
-/

namespace ConfigCheck

/-- Whether JSON has a value: its integers fit into 64 bits with or without a sign, its
floating-point numbers are finite, and the members of its objects are in order. -/
def Json.isProper (value : Json) : Bool :=
  value.everywhere fun v =>
    match v with
    | .number n => Yaml.isRepresentable n
    | .object members => decide (Json.Members.InOrder members)
    | _ => true

namespace Yaml

/-- A key is a string, with any number of tags around it. -/
inductive Names : Node → String → Prop
  /-- A string is the name. -/
  | string (name : String) : Names (.string name) name
  /-- A tag is left out. -/
  | tagged {key : Node} {name : String} (tag : String) (h : Names key name) :
      Names (.tagged tag key) name

/-- An entry stands for a member: its key names it, and its value stands for the value. -/
inductive EntryFor (stands : Node → Json → Prop) : Node × Node → String × Json → Prop
  /-- Key and value are independent. -/
  | mk {key node : Node} {name : String} {value : Json} (hname : Names key name)
      (h : stands node value) : EntryFor stands (key, node) (name, value)

/-- A tree represents a value: it has the same shape, with any number of tags around its nodes and
keys, and entries in any order. -/
inductive Represents : Node → Json → Prop
  /-- Null stands for null. -/
  | null : Represents .null .null
  /-- A boolean stands for itself. -/
  | bool (b : Bool) : Represents (.bool b) (.bool b)
  /-- An integer stands for the integer, a floating-point number for the floating-point number. -/
  | number (n : Number) : Represents (.number n) (.number n)
  /-- A string stands for itself. -/
  | string (s : String) : Represents (.string s) (.string s)
  /-- Items stand for the items one by one. -/
  | sequence {items : List Node} {values : List Json} (h : List.Forall₂ Represents items values) :
      Represents (.sequence items) (.array values)
  /-- Entries stand for the members, in some order of them. -/
  | mapping {entries : List (Node × Node)} {order members : Json.Members}
      (h : List.Forall₂ (EntryFor Represents) entries order) (hperm : order.Perm members) :
      Represents (.mapping entries) (.object members)
  /-- A tag is left out. -/
  | tagged {node : Node} {value : Json} (tag : String) (h : Represents node value) :
      Represents (.tagged tag node) value

namespace Node

/-- The member name of a key is its string. -/
lemma keyText_of_names {key : Node} {name : String} (h : Names key name) :
    key.keyText = .ok name := by
  induction h with
  | string name => rfl
  | tagged tag _ ih => exact ih

mutual

/-- A tree that represents a value is converted into it. -/
theorem toJson_of_represents : (node : Node) → {value : Json} → Represents node value →
    value.isProper = true → node.toJson = .ok value
  | .null, _, .null, _ => rfl
  | .bool _, _, .bool _, _ => rfl
  | .number _, _, .number _, hvalue => finite_of_isRepresentable hvalue
  | .string _, _, .string _, _ => rfl
  | .sequence items, _, .sequence hitems, hvalue => by
    have hvalues := (Json.everywhere_array.mp hvalue).2
    exact bind_eq_ok_iff.mpr ⟨_, toJsonItems_of_represents items hitems hvalues, rfl⟩
  | .mapping entries, _, .mapping hentries hperm, hvalue => by
    obtain ⟨horder, hmembers⟩ := Json.everywhere_object.mp hvalue
    have hentries := toJsonEntries_of_represents entries hentries fun member hmem =>
      hmembers member (hperm.mem_iff.mp hmem)
    refine bind_eq_ok_iff.mpr ⟨_, hentries, ?_⟩
    rw [Json.Members.ofList_of_perm hperm (of_decide_eq_true horder)]
    rfl
  | .tagged _ node, _, .tagged _ h, hvalue => toJson_of_represents node h hvalue

/-- Items are converted into the values that they represent. -/
theorem toJsonItems_of_represents : (items : List Node) → {values : List Json} →
    List.Forall₂ Represents items values → (∀ value ∈ values, value.isProper = true) →
    toJson.toJsonItems items = .ok values
  | [], _, .nil, _ => rfl
  | item :: rest, _, .cons hitem hrest, hvalues => by
    obtain ⟨hvalue, hvalues⟩ := List.forall_mem_cons.mp hvalues
    exact bind_eq_ok_iff.mpr ⟨_, toJson_of_represents item hitem hvalue,
      bind_eq_ok_iff.mpr ⟨_, toJsonItems_of_represents rest hrest hvalues, rfl⟩⟩

/-- Entries are converted into the members that they represent. -/
theorem toJsonEntries_of_represents : (entries : List (Node × Node)) → {members : Json.Members} →
    List.Forall₂ (EntryFor Represents) entries members →
    (∀ member ∈ members, member.2.isProper = true) → toJson.toJsonEntries entries = .ok members
  | [], _, .nil, _ => rfl
  | (key, node) :: rest, _, .cons (.mk hname hnode) hrest, hmembers => by
    obtain ⟨hmember, hmembers⟩ := List.forall_mem_cons.mp hmembers
    exact bind_eq_ok_iff.mpr ⟨_, keyText_of_names hname,
      bind_eq_ok_iff.mpr ⟨_, toJson_of_represents node hnode hmember,
        bind_eq_ok_iff.mpr ⟨_, toJsonEntries_of_represents rest hrest hmembers, rfl⟩⟩⟩

end

end Node

mutual

/-- Each value has a tree that represents it. -/
theorem exists_represents : (value : Json) → ∃ node, Represents node value
  | .null => ⟨_, .null⟩
  | .bool b => ⟨_, .bool b⟩
  | .number n => ⟨_, .number n⟩
  | .string s => ⟨_, .string s⟩
  | .array values => by
    obtain ⟨items, hitems⟩ := exists_representsItems values
    exact ⟨_, .sequence hitems⟩
  | .object members => by
    obtain ⟨entries, hentries⟩ := exists_representsEntries members
    exact ⟨_, .mapping hentries (.refl members)⟩

/-- Items have trees that represent them. -/
theorem exists_representsItems : (values : List Json) →
    ∃ items, List.Forall₂ Represents items values
  | [] => ⟨[], .nil⟩
  | value :: rest => by
    obtain ⟨item, hitem⟩ := exists_represents value
    obtain ⟨items, hitems⟩ := exists_representsItems rest
    exact ⟨item :: items, .cons hitem hitems⟩

/-- Members have entries that represent them. -/
theorem exists_representsEntries : (members : List (String × Json)) →
    ∃ entries, List.Forall₂ (EntryFor Represents) entries members
  | [] => ⟨[], .nil⟩
  | (name, value) :: rest => by
    obtain ⟨node, hnode⟩ := exists_represents value
    obtain ⟨entries, hentries⟩ := exists_representsEntries rest
    exact ⟨(.string name, node) :: entries, .cons (.mk (.string name) hnode) hentries⟩

end

/-- The conversion loses nothing that JSON has.  Each value has trees that represent it, and in
whatever order their entries come and wherever their tags stand, they are converted into the value,
if JSON has it.  An integer of at most 64 bits, with or without a sign, stays this integer. -/
theorem Node.toJson_eq_ok :
    (∀ value, ∃ node, Represents node value) ∧
    (∀ node value, Represents node value → value.isProper = true → node.toJson = .ok value) ∧
    ∀ (i : Int) node, -2 ^ 63 ≤ i → i < 2 ^ 64 → Represents node (.number (.int i)) →
      node.toJson = .ok (.number (.int i)) := by
  refine ⟨exists_represents, fun node value => toJson_of_represents node, ?_⟩
  intro i node hlow hhigh h
  have hproper : (Json.number (.int i)).isProper = true := by
    show (decide (-2 ^ 63 ≤ i) && decide (i < 2 ^ 64)) = true
    rw [Bool.and_eq_true, decide_eq_true_iff, decide_eq_true_iff]
    exact ⟨hlow, hhigh⟩
  exact toJson_of_represents node h hproper

/-- Integers at the limits of 64 bits and one half, in entries that come in the wrong order, with
tags around a key, an item and the whole, come out as they are. -/
theorem Node.toJson_withTags :
    Node.toJson (.tagged "whole" (.mapping
        [(.tagged "outer" (.tagged "inner" (.string "wide")), .sequence
            [.number (.int 9223372036854775808), .number (.int 18446744073709551615),
              .tagged "least" (.number (.int (-9223372036854775808)))]),
          (.string "half", .number (.float ⟨0x3fe0000000000000⟩))])) =
      .ok (.object
        [("half", .number (.float ⟨0x3fe0000000000000⟩)),
          ("wide", .array
            [.number (.int 9223372036854775808), .number (.int 18446744073709551615),
              .number (.int (-9223372036854775808))])]) := by
  have hwide : Represents
      (.sequence [.number (.int 9223372036854775808), .number (.int 18446744073709551615),
        .tagged "least" (.number (.int (-9223372036854775808)))])
      (.array [.number (.int 9223372036854775808), .number (.int 18446744073709551615),
        .number (.int (-9223372036854775808))]) :=
    .sequence (.cons (.number _) (.cons (.number _) (.cons (.tagged _ (.number _)) .nil)))
  have hentries := List.Forall₂.cons
    (EntryFor.mk (.tagged "outer" (.tagged "inner" (.string "wide"))) hwide)
    (.cons (.mk (.string "half") (.number (.float ⟨0x3fe0000000000000⟩))) .nil)
  exact Node.toJson_eq_ok.2.1 _ _ (.tagged "whole" (.mapping hentries (.swap _ _ _)))
    (by decide)

end Yaml

end ConfigCheck
