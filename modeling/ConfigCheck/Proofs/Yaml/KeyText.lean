import ConfigCheck.Proofs.Yaml.NumberText
import ConfigCheck.Yaml.ToJson

/-!
# The texts of keys

A key becomes a name by its text, and its tags are dropped.  Two keys without tags that become one
name are the same key, unless one of them is a string and the other one is not
(`Yaml.Node.same_of_keyText`).
-/

namespace ConfigCheck.Yaml.Node

/-- Whether a node has no tag. -/
def isUntagged : Node → Bool
  | .tagged _ _ => false
  | _ => true

/-- Whether a node is a string. -/
def isString : Node → Bool
  | .string _ => true
  | _ => false

variable {a b : Node} {name : String}

/-- Numbers are not written as null is. -/
lemma writeNumber_ne_null (x : Number) : writeNumber x ≠ "null" := by
  have hletter : 'u' ∈ "null".toList := by decide
  exact writeNumber_ne hletter rfl

/-- Numbers are not written as booleans are. -/
lemma writeNumber_ne_toString (x : Number) (b : Bool) : writeNumber x ≠ toString b := by
  cases b with
  | false =>
    have hletter : 's' ∈ (toString false).toList := by decide
    exact writeNumber_ne hletter rfl
  | true =>
    have hletter : 'u' ∈ (toString true).toList := by decide
    exact writeNumber_ne hletter rfl

/-- Booleans are not written as null is. -/
lemma toString_bool_ne_null (b : Bool) : toString b ≠ "null" := by
  cases b
  · decide
  · decide

/-- Keys without tags that become one name are the same key, unless one of them is a string and
the other one is not. -/
theorem same_of_keyText (ha : a.isUntagged = true) (hb : b.isUntagged = true)
    (hstring : a.isString = b.isString) (hname : a.keyText = .ok name)
    (hname' : b.keyText = .ok name) : a.same b = true := by
  cases a with
  | tagged => cases ha
  | sequence | mapping => cases hname
  | string s =>
    cases b with
    | string t =>
      cases hname
      cases hname'
      simp
    | tagged => cases hb
    | _ => cases hstring
  | null =>
    cases hname
    cases b with
    | null => rfl
    | bool b => exact absurd (Except.ok.inj hname') (toString_bool_ne_null b)
    | number x => exact absurd (Except.ok.inj hname') (writeNumber_ne_null x)
    | string => cases hstring
    | sequence | mapping => cases hname'
    | tagged => cases hb
  | bool v =>
    cases hname
    cases b with
    | null => exact absurd (Except.ok.inj hname').symm (toString_bool_ne_null v)
    | bool w =>
      have hinj : ∀ v w : Bool, toString w = toString v → v = w := by decide
      exact decide_eq_true (hinj v w (Except.ok.inj hname'))
    | number x => exact absurd (Except.ok.inj hname') (writeNumber_ne_toString x v)
    | string => cases hstring
    | sequence | mapping => cases hname'
    | tagged => cases hb
  | number x =>
    cases hname
    cases b with
    | null => exact absurd (Except.ok.inj hname').symm (writeNumber_ne_null x)
    | bool w => exact absurd (Except.ok.inj hname').symm (writeNumber_ne_toString x w)
    | number y => exact sameNumber_of_writeNumber (Except.ok.inj hname').symm
    | string => cases hstring
    | sequence | mapping => cases hname'
    | tagged => cases hb

end ConfigCheck.Yaml.Node
