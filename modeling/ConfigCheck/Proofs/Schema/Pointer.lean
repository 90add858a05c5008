import ConfigCheck.Proofs.Json.Leaf
import ConfigCheck.Proofs.Json.Place
import ConfigCheck.Schema.Resource

/-!
# Pointers into a schema

A pointer leads to a node if its tokens do: each token is the name of a member, or the position of
an item (`Json.Reaches`).  In a value that a document can have, following the text of the pointer
finds that node (`Json.Reaches.localTarget?`), and a pointer that goes on behind a text finds
nothing (`Json.Reaches.localTarget?_behind`).
-/

namespace ConfigCheck

open Schema (localTarget? shortestIndex?)

/-! ## Positions as tokens -/

/-- The text of a position is its shortest form. -/
theorem shortestIndex?_toString {i : ℕ} (hi : i < Json.indexLimit) :
    shortestIndex? (toString i) = some i := by
  have hchars : (toString i).toList = Nat.toDigits 10 i := Nat.toList_repr
  have hindex := Json.indexOfToken?_toString hi
  unfold shortestIndex?
  rw [hchars]
  split
  · rename_i rest heq
    have hdigit : '+' ∈ Nat.toDigits 10 i := heq ▸ List.mem_cons_self
    exact absurd (Nat.isDigit_of_mem_toDigits (by decide) (by decide) hdigit) (by decide)
  · rename_i heq
    by_cases hzero : i = 0
    · rw [hzero]
    · exact absurd (congrArg List.head? heq) (mt Json.eq_zero_of_head?_toDigits hzero)
  · rename_i rest hne heq
    by_cases hzero : i = 0
    · rw [hzero] at heq
      cases heq
      exact absurd rfl hne
    · exact absurd (congrArg List.head? heq) (mt Json.eq_zero_of_head?_toDigits hzero)
  · exact hindex

namespace Json

/-! ## Following tokens -/

/-- One step along a pointer: to an item by its position, or to a member by its name. -/
def follow? (value : Json) (token : String) : Option Json :=
  match value with
  | .array items => (shortestIndex? token).bind fun i => items[i]?
  | v => v.get? token

/-- The node to which tokens lead. -/
def nodeAt? (value : Json) : List String → Option Json
  | [] => some value
  | token :: rest => (value.follow? token).bind fun v => nodeAt? v rest

lemma nodeAt?_append (value : Json) (before after : List String) :
    value.nodeAt? (before ++ after) = (value.nodeAt? before).bind fun v => v.nodeAt? after := by
  induction before generalizing value with
  | nil => rfl
  | cons token rest ih =>
    rw [List.cons_append, nodeAt?, nodeAt?, Option.bind_assoc]
    exact congrArg _ (funext fun v => ih v)

/-- Behind a text there is nothing. -/
lemma nodeAt?_string (text first : String) (rest : List String) :
    (string text).nodeAt? (first :: rest) = none := rfl

/-- Following the text of a pointer is following its tokens. -/
theorem localTarget?_pointerText (root : Json) (tokens : List String) :
    localTarget? root (pointerText tokens) = root.nodeAt? tokens := by
  have hfold : ∀ (value : Option Json) (tokens : List String),
      tokens.foldl (fun value token => value.bind fun v => v.follow? token) value =
        value.bind fun v => v.nodeAt? tokens := by
    intro value tokens
    induction tokens generalizing value with
    | nil => exact (Option.bind_fun_some value).symm
    | cons token rest ih =>
      rw [List.foldl_cons, ih, Option.bind_assoc]
      rfl
  cases tokens with
  | nil => rfl
  | cons token rest =>
    have hslash : (pointerText (token :: rest)).toList =
        '/' :: (escapeToken token ++ rest.flatMap fun t => '/' :: escapeToken t) := by
      unfold pointerText
      rw [String.toList_ofList, List.flatMap_cons, List.cons_append]
    have hmarks : (pointerText (token :: rest)).toList.dropWhile (· == '#') =
        (pointerText (token :: rest)).toList := by
      rw [hslash]
      rfl
    have htokens := pointerTokens_pointerText (token :: rest)
    rw [← String.ofList_toList (s := pointerText (token :: rest)), hslash] at htokens
    unfold localTarget?
    rw [hmarks, hslash]
    simp only [htokens]
    exact hfold (some root) (token :: rest)

/-! ## Reaching nodes -/

/-- Tokens lead from a value to a node: to members by their names, to items by their positions. -/
inductive Reaches : Json → List String → Json → Prop where
  /-- The value itself. -/
  | here (value : Json) : Reaches value [] value
  /-- A node in a member. -/
  | member {members : Members} {name : String} {v node : Json} {tokens : List String} :
    (name, v) ∈ members → Reaches v tokens node → Reaches (.object members) (name :: tokens) node
  /-- A node in an item. -/
  | item {items : List Json} {i : ℕ} {v node : Json} {tokens : List String} :
    items[i]? = some v → Reaches v tokens node →
      Reaches (.array items) (toString i :: tokens) node

namespace Reaches

variable {value mid node : Json} {before after tokens : List String}

/-- What is reached in a node is reached through it. -/
theorem append (hbefore : Reaches value before mid) (hafter : Reaches mid after node) :
    Reaches value (before ++ after) node := by
  induction hbefore with
  | here value => exact hafter
  | member hmem _ ih => exact .member hmem (ih hafter)
  | item hitem _ ih => exact .item hitem (ih hafter)

/-- In a value that a document can have, tokens find the node to which they lead. -/
theorem nodeAt? (hformed : value.isWellFormed = true) (h : Reaches value tokens node) :
    value.nodeAt? tokens = some node := by
  induction h with
  | here value => rfl
  | @member members name v node tokens hmem _ ih =>
    have hv := (isWellFormed_object.mp hformed).2 (name, v) hmem
    have hget : (object members).follow? name = some v :=
      Members.get?_of_mem (isWellFormed_object.mp hformed).1 hmem
    rw [Json.nodeAt?, hget]
    exact ih hv
  | @item items i v node tokens hitem _ ih =>
    have hv := (isWellFormed_array.mp hformed).2 v (List.mem_of_getElem? hitem)
    have hi : i < indexLimit := by
      obtain ⟨hlt, -⟩ := List.getElem?_eq_some_iff.mp hitem
      exact Nat.lt_of_lt_of_le hlt (isWellFormed_array.mp hformed).1
    have hget : (array items).follow? (toString i) = some v := by
      unfold follow?
      dsimp only
      rw [shortestIndex?_toString hi]
      exact hitem
    rw [Json.nodeAt?, hget]
    exact ih hv

/-- A pointer finds the node to which its tokens lead. -/
theorem localTarget? (hformed : value.isWellFormed = true) (h : Reaches value tokens node) :
    localTarget? value (pointerText tokens) = some node := by
  rw [localTarget?_pointerText, h.nodeAt? hformed]

/-- A pointer that goes on behind a text finds nothing. -/
theorem localTarget?_behind {text first : String} {rest : List String}
    (hformed : value.isWellFormed = true) (h : Reaches value before (.string text)) :
    Schema.localTarget? value (pointerText (before ++ first :: rest)) = none := by
  rw [localTarget?_pointerText, nodeAt?_append, h.nodeAt? hformed, Option.bind_some,
    nodeAt?_string]

end Reaches

end Json

end ConfigCheck
