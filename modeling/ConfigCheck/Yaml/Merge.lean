import ConfigCheck.Yaml.Error

/-!
# Merge keys

The value of the key `<<` is a mapping or a sequence of mappings whose entries are taken into the
mapping around it, unless it has the key already.  Mappings are merged from the outside inwards, so
what is taken in is what the source had in the text: a merge key of its own comes along.
-/

namespace ConfigCheck.Yaml

/-- The key that asks for a merge. -/
def mergeKey : Node := .string "<<"

/-- Takes the merge key out; the last entry moves into its place. -/
def takeMergeKey (entries : List (Node × Node)) : Option (Node × List (Node × Node)) :=
  match entries.findIdx? (·.1.same mergeKey) with
  | none => none
  | some i =>
    match entries[i]?, entries.getLast? with
    | some (_, source), some last =>
      let others := entries.dropLast
      some (source, if i = others.length then others else others.set i last)
    | _, _ => none

/-- Adds the entries whose keys are new. -/
def addEntries (entries source : List (Node × Node)) : List (Node × Node) :=
  source.foldl (fun es (k, v) => if hasKey es k then es else es ++ [(k, v)]) entries

/-- Adds the entries of several mappings, one after the other. -/
def addMembers : (entries : List (Node × Node)) → List Node →
    Except MergeError (List (Node × Node))
  | entries, [] => .ok entries
  | entries, .mapping source :: rest => addMembers (addEntries entries source) rest
  | _, .sequence _ :: _ => .error .sequenceMember
  | _, .tagged _ _ :: _ => .error .tagged
  | _, _ :: _ => .error .scalarMember

/-- The entries of a mapping with its own merge key applied. -/
def mergeEntries (entries : List (Node × Node)) : Except MergeError (List (Node × Node)) :=
  match takeMergeKey entries with
  | none => .ok entries
  | some (.mapping source, others) => .ok (addEntries others source)
  | some (.sequence members, others) => addMembers others members
  | some (.tagged _ _, _) => .error .tagged
  | some (_, _) => .error .scalar

/-- Merges the items of a sequence, the last one first. -/
def mergeItems (merge : Node → Except MergeError Node) : List Node → Except MergeError (List Node)
  | [] => .ok []
  | n :: rest => do
    let rest ← mergeItems merge rest
    let n ← merge n
    return n :: rest

/-- Merges the values of a mapping, the last one first. -/
def mergeValues (merge : Node → Except MergeError Node) :
    List (Node × Node) → Except MergeError (List (Node × Node))
  | [] => .ok []
  | (k, v) :: rest => do
    let rest ← mergeValues merge rest
    let v ← merge v
    return (k, v) :: rest

/-- Applies the merge keys of a node that is at most `depth` deep. -/
def mergeNode : (depth : Nat) → Node → Except MergeError Node
  | depth + 1, .mapping entries => do
    return .mapping (← mergeValues (mergeNode depth) (← mergeEntries entries))
  | depth + 1, .sequence items => return .sequence (← mergeItems (mergeNode depth) items)
  | depth + 1, .tagged tag n => return .tagged tag (← mergeNode depth n)
  | _, n => .ok n

/-- Applies all merge keys of a tree. -/
def Node.merge (n : Node) : Except MergeError Node := mergeNode n.depth n

end ConfigCheck.Yaml
