import ConfigCheck.Schema.Outcome

/-!
# Looking at a value by a schema

Evaluation is structural recursion on the schema.  References are left to the function `follow`,
which gives the outcome of the target; it is the only way in which a schema can lead back to
itself.
-/

namespace ConfigCheck.Schema

/-- The outcome of a member as seen from the object. -/
def Outcome.ofMember (name : String) (o : Outcome) : String × Outcome := (name, o.inside name)

/-- The outcome of all listed members, those that are valid counting as looked at. -/
def Outcome.ofMembers (os : List (String × Outcome)) : Outcome :=
  (Outcome.join (os.map (·.2))).withNames (Outcome.validNames os)

/-- The positions of the items of a value. -/
def positionsOf : Json → List Nat
  | .array items => List.range items.length
  | _ => []

/-- Items from a position on. -/
def itemsFrom (skip : Nat) (value : Json) : List (Nat × Json) := (Finding.itemsOf value).drop skip

/-- A failure in the name of a member, as a failure of the object. -/
def Failure.ofName (f : Failure) : Failure where
  place := []
  rule := "propertyNames" :: f.rule
  complaint := .propertyName f.complaint

/-- Whether a schema has keywords, and is not just a verdict. -/
def hasKeywords : Schema → Bool
  | .keywords _ => true
  | _ => false

/-- What an object has in members that nothing else allows. -/
def firstMember (value : Json) : Outcome :=
  match Json.members value with
  | [] => {}
  | (_, v) :: _ => Outcome.complain "additionalProperties" (.falseSchema v)

variable (follow : Reference → Json → Outcome)

mutual

/-- What a schema finds in a value. -/
def evaluate : Schema → Json → Outcome
  | .always true, _ => {}
  | .always false, v => .ofFailures [{ place := [], rule := [], complaint := .falseSchema v }]
  | .unusable _, _ => {}
  | .keywords list, v => .ofFindings v (findings list v)

/-- What each keyword finds in a value. -/
def findings : List Keyword → Json → List Finding
  | [], _ => []
  | k :: rest, v => finding k v :: findings rest v

/-- What a keyword finds in a value. -/
def finding : Keyword → Json → Finding
  | .assertion keyword rule, v => .settled (.ofFailures (rule.failures keyword v))
  | .unusable _, _ => .settled {}
  | .allOf branches, v => .settled (.allOf (branchesOf branches v))
  | .anyOf branches, v => .settled (.anyOf v (branchesOf branches v))
  | .oneOf branches, v => .settled (.oneOf v (branchesOf branches v))
  | .not source s, v =>
    .settled (.demand (!(evaluate s v).isValid) "not" (.not v source))
  | .conditional condition then_ else_, v =>
    .settled <| .conditional ⟨condition.hasKeywords, evaluate condition v⟩
      ⟨then_.hasKeywords, evaluate then_ v⟩ ⟨else_.hasKeywords, evaluate else_ v⟩
  | .condition s, v => .settled (.condition ⟨s.hasKeywords, evaluate s v⟩)
  | .properties list, v => .settled (.ofMembers (ofNames list (Json.members v)))
  | .patternProperties list, v => .settled (.ofMembers (ofPatterns list (Json.members v)))
  | .members list patterns others, v =>
    let each := (Json.members v).map fun (name, w) =>
      let known := (ofName list name w).toList ++ ofMatching patterns name w
      if known.isEmpty then
        let o := evaluate others w
        (name, o.isValid, (o.below ["additionalProperties"]).inside name)
      else
        let o := Outcome.join (known.map fun (o : Outcome) => o.inside name)
        (name, known.any Outcome.isValid || (evaluate others w).isValid, o)
    .settled <| (Outcome.join (each.map (·.2.2))).withNames ((each.filter (·.2.1)).map (·.1))
  | .closedMembers list patterns, v =>
    let each := (Json.members v).map fun (name, w) =>
      (name, (ofName list name w).toList ++ ofMatching patterns name w)
    let unknown := (each.filter fun (_, known) => known.isEmpty).map (·.1)
    let looked := Outcome.join (each.map fun (name, known) =>
      Outcome.join (known.map fun (o : Outcome) => o.inside name))
    .settled <|
      (looked.append (.demand unknown.isEmpty "additionalProperties"
        (.additionalProperties unknown))).withNames
        ((each.filter fun (_, known) => known.any Outcome.isValid).map (·.1))
  | .noMembers, v => .settled (firstMember v)
  | .propertyNames s, v =>
    .settled <| .ofFailures <| (Json.members v).flatMap fun (name, _) =>
      (evaluate s (.string name)).failures.map Failure.ofName
  | .noPropertyNames, v =>
    .settled (.demand (Json.members v).isEmpty "propertyNames" (.falseSchema v))
  | .dependent keyword name s, v =>
    .settled <| if Json.Members.has (Json.members v) name then
        let o := (evaluate s v).below [keyword, name]
        if keyword = "dependentSchemas" && s.hasKeywords then o.withPositions [] else o.unmarked
      else {}
  | .items keyword skip s, v =>
    .settled <| (Outcome.join <| (itemsFrom skip v).map fun (i, w) =>
      ((evaluate s w).below [keyword]).inside (toString i)).withPositions (positionsOf v)
  | .itemList keyword list, v =>
    .settled <| (Outcome.join (ofPositions keyword list 0 (Finding.itemsOf v))).withPositions
      ((positionsOf v).take list.length)
  | .contains low high s, v =>
    match v with
    | .array _ =>
      let valid := ((Finding.itemsOf v).filter fun (_, w) => (evaluate s w).isValid).map (·.1)
      .settled <| (Outcome.countWithin v low high valid.length).withPositions valid
    | _ => .settled {}
  | .unevaluatedProperties s, v =>
    .otherMembers <| ((Json.members v).filter fun (_, w) => (evaluate s w).isValid).map (·.1)
  | .unevaluatedItems s, v =>
    .otherItems <| ((Finding.itemsOf v).filter fun (_, w) => (evaluate s w).isValid).map (·.1)
  | .reference keyword r, v => .settled ((follow r v).below [keyword])

/-- What each of several schemas finds in the same value. -/
def branchesOf : List Schema → Json → List Outcome.Branch
  | [], _ => []
  | s :: rest, v => ⟨s.hasKeywords, evaluate s v⟩ :: branchesOf rest v

/-- What the schemas of listed members find, in the order of the list. -/
def ofNames : List (String × Schema) → Json.Members → List (String × Outcome)
  | [], _ => []
  | (name, s) :: rest, members =>
    match Json.Members.get? members name with
    | some w =>
      Outcome.ofMember name ((evaluate s w).below ["properties", name]) :: ofNames rest members
    | none => ofNames rest members

/-- What the schema of a listed member finds. -/
def ofName : List (String × Schema) → String → Json → Option Outcome
  | [], _, _ => none
  | (listed, s) :: rest, name, w =>
    if listed = name then some ((evaluate s w).below ["properties", name]) else ofName rest name w

/-- What the schemas of patterns find, pattern by pattern and name by name. -/
def ofPatterns : List (Regex.Pattern × Schema) → Json.Members → List (String × Outcome)
  | [], _ => []
  | (p, s) :: rest, members =>
    ((members.filter fun (name, _) => p.accepts name).map fun (name, w) =>
      Outcome.ofMember name ((evaluate s w).below ["patternProperties", p.source])) ++
      ofPatterns rest members

/-- What the schemas of those patterns find that a name matches. -/
def ofMatching : List (Regex.Pattern × Schema) → String → Json → List Outcome
  | [], _, _ => []
  | (p, s) :: rest, name, w =>
    if p.accepts name then
      (evaluate s w).below ["patternProperties", p.source] :: ofMatching rest name w
    else ofMatching rest name w

/-- What the schemas of a list find in the items at their positions, from `position` on. -/
def ofPositions (keyword : String) : List Schema → Nat → List (Nat × Json) → List Outcome
  | [], _, _ => []
  | _, _, [] => []
  | s :: rest, position, (i, w) :: items =>
    ((evaluate s w).below [keyword, toString position]).inside (toString i) ::
      ofPositions keyword rest (position + 1) items

end

end ConfigCheck.Schema
