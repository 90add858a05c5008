import ConfigCheck.Proofs.Schema.Law

/-!
# Locations of violations

The location of a violation is found by walking the document along the pointer of the failing
value.  This walk never leaves the document: every failure stands at a value that its tokens lead to
(`Schema.placed_law`), so each segment of a location is taken where it exists, a name below an
object that has it and an index below an array that is long enough
(`Validator.takenAt_of_mem_violations`).
-/

namespace ConfigCheck

namespace Json

/-- A segment can be taken at a value: a name where there is a member of that name, an index where
there is an item at it. -/
def Segment.TakenAt (value : Json) : Segment → Prop
  | .key name => ∃ members, value = .object members ∧ name ∈ members.map Prod.fst
  | .index i => ∃ items, value = .array items ∧ i < items.length

/-- A step that leads somewhere is taken where it exists. -/
lemma takenAt_of_step? {value next : Json} {segment : Segment}
    (h : value.step? segment = some next) : segment.TakenAt value := by
  unfold step? at h
  split at h
  · rename_i members name
    exact ⟨members, rfl, List.mem_map.mpr ⟨(name, next), Members.mem_of_get? h, rfl⟩⟩
  · rename_i items i
    obtain ⟨hi, -⟩ := List.getElem?_eq_some_iff.mp h
    exact ⟨items, rfl, hi⟩
  · cases h

/-- A walk that leads somewhere takes each of its segments where it exists. -/
theorem takenAt_of_walk? {value last : Json} {before after : List Segment} {segment : Segment}
    (h : value.walk? (before ++ segment :: after) = some last) :
    ∃ node, value.walk? before = some node ∧ segment.TakenAt node := by
  induction before generalizing value with
  | nil =>
    rw [List.nil_append, walk?] at h
    obtain ⟨next, hstep, -⟩ := Option.bind_eq_some_iff.mp h
    exact ⟨value, rfl, takenAt_of_step? hstep⟩
  | cons first rest ih =>
    rw [List.cons_append, walk?] at h
    obtain ⟨next, hstep, hnext⟩ := Option.bind_eq_some_iff.mp h
    obtain ⟨node, hnode, htaken⟩ := ih hnext
    refine ⟨node, ?_, htaken⟩
    rw [walk?, hstep]
    exact hnode

/-- What tokens lead to from a member, they lead to from the object behind the name. -/
lemma walk?_typeTokens_member {members : Members} {name : String} {w last : Json}
    {tokens : List String} (hformed : (object members).isWellFormed = true)
    (hmem : (name, w) ∈ members) (h : w.walk? (typeTokens (some w) tokens) = some last) :
    (object members).walk? (typeTokens (some (object members)) (name :: tokens)) = some last := by
  have hget := Members.get?_of_mem (isWellFormed_object.mp hformed).1 hmem
  rw [typeTokens_member hget, walk?, step?, hget]
  exact h

/-- What tokens lead to from an item, they lead to from the array behind the index. -/
lemma walk?_typeTokens_item {items : List Json} {i : Nat} {w last : Json} {tokens : List String}
    (hformed : (array items).isWellFormed = true) (hitem : items[i]? = some w)
    (h : w.walk? (typeTokens (some w) tokens) = some last) :
    (array items).walk? (typeTokens (some (array items)) (toString i :: tokens)) = some last := by
  obtain ⟨hi, -⟩ := List.getElem?_eq_some_iff.mp hitem
  have hlimit := Nat.lt_of_lt_of_le hi (isWellFormed_array.mp hformed).1
  rw [typeTokens_item hitem hlimit, walk?, step?, hitem]
  exact h

end Json

namespace Schema

/-- The tokens of a failure lead to a value. -/
def Failure.IsPlaced (value : Json) (f : Failure) : Prop :=
  ∃ node, value.walk? (Json.typeTokens (some value) f.place) = some node

/-- A failure is reported at a value: where it stands, or for the whole document. -/
lemma Failure.IsPlaced.reported {value : Json} {f : Failure} (hf : f.IsPlaced value) :
    f.reported.IsPlaced value := by
  unfold Failure.reported Failure.IsPlaced
  dsimp only
  split
  · exact hf
  · exact ⟨value, rfl⟩

/-- In a value that a document can have, every failure stands where its tokens lead. -/
theorem placed_law : FailureLaw (fun _ => True)
    fun v f => v.isWellFormed = true → f.IsPlaced v where
  falseSchema v _ := ⟨v, rfl⟩
  assertion _ hf _ := by
    unfold Failure.IsPlaced
    rw [Assertion.place_of_mem_failures hf]
    exact ⟨_, rfl⟩
  own _ _ := ⟨_, rfl⟩
  below _ h := h
  member := by
    intro members name w f hmem h hformed
    obtain ⟨node, hnode⟩ := h ((Json.isWellFormed_object.mp hformed).2 (name, w) hmem)
    exact ⟨node, Json.walk?_typeTokens_member hformed hmem hnode⟩
  item := by
    intro items i w f hitem h hformed
    obtain ⟨node, hnode⟩ :=
      h ((Json.isWellFormed_array.mp hformed).2 w (List.mem_of_getElem? hitem))
    exact ⟨node, Json.walk?_typeTokens_item hformed hitem hnode⟩
  name _ _ _ := ⟨_, rfl⟩

end Schema

namespace Validator

/-- The location of a violation leads to a value of the document. -/
theorem walk?_instancePath_isSome {v : Validator} {document : Json} {violation : Violation}
    (hdocument : document.isWellFormed = true) (h : violation ∈ v.violations document) :
    ∃ node, document.walk? violation.instancePath = some node := by
  obtain ⟨f, hf, rfl⟩ := List.mem_map.mp h
  have hplaced := Schema.placed_law.of_mem_failures hf hdocument
  obtain ⟨node, hnode⟩ := hplaced.reported
  refine ⟨node, ?_⟩
  rw [Schema.Failure.toViolation, Json.resolvePointer_pointerText]
  exact hnode

/-- The location of a violation leads to a value of the document, and on the way each segment is
taken where it exists: a name at an object that has it, an index at an array that is longer. -/
theorem takenAt_of_mem_violations {v : Validator} {document : Json} {violation : Violation}
    (hdocument : document.isWellFormed = true) (h : violation ∈ v.violations document) :
    (∃ node, document.walk? violation.instancePath = some node) ∧
      ∀ before segment after, violation.instancePath = before ++ segment :: after →
        ∃ node, document.walk? before = some node ∧ segment.TakenAt node := by
  obtain ⟨last, hlast⟩ := walk?_instancePath_isSome hdocument h
  refine ⟨⟨last, hlast⟩, fun before segment after hpath => ?_⟩
  rw [hpath] at hlast
  exact Json.takenAt_of_walk? hlast

/-- A validator that wants each item in the member `0` to be a text. -/
def textsUnderZero : Validator where
  schema := .keywords [.properties [("0", .keywords
    [.items "items" 0 (.keywords [.assertion "type" (.type false .string)])])]]
  registry := {}

/-- The member `0` is a name on the way to a failing item, and the item is at an index. -/
theorem takenAt_textsUnderZero :
    (Json.object [("0", .array [.null])]).isWellFormed = true ∧
      ∃ violation ∈ textsUnderZero.violations (.object [("0", .array [.null])]),
        violation.instancePath = [.key "0"] ++ .index 0 :: [] ∧
          ∃ node, (Json.object [("0", .array [.null])]).walk? [.key "0"] = some node ∧
            (Json.Segment.index 0).TakenAt node := by
  have hdocument : (Json.object [("0", .array [.null])]).isWellFormed = true := by decide
  have hpaths : (textsUnderZero.violations (.object [("0", .array [.null])])).map
      Violation.instancePath = [[.key "0", .index 0]] := by decide
  obtain ⟨violation, hmem, hpath⟩ := List.mem_map.mp (hpaths ▸ List.mem_singleton_self _)
  refine ⟨hdocument, violation, hmem, hpath, ?_⟩
  exact (takenAt_of_mem_violations hdocument hmem).2 [.key "0"] (.index 0) [] hpath

end Validator

end ConfigCheck
