import ShapeCheck.Proofs.Places
import ShapeCheck.Proofs.ReadShapes
import ShapeCheck.Validator

/-!
# Ways into a validator

A document can be kept while its value is made, or be used up for it.  The second way moves
the parts over one by one, and puts a member to the place of its name.  As names do not
repeat, both ways make the same value, and so it does not matter which of them a validator
is given.
-/

namespace ShapeCheck
namespace Value

/-!
## Documents that are used up
-/

theorem gatherItems_eq {items : List Json} (h : ∀ item ∈ items, gather item = ofJson item)
    (done : List Value) : gatherItems done items = done.reverse ++ items.map ofJson := by
  induction items generalizing done with
  | nil => rw [gatherItems, List.map_nil, List.append_nil]
  | cons item rest ih =>
      rw [List.forall_mem_cons] at h
      rw [gatherItems, ih h.2, h.1, List.reverse_cons, List.append_assoc, List.map_cons]
      rfl

theorem gatherMembers_eq {members : List (String × Json)}
    (h : ∀ m ∈ members, gather m.2 = ofJson m.2) (done : Entries Value) :
    gatherMembers done members =
      (members.map (fun m => (m.1, ofJson m.2))).foldl
        (fun entries m => entries.insert m.1 m.2) done := by
  induction members generalizing done with
  | nil => rfl
  | cons m rest ih =>
      rw [List.forall_mem_cons] at h
      cases m with
      | mk name content => rw [gatherMembers, ih h.2, h.1, List.map_cons, List.foldl_cons]

theorem gather_eq_ofJson {j : Json} (hnames : j.namesDiffer = true) : gather j = ofJson j := by
  induction j with
  | array items ih =>
      have hitems : ∀ item ∈ items, gather item = ofJson item := by
        intro item hitem
        exact ih item hitem ((Json.namesDiffer_iff.mp hnames).2 item hitem)
      rw [gather, gatherItems_eq hitems, ofJson_array]
      rfl
  | object members ih =>
      have hmembers : ∀ m ∈ members, gather m.2 = ofJson m.2 := by
        intro m hm
        apply ih m hm
        exact (Json.namesDiffer_iff.mp hnames).2 m.2 (List.mem_map_of_mem hm)
      have hdistinct := (Json.distinct_of_namesDiffer hnames).map ofJson
      rw [gather, gatherMembers_eq hmembers, ofJson_object]
      exact congrArg object (Entries.ofList_of_distinct hdistinct)
  | _ => rfl

/-!
## What a document turns into
-/

/-- A value has what a document has, at every place and in the same order, and nothing that no
document has. -/
structure Mirrors (v : Value) (j : Json) : Prop where
  defined : ∀ trail, v.at? trail ≠ some .undefined
  finite : ∀ trail x, v.at? trail = some (.number x) → x.isFinite = true
  array : ∀ trail items, j.at? trail = some (.array items) →
    v.at? trail = some (.array (items.map ofJson))
  object : ∀ trail members, j.at? trail = some (.object members) →
    v.at? trail = some (.object (members.map (fun m => (m.1, ofJson m.2))))

end Value

namespace Json

theorem mem_parts_of_slot? {j part : Json} {slot : Slot} (h : j.slot? slot = some part) :
    part ∈ j.parts := by
  cases j with
  | array items =>
      cases slot with
      | item i => exact List.mem_of_getElem? h
      | member name => cases h
  | object members =>
      cases slot with
      | item i => cases h
      | member name => exact List.mem_map_of_mem (f := Prod.snd) (Entries.mem_of_get? h)
  | _ => cases slot <;> cases h

theorem numbers_subset_of_at? {j part : Json} {trail : List Slot}
    (h : j.at? trail = some part) : part.numbers ⊆ j.numbers := by
  induction trail generalizing j with
  | nil =>
      cases h
      exact List.Subset.refl _
  | cons slot rest ih =>
      rcases at?_cons_eq_some_iff.mp h with ⟨k, hk, hrest⟩
      exact List.Subset.trans (ih hrest) (numbers_subset_of_mem_parts (mem_parts_of_slot? hk))

end Json

theorem Value.mirrors_ofJson {j : Json} (hfit : j.NumbersFit) : (ofJson j).Mirrors j := by
  constructor
  · intro trail h
    rw [at?_ofJson] at h
    rcases Option.map_eq_some_iff.mp h with ⟨part, _, hpart⟩
    have hdefined := isUndefined_ofJson part
    rw [hpart] at hdefined
    cases hdefined
  · intro trail x h
    rw [at?_ofJson] at h
    rcases Option.map_eq_some_iff.mp h with ⟨part, hpart, hx⟩
    cases part with
    | number n =>
        cases hx
        have hn : n ∈ (Json.number n).numbers := List.mem_singleton.mpr rfl
        exact Json.Number.isFinite_toDouble (hfit n (Json.numbers_subset_of_at? hpart hn))
    | _ => cases hx
  · intro trail items h
    rw [at?_ofJson, h, Option.map_some, ofJson_array]
  · intro trail members h
    rw [at?_ofJson, h, Option.map_some, ofJson_object]

namespace Validator

/-- Both ways to make a value of a document give the same value, which mirrors the document.  So
it is the same whether a validator is given the document or the value. -/
theorem entry_points_agree {j : Json} (hfit : j.NumbersFit) (hnames : j.namesDiffer = true) :
    Value.gather j = Value.ofJson j ∧ (Value.ofJson j).Mirrors j ∧
    ∀ validator : Validator,
      (validator.validateJson j = .ok j ↔ validator.isValid (Value.gather j) = true) ∧
      (validator.isValid (Value.gather j) = true ↔
        validator.validate (Value.ofJson j) = .ok (Value.ofJson j)) ∧
      (validator.isValid (Value.gather j) = false →
        validator.validateJson j = .error rejection ∧
          validator.validate (Value.ofJson j) = .error rejection) := by
  refine ⟨Value.gather_eq_ofJson hnames, Value.mirrors_ofJson hfit, ?_⟩
  intro validator
  rw [Value.gather_eq_ofJson hnames]
  refine ⟨?_, ?_, ?_⟩
  · rw [validateJson_eq_ok_iff, and_iff_left rfl]
  · rw [validate_eq_ok_iff, and_iff_left rfl]
  · intro hrejected
    rw [validateJson, validate, hrejected]
    exact ⟨rfl, rfl⟩

/-- An object in an array, with the greatest whole number of a document, is accepted in every
way; with one more member it is rejected in every way. -/
theorem entry_points_agree_nested :
    let validator := ofCheck (.array (.object [("b", .primitive .number), ("a", .const .null)]))
    let members := [("a", Json.null), ("b", .number (.whole 18446744073709551615))]
    let j := Json.array [.object members]
    let more := Json.array [.object (("c", .bool true) :: members)]
    (j.NumbersFit ∧ j.namesDiffer = true ∧ validator.validateJson j = .ok j ∧
      validator.validate (Value.ofJson j) = .ok (Value.ofJson j)) ∧
    more.NumbersFit ∧ more.namesDiffer = true ∧
      validator.validateJson more = .error rejection ∧
      validator.validate (Value.ofJson more) = .error rejection := by
  intro validator members j more
  have hfit : j.NumbersFit := by decide
  have hnames : j.namesDiffer = true := by decide
  have hmoreFit : more.NumbersFit := by decide
  have hmoreNames : more.namesDiffer = true := by decide
  have haccepted : validator.isValid (Value.gather j) = true := by decide
  have hrejected : validator.isValid (Value.gather more) = false := by decide
  rcases (entry_points_agree hfit hnames).2.2 validator with ⟨hdocument, hvalue, _⟩
  rcases (entry_points_agree hmoreFit hmoreNames).2.2 validator with ⟨_, _, hmore⟩
  exact ⟨⟨hfit, hnames, hdocument.mpr haccepted, hvalue.mp haccepted⟩,
    hmoreFit, hmoreNames, hmore hrejected⟩

end Validator
end ShapeCheck
