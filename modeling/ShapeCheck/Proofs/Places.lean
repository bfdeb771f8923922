import ShapeCheck.Proofs.Projection

/-!
# Places in values and documents

A place is found by going through arrays by position and through objects by name.  The
document of a value has at each place what the value has there, undefined members apart,
and reading a document changes no place.  So a number of a document can be compared with
the number of the value that it stands for.
-/

namespace ShapeCheck

/-- Where an array or an object holds something. -/
inductive Slot where
  | item (i : Nat)
  | member (name : String)

def Json.slot? : Slot → Json → Option Json
  | .item i, j => j.item? i
  | .member name, j => j.member? name

def Json.at? : List Slot → Json → Option Json
  | [], j => some j
  | slot :: rest, j => (j.slot? slot).bind (at? rest)

namespace Value

def slot? : Slot → Value → Option Value
  | .item i, .array items => items[i]?
  | .member name, .object members => Entries.get? members name
  | _, _ => none

def at? : List Slot → Value → Option Value
  | [], v => some v
  | slot :: rest, v => (v.slot? slot).bind (at? rest)

theorem at?_cons_eq_some_iff {v w : Value} {slot : Slot} {rest : List Slot} :
    v.at? (slot :: rest) = some w ↔ ∃ u, v.slot? slot = some u ∧ u.at? rest = some w := by
  rw [at?, Option.bind_eq_some_iff]

end Value

theorem Json.at?_cons_eq_some_iff {j part : Json} {slot : Slot} {rest : List Slot} :
    j.at? (slot :: rest) = some part ↔ ∃ k, j.slot? slot = some k ∧ k.at? rest = some part := by
  rw [at?, Option.bind_eq_some_iff]

/-!
## Members under a name
-/

namespace Value

/-- A name that has an undefined member has no other, so nothing takes the place of what is
left out. -/
theorem get?_definedMembers {members : List (String × Value)}
    (h : Entries.Distinct members) (name : String) :
    Entries.get? (definedMembers members) name =
      (Entries.get? members name).filter (fun v => !v.isUndefined) := by
  have hdistinct := distinct_definedMembers h
  cases hget : Entries.get? members name with
  | none =>
      rw [Entries.get?_eq_none_iff] at hget
      rw [Option.filter_none, Entries.get?_eq_none_iff]
      intro content hmem
      exact hget content (mem_of_mem_definedMembers hmem)
  | some v =>
      have hmem := Entries.mem_of_get? hget
      cases hundefined : v.isUndefined with
      | false =>
          rw [Option.filter_some_pos (by rw [hundefined, Bool.not_false])]
          apply Entries.get?_of_mem hdistinct
          exact List.mem_filter.mpr ⟨hmem, by rw [hundefined, Bool.not_false]⟩
      | true =>
          rw [Option.filter_some_neg (by rw [hundefined, Bool.not_true]),
            Entries.get?_eq_none_iff]
          intro content hcontent
          have hheld := Entries.get?_of_mem h (mem_of_mem_definedMembers hcontent)
          rw [hget, Option.some.injEq] at hheld
          have hdefined : content.isUndefined = false := isUndefined_of_mem_definedMembers hcontent
          rw [← hheld, hundefined] at hdefined
          cases hdefined

/-!
## Writing
-/

theorem namesDiffer_of_slot? {v w : Value} {slot : Slot} (hnames : v.namesDiffer = true)
    (h : v.slot? slot = some w) : w.namesDiffer = true := by
  cases v with
  | array items =>
      cases slot with
      | item i => exact namesDiffer_array_iff.mp hnames w (List.mem_of_getElem? h)
      | member name => cases h
  | object members =>
      cases slot with
      | item i => cases h
      | member name => exact (namesDiffer_object_iff.mp hnames).2 _ (Entries.mem_of_get? h)
  | _ => cases slot <;> cases h

theorem slot?_toJson {v w : Value} {slot : Slot} (hnames : v.namesDiffer = true)
    (h : v.slot? slot = some w) (hdefined : w.isUndefined = false) :
    v.toJson.slot? slot = some w.toJson := by
  cases v with
  | array items =>
      cases slot with
      | item i =>
          have hitem : items[i]? = some w := h
          rw [toJson_array, Json.slot?, Json.item?, List.getElem?_map, hitem]
          rfl
      | member name => cases h
  | object members =>
      cases slot with
      | item i => cases h
      | member name =>
          have hmember : Entries.get? members name = some w := h
          rw [toJson_object, Json.slot?, Json.member?, Entries.get?_map,
            get?_definedMembers (namesDiffer_object_iff.mp hnames).1, hmember,
            Option.filter_some_pos (by rw [hdefined, Bool.not_false])]
          rfl
  | _ => cases slot <;> cases h

theorem exists_slot?_of_toJson {v : Value} {part : Json} {slot : Slot}
    (hnames : v.namesDiffer = true) (h : v.toJson.slot? slot = some part) :
    ∃ w, v.slot? slot = some w ∧ w.toJson = part := by
  cases v with
  | array items =>
      cases slot with
      | item i =>
          rw [toJson_array, Json.slot?, Json.item?, List.getElem?_map] at h
          exact Option.map_eq_some_iff.mp h
      | member name => cases h
  | object members =>
      cases slot with
      | item i => cases h
      | member name =>
          rw [toJson_object, Json.slot?, Json.member?, Entries.get?_map,
            get?_definedMembers (namesDiffer_object_iff.mp hnames).1] at h
          rcases Option.map_eq_some_iff.mp h with ⟨w, hw, hpart⟩
          exact ⟨w, (Option.filter_eq_some_iff.mp hw).1, hpart⟩
  | number x =>
      have hnone : ∀ {j : Json}, Double.Written x j → j.slot? slot = none := by
        intro j hj
        cases hj <;> cases slot <;> rfl
      rw [toJson, hnone x.written_toJson] at h
      cases h
  | _ => cases slot <;> cases h

theorem isUndefined_of_at? {v w : Value} {trail : List Slot} (h : v.at? trail = some w)
    (hdefined : w.isUndefined = false) : v.isUndefined = false := by
  cases v with
  | undefined =>
      cases trail with
      | nil =>
          cases h
          cases hdefined
      | cons slot rest => cases slot <;> cases h
  | _ => rfl

theorem at?_toJson {v w : Value} {trail : List Slot} (hnames : v.namesDiffer = true)
    (h : v.at? trail = some w) (hdefined : w.isUndefined = false) :
    v.toJson.at? trail = some w.toJson := by
  induction trail generalizing v with
  | nil =>
      cases h
      rfl
  | cons slot rest ih =>
      rcases at?_cons_eq_some_iff.mp h with ⟨u, hu, hrest⟩
      apply Json.at?_cons_eq_some_iff.mpr
      refine ⟨u.toJson, ?_, ih (namesDiffer_of_slot? hnames hu) hrest⟩
      exact slot?_toJson hnames hu (isUndefined_of_at? hrest hdefined)

theorem exists_at?_of_toJson {v : Value} {part : Json} {trail : List Slot}
    (hnames : v.namesDiffer = true) (h : v.toJson.at? trail = some part) :
    ∃ w, v.at? trail = some w ∧ w.toJson = part := by
  induction trail generalizing v with
  | nil =>
      cases h
      exact ⟨v, rfl, rfl⟩
  | cons slot rest ih =>
      rcases Json.at?_cons_eq_some_iff.mp h with ⟨k, hk, hrest⟩
      rcases exists_slot?_of_toJson hnames hk with ⟨u, hu, rfl⟩
      rcases ih (namesDiffer_of_slot? hnames hu) hrest with ⟨w, hw, hpart⟩
      exact ⟨w, at?_cons_eq_some_iff.mpr ⟨u, hu, hw⟩, hpart⟩

/-!
## Reading
-/

theorem slot?_ofJson (j : Json) (slot : Slot) :
    (ofJson j).slot? slot = (j.slot? slot).map ofJson := by
  cases j with
  | array items =>
      cases slot with
      | item i =>
          rw [ofJson_array]
          exact List.getElem?_map
      | member name => rfl
  | object members =>
      cases slot with
      | item i => rfl
      | member name =>
          rw [ofJson_object]
          exact Entries.get?_map ofJson members name
  | _ => cases slot <;> rfl

theorem at?_ofJson (j : Json) (trail : List Slot) :
    (ofJson j).at? trail = (j.at? trail).map ofJson := by
  induction trail generalizing j with
  | nil => rfl
  | cons slot rest ih =>
      rw [at?, Json.at?, slot?_ofJson]
      cases j.slot? slot with
      | none => rfl
      | some k => exact ih k

/-!
## Numbers
-/

theorem exists_number_of_toJson {v : Value} {n : Json.Number} (h : v.toJson = .number n) :
    ∃ x, v = .number x ∧ x.isFinite = true := by
  cases v with
  | number x =>
      cases hfinite : x.isFinite with
      | true => exact ⟨x, rfl, hfinite⟩
      | false =>
          rw [toJson, Double.toJson_of_infinite hfinite] at h
          cases h
  | _ => cases h

/-- The numbers of a document stand where the value has its finite numbers.  Each of them has
the value of the number it stands for, except where that is two to the power 63, which is
written as the greatest whole number. -/
theorem toJson_keeps_numbers {v : Value} (hnames : v.namesDiffer = true) (trail : List Slot) :
    (∀ n, v.toJson.at? trail = some (.number n) →
      ∃ x, v.at? trail = some (.number x) ∧ x.isFinite = true) ∧
    ∀ x, v.at? trail = some (.number x) → x.isFinite = true →
      ∃ n, v.toJson.at? trail = some (.number n) ∧
        (x.signedUnits ≠ (wholeMax + 1) * Double.unitsPerOne → n.units = x.signedUnits) ∧
        (x.signedUnits = (wholeMax + 1) * Double.unitsPerOne → n = .whole wholeMax) := by
  constructor
  · intro n hn
    rcases exists_at?_of_toJson hnames hn with ⟨w, hw, hnumber⟩
    rcases exists_number_of_toJson hnumber with ⟨x, rfl, hfinite⟩
    exact ⟨x, hw, hfinite⟩
  · intro x hx hfinite
    rcases x.written_toJson.exists_number hfinite with ⟨n, hn, hvalue⟩
    refine ⟨n, ?_, hvalue⟩
    rw [at?_toJson hnames hx rfl, toJson, hn]

/-- Two to the power 53 and one half, next to a member that is not written. -/
theorem toJson_keeps_numbers_nested :
    let x : Double := ⟨0x4340000000000000⟩
    let y : Double := ⟨0x3fe0000000000000⟩
    let v := Value.object [("a", .undefined), ("b", .array [.number x, .number y])]
    v.namesDiffer = true ∧
      (∃ n, v.toJson.at? [.member "b", .item 0] = some (.number n) ∧
        n.units = 9007199254740992 * Double.unitsPerOne) ∧
      ∃ n, v.toJson.at? [.member "b", .item 1] = some (.number n) ∧
        2 * n.units = Double.unitsPerOne := by
  intro x y v
  have hnames : v.namesDiffer = true := by decide
  have hx : x.signedUnits = 9007199254740992 * Double.unitsPerOne := by decide +kernel
  have hy : 2 * y.signedUnits = Double.unitsPerOne := by decide +kernel
  have hxlimit : x.signedUnits ≠ (wholeMax + 1) * Double.unitsPerOne := by decide +kernel
  have hylimit : y.signedUnits ≠ (wholeMax + 1) * Double.unitsPerOne := by decide +kernel
  refine ⟨hnames, ?_, ?_⟩
  · rcases (toJson_keeps_numbers hnames [.member "b", .item 0]).2 x rfl (by decide) with
      ⟨n, hn, hvalue, _⟩
    exact ⟨n, hn, (hvalue hxlimit).trans hx⟩
  · rcases (toJson_keeps_numbers hnames [.member "b", .item 1]).2 y rfl (by decide) with
      ⟨n, hn, hvalue, _⟩
    refine ⟨n, hn, ?_⟩
    rw [hvalue hylimit]
    exact hy

/-- Two to the power 63 loses one. -/
theorem toJson_lowers_limit :
    let x : Double := ⟨0x43e0000000000000⟩
    x.isFinite = true ∧ x.signedUnits = 9223372036854775808 * Double.unitsPerOne ∧
      ∃ n, (Value.number x).toJson = .number n ∧ n.units = 9223372036854775807 * Double.unitsPerOne ∧
        n.units ≠ x.signedUnits := by
  intro x
  have hfinite : x.isFinite = true := by decide
  have hunits : x.signedUnits = (wholeMax + 1) * Double.unitsPerOne := by decide +kernel
  rcases x.written_toJson.exists_number hfinite with ⟨n, hn, _, hlimit⟩
  rw [hlimit hunits] at hn
  exact ⟨hfinite, hunits, _, hn, rfl, by decide +kernel⟩

end Value
end ShapeCheck
