import ShapeCheck.Proofs.Double.Written
import ShapeCheck.Proofs.EqualValues
import ShapeCheck.Value.Cleaned

/-!
# Values that go through a document

A value that is written as a document and read again comes back cleaned: without its
undefined members and with null for all else that a document cannot hold.  Of the rest
only the signs of zeros are lost.  So a second time changes nothing.
-/

namespace ShapeCheck

/-- What is left of a document that is read as a value and written again. -/
def Json.projected (j : Json) : Json := (Value.ofJson j).toJson

namespace Value

mutual
def unsignZeros : Value → Value
  | .number x => .number x.unsignZero
  | .array items => .array (unsignZerosOfItems items)
  | .object members => .object (unsignZerosOfMembers members)
  | v => v
termination_by structural v => v

def unsignZerosOfItems : List Value → List Value
  | [] => []
  | item :: rest => item.unsignZeros :: unsignZerosOfItems rest
termination_by structural items => items

def unsignZerosOfMembers : List (String × Value) → List (String × Value)
  | [] => []
  | (name, content) :: rest => (name, content.unsignZeros) :: unsignZerosOfMembers rest
termination_by structural members => members
end

/-!
## Items and members

Items are changed one by one.  Members keep their names and their order, and those that
are undefined are left out.
-/

section Lists

variable {α β : Type} {f : α → β} {change : List α → List β}

theorem eq_map_of_cons (hnil : change [] = [])
    (hcons : ∀ a rest, change (a :: rest) = f a :: change rest) (as : List α) :
    change as = as.map f := by
  induction as with
  | nil => exact hnil
  | cons a rest ih => rw [hcons, ih, List.map_cons]

theorem eq_map_filter_of_cons {p : α → Bool} (hnil : change [] = [])
    (hcons : ∀ a rest, change (a :: rest) = if p a then f a :: change rest else change rest)
    (as : List α) : change as = (as.filter p).map f := by
  induction as with
  | nil => exact hnil
  | cons a rest ih =>
      rw [hcons, ih]
      by_cases ha : p a = true
      · rw [if_pos ha, List.filter_cons_of_pos ha, List.map_cons]
      · rw [if_neg ha, List.filter_cons_of_neg ha]

end Lists

theorem ofJson_array (items : List Json) : ofJson (.array items) = .array (items.map ofJson) :=
  congrArg array (eq_map_of_cons rfl (fun _ _ => rfl) items)

theorem ofJson_object (members : List (String × Json)) :
    ofJson (.object members) = .object (members.map (fun m => (m.1, ofJson m.2))) :=
  congrArg object (eq_map_of_cons rfl (fun _ _ => rfl) members)

theorem isUndefined_ofJson (j : Json) : (ofJson j).isUndefined = false := by
  cases j <;> rfl

theorem unsignZeros_array (items : List Value) :
    (array items).unsignZeros = .array (items.map unsignZeros) :=
  congrArg array (eq_map_of_cons rfl (fun _ _ => rfl) items)

theorem unsignZeros_object (members : List (String × Value)) :
    (object members).unsignZeros = .object (members.map (fun m => (m.1, m.2.unsignZeros))) :=
  congrArg object (eq_map_of_cons rfl (fun _ _ => rfl) members)

def definedMembers (members : List (String × Value)) : List (String × Value) :=
  members.filter (fun m => !m.2.isUndefined)

theorem toJson_array (items : List Value) : (array items).toJson = .array (items.map toJson) :=
  congrArg Json.array (eq_map_of_cons rfl (fun _ _ => rfl) items)

theorem toJson_object (members : List (String × Value)) :
    (object members).toJson =
      .object ((definedMembers members).map (fun m => (m.1, m.2.toJson))) := by
  apply congrArg Json.object
  apply eq_map_filter_of_cons rfl
  intro m rest
  cases m with
  | mk name content => cases content <;> rfl

theorem cleaned_array (items : List Value) :
    (array items).cleaned = .array (items.map cleaned) :=
  congrArg array (eq_map_of_cons rfl (fun _ _ => rfl) items)

theorem cleaned_object (members : List (String × Value)) :
    (object members).cleaned =
      .object ((definedMembers members).map (fun m => (m.1, m.2.cleaned))) := by
  apply congrArg object
  apply eq_map_filter_of_cons rfl
  intro m rest
  cases m with
  | mk name content => cases content <;> rfl

/-!
## There and back
-/

theorem mem_of_mem_definedMembers {members : List (String × Value)} {m : String × Value}
    (h : m ∈ definedMembers members) : m ∈ members :=
  (List.mem_filter.mp h).1

theorem isUndefined_of_mem_definedMembers {members : List (String × Value)} {m : String × Value}
    (h : m ∈ definedMembers members) : m.2.isUndefined = false := by
  simpa only [Bool.not_eq_true'] using (List.mem_filter.mp h).2

theorem definedMembers_of_defined {members : List (String × Value)}
    (h : ∀ m ∈ members, m.2.isUndefined = false) : definedMembers members = members := by
  apply List.filter_eq_self.mpr
  intro m hm
  rw [h m hm, Bool.not_false]

theorem isUndefined_cleaned (v : Value) : v.cleaned.isUndefined = false := by
  cases v with
  | number x =>
      rw [cleaned]
      split <;> rfl
  | _ => rfl

theorem toJson_cleaned (v : Value) : v.cleaned.toJson = v.toJson := by
  induction v with
  | undefined => rfl
  | null => rfl
  | bool b => rfl
  | number x =>
      cases hfinite : x.isFinite with
      | true => rw [cleaned, hfinite, if_pos rfl]
      | false =>
          rw [cleaned, hfinite, if_neg Bool.false_ne_true, toJson, toJson,
            Double.toJson_of_infinite hfinite]
  | text s => rfl
  | array items ih =>
      rw [cleaned_array, toJson_array, toJson_array, List.map_map]
      exact congrArg Json.array (List.map_congr_left ih)
  | object members ih =>
      rw [cleaned_object, toJson_object, toJson_object, definedMembers_of_defined, List.map_map]
      · apply congrArg Json.object
        apply List.map_congr_left
        intro m hm
        exact congrArg (Prod.mk m.1) (ih m (mem_of_mem_definedMembers hm))
      · exact List.forall_mem_map.mpr fun m _ => isUndefined_cleaned m.2

theorem isUndefined_unsignZeros (v : Value) : v.unsignZeros.isUndefined = v.isUndefined := by
  cases v <;> rfl

theorem toJson_unsignZeros (v : Value) : v.unsignZeros.toJson = v.toJson := by
  induction v with
  | undefined => rfl
  | null => rfl
  | bool b => rfl
  | number x => exact x.toJson_unsignZero
  | text s => rfl
  | array items ih =>
      rw [unsignZeros_array, toJson_array, toJson_array, List.map_map]
      exact congrArg Json.array (List.map_congr_left ih)
  | object members ih =>
      have hdefined : definedMembers (members.map (fun m => (m.1, m.2.unsignZeros))) =
          (definedMembers members).map (fun m => (m.1, m.2.unsignZeros)) := by
        rw [definedMembers, List.filter_map]
        simp only [Function.comp_def, isUndefined_unsignZeros]
        rfl
      rw [unsignZeros_object, toJson_object, toJson_object, hdefined, List.map_map]
      apply congrArg Json.object
      apply List.map_congr_left
      intro m hm
      exact congrArg (Prod.mk m.1) (ih m (mem_of_mem_definedMembers hm))

theorem ofJson_toJson (v : Value) : ofJson v.toJson = v.cleaned.unsignZeros := by
  induction v with
  | undefined => rfl
  | null => rfl
  | bool b => rfl
  | number x =>
      cases hfinite : x.isFinite with
      | true =>
          rw [toJson, x.written_toJson.ofJson hfinite, cleaned, hfinite, if_pos rfl]
          rfl
      | false =>
          rw [toJson, Double.toJson_of_infinite hfinite, cleaned, hfinite,
            if_neg Bool.false_ne_true]
          rfl
  | text s => rfl
  | array items ih =>
      rw [toJson_array, ofJson_array, cleaned_array, unsignZeros_array, List.map_map, List.map_map]
      exact congrArg array (List.map_congr_left ih)
  | object members ih =>
      rw [toJson_object, ofJson_object, cleaned_object, unsignZeros_object, List.map_map,
        List.map_map]
      apply congrArg object
      apply List.map_congr_left
      intro m hm
      exact congrArg (Prod.mk m.1) (ih m (mem_of_mem_definedMembers hm))

theorem toJson_ofJson_toJson (v : Value) : (ofJson v.toJson).toJson = v.toJson := by
  rw [ofJson_toJson, toJson_unsignZeros, toJson_cleaned]

/-!
## Equal values
-/

theorem same_array_of_forall₂ {items others : List Value}
    (h : List.Forall₂ (fun v w => v.same w = true) items others) :
    (array items).same (array others) = true := by
  rw [same]
  induction h with
  | nil => rfl
  | cons hsame _ ih => rw [sameItems, hsame, ih, Bool.and_self]

theorem same_object_of_related {members others : List (String × Value)}
    (hdistinct : Entries.Distinct others)
    (h : Entries.Related (fun v w => v.same w = true) members others) :
    (object members).same (object others) = true := by
  have hfound : ∀ m ∈ members, ∃ w, Entries.get? others m.1 = some w ∧ m.2.same w = true := by
    intro m hm
    rcases exists_of_forall₂_of_mem h hm with ⟨other, hother, hname, hsame⟩
    refine ⟨other.2, ?_, hsame⟩
    rw [hname]
    exact Entries.get?_of_mem hdistinct hother
  have hmembers : sameMembers members others = true := by
    clear h
    induction members with
    | nil => rfl
    | cons m rest ih =>
        rcases List.forall_mem_cons.mp hfound with ⟨⟨w, hget, hsame⟩, hrest⟩
        cases m with
        | mk name v =>
            rw [sameMembers, hget, ih hrest, Bool.and_true]
            exact hsame
  rw [same, hmembers, h.length_eq, beq_self_eq_true, Bool.and_self]

theorem distinct_definedMembers {members : List (String × Value)}
    (h : Entries.Distinct members) : Entries.Distinct (definedMembers members) :=
  h.sublist (List.filter_sublist.map Prod.fst)

/-- Values that differ in the signs of zeros are equal, unless there is something in them that
equals nothing. -/
theorem same_unsignZeros_cleaned {v : Value} (hnames : v.namesDiffer = true) :
    v.cleaned.unsignZeros.same v.cleaned = true := by
  induction v with
  | undefined => rfl
  | null => rfl
  | bool b => exact beq_self_eq_true b
  | number x =>
      rw [cleaned]
      split
      · rename_i hfinite
        apply Double.same_unsignZero
        rw [Double.isNaN, hfinite]
        rfl
      · rfl
  | text s => exact beq_self_eq_true s
  | array items ih =>
      rw [namesDiffer_array_iff] at hnames
      rw [cleaned_array, unsignZeros_array, List.map_map]
      apply same_array_of_forall₂
      rw [List.forall₂_map_left_iff, List.forall₂_map_right_iff]
      exact List.forall₂_same.mpr fun item hitem => ih item hitem (hnames item hitem)
  | object members ih =>
      rcases namesDiffer_object_iff.mp hnames with ⟨hdistinct, hcontents⟩
      rw [cleaned_object, unsignZeros_object, List.map_map]
      apply same_object_of_related ((distinct_definedMembers hdistinct).map cleaned)
      rw [Entries.Related, List.forall₂_map_left_iff, List.forall₂_map_right_iff]
      apply List.forall₂_same.mpr
      intro m hm
      have hmember := mem_of_mem_definedMembers hm
      exact ⟨rfl, ih m hmember (hcontents m hmember)⟩

end Value

/-- A value that goes through a document comes back equal to the cleaned value, with its
members in order, and only zeros have lost their signs.  A document that has gone through a
value goes through unchanged. -/
theorem round_trips_settle {v : Value} (hnames : v.namesDiffer = true) (j : Json) :
    (Value.ofJson v.toJson).same v.cleaned = true ∧
      Value.ofJson v.toJson = v.cleaned.unsignZeros ∧
      j.projected.projected = j.projected := by
  refine ⟨?_, v.ofJson_toJson, (Value.ofJson j).toJson_ofJson_toJson⟩
  rw [v.ofJson_toJson]
  exact Value.same_unsignZeros_cleaned hnames

/-- Undefined as a member and as an item, no number, a negative zero, and two to the power 63,
which as a whole number of the document has more than 63 bits. -/
theorem round_trips_settle_edges :
    let limit : Double := ⟨0x43e0000000000000⟩
    let v := Value.object
      [("a", .undefined),
        ("b", .array [.undefined, .number Double.nan, .number (.zero true)]),
        ("c", .number limit)]
    let j := Json.array [.ofNat (2 ^ 63), .number (.decimal (.zero true))]
    v.namesDiffer = true ∧
      v.cleaned = .object
        [("b", .array [.null, .null, .number (.zero true)]), ("c", .number limit)] ∧
      (Value.ofJson v.toJson).same v.cleaned = true ∧
      Value.ofJson v.toJson = .object
        [("b", .array [.null, .null, .number (.zero false)]), ("c", .number limit)] ∧
      j.projected.projected = j.projected := by
  intro limit v j
  have hnames : v.namesDiffer = true := by decide
  rcases round_trips_settle hnames j with ⟨hsame, hback, hsettled⟩
  have hnan : Double.nan.isFinite = false := by decide
  have hzero : (Double.zero true).isFinite = true := by decide
  have hlimit : limit.isFinite = true := by decide
  have hunsigned : (Double.zero true).unsignZero = .zero false := by decide +kernel
  have hkept : limit.unsignZero = limit := by decide +kernel
  have hcleaned : v.cleaned = .object
      [("b", .array [.null, .null, .number (.zero true)]), ("c", .number limit)] := by
    simp [v, Value.cleaned, Value.cleanedItems, Value.cleanedMembers, Value.isUndefined, hnan,
      hzero, hlimit]
  refine ⟨hnames, hcleaned, hsame, ?_, hsettled⟩
  rw [hback, hcleaned]
  simp [Value.unsignZeros, Value.unsignZerosOfItems, Value.unsignZerosOfMembers, hunsigned, hkept]

end ShapeCheck
