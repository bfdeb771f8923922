import ShapeCheck.Proofs.Compile
import ShapeCheck.Proofs.Entries
import ShapeCheck.Proofs.Verdict
import ShapeCheck.Shape.Conformance

/-!
# Compiled shapes judge by conformance

The image of a sound shape, bound to predicates, accepts exactly the values that
conform to the shape.  Soundness matters at objects only: entries are collected by
name, which keeps them as they are if no name comes twice.
-/

namespace ShapeCheck
namespace Shape

/-- The image of the shape accepts what conforms to the shape, and nothing else. -/
def JudgedExactly (s : Shape) : Prop :=
  ∀ v, s.image.bind.test v = s.conforms v

/-!
## Lists of shapes
-/

section Lists

variable {shapes : List Shape} (h : ∀ s ∈ shapes, JudgedExactly s)

include h

theorem any_test_images (v : Value) :
    (Check.bindAll (images shapes)).any (fun p => p.test v) = conformsToSome shapes v := by
  induction shapes with
  | nil => rfl
  | cons s rest ih =>
      rcases List.forall_mem_cons.mp h with ⟨hs, hrest⟩
      rw [images, Check.bindAll, List.any_cons, conformsToSome, hs v, ih hrest]

theorem all_test_images (v : Value) :
    (Check.bindAll (images shapes)).all (fun p => p.test v) = conformsToAll shapes v := by
  induction shapes with
  | nil => rfl
  | cons s rest ih =>
      rcases List.forall_mem_cons.mp h with ⟨hs, hrest⟩
      rw [images, Check.bindAll, List.all_cons, conformsToAll, hs v, ih hrest]

theorem places_test_images (items : List Value) :
    (items.length == (Check.bindAll (images shapes)).length &&
        ((Check.bindAll (images shapes)).zip items).all
          (fun place => place.1.test place.2)) =
      conformPlaceByPlace shapes items := by
  induction shapes generalizing items with
  | nil =>
      cases items with
      | nil => rfl
      | cons item items => rfl
  | cons s rest ih =>
      rcases List.forall_mem_cons.mp h with ⟨hs, hrest⟩
      cases items with
      | nil => rfl
      | cons item items =>
          have hlength : ∀ n : Nat, (items.length + 1 == n + 1) = (items.length == n) :=
            fun n => by simp
          rw [images, Check.bindAll, List.zip_cons_cons, List.all_cons,
            conformPlaceByPlace, hs item, ← ih hrest items, List.length_cons,
            List.length_cons, hlength]
          exact Bool.and_left_comm _ _ _

end Lists

/-!
## Fields
-/

theorem test_fieldCheck (optional : Bool) (c : Check) (v : Value) :
    (fieldCheck optional c).bind.test v =
      ((optional && v.isUndefined) || c.bind.test v) := by
  cases optional with
  | true =>
      rw [Bool.true_and]
      exact Predicate.test_optional c.bind v
  | false => rfl

theorem names_bindEntries_imagesOfFields (fields : List Field) :
    Entries.names (Check.bindEntries (imagesOfFields fields)) = fieldNames fields := by
  induction fields with
  | nil => rfl
  | cons f rest ih =>
      cases f with
      | mk name shape optional =>
          rw [fieldNames_cons, ← ih]
          rfl

theorem entries_test_imagesOfFields {fields : List Field}
    (h : ∀ f ∈ fields, JudgedExactly f.shape) (members : List (String × Value)) :
    (Check.bindEntries (imagesOfFields fields)).all
        (fun e => e.2.test (Value.memberOrUndefined members e.1)) =
      fieldsConform fields members := by
  induction fields with
  | nil => rfl
  | cons f rest ih =>
      cases f with
      | mk name shape optional =>
          rcases List.forall_mem_cons.mp h with ⟨hshape, hrest⟩
          have hfield := test_fieldCheck optional shape.image
            (Value.memberOrUndefined members name)
          rw [hshape] at hfield
          rw [imagesOfFields, Check.bindEntries, List.all_cons, fieldsConform, ih hrest]
          exact congrArg (· && fieldsConform rest members) hfield

theorem declared_iff_has (fields : List Field) (key : String) :
    fields.any (fun f => f.name == key) =
      Entries.has (Check.bindEntries (imagesOfFields fields)) key := by
  rw [Bool.eq_iff_iff, Entries.has_iff_mem_names, names_bindEntries_imagesOfFields,
    List.any_eq_true]
  constructor
  · rintro ⟨f, hf, hkey⟩
    exact List.mem_map.mpr ⟨f, hf, beq_iff_eq.mp hkey⟩
  · intro hkey
    rcases List.mem_map.mp hkey with ⟨f, hf, hname⟩
    exact ⟨f, hf, beq_iff_eq.mpr hname⟩

/-!
## All shapes
-/

theorem judgedExactly {s : Shape} (hsound : s.isSound = true) : JudgedExactly s := by
  induction s with
  | literal value => exact fun v => rfl
  | primitive type => exact fun v => rfl
  | any => exact fun v => rfl
  | union members ih =>
      intro v
      rw [isSound, Bool.and_eq_true, areSound_iff] at hsound
      have hmembers : ∀ s ∈ members, JudgedExactly s :=
        fun s hs => ih s hs (hsound.2 s hs)
      rw [image, Check.bind, Predicate.test_union, conforms, any_test_images hmembers]
  | intersection members ih =>
      intro v
      rw [isSound, areSound_iff] at hsound
      have hmembers : ∀ s ∈ members, JudgedExactly s :=
        fun s hs => ih s hs (hsound s hs)
      rw [image, Check.bind, Predicate.test_intersection, conforms,
        all_test_images hmembers]
  | tuple elements ih =>
      intro v
      rw [isSound, areSound_iff] at hsound
      have helements : ∀ s ∈ elements, JudgedExactly s :=
        fun s hs => ih s hs (hsound s hs)
      rw [image, Check.bind]
      cases v with
      | array items => rw [Predicate.test_tuple, conforms, places_test_images helements]
      | _ => rfl
  | array element ih =>
      intro v
      have helement := ih hsound
      rw [image, Check.bind]
      cases v with
      | array items =>
          rw [Predicate.test_array, conforms]
          exact List.all_congr rfl helement
      | _ => rfl
  | object fields ih =>
      intro v
      rw [isSound, Bool.and_eq_true, decide_eq_true_iff, fieldsAreSound_iff] at hsound
      have hfields : ∀ f ∈ fields, JudgedExactly f.shape :=
        fun f hf => ih f hf (hsound.2 f hf)
      -- Entries of one name would be merged when they are collected.
      have hdistinct : Entries.Distinct (Check.bindEntries (imagesOfFields fields)) := by
        rw [Entries.Distinct, names_bindEntries_imagesOfFields]
        exact hsound.1
      rw [image, Check.bind, Entries.ofList_of_distinct hdistinct]
      cases v with
      | object members =>
          rw [Predicate.test_object, conforms, entries_test_imagesOfFields hfields]
          simp only [declared_iff_has]
      | _ => rfl

/-- A compiled shape accepts a value exactly when the value conforms to the shape. -/
theorem test_bind_eq_conforms {limit : Nat} {s : Shape} {c : Check}
    (h : s.compile limit = .ok c) (v : Value) : c.bind.test v = s.conforms v := by
  rcases (compile_givesIff limit s c).mp h with ⟨⟨_, hsound⟩, rfl⟩
  exact judgedExactly hsound v

/-- An object with an optional field that holds absence, an array of anything that
holds absence and no number, and its members in another order. -/
theorem test_bind_eq_conforms_object :
    let s := Shape.object
      [⟨"s", .primitive .text, false⟩,
        ⟨"e", .union [.literal (.text "a"), .literal .null], true⟩,
        ⟨"u", .array .any, false⟩]
    let v := Value.object
      [("u", .array [.undefined, .number Double.nan]), ("s", .text "x"), ("e", .undefined)]
    ∃ c, s.compile 3 = .ok c ∧ c.bind.test v = s.conforms v ∧ s.conforms v = true := by
  intro s v
  have h : s.compile 3 = .ok s.image := rfl
  exact ⟨s.image, h, test_bind_eq_conforms h v, by decide⟩

end Shape
end ShapeCheck
