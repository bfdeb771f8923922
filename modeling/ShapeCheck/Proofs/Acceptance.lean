import Mathlib.Data.List.Forall2
import Mathlib.Logic.Relation
import ShapeCheck.Shape.Conformance
import ShapeCheck.Shape.WellFormed

/-!
# Conformance part by part

Conformance is computed along the lists in which a shape holds its parts.  Here it is read
as a statement about these parts.  In each of its forms a shape accepts more if its parts
accept more: no part is used to reject what it accepts.  So a change anywhere inside lets
the whole shape accept more if it lets the place accept more where it is made.
-/

namespace ShapeCheck

/-- What a field asks of the content under its name. -/
def Field.Admits (f : Field) (v : Value) : Prop :=
  f.optional = true ∧ v.isUndefined = true ∨ f.shape.conforms v = true

namespace Shape

theorem conformsToSome_iff {shapes : List Shape} {v : Value} :
    conformsToSome shapes v = true ↔ ∃ s ∈ shapes, s.conforms v = true := by
  induction shapes with
  | nil => simp [conformsToSome]
  | cons s rest ih => rw [conformsToSome, Bool.or_eq_true, ih, List.exists_mem_cons_iff]

theorem conformsToAll_iff {shapes : List Shape} {v : Value} :
    conformsToAll shapes v = true ↔ ∀ s ∈ shapes, s.conforms v = true := by
  induction shapes with
  | nil => simp [conformsToAll]
  | cons s rest ih => rw [conformsToAll, Bool.and_eq_true, ih, List.forall_mem_cons]

theorem conformPlaceByPlace_iff {shapes : List Shape} {items : List Value} :
    conformPlaceByPlace shapes items = true ↔
      List.Forall₂ (fun s v => s.conforms v = true) shapes items := by
  induction shapes generalizing items with
  | nil =>
      cases items with
      | nil => exact ⟨fun _ => .nil, fun _ => rfl⟩
      | cons item items => exact ⟨by simp [conformPlaceByPlace], by simp⟩
  | cons s rest ih =>
      cases items with
      | nil => exact ⟨by simp [conformPlaceByPlace], by simp⟩
      | cons item items =>
          rw [conformPlaceByPlace, Bool.and_eq_true, ih, List.forall₂_cons]

theorem fieldsConform_iff {fields : List Field} {members : List (String × Value)} :
    fieldsConform fields members = true ↔
      ∀ f ∈ fields, f.Admits (Value.memberOrUndefined members f.name) := by
  induction fields with
  | nil => simp [fieldsConform]
  | cons f rest ih =>
      cases f with
      | mk name shape optional =>
          rw [fieldsConform, Bool.and_eq_true, Bool.or_eq_true, Bool.and_eq_true, ih,
            List.forall_mem_cons]
          rfl

/-- An object conforms if all its names are declared and every field admits what is there
under its name. -/
theorem conforms_object_iff {fields : List Field} {members : List (String × Value)} :
    (Shape.object fields).conforms (.object members) = true ↔
      Entries.names members ⊆ fieldNames fields ∧
        ∀ f ∈ fields, f.Admits (Value.memberOrUndefined members f.name) := by
  have hdeclared : ∀ key : String,
      fields.any (fun f => f.name == key) = true ↔ key ∈ fieldNames fields := by
    intro key
    rw [List.any_eq_true, fieldNames, List.mem_map]
    simp only [beq_iff_eq]
  have hnames : Entries.names members ⊆ fieldNames fields ↔
      ∀ m ∈ members, m.1 ∈ fieldNames fields := List.forall_mem_map
  rw [conforms, Bool.and_eq_true, fieldsConform_iff, List.all_eq_true, hnames]
  simp only [hdeclared]

theorem exists_members_of_conforms {fields : List Field} {v : Value}
    (h : (Shape.object fields).conforms v = true) : ∃ members, v = .object members := by
  cases v with
  | object members => exact ⟨members, rfl⟩
  | _ => cases h

/-!
## Shapes that accept more
-/

/-- Whatever conforms to the first shape conforms to the second. -/
def Narrower (s t : Shape) : Prop :=
  ∀ v, s.conforms v = true → t.conforms v = true

theorem Narrower.refl (s : Shape) : Narrower s s :=
  fun _ h => h

theorem Narrower.trans {s t u : Shape} (hst : Narrower s t) (htu : Narrower t u) :
    Narrower s u :=
  fun v h => htu v (hst v h)

section Lists

variable {shapes others : List Shape} (h : List.Forall₂ Narrower shapes others)

include h

theorem narrower_union : Narrower (.union shapes) (.union others) := by
  intro v
  rw [conforms, conforms]
  induction h with
  | nil => exact id
  | cons hst _ ih =>
      rw [conformsToSome, conformsToSome, Bool.or_eq_true, Bool.or_eq_true]
      exact Or.imp (hst v) ih

theorem narrower_intersection : Narrower (.intersection shapes) (.intersection others) := by
  intro v
  rw [conforms, conforms]
  induction h with
  | nil => exact id
  | cons hst _ ih =>
      rw [conformsToAll, conformsToAll, Bool.and_eq_true, Bool.and_eq_true]
      exact And.imp (hst v) ih

theorem narrower_tuple : Narrower (.tuple shapes) (.tuple others) := by
  intro v
  cases v with
  | array items =>
      rw [conforms, conforms, conformPlaceByPlace_iff, conformPlaceByPlace_iff]
      induction h generalizing items with
      | nil => exact id
      | cons hst _ ih =>
          intro hitems
          cases hitems with
          | cons hitem hrest => exact .cons (hst _ hitem) (ih _ hrest)
  | _ => exact id

end Lists

theorem narrower_array {s t : Shape} (h : Narrower s t) : Narrower (.array s) (.array t) := by
  intro v
  cases v with
  | array items =>
      rw [conforms, conforms, List.all_eq_true, List.all_eq_true]
      intro hitems item hitem
      exact h item (hitems item hitem)
  | _ => exact id

def FieldNarrower (f g : Field) : Prop :=
  f.name = g.name ∧ ∀ v, f.Admits v → g.Admits v

theorem FieldNarrower.refl (f : Field) : FieldNarrower f f :=
  ⟨rfl, fun _ h => h⟩

theorem fieldNarrower_shape {s t : Shape} (h : Narrower s t) (name : String) (optional : Bool) :
    FieldNarrower ⟨name, s, optional⟩ ⟨name, t, optional⟩ :=
  ⟨rfl, fun v => Or.imp_right (h v)⟩

theorem fieldNarrower_optional (name : String) (s : Shape) (optional : Bool) :
    FieldNarrower ⟨name, s, optional⟩ ⟨name, s, true⟩ :=
  ⟨rfl, fun _ => Or.imp_left (And.imp_left fun _ => rfl)⟩

theorem narrower_object {fields others : List Field}
    (h : List.Forall₂ FieldNarrower fields others) :
    Narrower (.object fields) (.object others) := by
  intro v hv
  rcases exists_members_of_conforms hv with ⟨members, rfl⟩
  have hnames : fieldNames fields = fieldNames others := by
    clear hv
    induction h with
    | nil => rfl
    | cons hfg _ ih => exact congrArg₂ List.cons hfg.1 ih
  rw [conforms_object_iff] at hv ⊢
  refine ⟨hnames ▸ hv.1, ?_⟩
  have hfields := hv.2
  clear hv hnames
  induction h with
  | nil => exact hfields
  | cons hfg _ ih =>
      rcases List.forall_mem_cons.mp hfields with ⟨hf, hrest⟩
      refine List.forall_mem_cons.mpr ⟨?_, ih hrest⟩
      rw [← hfg.1]
      exact hfg.2 _ hf

/-!
## Changes inside a shape
-/

/-- One place of a shape, at any depth, is changed as `R` says and all else is kept. -/
inductive ChangedBy (R : Shape → Shape → Prop) : Shape → Shape → Prop
  | here {s t : Shape} (h : R s t) : ChangedBy R s t
  | union (before after : List Shape) {s t : Shape} (h : ChangedBy R s t) :
      ChangedBy R (.union (before ++ s :: after)) (.union (before ++ t :: after))
  | intersection (before after : List Shape) {s t : Shape} (h : ChangedBy R s t) :
      ChangedBy R (.intersection (before ++ s :: after)) (.intersection (before ++ t :: after))
  | tuple (before after : List Shape) {s t : Shape} (h : ChangedBy R s t) :
      ChangedBy R (.tuple (before ++ s :: after)) (.tuple (before ++ t :: after))
  | array {s t : Shape} (h : ChangedBy R s t) : ChangedBy R (.array s) (.array t)
  | object (before after : List Field) (name : String) (optional : Bool) {s t : Shape}
      (h : ChangedBy R s t) :
      ChangedBy R (.object (before ++ ⟨name, s, optional⟩ :: after))
        (.object (before ++ ⟨name, t, optional⟩ :: after))

theorem forall₂_replace {α : Type} {R : α → α → Prop} (hrefl : ∀ a, R a a)
    (before after : List α) {a b : α} (h : R a b) :
    List.Forall₂ R (before ++ a :: after) (before ++ b :: after) := by
  induction before with
  | nil => exact .cons h (List.forall₂_same.mpr fun c _ => hrefl c)
  | cons c before ih => exact .cons (hrefl c) ih

section Changes

variable {R : Shape → Shape → Prop} {s t : Shape}

theorem ChangedBy.narrower (hR : ∀ s t, R s t → Narrower s t) (h : ChangedBy R s t) :
    Narrower s t := by
  induction h with
  | here h => exact hR _ _ h
  | union before after _ ih =>
      exact narrower_union (forall₂_replace Narrower.refl before after ih)
  | intersection before after _ ih =>
      exact narrower_intersection (forall₂_replace Narrower.refl before after ih)
  | tuple before after _ ih =>
      exact narrower_tuple (forall₂_replace Narrower.refl before after ih)
  | array _ ih => exact narrower_array ih
  | object before after name optional _ ih =>
      have hfield := fieldNarrower_shape ih name optional
      exact narrower_object (forall₂_replace FieldNarrower.refl before after hfield)

theorem narrower_of_changes (hR : ∀ s t, R s t → Narrower s t)
    (h : Relation.ReflTransGen (ChangedBy R) s t) : Narrower s t := by
  induction h with
  | refl => exact .refl s
  | tail _ hchange ih => exact ih.trans (hchange.narrower hR)

end Changes

end Shape
end ShapeCheck
