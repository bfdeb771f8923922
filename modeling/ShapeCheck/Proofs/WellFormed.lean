import ShapeCheck.Proofs.Induction
import ShapeCheck.Shape.WellFormed

/-!
# Parts of well-formed shapes

Depth and soundness are computed along the lists in which a shape holds its parts.
Here they are read as statements about all parts, and soundness as a statement
about every shape that some path leads to.
-/

namespace ShapeCheck
namespace Shape

/-!
## Depth
-/

theorem one_le_depth (s : Shape) : 1 ≤ s.depth := by
  cases s <;> simp [depth]

theorem depths_cons_le_iff {s : Shape} {rest : List Shape} {n : Nat} :
    depths (s :: rest) ≤ n ↔ s.depth ≤ n ∧ depths rest ≤ n := by
  rw [depths]
  exact Nat.max_le

theorem depthsOfFields_cons_le_iff {f : Field} {rest : List Field} {n : Nat} :
    depthsOfFields (f :: rest) ≤ n ↔ f.shape.depth ≤ n ∧ depthsOfFields rest ≤ n := by
  cases f with
  | mk name shape optional =>
      rw [depthsOfFields]
      exact Nat.max_le

/-!
## Direct parts
-/

def parts : Shape → List Shape
  | .union members => members
  | .intersection members => members
  | .tuple elements => elements
  | .array element => [element]
  | .object fields => fields.map Field.shape
  | _ => []

theorem inductParts {motive : Shape → Prop}
    (parts : ∀ s : Shape, (∀ t ∈ s.parts, motive t) → motive s) (s : Shape) :
    motive s := by
  induction s with
  | literal value => exact parts _ nofun
  | primitive type => exact parts _ nofun
  | any => exact parts _ nofun
  | union members ih => exact parts _ ih
  | intersection members ih => exact parts _ ih
  | tuple elements ih => exact parts _ ih
  | array element ih => exact parts _ (List.forall_mem_singleton.mpr ih)
  | object fields ih => exact parts _ (List.forall_mem_map.mpr ih)

theorem depths_le_iff {shapes : List Shape} {n : Nat} :
    depths shapes ≤ n ↔ ∀ t ∈ shapes, t.depth ≤ n := by
  induction shapes with
  | nil => simp [depths]
  | cons t rest ih => rw [depths_cons_le_iff, ih, List.forall_mem_cons]

theorem depthsOfFields_le_iff {fields : List Field} {n : Nat} :
    depthsOfFields fields ≤ n ↔ ∀ f ∈ fields, f.shape.depth ≤ n := by
  induction fields with
  | nil => simp [depthsOfFields]
  | cons f rest ih => rw [depthsOfFields_cons_le_iff, ih, List.forall_mem_cons]

theorem depth_le_succ_iff {s : Shape} {n : Nat} :
    s.depth ≤ n + 1 ↔ ∀ t ∈ s.parts, t.depth ≤ n := by
  cases s with
  | union members => rw [depth, Nat.add_le_add_iff_right, depths_le_iff, parts]
  | intersection members => rw [depth, Nat.add_le_add_iff_right, depths_le_iff, parts]
  | tuple elements => rw [depth, Nat.add_le_add_iff_right, depths_le_iff, parts]
  | array element => rw [depth, Nat.add_le_add_iff_right, parts, List.forall_mem_singleton]
  | object fields =>
      rw [depth, Nat.add_le_add_iff_right, depthsOfFields_le_iff, parts, List.forall_mem_map]
  | _ => simp [depth, parts]

theorem depth_lt_of_mem_parts {s t : Shape} (h : t ∈ s.parts) : t.depth < s.depth := by
  have hdepth : s.depth = s.depth - 1 + 1 := (Nat.sub_add_cancel (one_le_depth s)).symm
  have hle := depth_le_succ_iff.mp (Nat.le_of_eq hdepth) t h
  omega

theorem exists_part?_iff {s t : Shape} :
    (∃ step, s.part? step = some t) ↔ t ∈ s.parts := by
  constructor
  · intro h
    rcases h with ⟨step, hstep⟩
    cases s <;> cases step <;> simp only [part?, reduceCtorEq] at hstep
    case union.member => exact List.mem_of_getElem? hstep
    case intersection.member => exact List.mem_of_getElem? hstep
    case tuple.element => exact List.mem_of_getElem? hstep
    case array.item =>
      cases hstep
      exact List.mem_singleton.mpr rfl
    case object.field =>
      rcases Option.map_eq_some_iff.mp hstep with ⟨f, hf, rfl⟩
      exact List.mem_map.mpr ⟨f, List.mem_of_getElem? hf, rfl⟩
  · intro ht
    cases s with
    | union members =>
        rcases List.mem_iff_getElem?.mp ht with ⟨i, hi⟩
        exact ⟨.member i, hi⟩
    | intersection members =>
        rcases List.mem_iff_getElem?.mp ht with ⟨i, hi⟩
        exact ⟨.member i, hi⟩
    | tuple elements =>
        rcases List.mem_iff_getElem?.mp ht with ⟨i, hi⟩
        exact ⟨.element i, hi⟩
    | array element =>
        rw [List.mem_singleton.mp ht]
        exact ⟨.item, rfl⟩
    | object fields =>
        rcases List.mem_map.mp ht with ⟨f, hf, rfl⟩
        rcases List.mem_iff_getElem?.mp hf with ⟨i, hi⟩
        exact ⟨.field i, by rw [part?, hi]; rfl⟩
    | literal value => cases ht
    | primitive type => cases ht
    | any => cases ht

theorem length_lt_depth_of_at? {s t : Shape} {path : Path} (h : s.at? path = some t) :
    path.length < s.depth := by
  induction path generalizing s with
  | nil => exact one_le_depth s
  | cons step rest ih =>
      rcases Option.bind_eq_some_iff.mp h with ⟨u, hu, hrest⟩
      have hlt : u.depth < s.depth := depth_lt_of_mem_parts (exists_part?_iff.mp ⟨step, hu⟩)
      rw [List.length_cons]
      exact Nat.lt_of_le_of_lt (ih hrest) hlt

/-!
## Soundness
-/

theorem areSound_iff {shapes : List Shape} :
    areSound shapes = true ↔ ∀ s ∈ shapes, s.isSound = true := by
  induction shapes with
  | nil => simp [areSound]
  | cons s rest ih => simp [areSound, ih]

theorem fieldsAreSound_iff {fields : List Field} :
    fieldsAreSound fields = true ↔ ∀ f ∈ fields, f.shape.isSound = true := by
  induction fields with
  | nil => simp [fieldsAreSound]
  | cons f rest ih =>
      cases f with
      | mk name shape optional => simp [fieldsAreSound, ih]

theorem fieldNames_cons (f : Field) (rest : List Field) :
    fieldNames (f :: rest) = f.name :: fieldNames rest := rfl

/-- What soundness asks of a shape apart from its parts. -/
structure SoundHere (s : Shape) : Prop where
  not_empty_union : s ≠ .union []
  names_nodup : ∀ fields, s = .object fields → (fieldNames fields).Nodup

theorem SoundHere.of_ne {s : Shape} (hunion : s ≠ .union [])
    (hobject : ∀ fields, s ≠ .object fields) : s.SoundHere := by
  refine ⟨hunion, ?_⟩
  intro fields h
  exact absurd h (hobject fields)

theorem soundHere_union_iff {members : List Shape} :
    (Shape.union members).SoundHere ↔ members ≠ [] := by
  constructor
  · intro h hnil
    exact h.not_empty_union (congrArg Shape.union hnil)
  · intro h
    exact .of_ne (by simpa using h) (by simp)

theorem soundHere_object_iff {fields : List Field} :
    (Shape.object fields).SoundHere ↔ (fieldNames fields).Nodup := by
  constructor
  · intro h
    exact h.names_nodup fields rfl
  · intro h
    refine ⟨by simp, ?_⟩
    intro others heq
    cases heq
    exact h

theorem isSound_iff_parts (s : Shape) :
    s.isSound = true ↔ s.SoundHere ∧ ∀ t ∈ s.parts, t.isSound = true := by
  cases s with
  | literal value => exact ⟨fun _ => ⟨.of_ne (by simp) (by simp), by simp [parts]⟩, fun _ => rfl⟩
  | primitive type => exact ⟨fun _ => ⟨.of_ne (by simp) (by simp), by simp [parts]⟩, fun _ => rfl⟩
  | any => exact ⟨fun _ => ⟨.of_ne (by simp) (by simp), by simp [parts]⟩, fun _ => rfl⟩
  | union members =>
      rw [isSound, Bool.and_eq_true, areSound_iff, soundHere_union_iff, Bool.not_eq_true',
        List.isEmpty_eq_false_iff]
      rfl
  | intersection members =>
      rw [isSound, areSound_iff]
      exact ⟨fun h => ⟨.of_ne (by simp) (by simp), h⟩, fun h => h.2⟩
  | tuple elements =>
      rw [isSound, areSound_iff]
      exact ⟨fun h => ⟨.of_ne (by simp) (by simp), h⟩, fun h => h.2⟩
  | array element =>
      rw [isSound, parts, List.forall_mem_singleton]
      exact ⟨fun h => ⟨.of_ne (by simp) (by simp), h⟩, fun h => h.2⟩
  | object fields =>
      rw [isSound, Bool.and_eq_true, fieldsAreSound_iff, decide_eq_true_iff, parts,
        List.forall_mem_map, soundHere_object_iff]

theorem isSound_iff_at? (s : Shape) :
    s.isSound = true ↔ ∀ path t, s.at? path = some t → t.SoundHere := by
  constructor
  · intro hs path
    -- Soundness goes down along the path.
    induction path generalizing s with
    | nil =>
        intro t ht
        cases ht
        exact ((isSound_iff_parts s).mp hs).1
    | cons step rest ih =>
        intro t ht
        rcases Option.bind_eq_some_iff.mp ht with ⟨u, hu, hrest⟩
        have hmem : u ∈ s.parts := exists_part?_iff.mp ⟨step, hu⟩
        exact ih u (((isSound_iff_parts s).mp hs).2 u hmem) t hrest
  · intro h
    -- A path inside a part is a path inside the shape that is one step longer.
    induction s using inductParts with
    | parts s ih =>
        refine (isSound_iff_parts s).mpr ⟨h [] s rfl, ?_⟩
        intro t ht
        rcases exists_part?_iff.mpr ht with ⟨step, hstep⟩
        apply ih t ht
        intro path u hu
        exact h (step :: path) u (Option.bind_eq_some_iff.mpr ⟨t, hstep, hu⟩)

/-!
## Finiteness
-/

theorem areFinite_iff {shapes : List Shape} :
    areFinite shapes = true ↔ ∀ s ∈ shapes, s.isFinite = true := by
  induction shapes with
  | nil => simp [areFinite]
  | cons s rest ih => simp [areFinite, ih]

theorem fieldsAreFinite_iff {fields : List Field} :
    fieldsAreFinite fields = true ↔ ∀ f ∈ fields, f.shape.isFinite = true := by
  induction fields with
  | nil => simp [fieldsAreFinite]
  | cons f rest ih =>
      cases f with
      | mk name shape optional => simp [fieldsAreFinite, ih]

end Shape
end ShapeCheck
