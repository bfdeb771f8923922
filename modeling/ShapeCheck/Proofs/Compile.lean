import ShapeCheck.Proofs.Outcome
import ShapeCheck.Proofs.WellFormed
import ShapeCheck.Shape.Image

/-!
# When a shape compiles

Lowering succeeds exactly on the sound shapes that fit below the ceiling, and what
it gives is the image of the shape.  The room that is left counts down while depth
is counted from the leaves up, so the two meet at every node.
-/

namespace ShapeCheck
namespace Shape

/-- Lowering succeeds where it should, with as many levels left as there may be. -/
def LowersExactly (limit : Nat) (s : Shape) : Prop :=
  ∀ room, GivesIff (lower limit s room) (s.depth ≤ room ∧ s.isSound = true) s.image

theorem lower_zero (limit : Nat) (s : Shape) :
    lower limit s 0 = .error (.here (.tooDeep limit)) := by
  cases s <;> rfl

/-- Without room nothing is lowered, and no shape has depth zero. -/
theorem LowersExactly.of_succ {limit : Nat} {s : Shape}
    (h : ∀ room, GivesIff (lower limit s (room + 1))
      (s.depth ≤ room + 1 ∧ s.isSound = true) s.image) :
    LowersExactly limit s := by
  intro room
  cases room with
  | zero =>
      rw [lower_zero]
      apply GivesIff.error
      intro hs
      exact Nat.not_succ_le_zero 0 (Nat.le_trans (one_le_depth s) hs.1)
  | succ room => exact h room

theorem lowerAll_givesIff {limit : Nat} {shapes : List Shape}
    (h : ∀ s ∈ shapes, LowersExactly limit s) (step : Nat → Step) (i room : Nat) :
    GivesIff (lowerAll limit step i shapes room)
      (depths shapes ≤ room ∧ areSound shapes = true) (images shapes) := by
  induction shapes generalizing i with
  | nil =>
      refine (GivesIff.ok []).congr ?_
      exact ⟨fun _ => ⟨Nat.zero_le room, rfl⟩, fun _ => trivial⟩
  | cons s rest ih =>
      rcases List.forall_mem_cons.mp h with ⟨hs, hrest⟩
      have hhead := (hs room).within (step i)
      have htail := (ih hrest (i + 1)).map (s.image :: ·)
      rw [lowerAll]
      refine (hhead.andThen htail ?_ ?_).congr ?_
      · intro e he
        rw [he]
      · intro hok
        rw [hok]
      rw [depths_cons_le_iff, areSound, Bool.and_eq_true]
      exact and_and_and_comm

theorem fresh_cons_iff {name : String} {names seen : List String} :
    (name ∉ seen ∧ names.Nodup ∧ ∀ other ∈ names, other ∉ name :: seen) ↔
      (name :: names).Nodup ∧ ∀ other ∈ name :: names, other ∉ seen := by
  rw [List.nodup_cons, List.forall_mem_cons]
  constructor
  · rintro ⟨hname, hnodup, hnew⟩
    refine ⟨⟨?_, hnodup⟩, hname, ?_⟩
    · intro hmem
      exact hnew name hmem List.mem_cons_self
    · intro other hother hseen
      exact hnew other hother (List.mem_cons_of_mem name hseen)
  · rintro ⟨⟨hfresh, hnodup⟩, hname, hnew⟩
    refine ⟨hname, hnodup, ?_⟩
    intro other hother hmem
    rcases List.mem_cons.mp hmem with rfl | hseen
    · exact hfresh hother
    · exact hnew other hother hseen

theorem lowerFields_givesIff {limit : Nat} {fields : List Field}
    (h : ∀ f ∈ fields, LowersExactly limit f.shape) (i room : Nat)
    (seen : List String) :
    GivesIff (lowerFields limit i seen fields room)
      ((depthsOfFields fields ≤ room ∧ fieldsAreSound fields = true) ∧
        (fieldNames fields).Nodup ∧ ∀ name ∈ fieldNames fields, name ∉ seen)
      (imagesOfFields fields) := by
  induction fields generalizing i seen with
  | nil =>
      refine (GivesIff.ok []).congr ?_
      exact ⟨fun _ => ⟨⟨Nat.zero_le room, rfl⟩, List.nodup_nil, nofun⟩, fun _ => trivial⟩
  | cons f rest ih =>
      cases f with
      | mk name shape optional =>
          rcases List.forall_mem_cons.mp h with ⟨hshape, hrest⟩
          have hhead := (hshape room).within (.field i)
          have htail := (ih hrest (i + 1) (name :: seen)).map
            ((name, fieldCheck optional shape.image) :: ·)
          rw [lowerFields]
          refine (GivesIff.guarded (hhead.andThen htail ?_ ?_) (name ∈ seen) _).congr ?_
          · intro e he
            rw [he]
          · intro hok
            rw [hok]
          rw [depthsOfFields_cons_le_iff, fieldsAreSound, Bool.and_eq_true,
            fieldNames_cons, ← fresh_cons_iff]
          constructor
          · rintro ⟨hname, ⟨hdepth, hsound⟩, ⟨hdepths, hsounds⟩, hnames⟩
            exact ⟨⟨⟨hdepth, hdepths⟩, hsound, hsounds⟩, hname, hnames⟩
          · rintro ⟨⟨⟨hdepth, hdepths⟩, hsound, hsounds⟩, hname, hnames⟩
            exact ⟨hname, ⟨hdepth, hsound⟩, ⟨hdepths, hsounds⟩, hnames⟩

theorem lowersExactly (limit : Nat) (s : Shape) : LowersExactly limit s := by
  induction s with
  | literal value =>
      refine .of_succ fun room => (GivesIff.ok _).congr ?_
      exact ⟨fun _ => ⟨Nat.le_add_left 1 room, rfl⟩, fun _ => trivial⟩
  | primitive type =>
      refine .of_succ fun room => (GivesIff.ok _).congr ?_
      exact ⟨fun _ => ⟨Nat.le_add_left 1 room, rfl⟩, fun _ => trivial⟩
  | any =>
      refine .of_succ fun room => (GivesIff.ok _).congr ?_
      exact ⟨fun _ => ⟨Nat.le_add_left 1 room, rfl⟩, fun _ => trivial⟩
  | union members ih =>
      refine .of_succ fun room => ?_
      -- The check for members comes before all parts, soundness has it beside them.
      have hmembers := (lowerAll_givesIff ih .member 0 room).map Check.union
      refine (hmembers.guarded (members.isEmpty = true) _).congr ?_
      rw [depth, isSound, Nat.add_le_add_iff_right, Bool.and_eq_true, Bool.not_eq_true']
      rw [Bool.not_eq_true]
      exact and_left_comm
  | intersection members ih =>
      refine .of_succ fun room => ?_
      have hmembers := (lowerAll_givesIff ih .member 0 room).map Check.intersection
      refine hmembers.congr ?_
      rw [depth, isSound, Nat.add_le_add_iff_right]
  | tuple elements ih =>
      refine .of_succ fun room => ?_
      have helements := (lowerAll_givesIff ih .element 0 room).map Check.tuple
      refine helements.congr ?_
      rw [depth, isSound, Nat.add_le_add_iff_right]
  | array element ih =>
      refine .of_succ fun room => ?_
      refine (((ih room).within .item).map Check.array).congr ?_
      rw [depth, isSound, Nat.add_le_add_iff_right]
  | object fields ih =>
      refine .of_succ fun room => ?_
      have hfields := (lowerFields_givesIff ih 0 room []).map Check.object
      refine hfields.congr ?_
      rw [depth, isSound, Nat.add_le_add_iff_right, Bool.and_eq_true, decide_eq_true_iff,
        and_iff_left (fun name _ => List.not_mem_nil), and_assoc,
        and_comm (b := (fieldNames fields).Nodup)]

theorem compile_givesIff (limit : Nat) (s : Shape) :
    GivesIff (s.compile limit) (s.depth ≤ limit ∧ s.isSound = true) s.image :=
  lowersExactly limit s limit

/-- A shape compiles exactly when it is not deeper than the ceiling, no union in it
is empty and no object in it has two fields of one name; what it compiles to is its
image. -/
theorem compile_succeeds_exactly (limit : Nat) (s : Shape) :
    ((∃ c, s.compile limit = .ok c) ↔
      s.depth ≤ limit ∧
        (∀ path, s.at? path ≠ some (.union [])) ∧
        (∀ path fields, s.at? path = some (.object fields) →
          (fieldNames fields).Nodup)) ∧
      ∀ c, s.compile limit = .ok c → c = s.image := by
  constructor
  · have hiff : (∃ c, s.compile limit = .ok c) ↔ s.depth ≤ limit ∧ s.isSound = true :=
      (compile_givesIff limit s).exists_iff
    rw [hiff, isSound_iff_at?]
    apply and_congr_right'
    constructor
    · intro h
      refine ⟨?_, ?_⟩
      · intro path hpath
        exact (h path _ hpath).not_empty_union rfl
      · intro path fields hpath
        exact (h path _ hpath).names_nodup fields rfl
    · rintro ⟨hunion, hobject⟩ path t hpath
      refine ⟨?_, ?_⟩
      · rintro rfl
        exact hunion path hpath
      · rintro fields rfl
        exact hobject path fields hpath
  · intro c hc
    exact ((compile_givesIff limit s c).mp hc).2

end Shape
end ShapeCheck
