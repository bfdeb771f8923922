import Mathlib.Order.MinMax
import ShapeCheck.Proofs.Compile
import ShapeCheck.Proofs.Recursion

/-!
# The depth of compiled shapes

The ceiling counts the levels of a shape.  The check of a shape has one more level for each
optional field on the way down, so the ceiling bounds its depth only up to the number of
these.  Runs of its predicate are nested as deep as the check, and no deeper.
-/

namespace ShapeCheck

namespace Shape

mutual
/-- The greatest number of optional fields on a way down. -/
def wrappers : Shape → Nat
  | .union members => wrappersOf members
  | .intersection members => wrappersOf members
  | .tuple elements => wrappersOf elements
  | .array element => element.wrappers
  | .object fields => wrappersOfFields fields
  | _ => 0
termination_by structural s => s

def wrappersOf : List Shape → Nat
  | [] => 0
  | s :: rest => max s.wrappers (wrappersOf rest)
termination_by structural shapes => shapes

def wrappersOfFields : List Field → Nat
  | [] => 0
  | ⟨_, shape, optional⟩ :: rest =>
      max (optional.toNat + shape.wrappers) (wrappersOfFields rest)
termination_by structural fields => fields
end

/-!
## Levels and wrappers
-/

theorem wrappersOf_le_depths {shapes : List Shape}
    (h : ∀ s ∈ shapes, s.wrappers < s.depth) : wrappersOf shapes ≤ depths shapes := by
  induction shapes with
  | nil => exact Nat.le_refl 0
  | cons s rest ih =>
      rcases List.forall_mem_cons.mp h with ⟨hs, hrest⟩
      exact max_le_max (Nat.le_of_lt hs) (ih hrest)

theorem wrappersOfFields_le_depthsOfFields {fields : List Field}
    (h : ∀ f ∈ fields, f.shape.wrappers < f.shape.depth) :
    wrappersOfFields fields ≤ depthsOfFields fields := by
  induction fields with
  | nil => exact Nat.le_refl 0
  | cons f rest ih =>
      rcases List.forall_mem_cons.mp h with ⟨hf, hrest⟩
      cases f with
      | mk name shape optional =>
          have hshape : optional.toNat + shape.wrappers ≤ shape.depth :=
            calc
              optional.toNat + shape.wrappers ≤ 1 + shape.wrappers :=
                Nat.add_le_add_right optional.toNat_le _
              _ = shape.wrappers + 1 := Nat.add_comm 1 _
              _ ≤ shape.depth := hf
          exact max_le_max hshape (ih hrest)

/-- An optional field stands in an object, so there are fewer of them than levels. -/
theorem wrappers_lt_depth (s : Shape) : s.wrappers < s.depth := by
  induction s with
  | literal value => exact Nat.zero_lt_one
  | primitive type => exact Nat.zero_lt_one
  | any => exact Nat.zero_lt_one
  | union members ih => exact Nat.lt_succ_of_le (wrappersOf_le_depths ih)
  | intersection members ih => exact Nat.lt_succ_of_le (wrappersOf_le_depths ih)
  | tuple elements ih => exact Nat.lt_succ_of_le (wrappersOf_le_depths ih)
  | array element ih => exact Nat.lt_succ_of_lt ih
  | object fields ih => exact Nat.lt_succ_of_le (wrappersOfFields_le_depthsOfFields ih)

theorem max_le_max_add_max {a b c d m n : Nat} (h : a ≤ c + m) (h' : b ≤ d + n) :
    max a b ≤ max c d + max m n := by
  apply max_le
  · exact Nat.le_trans h (Nat.add_le_add (le_max_left c d) (le_max_left m n))
  · exact Nat.le_trans h' (Nat.add_le_add (le_max_right c d) (le_max_right m n))

theorem depthOf_images_le {shapes : List Shape}
    (h : ∀ s ∈ shapes, s.image.depth ≤ s.depth + s.wrappers) :
    Check.depthOf (images shapes) ≤ depths shapes + wrappersOf shapes := by
  induction shapes with
  | nil => exact Nat.le_refl 0
  | cons s rest ih =>
      rcases List.forall_mem_cons.mp h with ⟨hs, hrest⟩
      exact max_le_max_add_max hs (ih hrest)

theorem depthOfEntries_imagesOfFields_le {fields : List Field}
    (h : ∀ f ∈ fields, f.shape.image.depth ≤ f.shape.depth + f.shape.wrappers) :
    Check.depthOfEntries (imagesOfFields fields) ≤
      depthsOfFields fields + wrappersOfFields fields := by
  induction fields with
  | nil => exact Nat.le_refl 0
  | cons f rest ih =>
      rcases List.forall_mem_cons.mp h with ⟨hf, hrest⟩
      cases f with
      | mk name shape optional =>
          have hf : shape.image.depth ≤ shape.depth + shape.wrappers := hf
          refine max_le_max_add_max ?_ (ih hrest)
          cases optional with
          | false =>
              show shape.image.depth ≤ shape.depth + (0 + shape.wrappers)
              rw [Nat.zero_add]
              exact hf
          | true =>
              show 1 + shape.image.depth ≤ shape.depth + (1 + shape.wrappers)
              rw [Nat.add_left_comm]
              exact Nat.add_le_add_left hf 1

/-- An optional field adds a level to the check of a shape, and nothing else does. -/
theorem depth_image_le (s : Shape) : s.image.depth ≤ s.depth + s.wrappers := by
  have hlevel : ∀ {inner levels wrapped : Nat}, inner ≤ levels + wrapped →
      1 + inner ≤ levels + 1 + wrapped := by
    intro inner levels wrapped h
    rw [Nat.add_comm levels 1, Nat.add_assoc]
    exact Nat.add_le_add_left h 1
  induction s with
  | literal value => exact Nat.le_refl 1
  | primitive type => exact Nat.le_refl 1
  | any => exact Nat.le_refl 1
  | union members ih => exact hlevel (depthOf_images_le ih)
  | intersection members ih => exact hlevel (depthOf_images_le ih)
  | tuple elements ih => exact hlevel (depthOf_images_le ih)
  | array element ih => exact hlevel ih
  | object fields ih => exact hlevel (depthOfEntries_imagesOfFields_le ih)

end Shape

/-!
## Nested runs
-/

namespace Check

theorem depth_le_depthOf {c : Check} {checks : List Check} (h : c ∈ checks) :
    c.depth ≤ depthOf checks := by
  induction h with
  | head rest => exact le_max_left _ _
  | tail other _ ih => exact Nat.le_trans ih (le_max_right _ _)

theorem depth_le_depthOfEntries {e : String × Check} {entries : List (String × Check)}
    (h : e ∈ entries) : e.2.depth ≤ depthOfEntries entries := by
  induction h with
  | head rest => exact le_max_left _ _
  | tail other _ ih => exact Nat.le_trans ih (le_max_right _ _)

theorem depth_lt_of_mem_children {c d : Check} (h : d ∈ c.children) : d.depth < c.depth := by
  have hlevel : ∀ {inner : Nat}, d.depth ≤ inner → d.depth < 1 + inner := by
    intro inner hle
    rw [Nat.add_comm]
    exact Nat.lt_succ_of_le hle
  cases c with
  | const value => cases h
  | primitive type => cases h
  | noop => cases h
  | optional inner =>
      cases List.mem_singleton.mp h
      exact hlevel (Nat.le_refl _)
  | union members => exact hlevel (depth_le_depthOf h)
  | intersection members => exact hlevel (depth_le_depthOf h)
  | tuple elements => exact hlevel (depth_le_depthOf h)
  | array element =>
      cases List.mem_singleton.mp h
      exact hlevel (Nat.le_refl _)
  | object entries =>
      rcases List.mem_map.mp h with ⟨e, he, rfl⟩
      exact hlevel (depth_le_depthOfEntries he)

theorem one_le_depth (c : Check) : 1 ≤ c.depth := by
  cases c with
  | const value => exact Nat.le_refl 1
  | primitive type => exact Nat.le_refl 1
  | noop => exact Nat.le_refl 1
  | _ => exact Nat.le_add_right 1 _

theorem le_depth_of_recurses {n : Nat} {c : Check} {v : Value}
    (h : Predicate.Recurses n c.bind v) : n ≤ c.depth := by
  generalize hp : c.bind = p at h
  induction h generalizing c with
  | run p v => exact one_le_depth c
  | call hcall _ ih =>
      subst hp
      rcases exists_child_of_calls hcall with ⟨d, hd, hq⟩
      exact Nat.lt_of_le_of_lt (ih hq) (depth_lt_of_mem_children hd)

end Check

/-!
## The ceiling
-/

namespace Shape

/-- Objects in each other, each with one field; a flag says whether it is optional. -/
def nested : List Bool → Shape
  | [] => .primitive .text
  | optional :: rest => .object [⟨"next", nested rest, optional⟩]

def nestedValue : List Bool → Value
  | [] => .text ""
  | _ :: rest => .object [("next", nestedValue rest)]

theorem depth_nested (flags : List Bool) : (nested flags).depth = flags.length + 1 := by
  induction flags with
  | nil => rfl
  | cons optional rest ih =>
      show max (nested rest).depth 0 + 1 = rest.length + 1 + 1
      rw [Nat.max_zero, ih]

theorem isSound_nested (flags : List Bool) : (nested flags).isSound = true := by
  induction flags with
  | nil => rfl
  | cons optional rest ih =>
      rw [nested, isSound, fieldsAreSound, ih]
      rfl

theorem wrappers_nested (flags : List Bool) : (nested flags).wrappers = flags.count true := by
  induction flags with
  | nil => rfl
  | cons optional rest ih =>
      show max (optional.toNat + (nested rest).wrappers) 0 = _
      rw [Nat.max_zero, ih, List.count_cons, Nat.add_comm]
      cases optional <;> rfl

theorem recurses_nested (flags : List Bool) :
    Predicate.Recurses (flags.length + 1 + flags.count true) (nested flags).image.bind
      (nestedValue flags) := by
  have hobject : ∀ (p : Predicate) (w : Value),
      (Predicate.object [("next", p)]).Calls (.object [("next", w)]) p w := by
    intro p w
    exact ⟨0, .head (p, w) []⟩
  have hoptional : ∀ (p : Predicate) (flags : List Bool),
      (Predicate.optional p).Calls (nestedValue flags) p (nestedValue flags) := by
    intro p flags
    cases flags with
    | nil => exact ⟨0, .head (p, _) []⟩
    | cons flag rest => exact ⟨0, .head (p, _) []⟩
  induction flags with
  | nil => exact .run _ _
  | cons optional rest ih =>
      cases optional with
      | false =>
          have hcount : List.length (false :: rest) + 1 + List.count true (false :: rest) =
              rest.length + 1 + rest.count true + 1 := by
            rw [List.length_cons, List.count_cons_of_ne (by decide)]
            omega
          rw [hcount]
          exact .call (hobject _ _) ih
      | true =>
          have hcount : List.length (true :: rest) + 1 + List.count true (true :: rest) =
              rest.length + 1 + rest.count true + 1 + 1 := by
            rw [List.length_cons, List.count_cons_self]
            omega
          rw [hcount]
          exact .call (hobject _ _) (.call (hoptional _ rest) ih)

/-- The ceiling bounds the depth of what is compiled up to the number of optional fields on
a way down, which is less than the ceiling, and a run is nested no deeper.  For every such
number there is a shape for which this is exact. -/
theorem depth_of_compiled (limit : Nat) :
    (∀ s c, Shape.compile limit s = .ok c → c.depth ≤ limit + s.wrappers ∧ s.wrappers < limit ∧
      ∀ n v, Predicate.Recurses n c.bind v → n ≤ c.depth) ∧
    ∀ k < limit, ∃ s c v, Shape.compile limit s = .ok c ∧ s.wrappers = k ∧ c.depth = limit + k ∧
      Predicate.Recurses (limit + k) c.bind v := by
  constructor
  · intro s c h
    rcases (compile_givesIff limit s c).mp h with ⟨⟨hdepth, _⟩, rfl⟩
    refine ⟨?_, Nat.lt_of_lt_of_le (wrappers_lt_depth s) hdepth, ?_⟩
    · exact Nat.le_trans (depth_image_le s) (Nat.add_le_add_right hdepth _)
    · intro n v
      exact Check.le_depth_of_recurses
  · intro k hk
    let flags := List.replicate k true ++ List.replicate (limit - 1 - k) false
    have hlength : flags.length + 1 = limit := by
      simp only [flags, List.length_append, List.length_replicate]
      omega
    have hcount : flags.count true = k := by
      simp [flags, List.count_replicate]
    have hcompile : (nested flags).compile limit = .ok (nested flags).image := by
      apply (compile_givesIff limit (nested flags) _).mpr
      refine ⟨⟨?_, isSound_nested flags⟩, rfl⟩
      rw [depth_nested, hlength]
    have hrecurses := recurses_nested flags
    rw [hlength, hcount] at hrecurses
    have hdepth := depth_image_le (nested flags)
    rw [depth_nested, hlength, wrappers_nested, hcount] at hdepth
    exact ⟨nested flags, _, nestedValue flags, hcompile, (wrappers_nested flags).trans hcount,
      Nat.le_antisymm hdepth (Check.le_depth_of_recurses hrecurses), hrecurses⟩

/-- Under a ceiling of three a shape with one optional field becomes a check of four levels,
and some shape one of five. -/
theorem depth_of_compiled_three :
    (nested [false, true]).compile 3 = .ok (nested [false, true]).image ∧
      (nested [false, true]).image.depth ≤ 3 + 1 ∧
      ∃ s c v, Shape.compile 3 s = .ok c ∧ s.wrappers = 2 ∧ c.depth = 5 ∧
        Predicate.Recurses 5 c.bind v := by
  have hcompile : (nested [false, true]).compile 3 = .ok (nested [false, true]).image := rfl
  rcases depth_of_compiled 3 with ⟨hbound, hexact⟩
  exact ⟨hcompile, (hbound _ _ hcompile).1, hexact 2 (Nat.lt_succ_self 2)⟩

/-- An object with an optional text has two levels, its check has three, and a run goes as
deep. -/
theorem compiled_deeper_than_ceiling :
    ∃ c, (Shape.object [⟨"f", .primitive .text, true⟩]).compile 2 = .ok c ∧ ¬ c.depth ≤ 2 ∧
      Predicate.Recurses 3 c.bind (.object [("f", .text "a")]) := by
  refine ⟨.object [("f", .optional (.primitive .text))], rfl, ?_, ?_⟩
  · exact Nat.not_succ_le_self 2
  · exact .call ⟨0, .head (_, _) []⟩ (.call ⟨0, .head (_, _) []⟩ (.run _ _))

end Shape
end ShapeCheck
