import Mathlib.Algebra.Group.Nat.Defs
import ShapeCheck.Proofs.Double.Nearest
import ShapeCheck.Value.Projection

/-!
# Doubles as numbers of a document

A double without a fraction is written as a whole number up to the ends of the 64-bit
range, any other finite double as it is.  What is written is read back as the same
double, but for the sign of zero.  It has the same value as the double with one
exception: two to the power 63 is one more than the greatest whole number, and is written
as that.
-/

namespace ShapeCheck

def Json.Number.units : Json.Number → Int
  | .whole n => n * Double.unitsPerOne
  | .decimal x => x.signedUnits

namespace Double

theorem unitsPerOne_pos : 0 < unitsPerOne := by
  decide +kernel

/-!
## Doubles without a fraction
-/

section Truncate

variable {x : Double}

theorem isFinite_of_isIntegral (h : x.isIntegral = true) : x.isFinite = true := by
  rw [isIntegral, Bool.and_eq_true] at h
  exact h.1

theorem natAbs_truncate (x : Double) : x.truncate.natAbs = x.units / unitsPerOne := by
  unfold truncate
  dsimp only
  by_cases hneg : x.negative = true
  · rw [if_pos hneg, Int.natAbs_neg, Int.natAbs_natCast]
  · rw [if_neg hneg, Int.natAbs_natCast]

theorem units_of_isIntegral (h : x.isIntegral = true) :
    x.units = x.truncate.natAbs * unitsPerOne := by
  rw [isIntegral, Bool.and_eq_true, decide_eq_true_iff] at h
  rw [natAbs_truncate, Nat.div_mul_cancel (Nat.dvd_of_mod_eq_zero h.2)]

theorem truncate_eq (x : Double) :
    x.truncate = if x.negative then -(x.truncate.natAbs : Int) else x.truncate.natAbs := by
  rw [natAbs_truncate]
  rfl

theorem signedUnits_of_isIntegral (h : x.isIntegral = true) :
    x.signedUnits = x.truncate * unitsPerOne := by
  rw [signedUnits, truncate_eq, units_of_isIntegral h, Int.natCast_mul]
  by_cases hneg : x.negative = true
  · rw [if_pos hneg, if_pos hneg, Int.neg_mul]
  · rw [if_neg hneg, if_neg hneg]

theorem isIntegral_of_signedUnits {n : Int} (hfinite : x.isFinite = true)
    (h : x.signedUnits = n * unitsPerOne) : x.isIntegral = true ∧ x.truncate = n := by
  have hunits : x.units = n.natAbs * unitsPerOne := by
    have habs : x.signedUnits.natAbs = x.units := by
      rw [signedUnits]
      split
      · rw [Int.natAbs_neg, Int.natAbs_natCast]
      · rw [Int.natAbs_natCast]
    rw [← habs, h, Int.natAbs_mul, Int.natAbs_natCast]
  have hintegral : x.isIntegral = true := by
    rw [isIntegral, hfinite, Bool.true_and, decide_eq_true_iff, hunits, Nat.mul_mod_left]
  refine ⟨hintegral, ?_⟩
  rw [signedUnits_of_isIntegral hintegral] at h
  have hone : (unitsPerOne : Int) ≠ 0 := Int.natCast_ne_zero.mpr (Nat.ne_of_gt unitsPerOne_pos)
  exact Int.eq_of_mul_eq_mul_right hone h

end Truncate

/-!
## Zero
-/

def unsignZero (x : Double) : Double := if x.isZero then zero false else x

theorem truncate_of_isZero {x : Double} (h : x.isZero = true) :
    x.isIntegral = true ∧ x.truncate = 0 := by
  rw [isZero, Bool.and_eq_true, decide_eq_true_iff] at h
  constructor
  · rw [isIntegral, h.1, h.2, Nat.zero_mod]
    rfl
  · rw [← Int.natAbs_eq_zero, natAbs_truncate, h.2, Nat.zero_div]

theorem isZero_unsignZero (x : Double) : x.unsignZero.isZero = x.isZero := by
  rw [unsignZero]
  split
  · rename_i hzero
    rw [hzero]
    decide
  · rfl

theorem same_unsignZero {x : Double} (h : x.isNaN = false) : x.unsignZero.same x = true := by
  rw [unsignZero]
  split
  · rename_i hzero
    have hnan : (zero false).isNaN = false := by decide
    have hplain : (zero false).isZero = true := by decide
    simp [same, h, hzero, hnan, hplain]
  · simp [same, h]

/-- A double without a fraction is what its value is rounded to, but for the sign of zero. -/
theorem ofInt_truncate {x : Double} (h : x.isIntegral = true) :
    ofInt x.truncate = x.unsignZero := by
  have hunits := units_of_isIntegral h
  rw [unsignZero]
  split
  · rename_i hzero
    rw [(truncate_of_isZero hzero).2]
    decide +kernel
  · rename_i hzero
    have hpos : x.truncate.natAbs ≠ 0 := by
      intro hnone
      rw [hnone, Nat.zero_mul] at hunits
      apply hzero
      rw [isZero, isFinite_of_isIntegral h, hunits]
      rfl
    apply ofInt_of_units (isFinite_of_isIntegral h) _ hunits
    have hsign := x.truncate_eq
    cases hneg : x.negative with
    | true =>
        rw [hneg, if_pos rfl] at hsign
        symm
        apply decide_eq_true
        omega
    | false =>
        rw [hneg, if_neg Bool.false_ne_true] at hsign
        symm
        apply decide_eq_false
        omega

/-!
## What is written
-/

inductive Written (x : Double) : Json → Prop
  | infinite (h : x.isFinite = false) : Written x .null
  | whole (hintegral : x.isIntegral = true) (hlower : wholeMin ≤ x.truncate)
      (hupper : x.truncate ≤ wholeMax) : Written x (.number (.whole x.truncate))
  | limit (hintegral : x.isIntegral = true) (h : x.truncate = wholeMax + 1) :
      Written x (.number (.whole wholeMax))
  | decimal (hfinite : x.isFinite = true)
      (h : x.isIntegral = true → x.truncate < wholeMin ∨ wholeMax + 1 < x.truncate) :
      Written x (.number (.decimal x))

theorem toJson_of_infinite {x : Double} (h : x.isFinite = false) : x.toJson = .null := by
  rw [toJson, h, Bool.not_false, if_pos rfl]

theorem written_toJson (x : Double) : Written x x.toJson := by
  cases hfinite : x.isFinite with
  | false =>
      rw [toJson_of_infinite hfinite]
      exact .infinite hfinite
  | true =>
      rw [toJson, hfinite, Bool.not_true, if_neg Bool.false_ne_true]
      simp only [Bool.and_eq_true, decide_eq_true_eq]
      split
      · rename_i hrange
        rcases hrange with ⟨⟨hintegral, hlower⟩, hupper⟩
        by_cases hle : x.truncate ≤ wholeMax
        · rw [Int.min_eq_left hle]
          exact .whole hintegral hlower hle
        · rw [Int.min_eq_right (by omega)]
          exact .limit hintegral (by omega)
      · rename_i hrange
        refine .decimal hfinite ?_
        intro hintegral
        by_cases hlower : wholeMin ≤ x.truncate
        · right
          exact Int.not_le.mp fun hupper => hrange ⟨⟨hintegral, hlower⟩, hupper⟩
        · left
          exact Int.not_le.mp hlower

/-- The greatest whole number and the number after it have the same nearest double. -/
theorem ofInt_wholeMax : ofInt wholeMax = ofInt (wholeMax + 1) := by
  decide +kernel

theorem Written.ofJson {x : Double} {j : Json} (h : Written x j) (hfinite : x.isFinite = true) :
    Value.ofJson j = .number x.unsignZero := by
  cases h with
  | infinite hinfinite =>
      rw [hfinite] at hinfinite
      cases hinfinite
  | whole hintegral _ _ =>
      rw [← ofInt_truncate hintegral]
      rfl
  | limit hintegral hlimit =>
      rw [← ofInt_truncate hintegral, hlimit, ← ofInt_wholeMax]
      rfl
  | decimal _ houtside =>
      -- Zero is within the range.
      have hzero : ¬ x.isZero = true := by
        intro hzero
        rcases truncate_of_isZero hzero with ⟨hintegral, htruncate⟩
        have hrange := houtside hintegral
        rw [htruncate] at hrange
        revert hrange
        decide
      rw [unsignZero, if_neg hzero]
      rfl

theorem Written.exists_number {x : Double} {j : Json} (h : Written x j)
    (hfinite : x.isFinite = true) :
    ∃ n, j = .number n ∧
      (x.signedUnits ≠ (wholeMax + 1) * unitsPerOne → n.units = x.signedUnits) ∧
      (x.signedUnits = (wholeMax + 1) * unitsPerOne → n = .whole wholeMax) := by
  cases h with
  | infinite hinfinite =>
      rw [hfinite] at hinfinite
      cases hinfinite
  | whole hintegral _ hupper =>
      refine ⟨_, rfl, fun _ => (signedUnits_of_isIntegral hintegral).symm, ?_⟩
      intro hunits
      have htruncate := (isIntegral_of_signedUnits hfinite hunits).2
      omega
  | limit hintegral hlimit =>
      refine ⟨_, rfl, ?_, fun _ => rfl⟩
      intro hunits
      rw [signedUnits_of_isIntegral hintegral, hlimit] at hunits
      exact absurd rfl hunits
  | decimal _ houtside =>
      refine ⟨_, rfl, fun _ => rfl, ?_⟩
      intro hunits
      rcases isIntegral_of_signedUnits hfinite hunits with ⟨hintegral, htruncate⟩
      rcases houtside hintegral with hlower | hupper
      · rw [htruncate] at hlower
        exact absurd hlower (by decide)
      · rw [htruncate] at hupper
        exact absurd hupper (Int.lt_irrefl _)

theorem toJson_unsignZero (x : Double) : x.unsignZero.toJson = x.toJson := by
  have hjson : ∀ {y : Double}, y.isZero = true → y.toJson = .number (.whole 0) := by
    intro y hzero
    rcases truncate_of_isZero hzero with ⟨hintegral, htruncate⟩
    rw [toJson, isFinite_of_isIntegral hintegral, hintegral, htruncate]
    rfl
  cases hzero : x.isZero with
  | true => rw [hjson hzero, hjson (x.isZero_unsignZero.trans hzero)]
  | false => rw [unsignZero, hzero, if_neg Bool.false_ne_true]

end Double
end ShapeCheck
