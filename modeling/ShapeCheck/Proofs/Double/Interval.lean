import Mathlib.Algebra.Group.Nat.Defs
import ShapeCheck.Double.Shortest

/-!
# Rounding intervals

Every double has an interval of reals that round to it.  The intervals of two
doubles that differ in magnitude have no point in common: neighbours share an end,
but of two neighbours only the one with the even significand owns it.
-/

namespace ShapeCheck
namespace Double

/-!
## The fields of a double
-/

theorem negative_iff (x : Double) : x.negative = true ↔ 2 ^ 63 ≤ x.bits.toNat :=
  decide_eq_true_iff

theorem exponentField_eq (x : Double) : x.exponentField = x.bits.toNat / 2 ^ 52 % 2 ^ 11 := rfl

theorem fractionField_eq (x : Double) : x.fractionField = x.bits.toNat % 2 ^ 52 := rfl

theorem significand_eq (x : Double) :
    x.significand =
      if x.exponentField = 0 then x.fractionField else 2 ^ 52 + x.fractionField := rfl

theorem fractionField_lt (x : Double) : x.fractionField < 2 ^ 52 :=
  Nat.mod_lt _ (Nat.two_pow_pos 52)

theorem significand_lt (x : Double) : x.significand < 2 ^ 53 := by
  have := x.fractionField_lt
  rw [significand_eq]
  split <;> omega

theorem le_significand_of_scale_pos {x : Double} (h : 0 < x.scale) :
    2 ^ 52 ≤ x.significand := by
  unfold scale at h
  have hexp : x.exponentField ≠ 0 := by omega
  rw [significand_eq, if_neg hexp]
  exact Nat.le_add_right _ _

/-- Significand and scale determine both fields: an exponent field of zero and one of
one have the same scale, but not the same hidden bit. -/
theorem fields_eq_of_magnitude_eq {x y : Double} (hscale : x.scale = y.scale)
    (hsig : x.significand = y.significand) :
    x.exponentField = y.exponentField ∧ x.fractionField = y.fractionField := by
  have hx := x.fractionField_lt
  have hy := y.fractionField_lt
  unfold scale at hscale
  rw [significand_eq, significand_eq] at hsig
  split at hsig <;> split at hsig <;> omega

theorem eq_of_fields_eq {x y : Double} (hneg : x.negative = y.negative)
    (hexp : x.exponentField = y.exponentField)
    (hfrac : x.fractionField = y.fractionField) : x = y := by
  have hx := x.bits.toNat_lt
  have hy := y.bits.toNat_lt
  have hsign : 2 ^ 63 ≤ x.bits.toNat ↔ 2 ^ 63 ≤ y.bits.toNat := by
    rw [← negative_iff, ← negative_iff, hneg]
  rw [exponentField_eq, exponentField_eq] at hexp
  rw [fractionField_eq, fractionField_eq] at hfrac
  have hbits : x.bits.toNat = y.bits.toNat := by omega
  cases x with
  | mk xbits =>
      cases y with
      | mk ybits => exact congrArg Double.mk (UInt64.toNat_inj.mp hbits)

/-!
## Ends of an interval
-/

/-- The distance between neighbours of a scale, in quarters of which the ends of an
interval are counted. -/
def grainsPerUnit (x : Double) : Nat := Nat.pow 2 x.scale * Nat.pow 5 1074

theorem grainsPerUnit_pos (x : Double) : 0 < x.grainsPerUnit := by
  have hpos : ∀ m n : Nat, 0 < Nat.pow 2 m * Nat.pow 5 n := by
    intro m n
    exact Nat.mul_pos (Nat.pow_pos (by decide)) (Nat.pow_pos (by decide))
  rw [grainsPerUnit]
  apply hpos

theorem interval_upper (x : Double) :
    x.interval.upper = (4 * x.significand + 2) * x.grainsPerUnit := rfl

theorem interval_middle (x : Double) :
    x.interval.middle = 4 * x.significand * x.grainsPerUnit := rfl

theorem interval_lower_eq_or (x : Double) :
    ¬ (x.significand = 2 ^ 52 ∧ 0 < x.scale) ∧
        x.interval.lower = (4 * x.significand - 2) * x.grainsPerUnit ∨
      x.significand = 2 ^ 52 ∧
        x.interval.lower = (4 * x.significand - 1) * x.grainsPerUnit := by
  by_cases h : x.significand = Nat.pow 2 52 ∧ 0 < x.scale
  · right
    refine ⟨h.1, ?_⟩
    simp only [interval, grainsPerUnit, if_pos h]
  · left
    refine ⟨h, ?_⟩
    simp only [interval, grainsPerUnit, if_neg h]

theorem bounds_of_holds {i : Interval} {grains : Nat} (h : i.holds grains = true) :
    i.lower ≤ grains ∧ grains ≤ i.upper := by
  unfold Interval.holds at h
  split at h <;> simp only [Bool.and_eq_true, decide_eq_true_eq] at h <;> omega

/-- The ends do not belong to the interval of an odd significand. -/
theorem strict_bounds_of_holds {x : Double} {grains : Nat}
    (h : x.interval.holds grains = true) (hodd : x.significand % 2 = 1) :
    x.interval.lower < grains ∧ grains < x.interval.upper := by
  have hopen : x.interval.closed = false := by
    have hne : ¬ x.significand % 2 = 0 := by omega
    exact decide_eq_false hne
  unfold Interval.holds at h
  rw [hopen, if_neg Bool.false_ne_true] at h
  simpa only [Bool.and_eq_true, decide_eq_true_eq] using h

theorem holds_of_strict_bounds {i : Interval} {grains : Nat} (hlower : i.lower < grains)
    (hupper : grains < i.upper) : i.holds grains = true := by
  unfold Interval.holds
  split <;> simp only [Bool.and_eq_true, decide_eq_true_eq] <;> omega

/-!
## No point in common
-/

/-- Between two significands of one scale there is room for the ends of both
intervals, or one of the two significands is odd. -/
theorem not_holds_of_significand_lt {x y : Double} (hscale : x.scale = y.scale)
    (hlt : x.significand < y.significand) {grains : Nat}
    (hx : x.interval.holds grains = true) : y.interval.holds grains = false := by
  rw [Bool.eq_false_iff]
  intro hy
  have hunit : y.grainsPerUnit = x.grainsPerUnit := by
    rw [grainsPerUnit, grainsPerUnit, hscale]
  have hlower : (4 * y.significand - 2) * x.grainsPerUnit ≤ y.interval.lower := by
    rcases interval_lower_eq_or y with ⟨_, h⟩ | ⟨_, h⟩
    · exact Nat.le_of_eq (by rw [h, hunit])
    · rw [h, hunit]
      exact Nat.mul_le_mul_right _ (by omega)
  have hends : x.interval.upper ≤ (4 * y.significand - 2) * x.grainsPerUnit := by
    rw [interval_upper]
    exact Nat.mul_le_mul_right _ (by omega)
  have hxb := bounds_of_holds hx
  have hyb := bounds_of_holds hy
  by_cases hxodd : x.significand % 2 = 1
  · have := strict_bounds_of_holds hx hxodd
    omega
  · by_cases hyodd : y.significand % 2 = 1
    · have := strict_bounds_of_holds hy hyodd
      omega
    · have hgap : x.interval.upper < (4 * y.significand - 2) * x.grainsPerUnit := by
        rw [interval_upper]
        exact Nat.mul_lt_mul_of_pos_right (by omega) x.grainsPerUnit_pos
      omega

/-- The greatest significand of a scale is odd, so the end it shares with the next
scale is not its own. -/
theorem not_holds_of_scale_lt {x y : Double} (hscale : x.scale < y.scale) {grains : Nat}
    (hx : x.interval.holds grains = true) : y.interval.holds grains = false := by
  rw [Bool.eq_false_iff]
  intro hy
  have hysig : 2 ^ 52 ≤ y.significand :=
    le_significand_of_scale_pos (Nat.lt_of_le_of_lt (Nat.zero_le _) hscale)
  have hxsig := x.significand_lt
  have hunit : 2 * x.grainsPerUnit ≤ y.grainsPerUnit := by
    have hpow : Nat.pow 2 (x.scale + 1) ≤ Nat.pow 2 y.scale :=
      Nat.pow_le_pow_right Nat.two_pos hscale
    rw [grainsPerUnit, grainsPerUnit, ← Nat.mul_assoc, Nat.mul_comm 2]
    exact Nat.mul_le_mul_right _ hpow
  have hlower : (2 ^ 54 - 1) * (2 * x.grainsPerUnit) ≤ y.interval.lower := by
    rcases interval_lower_eq_or y with ⟨hne, h⟩ | ⟨hsig, h⟩
    · rw [h]
      exact Nat.mul_le_mul (by omega) hunit
    · rw [h]
      exact Nat.mul_le_mul (by omega) hunit
  have hxb := bounds_of_holds hx
  have hyb := bounds_of_holds hy
  by_cases hxodd : x.significand % 2 = 1
  · have := strict_bounds_of_holds hx hxodd
    have hends : x.interval.upper ≤ (2 ^ 54 - 1) * (2 * x.grainsPerUnit) := by
      rw [interval_upper, ← Nat.mul_assoc]
      exact Nat.mul_le_mul_right _ (by omega)
    omega
  · have hgap : x.interval.upper < (2 ^ 54 - 1) * (2 * x.grainsPerUnit) := by
      rw [interval_upper, ← Nat.mul_assoc]
      exact Nat.mul_lt_mul_of_pos_right (by omega) x.grainsPerUnit_pos
    omega

theorem magnitude_eq_of_holds {x y : Double} {grains : Nat}
    (hx : x.interval.holds grains = true) (hy : y.interval.holds grains = true) :
    x.scale = y.scale ∧ x.significand = y.significand := by
  rcases Nat.lt_trichotomy x.scale y.scale with hlt | heq | hgt
  · exact absurd hy (Bool.eq_false_iff.mp (not_holds_of_scale_lt hlt hx))
  · refine ⟨heq, ?_⟩
    rcases Nat.lt_trichotomy x.significand y.significand with hlt | hsig | hgt
    · exact absurd hy (Bool.eq_false_iff.mp (not_holds_of_significand_lt heq hlt hx))
    · exact hsig
    · exact absurd hx (Bool.eq_false_iff.mp (not_holds_of_significand_lt heq.symm hgt hy))
  · exact absurd hx (Bool.eq_false_iff.mp (not_holds_of_scale_lt hgt hy))

/-!
## The shortest decimal lies in the interval
-/

def Decimal.grains (d : Decimal) : Nat := d.digits * (4 * 10 ^ d.shift)

theorem holds_of_pick {i : Interval} {tie : Tie} {step digits : Nat}
    (h : i.pick tie step = some digits) : i.holds (digits * step) = true := by
  unfold Interval.pick at h
  simp only [Bool.and_eq_true, decide_eq_true_eq] at h
  split at h
  case isTrue hboth =>
    split at h
    · cases h
      exact hboth.1.2
    · split at h
      · cases h
        exact hboth.2
      · cases tie with
        | up =>
            cases h
            exact hboth.2
        | toEven =>
            simp only at h
            split at h
            · cases h
              exact hboth.1.2
            · cases h
              exact hboth.2
  case isFalse =>
    split at h
    case isTrue hlow =>
      cases h
      exact hlow.2
    case isFalse =>
      split at h
      case isTrue hhigh =>
        cases h
        exact hhigh
      case isFalse => cases h

theorem holds_search {i : Interval} (tie : Tie) (shift : Nat)
    (hmiddle : i.holds (i.middle / 4 * 4) = true) :
    i.holds (i.search tie shift).grains = true := by
  induction shift with
  | zero => exact hmiddle
  | succ shift ih =>
      rw [Interval.search]
      cases h : i.pick tie (4 * 10 ^ (shift + 1)) with
      | none => exact ih
      | some digits => exact holds_of_pick h

theorem holds_middle {x : Double} (hpos : 0 < x.significand) :
    x.interval.holds x.interval.middle = true := by
  have hunit := x.grainsPerUnit_pos
  apply holds_of_strict_bounds
  · rw [interval_middle]
    rcases interval_lower_eq_or x with ⟨_, h⟩ | ⟨_, h⟩
    · rw [h]
      exact Nat.mul_lt_mul_of_pos_right (by omega) hunit
    · rw [h]
      exact Nat.mul_lt_mul_of_pos_right (by omega) hunit
  · rw [interval_middle, interval_upper]
    exact Nat.mul_lt_mul_of_pos_right (by omega) hunit

theorem holds_shortest {x : Double} (tie : Tie) (hpos : 0 < x.significand) :
    x.interval.holds (x.shortest tie).grains = true := by
  apply holds_search
  have hfour : x.interval.middle / 4 * 4 = x.interval.middle := by
    rw [interval_middle, Nat.mul_assoc]
    exact Nat.div_mul_cancel (Nat.dvd_mul_right 4 _)
  rw [hfour]
  exact holds_middle hpos

end Double
end ShapeCheck
