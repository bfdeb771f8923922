import Mathlib.Algebra.Group.Nat.Defs
import ShapeCheck.Proofs.Double.Interval

/-!
# Ratios that are doubles

A ratio that is the value of a finite double is rounded to that double: its scale is
found again from the number of binary digits, and nothing is cut off.  Whole numbers of
64 bits are rounded to finite doubles.
-/

namespace ShapeCheck

theorem roundHalfEven_mul {b : Nat} (n : Nat) (hb : 0 < b) : roundHalfEven (n * b) b = n := by
  unfold roundHalfEven
  rw [Nat.mul_div_cancel n hb, Nat.mul_mod_left]
  exact if_pos hb

theorem roundHalfEven_le (a b : Nat) : roundHalfEven a b ≤ a / b + 1 := by
  unfold roundHalfEven
  dsimp only
  split
  · exact Nat.le_succ _
  · split
    · exact Nat.le_refl _
    · split
      · exact Nat.le_succ _
      · exact Nat.le_refl _

namespace Double

theorem units_eq (x : Double) : x.units = x.significand * 2 ^ x.scale := rfl

/-- Beyond the digits of a significand, the binary digits of a double count its
scale. -/
theorem log2_units_sub (x : Double) : Nat.log2 x.units - 52 = x.scale := by
  have hlt := x.significand_lt
  rw [units_eq]
  by_cases hscale : x.scale = 0
  · by_cases hsig : x.significand = 0
    · rw [hsig, hscale]
      rfl
    · have hlog : Nat.log2 (x.significand * 2 ^ x.scale) < 53 := by
        rw [hscale, Nat.pow_zero, Nat.mul_one, Nat.log2_lt hsig]
        exact hlt
      omega
  · have hle := le_significand_of_scale_pos (Nat.pos_of_ne_zero hscale)
    have hlog : Nat.log2 (x.significand * 2 ^ x.scale) = 52 + x.scale := by
      have hpos := Nat.two_pow_pos x.scale
      rw [Nat.log2_eq_iff (Nat.mul_ne_zero (by omega) (by omega))]
      constructor
      · rw [Nat.pow_add]
        exact Nat.mul_le_mul_right _ hle
      · rw [Nat.add_right_comm, Nat.pow_add]
        exact Nat.mul_lt_mul_of_pos_right hlt hpos
    omega

/-- The bits of a double below its sign are its scale and its significand added up. -/
theorem magnitude_eq (x : Double) :
    x.scale * 2 ^ 52 + x.significand = x.bits.toNat % 2 ^ 63 := by
  have hbits := x.bits.toNat_lt
  rw [scale, significand_eq]
  split
  · rename_i hexp
    rw [hexp]
    rw [exponentField_eq] at hexp
    rw [fractionField_eq]
    omega
  · rename_i hexp
    rw [exponentField_eq] at hexp ⊢
    rw [fractionField_eq]
    omega

theorem magnitude_le_of_isFinite {x : Double} (h : x.isFinite = true) :
    x.bits.toNat % 2 ^ 63 ≤ infinityBits := by
  have hexp : x.exponentField < 2047 := of_decide_eq_true h
  have hinfinity : infinityBits = 2047 * 2 ^ 52 := rfl
  rw [exponentField_eq] at hexp
  omega

theorem nearestBits_of_units {x : Double} (hfinite : x.isFinite = true) {num den : Nat}
    (hden : 0 < den) (h : num * unitsPerOne = x.units * den) :
    nearestBits num den = x.bits.toNat % 2 ^ 63 := by
  have hround : roundHalfEven (x.units * den) (den * Nat.pow 2 x.scale) = x.significand := by
    have hpos : 0 < den * Nat.pow 2 x.scale := Nat.mul_pos hden (Nat.two_pow_pos x.scale)
    have hproduct : x.units * den = x.significand * (den * Nat.pow 2 x.scale) := by
      rw [units, Nat.mul_assoc, Nat.mul_comm den]
    rw [hproduct, roundHalfEven_mul _ hpos]
  unfold nearestBits
  simp only [h, Nat.mul_div_cancel x.units hden, log2_units_sub, hround]
  rw [← magnitude_eq]
  apply Nat.min_eq_left
  rw [show Nat.pow 2 52 = 2 ^ 52 from rfl, magnitude_eq]
  exact magnitude_le_of_isFinite hfinite

theorem signed_magnitude (x : Double) : signed x.negative (x.bits.toNat % 2 ^ 63) = x := by
  have hbits := x.bits.toNat_lt
  have hnat : (if x.negative then Nat.pow 2 63 + x.bits.toNat % 2 ^ 63
      else x.bits.toNat % 2 ^ 63) = x.bits.toNat := by
    rw [show Nat.pow 2 63 = 2 ^ 63 from rfl]
    by_cases hneg : x.negative = true
    · have hle := (negative_iff x).mp hneg
      rw [if_pos hneg]
      omega
    · have hlt : ¬ 2 ^ 63 ≤ x.bits.toNat := fun hle => hneg ((negative_iff x).mpr hle)
      rw [if_neg hneg]
      omega
  rw [signed, hnat, ofNatBits, UInt64.ofNat_toNat]

theorem ofInt_of_units {x : Double} {n : Int} (hfinite : x.isFinite = true)
    (hneg : x.negative = decide (n < 0)) (hunits : x.units = n.natAbs * unitsPerOne) :
    ofInt n = x := by
  have hmagnitude : nearestBits n.natAbs 1 = x.bits.toNat % 2 ^ 63 := by
    apply nearestBits_of_units hfinite Nat.one_pos
    rw [hunits, Nat.mul_one]
  rw [ofInt, nearest, ← hneg, hmagnitude, signed_magnitude]

/-!
## Whole numbers of 64 bits
-/

theorem log2_mul_lt {n : Nat} (h : n < 2 ^ 65) (units : Nat) :
    Nat.log2 (n * units) < 65 + (Nat.log2 units + 1) := by
  by_cases hzero : n * units = 0
  · rw [hzero]
    exact Nat.lt_of_lt_of_le (by decide) (Nat.le_add_right 65 _)
  · rw [Nat.log2_lt hzero, Nat.pow_add]
    exact Nat.mul_lt_mul_of_lt_of_lt h Nat.lt_log2_self

theorem div_scale_lt (units : Nat) : units / 2 ^ (Nat.log2 units - 52) < 2 ^ 53 := by
  rw [Nat.div_lt_iff_lt_mul (Nat.two_pow_pos _), ← Nat.pow_add]
  apply Nat.lt_of_lt_of_le Nat.lt_log2_self
  apply Nat.pow_le_pow_right (by decide)
  omega

theorem nearestBits_lt_infinityBits {n : Nat} (h : n < 2 ^ 65) :
    nearestBits n 1 < infinityBits := by
  have hscale : Nat.log2 (n * unitsPerOne) - 52 < 1088 := by
    have hlog := log2_mul_lt h unitsPerOne
    have hunits : Nat.log2 unitsPerOne = 1074 := by decide +kernel
    omega
  have hround := roundHalfEven_le (n * unitsPerOne) (2 ^ (Nat.log2 (n * unitsPerOne) - 52))
  have hdiv := div_scale_lt (n * unitsPerOne)
  have hinfinity : infinityBits = 2047 * 2 ^ 52 := rfl
  unfold nearestBits
  simp only [Nat.div_one, Nat.one_mul, Nat.pow_eq]
  apply Nat.lt_of_le_of_lt (Nat.min_le_left _ _)
  rw [hinfinity]
  omega

theorem isFinite_signed {negative : Bool} {magnitude : Nat} (h : magnitude < infinityBits) :
    (signed negative magnitude).isFinite = true := by
  have hinfinity : infinityBits = 2047 * 2 ^ 52 := rfl
  apply decide_eq_true
  rw [exponentField_eq, signed, ofNatBits, UInt64.toNat_ofNat', Nat.pow_eq]
  cases negative with
  | true =>
      rw [if_pos rfl]
      omega
  | false =>
      rw [if_neg Bool.false_ne_true]
      omega

theorem isFinite_ofInt {n : Int} (h : n.natAbs < 2 ^ 65) : (ofInt n).isFinite = true :=
  isFinite_signed (nearestBits_lt_infinityBits h)

end Double
end ShapeCheck
