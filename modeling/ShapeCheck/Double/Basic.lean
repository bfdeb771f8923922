/-!
# Doubles

A double is its 64 bits.  Every finite double is a whole number of *units*, one
unit being 2 to the power -1074, so questions about its value are questions
about natural numbers.
-/

namespace ShapeCheck

structure Double where
  bits : UInt64
deriving DecidableEq, Inhabited

namespace Double

def negative (x : Double) : Bool :=
  decide (Nat.pow 2 63 ≤ x.bits.toNat)

def exponentField (x : Double) : Nat :=
  x.bits.toNat / Nat.pow 2 52 % Nat.pow 2 11

def fractionField (x : Double) : Nat :=
  x.bits.toNat % Nat.pow 2 52

def isFinite (x : Double) : Bool :=
  decide (x.exponentField < 2047)

def isNaN (x : Double) : Bool :=
  !x.isFinite && decide (x.fractionField ≠ 0)

/-- The whole number that the fraction bits and the hidden bit spell. -/
def significand (x : Double) : Nat :=
  if x.exponentField = 0 then x.fractionField else Nat.pow 2 52 + x.fractionField

/-- The power of two, counted in units, that the significand is scaled by. -/
def scale (x : Double) : Nat :=
  x.exponentField - 1

/-- The magnitude of a finite double in units of 2 to the power -1074. -/
def units (x : Double) : Nat :=
  x.significand * Nat.pow 2 x.scale

def unitsPerOne : Nat := Nat.pow 2 1074

def isZero (x : Double) : Bool :=
  x.isFinite && decide (x.units = 0)

def isIntegral (x : Double) : Bool :=
  x.isFinite && decide (x.units % unitsPerOne = 0)

/-- The value of a finite double, cut toward zero. -/
def truncate (x : Double) : Int :=
  let whole : Nat := x.units / unitsPerOne
  if x.negative then -(whole : Int) else whole

/-- Equality of numbers: both zeros are equal and a NaN equals nothing. -/
def same (x y : Double) : Bool :=
  !x.isNaN && !y.isNaN && (decide (x.bits = y.bits) || (x.isZero && y.isZero))

def ofNatBits (n : Nat) : Double := ⟨UInt64.ofNat n⟩

def infinityBits : Nat := 2047 * Nat.pow 2 52

def nan : Double := ofNatBits (infinityBits + Nat.pow 2 51)

/-- Set the sign of a magnitude given by its lower 63 bits. -/
def signed (negative : Bool) (magnitude : Nat) : Double :=
  ofNatBits (if negative then Nat.pow 2 63 + magnitude else magnitude)

def infinity (negative : Bool) : Double := signed negative infinityBits

def zero (negative : Bool) : Double := signed negative 0

def abs (x : Double) : Double :=
  ofNatBits (x.bits.toNat % Nat.pow 2 63)

end Double

end ShapeCheck
