import ShapeCheck.Double.Basic

/-!
# The nearest double

Ratios of natural numbers are rounded to the nearest double, a tie going to the
even neighbour.  Whole numbers, decimals, sums, products and quotients are all obtained by
forming the exact ratio first.
-/

namespace ShapeCheck

/-- The whole number nearest to `a / b`, a tie going to the even neighbour. -/
def roundHalfEven (a b : Nat) : Nat :=
  let quotient := a / b
  let twice := 2 * (a % b)
  if twice < b then quotient
  else if b < twice then quotient + 1
  else if quotient % 2 = 0 then quotient
  else quotient + 1

namespace Double

/-- The lower 63 bits of the double nearest to `num / den`.  The significand is
cut to 53 bits; one that rounds up to a power of two carries into the exponent
field, which is what the sum of the two fields does. -/
def nearestBits (num den : Nat) : Nat :=
  let units := num * unitsPerOne
  let scale := Nat.log2 (units / den) - 52
  let magnitude := scale * Nat.pow 2 52 + roundHalfEven units (den * Nat.pow 2 scale)
  min magnitude infinityBits

def nearest (negative : Bool) (num den : Nat) : Double :=
  signed negative (nearestBits num den)

def ofInt (n : Int) : Double :=
  nearest (decide (n < 0)) n.natAbs 1

def decimalLength (n : Nat) : Nat :=
  if h : n = 0 then 0 else decimalLength (n / 10) + 1
termination_by n
decreasing_by exact Nat.div_lt_self (Nat.pos_of_ne_zero h) (by decide)

/-- The double nearest to `digits` times ten to the power `exponent`.  Values far
beyond the range are settled by their number of digits alone. -/
def ofDecimal (negative : Bool) (digits : Nat) (exponent : Int) : Double :=
  if digits = 0 then zero negative
  else
    let magnitude : Int := decimalLength digits + exponent
    if 310 < magnitude then infinity negative
    else if magnitude < -330 then zero negative
    else if 0 ≤ exponent then nearest negative (digits * Nat.pow 10 exponent.toNat) 1
    else nearest negative digits (Nat.pow 10 (-exponent).toNat)

def signedUnits (x : Double) : Int :=
  if x.negative then -(x.units : Int) else x.units

def add (x y : Double) : Double :=
  if x.isNaN || y.isNaN then nan
  else if x.isFinite then
    if y.isFinite then
      let total := x.signedUnits + y.signedUnits
      if total = 0 then zero (x.negative && y.negative)
      else nearest (decide (total < 0)) total.natAbs unitsPerOne
    else y
  else if y.isFinite || x.negative == y.negative then x
  else nan

def mul (x y : Double) : Double :=
  let negative := x.negative != y.negative
  if x.isNaN || y.isNaN then nan
  else if x.isFinite && y.isFinite then
    nearest negative (x.units * y.units) (unitsPerOne * unitsPerOne)
  else if x.isZero || y.isZero then nan
  else infinity negative

def div (x y : Double) : Double :=
  let negative := x.negative != y.negative
  if x.isNaN || y.isNaN then nan
  else if x.isFinite then
    if !y.isFinite then zero negative
    else if y.units = 0 then
      if x.units = 0 then nan else infinity negative
    else nearest negative x.units y.units
  else if y.isFinite then infinity negative
  else nan

/-!
## Scaling

Powers of ten are at hand as doubles up to the greatest finite one.  A double is multiplied
or divided by them, so the result is rounded more than once and need not be the nearest one.
-/

def maxPower : Nat := 308

def powerOfTen (exponent : Nat) : Double := nearest false (Nat.pow 10 exponent) 1

def scaledUp (x : Double) (exponent : Nat) : Double :=
  if exponent ≤ maxPower then x.mul (powerOfTen exponent)
  else if x.isZero then x
  else infinity x.negative

def scaledDown (x : Double) (exponent : Nat) : Double :=
  if exponent ≤ maxPower then x.div (powerOfTen exponent)
  else if x.isZero then x
  else (x.div (powerOfTen maxPower)).scaledDown (exponent - maxPower)
termination_by exponent
decreasing_by exact Nat.sub_lt (by omega) (by decide)

def scaled (x : Double) (exponent : Int) : Double :=
  if 0 ≤ exponent then x.scaledUp exponent.toNat else x.scaledDown (-exponent).toNat

end Double

end ShapeCheck
