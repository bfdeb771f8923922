import ShapeCheck.Double.Nearest

/-!
# The shortest decimal of a double

Among the decimals that round to a given double, take those with the fewest
digits and of these the nearest.  Everything is counted in *grains*, one grain
being a quarter of ten to the power -1074: in grains a double, the two ends of
the interval that rounds to it and every decimal in question are natural numbers.
-/

namespace ShapeCheck

inductive Tie where
  | toEven
  | up
deriving DecidableEq

namespace Double

/-- The reals that round to a double, in grains. -/
structure Interval where
  lower : Nat
  middle : Nat
  upper : Nat
  /-- Whether the two ends belong to the interval. -/
  closed : Bool

def Interval.holds (i : Interval) (grains : Nat) : Bool :=
  if i.closed then decide (i.lower ≤ grains) && decide (grains ≤ i.upper)
  else decide (i.lower < grains) && decide (grains < i.upper)

/-- The reals that round to a finite double.  Below a power of two the
neighbour is half as far, and the ends belong to an even significand. -/
def interval (x : Double) : Interval :=
  let unit := Nat.pow 2 x.scale * Nat.pow 5 1074
  let below := if x.significand = Nat.pow 2 52 ∧ 0 < x.scale then 1 else 2
  { lower := (4 * x.significand - below) * unit
    middle := 4 * x.significand * unit
    upper := (4 * x.significand + 2) * unit
    closed := decide (x.significand % 2 = 0) }

/-- The multiple of `step` that stands for the interval, if there is one: the
nearer of the two neighbours of the middle that lie in it. -/
def Interval.pick (i : Interval) (tie : Tie) (step : Nat) : Option Nat :=
  let low := i.middle / step
  let high := low + 1
  let lowIn := decide (0 < low) && i.holds (low * step)
  let highIn := i.holds (high * step)
  if lowIn && highIn then
    let down := i.middle - low * step
    let up := high * step - i.middle
    if down < up then some low
    else if up < down then some high
    else match tie with
      | .up => some high
      | .toEven => if low % 2 = 0 then some low else some high
  else if lowIn then some low
  else if highIn then some high
  else none

/-- A decimal: `digits` times ten to the power `shift - 1074`. -/
structure Decimal where
  digits : Nat
  shift : Nat

/-- The decimal on the coarsest grid, not coarser than ten to the power
`shift - 1074`, that has a point in the interval.  The middle itself lies on the
finest grid. -/
def Interval.search (i : Interval) (tie : Tie) : Nat → Decimal
  | 0 => ⟨i.middle / 4, 0⟩
  | shift + 1 =>
      match i.pick tie (4 * Nat.pow 10 (shift + 1)) with
      | some digits => ⟨digits, shift + 1⟩
      | none => i.search tie shift

def shortest (tie : Tie) (x : Double) : Decimal :=
  let i := x.interval
  i.search tie (decimalLength i.upper)

end Double

end ShapeCheck
