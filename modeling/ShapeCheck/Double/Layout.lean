import ShapeCheck.Double.Shortest

/-!
# How doubles are written

All written forms start from the shortest decimal.  JSON text and the brief form
use an exponent for very large and very small numbers and always show a fraction;
the plain form writes every zero out and shows a fraction only where there is one.
-/

namespace ShapeCheck
namespace Double

def digitText (n : Nat) : String := String.ofList (Nat.toDigits 10 n)

def zeros (n : Nat) : String := String.ofList (List.replicate n '0')

/-- Digits with a point before which stand `whole` of them; there are more
digits than that. -/
def splitPoint (digits : String) (whole : Nat) : String :=
  let cs := digits.toList
  String.ofList (cs.take whole ++ '.' :: cs.drop whole)

def withSign (negative : Bool) (text : String) : String :=
  if negative then "-" ++ text else text

/-- Digits whose first one stands for ten to the power `exponent`, written
without an exponent.  `tail` follows a number without a fraction. -/
def positional (digits : String) (exponent : Int) (tail : String) : String :=
  let count := digits.length
  if exponent < 0 then "0." ++ zeros (-exponent - 1).toNat ++ digits
  else
    let whole := exponent.toNat + 1
    if count ≤ whole then digits ++ zeros (whole - count) ++ tail
    else splitPoint digits whole

/-- Digits whose first one stands for ten to the power `exponent`, written with
that exponent.  `plus` marks an exponent that is not negative. -/
def scientific (digits : String) (exponent : Int) (plus : String) : String :=
  let mantissa := if digits.length ≤ 1 then digits else splitPoint digits 1
  let sign := if exponent < 0 then "-" else plus
  mantissa ++ "e" ++ sign ++ digitText exponent.natAbs

/-- The power of ten that the first digit of a decimal stands for. -/
def Decimal.exponent (d : Decimal) : Int :=
  (d.shift : Int) - 1074 + (digitText d.digits).length - 1

/-- A finite double in JSON text: no exponent from 0.00001 up to 10 to the power
16, a fraction always, ties to even. -/
def jsonText (x : Double) : String :=
  withSign x.negative <|
    if x.units = 0 then "0.0"
    else
      let d := x.shortest .toEven
      let digits := digitText d.digits
      if -5 ≤ d.exponent ∧ d.exponent < 16 then positional digits d.exponent ".0"
      else scientific digits d.exponent "+"

/-- A finite double in the brief form: no exponent from 0.0001 up to 10 to the
power 16, a fraction always, ties up. -/
def briefText (x : Double) : String :=
  withSign x.negative <|
    if x.units = 0 then "0.0"
    else
      let d := x.shortest .up
      let digits := digitText d.digits
      if -4 ≤ d.exponent ∧ d.exponent < 16 then positional digits d.exponent ".0"
      else scientific digits d.exponent ""

/-- A double in the plain form: no exponent, ties up, and one zero. -/
def plainText (x : Double) : String :=
  if x.isNaN then "NaN"
  else if !x.isFinite then withSign x.negative "Infinity"
  else if x.units = 0 then "0"
  else
    let d := x.shortest .up
    withSign x.negative (positional (digitText d.digits) d.exponent "")

end Double
end ShapeCheck
