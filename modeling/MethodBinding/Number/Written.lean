import MethodBinding.Number.Double
import MethodBinding.Number.Shortest

/-!
# The written form of a double

A finite number is written with the fewest digits that read back (`Shortest.digits`). Positional
notation is used for zero and for magnitudes from `10 ^ -4` up to `10 ^ 16`, always with a digit on
both sides of the point; any other magnitude has one digit before the point, no point if that is the
only digit, and an exponent without sign or padding.
-/

namespace MethodBinding

/-- Where positional notation is used, and the words for numbers without digits. -/
structure DoubleLayout where
  leastPositional : Int
  mostPositional : Int
  mark : String
  infinity : String
  notANumber : String

/-- Floating point values are positional for decimal exponents from `-4` to `15`. -/
def Double.layout : DoubleLayout where
  leastPositional := -4
  mostPositional := 15
  mark := "e"
  infinity := "inf"
  notANumber := "NaN"

namespace DoubleLayout

/-- The decimal digits of a positive coefficient without trailing zeros. -/
def significant (c : Nat) : List Char :=
  ((Nat.toDigits 10 c).reverse.dropWhile (· == '0')).reverse

/-- The digits `ds` with the point after the first `whole` places, and a digit on both sides. -/
def positional (ds : List Char) (whole : Int) : List Char :=
  if whole ≤ 0 then "0.".toList ++ List.replicate (-whole).toNat '0' ++ ds
  else
    let n := whole.toNat
    let fraction := ds.drop n
    ds.take n ++ List.replicate (n - ds.length) '0' ++
      '.' :: (if fraction.isEmpty then ['0'] else fraction)

/-- One digit before the point, the others behind it, then the exponent. -/
def scientific (mark : String) (ds : List Char) (exponent : Int) : List Char :=
  ds.take 1 ++ (if 1 < ds.length then '.' :: ds.drop 1 else []) ++
    mark.toList ++ (toString exponent).toList

/-- The text of a positive decimal. -/
def writeDecimal (f : DoubleLayout) (d : Decimal) : List Char :=
  let ds := significant d.coefficient
  let leading := d.exponent + (Nat.toDigits 10 d.coefficient).length - 1
  if f.leastPositional ≤ leading && leading ≤ f.mostPositional then positional ds (leading + 1)
  else scientific f.mark ds leading

end DoubleLayout

/-- The text of a double in a layout. -/
def Double.write (f : DoubleLayout) (x : Double) : String :=
  if x.isNaN then f.notANumber
  else
    let magnitude :=
      if x.isInfinite then f.infinity
      else if x.isZero then "0.0"
      else
        let (m, q) := x.scaled
        let narrow := x.fractionField == 0 && 1 < x.exponentField
        String.ofList (f.writeDecimal (Shortest.digits m q narrow))
    if x.negative then "-" ++ magnitude else magnitude

/-- The text of a floating point value. -/
def Double.text (x : Double) : String := x.write layout

end MethodBinding
