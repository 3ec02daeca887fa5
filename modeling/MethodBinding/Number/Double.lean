/-!
# Double precision numbers as bit patterns

A `Double` is the 64-bit word of a binary64 number. Sign, exponent and fraction are read off the
word with `Nat` arithmetic, and equality (`Double.eq`) is the standard one: a NaN equals nothing,
not even itself, the two zeros are equal, and every other number equals exactly its own word.
The only operations left to the machine are widening an integer and the square root.
-/

namespace MethodBinding

/-- A binary64 number, given by its word. -/
structure Double where
  bits : UInt64
deriving DecidableEq

namespace Double

/-- The place above the fifty-two bits of the fraction, where a normal number has a bit that is not
stored. -/
def hiddenBit : Nat := 0x10000000000000

/-- The sign bit. -/
def negative (x : Double) : Bool := x.bits.toNat / 0x8000000000000000 == 1

/-- The eleven bits of the biased exponent. -/
def exponentField (x : Double) : Nat := x.bits.toNat / hiddenBit % 2048

/-- The fifty-two bits of the fraction. -/
def fractionField (x : Double) : Nat := x.bits.toNat % hiddenBit

def isNaN (x : Double) : Bool := x.exponentField == 2047 && x.fractionField != 0

def isInfinite (x : Double) : Bool := x.exponentField == 2047 && x.fractionField == 0

/-- Either zero, whatever its sign. -/
def isZero (x : Double) : Bool := x.exponentField == 0 && x.fractionField == 0

/-- The standard equality of binary64 numbers. -/
def eq (x y : Double) : Bool :=
  !x.isNaN && !y.isNaN && (x.bits == y.bits || x.isZero && y.isZero)

/-- `x ≥ 0` in the standard order: a NaN is not, and both zeros are. -/
def nonnegative (x : Double) : Bool := !x.isNaN && (!x.negative || x.isZero)

/-- The significand `m` and exponent `q` of a finite number, whose magnitude is `m * 2 ^ q`. -/
def scaled (x : Double) : Nat × Int :=
  if x.exponentField = 0 then (x.fractionField, -1074)
  else (hiddenBit + x.fractionField, (x.exponentField : Int) - 1075)

/-- The nearest number to an integer. -/
def ofInt64 (n : Int64) : Double := ⟨n.toFloat.toBits⟩

/-- The correctly rounded square root. -/
def sqrt (x : Double) : Double := ⟨(Float.ofBits x.bits).sqrt.toBits⟩

end Double

end MethodBinding
