/-!
# Double-precision numbers

A double is its bit pattern, so that the two zeros and the many NaNs stay apart. A finite double is
`± m · 2 ^ q` for natural `m` and integer `q`. The total order of IEEE 754 is the order of an
integer key; addition and division are those of `Float`.
-/

namespace ChatBoard

/-- A double, given by its bits. -/
structure Double where
  bits : UInt64
  deriving DecidableEq, Repr

namespace Double

/-- The number of a bit pattern. -/
def toFloat (x : Double) : Float := Float.ofBits x.bits

/-- The bit pattern of a number. -/
def ofFloat (f : Float) : Double := ⟨f.toBits⟩

/-- The weight of the sign bit. -/
def signWeight : Nat := 0x8000000000000000

/-- The weight of the lowest exponent bit, above fifty-two fraction bits. -/
def unitWeight : Nat := 0x10000000000000

/-- The sign bit is set. -/
def isNegative (x : Double) : Bool := x.bits.toNat ≥ signWeight

/-- The bits without the sign. -/
def magnitude (x : Double) : Nat := x.bits.toNat % signWeight

/-- The eleven exponent bits. -/
def exponentField (x : Double) : Nat := x.magnitude / unitWeight

/-- The fifty-two fraction bits. -/
def fractionField (x : Double) : Nat := x.magnitude % unitWeight

/-- Neither infinite nor a NaN. -/
def isFinite (x : Double) : Bool := x.exponentField != 2047

/-- Is not a number. -/
def isNaN (x : Double) : Bool := x.exponentField == 2047 && x.fractionField != 0

/-- The factor `m` of a finite double `± m · 2 ^ q`. -/
def significand (x : Double) : Nat :=
  if x.exponentField = 0 then x.fractionField else x.fractionField + unitWeight

/-- The exponent `q` of a finite double `± m · 2 ^ q`. -/
def exponent (x : Double) : Int := (max x.exponentField 1 : Nat) - 1075

/-- The key whose order is the total order of IEEE 754: negative before positive numbers, the
zeros apart, and NaNs beyond the infinities of their sign. -/
def key (x : Double) : Int :=
  if x.isNegative then -1 - (x.magnitude : Int) else x.magnitude

/-- The total order. -/
def totalLe (x y : Double) : Bool := x.key ≤ y.key

/-- Negative zero. -/
def negZero : Double := ⟨0x8000000000000000⟩

/-- The sum, rounded. -/
def add (x y : Double) : Double := ofFloat (x.toFloat + y.toFloat)

/-- The quotient, rounded. -/
def div (x y : Double) : Double := ofFloat (x.toFloat / y.toFloat)

/-- The double of a small natural number. -/
def ofNat (n : Nat) : Double := ofFloat (UInt64.ofNat n).toFloat

/-- The integer part of a finite double, drawn to zero. -/
def wholePart (x : Double) : Int :=
  let size : Nat :=
    if 0 ≤ x.exponent then x.significand * Nat.pow 2 x.exponent.toNat
    else x.significand / Nat.pow 2 (-x.exponent).toNat
  if x.isNegative then -(size : Int) else size

/-- The integer part, drawn to zero and kept between two bounds; zero for a NaN. -/
def truncatedIn (least greatest : Int) (x : Double) : Int :=
  if x.isNaN then 0
  else if !x.isFinite then if x.isNegative then least else greatest
  else max least (min greatest x.wholePart)

/-- The integer part, drawn to zero and kept within the signed 64-bit range; zero for a NaN. -/
def truncated (x : Double) : Int := x.truncatedIn (-0x8000000000000000) 0x7fffffffffffffff

/-- The double nearest to an integer. -/
def ofInt (i : Int) : Double := ofFloat (Float.ofInt i)

/-- Whether a finite double is above an integer. -/
def exceeds (x : Double) (i : Int) : Bool :=
  let m : Int := if x.isNegative then -(x.significand : Int) else x.significand
  if 0 ≤ x.exponent then i < m * Nat.pow 2 x.exponent.toNat
  else i * Nat.pow 2 (-x.exponent).toNat < m

end Double

end ChatBoard
