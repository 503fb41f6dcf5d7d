import ChatBoard.Decimal.Double

/-!
# Significand and power of ten

The double of a decimal numeral is its significand, as a double, multiplied or divided by one power
of ten; a power beyond the range is divided out in two steps. The result is the nearest double
while significand and power are exact doubles, and within a few units in the last place beyond.
-/

namespace ChatBoard.Double

/-- The double nearest to a power of ten. -/
def powerOfTen (n : Nat) : Float := Float.ofScientific 1 false n

/-- Divides by a power of ten, in steps of the greatest one that is a double. -/
def dividedByPower : Nat → Float → Nat → Float
  | 0, f, _ => f
  | more + 1, f, n =>
    if n ≤ 308 then f / powerOfTen n
    else if f == 0 then f
    else dividedByPower more (f / powerOfTen 308) (n - 308)

/-- The double `± significand · 10 ^ exponent`, or nothing when it is out of range. Four steps
exhaust every significand of 64 bits. -/
def scaled? (negative : Bool) (significand : Nat) (exponent : Int) : Option Double :=
  let f := (UInt64.ofNat significand).toFloat
  let result : Option Float :=
    if exponent < 0 then some (dividedByPower 4 f (-exponent).toNat)
    else if f == 0 then some f
    else if 308 < exponent then none
    else
      let product := f * powerOfTen exponent.toNat
      if product.isInf then none else some product
  result.map fun f => ofFloat (if negative then -f else f)

end ChatBoard.Double
