import ChatBoard.Decimal.Layout

/-!
# A given number of digits

Where a double is kept as text, it has fifteen significant digits at most; the last one is rounded.
A number has at least one digit after the point, and one that is very large or very small has an
exponent of at least two digits.
-/

namespace ChatBoard.Double

/-- The decimal of at most `count` digits nearest to a finite double other than zero; a half goes
up. -/
def roundedTo (count : Nat) (x : Double) : Digits :=
  let i := x.interval
  let power := i.leading - count + 1
  let units := i.inUnits power
  Digits.withoutZeros (count + 1) ⟨(2 * units.value + units.scale) / (2 * units.scale), power⟩

/-- Digits with an exponent of two digits at least. -/
def Digits.withExponent (d : Digits) : List Char :=
  let ds := Nat.toDigits 10 d.digits
  let size := Nat.toDigits 10 d.leading.natAbs
  ds.take 1 ++ '.' :: (if ds.length > 1 then ds.drop 1 else ['0'])
    ++ 'e' :: (if d.leading < 0 then '-' else '+')
    :: (List.replicate (2 - size.length) '0' ++ size)

/-- The text that a double is kept as. Zero has no sign. -/
def keptText (x : Double) : String :=
  let size : String :=
    if !x.isFinite then "Inf"
    else
      let d : Digits := if x.magnitude = 0 then ⟨0, 0⟩ else x.roundedTo 15
      String.ofList
        (if -4 ≤ d.leading ∧ d.leading ≤ 14 then d.positional true else d.withExponent)
  if x.isNegative ∧ x.magnitude ≠ 0 then "-" ++ size else size

/-- Whether a double is a whole number. -/
def isWhole (x : Double) : Bool :=
  x.isFinite && (0 ≤ x.exponent || x.significand % Nat.pow 2 (-x.exponent).toNat == 0)

end ChatBoard.Double
