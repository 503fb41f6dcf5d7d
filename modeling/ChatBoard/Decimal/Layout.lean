import ChatBoard.Decimal.Shortest
import ChatBoard.Text.Numeral

/-!
# How digits are laid out

The digits of a number are written positionally or with an exponent. What differs between the
outputs of this library stands in one record, `Layout`; the layouts in use are that of JSON, that of
the lines shown on a terminal, and those of pages.
-/

namespace ChatBoard.Double

/-- The choices of an output for numbers. -/
structure Layout where
  /-- Leading exponents that are written positionally. -/
  positional : Int → Bool
  /-- A whole number written positionally ends in a point and a zero. -/
  wholePoint : Bool
  /-- A positive exponent shows its sign. -/
  exponentPlus : Bool
  /-- Which of two equally short and near decimals is written. -/
  tie : Tie
  /-- Spelling of a NaN. -/
  nan : String
  /-- Spelling of the positive infinity. -/
  infinity : String
  /-- Spelling of the negative infinity. -/
  negInfinity : String

/-- In JSON numbers from a hundred-thousandth to below ten to the sixteenth are positional and show
at least one decimal; what is not finite is null. -/
def Layout.json : Layout :=
  { positional := fun e => -5 ≤ e && e ≤ 15
    wholePoint := true
    exponentPlus := true
    tie := .toEven
    nan := "null"
    infinity := "null"
    negInfinity := "null" }

/-- On the terminal every number is positional and a whole number shows no point. -/
def Layout.terminal : Layout :=
  { positional := fun _ => true
    wholePoint := false
    exponentPlus := false
    tie := .upward
    nan := "NaN"
    infinity := "inf"
    negInfinity := "-inf" }

/-- On a page a number by itself is positional and shows at least one decimal. -/
def Layout.page : Layout := { Layout.terminal with wholePoint := true }

/-- Inside a list or a map on a page, numbers from a ten-thousandth to below ten to the sixteenth
are positional. -/
def Layout.listed : Layout := { Layout.page with positional := fun e => -4 ≤ e && e ≤ 15 }

/-- Digits at their places around the point. -/
def Digits.positional (wholePoint : Bool) (d : Digits) : List Char :=
  let ds := Nat.toDigits 10 d.digits
  if 0 ≤ d.exponent then
    ds ++ List.replicate d.exponent.toNat '0' ++ if wholePoint then ['.', '0'] else []
  else
    let places := (-d.exponent).toNat
    if places < ds.length then ds.take (ds.length - places) ++ '.' :: ds.drop (ds.length - places)
    else '0' :: '.' :: List.replicate (places - ds.length) '0' ++ ds

/-- The exponent of the leading digit. -/
def Digits.leading (d : Digits) : Int := d.exponent + (Nat.toDigits 10 d.digits).length - 1

/-- One digit before the point, the others after it, and the exponent; a positive one shows its sign
if asked to. -/
def Digits.scientific (plus : Bool) (d : Digits) : List Char :=
  let ds := Nat.toDigits 10 d.digits
  let sign := if d.leading < 0 then ['-'] else if plus then ['+'] else []
  ds.take 1 ++ (if ds.length > 1 then '.' :: ds.drop 1 else [])
    ++ 'e' :: sign ++ Nat.toDigits 10 d.leading.natAbs

/-- The digits of a nonnegative finite number. -/
def Digits.written (l : Layout) (d : Digits) : List Char :=
  if l.positional d.leading then d.positional l.wholePoint else d.scientific l.exponentPlus

/-- The text of a double in a layout. -/
def written (l : Layout) (x : Double) : String :=
  if x.isNaN then l.nan
  else if !x.isFinite then if x.isNegative then l.negInfinity else l.infinity
  else
    let d : Digits := if x.magnitude = 0 then ⟨0, 0⟩ else x.shortest l.tie
    String.ofList ((if x.isNegative then ['-'] else []) ++ d.written l)

end ChatBoard.Double
