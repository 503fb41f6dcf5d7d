import ChatBoard.Decimal.Double

/-!
# The shortest digits that read back

Every real number nearer to a double than to its neighbours reads as that double. Among the
decimals in that interval the search takes one with the fewest digits, and of those the nearest to
the double. For each number of digits, from one upwards, it tests the two neighbours of the double
on the decimal grid of that many digits, in exact arithmetic; the first grid with a hit ends the
search. The ends of the interval belong to it when the significand is even.
-/

namespace ChatBoard.Double

/-- The number `digits · 10 ^ exponent`. -/
structure Digits where
  digits : Nat
  exponent : Int
  deriving DecidableEq, Repr

/-- Which of two equally near decimals is taken. -/
inductive Tie where
  | toEven
  | upward
  deriving DecidableEq, Repr

/-- A positive double and the ends of its interval, over one denominator. -/
structure Interval where
  value : Nat
  least : Nat
  greatest : Nat
  scale : Nat
  closed : Bool

/-- The interval of a positive finite double. Below a power of two the neighbours stand half as
far apart as above it. -/
def interval (x : Double) : Interval :=
  let m := x.significand
  let q := x.exponent - 2
  let below := if x.fractionField = 0 ∧ 1 < x.exponentField then 1 else 2
  let factor := if 0 ≤ q then Nat.pow 2 q.toNat else 1
  { value := 4 * m * factor
    least := (4 * m - below) * factor
    greatest := (4 * m + 2) * factor
    scale := if 0 ≤ q then 1 else Nat.pow 2 (-q).toNat
    closed := m % 2 = 0 }

/-- An interval in units of a power of ten. -/
def Interval.inUnits (i : Interval) (power : Int) : Interval :=
  if 0 ≤ power then { i with scale := i.scale * Nat.pow 10 power.toNat }
  else
    let factor := Nat.pow 10 (-power).toNat
    { i with value := i.value * factor, least := i.least * factor, greatest := i.greatest * factor }

/-- The number of units nearest to the value that lies in the interval, if one does. -/
def Interval.hit? (tie : Tie) (i : Interval) : Option Nat :=
  let d := i.value / i.scale
  let lower := if i.closed then i.least ≤ d * i.scale else i.least < d * i.scale
  let upper := if i.closed then (d + 1) * i.scale ≤ i.greatest
    else (d + 1) * i.scale < i.greatest
  if lower ∧ upper then
    -- Both neighbours read back: the nearer one is taken.
    let middle := (2 * d + 1) * i.scale
    if 2 * i.value < middle then some d
    else if middle < 2 * i.value then some (d + 1)
    else if tie = .toEven ∧ d % 2 = 0 then some d
    else some (d + 1)
  else if lower then some d
  else if upper then some (d + 1)
  else none

/-- The exponent of the leading decimal digit: the greatest `p` with `10 ^ p` at most the value.
The estimate from the bit length is off by one at most. -/
def Interval.leading (i : Interval) : Int :=
  let bits : Int := (Nat.log2 i.value : Int) - Nat.log2 i.scale
  let guess : Int := (bits * 30103).fdiv 100000
  let atLeast (p : Int) : Bool :=
    if 0 ≤ p then i.scale * Nat.pow 10 p.toNat ≤ i.value
    else i.scale ≤ i.value * Nat.pow 10 (-p).toNat
  if atLeast (guess + 1) then guess + 1
  else if atLeast guess then guess
  else guess - 1

/-- Tries grids of ever more digits; the last step takes the grid it has reached. -/
def search (tie : Tie) (i : Interval) (leading : Int) : Nat → Nat → Digits
  | 0, count =>
    -- Seventeen digits tell all doubles apart, so a search from one digit ends before this.
    let power := leading - count + 1
    let units := i.inUnits power
    ⟨units.value / units.scale, power⟩
  | more + 1, count =>
    let power := leading - count + 1
    match (i.inUnits power).hit? tie with
    | some d => ⟨d, power⟩
    | none => search tie i leading more (count + 1)

/-- Moves factors of ten from the digits into the exponent. -/
def Digits.withoutZeros : Nat → Digits → Digits
  | 0, d => d
  | more + 1, d =>
    if d.digits % 10 = 0 ∧ d.digits ≠ 0 then
      Digits.withoutZeros more ⟨d.digits / 10, d.exponent + 1⟩
    else d

/-- The shortest digits that read back as a finite double other than zero. -/
def shortest (tie : Tie) (x : Double) : Digits :=
  let i := x.interval
  (search tie i i.leading 17 1).withoutZeros 18

end ChatBoard.Double
