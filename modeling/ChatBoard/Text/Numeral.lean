/-!
# Decimal numerals with a limit

How a decimal numeral is read into a bounded range. A numeral is an optional sign and at least one
ASCII digit. It is read from the left and the first fault decides: at each place a character that
is no digit counts before a value that has grown out of range.
-/

namespace ChatBoard

/-- Why a text is no numeral of the range asked for. -/
inductive NumeralFault where
  | empty
  | notADigit
  | tooLarge
  | tooSmall
  deriving DecidableEq, Repr

/-- The wording of a fault. -/
def NumeralFault.message : NumeralFault → String
  | .empty => "cannot parse integer from empty string"
  | .notADigit => "invalid digit found in string"
  | .tooLarge => "number too large to fit in target type"
  | .tooSmall => "number too small to fit in target type"

namespace Numeral

/-- The value of an ASCII digit. -/
def digit? (c : Char) : Option Nat :=
  if '0' ≤ c ∧ c ≤ '9' then some (c.toNat - 48) else none

/-- Appends digits to a value; `beyond` is the fault of a value above `limit`. -/
def readDigits (limit : Nat) (beyond : NumeralFault) : Nat → List Char → Except NumeralFault Nat
  | value, [] => .ok value
  | value, c :: rest =>
    match digit? c with
    | none => .error .notADigit
    | some d =>
      if value * 10 + d ≤ limit then readDigits limit beyond (value * 10 + d) rest
      else .error beyond

/-- Reads digits after a sign, of which there must be one. -/
def readMagnitude (limit : Nat) (beyond : NumeralFault) : List Char → Except NumeralFault Nat
  | [] => .error .notADigit
  | cs => readDigits limit beyond 0 cs

/-- Reads a numeral from 0 to `limit`, which may carry a plus sign. -/
def readNat (limit : Nat) (s : String) : Except NumeralFault Nat :=
  match s.toList with
  | [] => .error .empty
  | '+' :: rest => readMagnitude limit .tooLarge rest
  | cs => readDigits limit .tooLarge 0 cs

/-- Reads a numeral of the signed 64-bit range, which may carry a sign. -/
def readInt64 (s : String) : Except NumeralFault Int :=
  match s.toList with
  | [] => .error .empty
  | '+' :: rest => (readMagnitude 0x7fffffffffffffff .tooLarge rest).map Int.ofNat
  | '-' :: rest => (readMagnitude 0x8000000000000000 .tooSmall rest).map fun n => -(Int.ofNat n)
  | cs => (readDigits 0x7fffffffffffffff .tooLarge 0 cs).map Int.ofNat

/-- The decimal numeral of a natural number. -/
def ofNat (n : Nat) : String := String.ofList (Nat.toDigits 10 n)

/-- The decimal numeral of an integer, with a minus sign when it is negative. -/
def ofInt : Int → String
  | .ofNat n => ofNat n
  | .negSucc n => "-" ++ ofNat (n + 1)

/-- The decimal numeral of a number, filled up with zeros on the left to a width. -/
def padded (width n : Nat) : String :=
  let ds := Nat.toDigits 10 n
  String.ofList (List.replicate (width - ds.length) '0' ++ ds)

end Numeral

end ChatBoard
