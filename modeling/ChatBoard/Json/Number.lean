import ChatBoard.Decimal.Layout
import ChatBoard.Decimal.Scaled
import ChatBoard.Json.Reader

/-!
# Numbers in JSON

A number without point and exponent is an integer when it fits in 64 bits; every other number, and
negative zero, is a double. At most as many digits as fit in 64 bits go into the significand; of
those beyond it only the places count.
-/

namespace ChatBoard.Json

/-- A number as it was written. -/
inductive Number where
  | integer (value : Int)
  | real (value : Double)
  deriving DecidableEq, Repr

/-- The greatest significand. -/
def maxSignificand : Nat := 0xffffffffffffffff

/-- Appends digits to a significand as long as it fits; the count says how many were taken. -/
def gather : Nat → Nat → Octets → Nat × Nat × Octets
  | value, count, [] => (value, count, [])
  | value, count, b :: rest =>
    if isDigit b then
      let next := value * 10 + (b.toNat - 48)
      if next ≤ maxSignificand then gather next (count + 1) rest else (value, count, b :: rest)
    else (value, count, b :: rest)

/-- The double of a sign, a significand and a power of ten; out of range is malformed. -/
def realOf (negative : Bool) (significand : Nat) (exponent : Int) (rest : Octets) :
    Except Problem (Number × Octets) :=
  match Double.scaled? negative significand exponent with
  | some x => .ok (.real x, rest)
  | none => .error .malformed

/-- The greatest exponent that is read as it stands. -/
def maxExponent : Nat := 0x7fffffff

/-- Appends digits to an exponent as long as it is in range; nothing when it is not. -/
def readExponentDigits : Nat → Octets → Option Nat × Octets
  | value, [] => (some value, [])
  | value, b :: rest =>
    if isDigit b then
      let next := value * 10 + (b.toNat - 48)
      if next ≤ maxExponent then readExponentDigits next rest else (none, rest)
    else (some value, b :: rest)

/-- Reads after the exponent mark. An exponent beyond the range makes the number zero, or is
malformed when the number would be infinite. -/
def readExponent (negative : Bool) (significand : Nat) (places : Int) (bs : Octets) :
    Except Problem (Number × Octets) :=
  let (negativeExponent, digits) : Bool × Octets :=
    match bs with
    | 0x2b :: rest => (false, rest)
    | 0x2d :: rest => (true, rest)
    | _ => (false, bs)
  match digits with
  | [] => .error .truncated
  | b :: _ =>
    if !isDigit b then .error .malformed
    else
      match readExponentDigits 0 digits with
      | (some e, rest) =>
        realOf negative significand (if negativeExponent then places - e else places + e) rest
      | (none, rest) =>
        if significand ≠ 0 ∧ !negativeExponent then .error .malformed
        else realOf negative 0 0 (rest.dropWhile isDigit)

/-- Is an exponent mark. -/
def isExponentMark (b : UInt8) : Bool := b == 0x65 || b == 0x45

/-- Reads after the point; `places` counts the digits that were dropped before it. -/
def readFraction (negative : Bool) (significand : Nat) (places : Int) (bs : Octets) :
    Except Problem (Number × Octets) :=
  let (value, count, rest) := gather significand 0 bs
  match rest with
  | b :: after =>
    if isDigit b then
      -- The digits that no longer fit are passed over.
      let exponent := places - count
      match rest.dropWhile isDigit with
      | c :: tail =>
        if isExponentMark c then readExponent negative value exponent tail
        else realOf negative value exponent (c :: tail)
      | [] => realOf negative value exponent []
    else if count = 0 then .error .malformed
    else if isExponentMark b then readExponent negative value (places - count) after
    else realOf negative value (places - count) rest
  | [] => if count = 0 then .error .truncated else realOf negative value (places - count) []

/-- Reads after the digits before the point. -/
def readTail (negative : Bool) (significand : Nat) (dropped : Nat) (rest : Octets) :
    Except Problem (Number × Octets) :=
  let whole : Except Problem (Number × Octets) :=
    if dropped = 0 then
      if !negative then .ok (.integer significand, rest)
      else if 1 ≤ significand ∧ significand ≤ 0x8000000000000000 then
        .ok (.integer (-significand), rest)
      else realOf true significand 0 rest
    else realOf negative significand dropped rest
  match rest with
  | b :: after =>
    if b = 0x2e then readFraction negative significand dropped after
    else if isExponentMark b then readExponent negative significand dropped after
    else whole
  | [] => whole

/-- Reads a number after its sign. A leading zero stands alone before the point. -/
def readUnsigned (negative : Bool) (bs : Octets) : Except Problem (Number × Octets) :=
  match bs with
  | [] => .error .truncated
  | b :: rest =>
    if b = 0x30 then
      match rest with
      | c :: _ => if isDigit c then .error .malformed else readTail negative 0 0 rest
      | [] => readTail negative 0 0 rest
    else if isDigit b then
      let (value, _, after) := gather 0 0 bs
      let dropped := (after.takeWhile isDigit).length
      readTail negative value dropped (after.drop dropped)
    else .error .malformed

/-- Reads a number, which begins with a digit or a minus sign. -/
def readNumber : Reader Number
  | 0x2d :: rest => readUnsigned true rest
  | bs => readUnsigned false bs

/-- Passes over the digits after an exponent mark. -/
def skipExponent (bs : Octets) : Except Problem Octets :=
  let digits : Octets :=
    match bs with
    | 0x2b :: rest => rest
    | 0x2d :: rest => rest
    | _ => bs
  match digits with
  | b :: rest => if isDigit b then .ok (rest.dropWhile isDigit) else .error .malformed
  | [] => .error .malformed

/-- Passes over what may follow the digits before the point. -/
def skipTail (bs : Octets) : Except Problem Octets :=
  match bs with
  | [] => .ok bs
  | b :: rest =>
    if b = 0x2e then
      match rest with
      | c :: _ =>
        if isDigit c then
          match rest.dropWhile isDigit with
          | d :: tail => if isExponentMark d then skipExponent tail else .ok (d :: tail)
          | [] => .ok []
        else .error .malformed
      | [] => .error .malformed
    else if isExponentMark b then skipExponent rest
    else .ok bs

/-- Passes over a number after its sign, whatever its size. -/
def skipUnsigned (bs : Octets) : Except Problem Octets :=
  match bs with
  | [] => .error .malformed
  | b :: rest =>
    if b = 0x30 then
      match rest with
      | c :: _ => if isDigit c then .error .malformed else skipTail rest
      | [] => skipTail rest
    else if isDigit b then skipTail (rest.dropWhile isDigit)
    else .error .malformed

/-- The written form of an integer. -/
def writeInt (i : Int) : Octets := Octets.ofText (Numeral.ofInt i)

/-- The written form of a double. -/
def writeDouble (x : Double) : Octets := Octets.ofText (x.written .json)

end ChatBoard.Json
