import ChatBoard.Decimal.Rounded
import ChatBoard.Octets
import ChatBoard.Text.Numeral

/-!
# Data

The value of a column is nothing, a number, a text or octets. A column is meant for one kind of
them, and a value that is put into it is turned into that kind if nothing is lost: a number becomes
its text, and a text that is a numeral becomes the number. Any other value stays what it is.
-/

namespace ChatBoard

/-- The value of a column. -/
inductive Datum where
  | null
  | number (value : Int)
  | real (value : Double)
  | text (value : String)
  | octets (value : Octets)
  deriving DecidableEq, Repr

namespace Datum

/-- The least number that a column can hold. -/
def leastNumber : Int := -0x8000000000000000

/-- The greatest number that a column can hold. -/
def greatestNumber : Int := 0x7fffffffffffffff

/-- A double is kept as a number if it is one; the ends of the range are left out. -/
def ofReal (x : Double) : Datum :=
  if x.isWhole ∧ leastNumber < x.wholePart ∧ x.wholePart < greatestNumber then .number x.wholePart
  else .real x

/-- A blank that may surround a numeral. -/
def isBlank (c : Char) : Bool := c == ' ' || ('\t' ≤ c && c ≤ '\r')

/-- The number that digits denote. -/
def ofDigits (ds : List Char) : Nat := ds.foldl (fun n c => n * 10 + (c.toNat - 48)) 0

/-- Reads a sign, if there is one. -/
def readSign : List Char → Bool × List Char
  | '-' :: rest => (true, rest)
  | '+' :: rest => (false, rest)
  | cs => (false, cs)

/-- Reads digits after a point, if there is one, and whether there is. -/
def readPlaces : List Char → Bool × List Char × List Char
  | '.' :: rest => (true, rest.takeWhile Char.isDigit, rest.dropWhile Char.isDigit)
  | cs => (false, [], cs)

/-- Exponents beyond this size make no difference. -/
def exponentLimit : Nat := 10000

/-- Reads an exponent, if there is one; its mark without digits is a fault. -/
def readExponent : List Char → Option (Option Int × List Char)
  | [] => some (none, [])
  | c :: rest =>
    if c = 'e' ∨ c = 'E' then
      let (negative, cs) := readSign rest
      let ds := cs.takeWhile Char.isDigit
      let size : Int := min (ofDigits ds) exponentLimit
      if ds.isEmpty then none
      else some (some (if negative then -size else size), cs.dropWhile Char.isDigit)
    else some (none, c :: rest)

/-- The double nearest to a decimal. -/
def nearest (negative : Bool) (digits : Nat) (exponent : Int) : Double :=
  let size := Float.ofScientific digits (exponent < 0) exponent.natAbs
  .ofFloat (if negative then -size else size)

/-- The number that a text is, if it is a numeral with blanks around it at most. A numeral has a
digit before or after its point. -/
def numeral? (s : String) : Option Datum :=
  let (negative, cs) := readSign (s.toList.dropWhile isBlank)
  let whole := cs.takeWhile Char.isDigit
  let (hasPoint, places, rest) := readPlaces (cs.dropWhile Char.isDigit)
  match readExponent rest with
  | none => none
  | some (exponent, rest) =>
    if (whole ++ places).isEmpty || !rest.all isBlank then none
    else
      let size : Int := ofDigits whole
      let i := if negative then -size else size
      if !hasPoint ∧ exponent = none ∧ leastNumber ≤ i ∧ i ≤ greatestNumber then some (.number i)
      else
        some (ofReal (nearest negative (ofDigits (whole ++ places))
          (exponent.getD 0 - places.length)))

/-- A value in a column for numbers. -/
def asNumber : Datum → Datum
  | text s => (numeral? s).getD (.text s)
  | real x => ofReal x
  | d => d

/-- A value in a column for texts. -/
def asText : Datum → Datum
  | number i => .text (Numeral.ofInt i)
  | real x => .text x.keptText
  | d => d

/-- A number stays what it is in a column for numbers. -/
@[simp] theorem asNumber_number (i : Int) : asNumber (.number i) = .number i := rfl

/-- A text stays what it is in a column for texts. -/
@[simp] theorem asText_text (s : String) : asText (.text s) = .text s := rfl

end Datum

/-- Columns with their values. -/
abbrev Columns := List (String × Datum)

namespace Columns

/-- The value of a column. -/
def get (cs : Columns) (name : String) : Datum := (cs.lookup name).getD .null

/-- Gives a column another value. -/
def set (cs : Columns) (name : String) (value : Datum) : Columns :=
  cs.map fun c => if c.1 = name then (name, value) else c

/-- Giving one column another value leaves the others alone. -/
theorem get_set_of_ne (cs : Columns) {name other : String} (value : Datum) (h : other ≠ name) :
    (cs.set name value).get other = cs.get other := by
  unfold get set
  congr 1
  induction cs with
  | nil => rfl
  | cons c rest ih =>
    obtain ⟨key, d⟩ := c
    by_cases hk : key = name
    · have ho : (other == key) = false := beq_false_of_ne fun e => h (e.trans hk)
      simpa [List.lookup_cons, hk ▸ ho, hk] using ih
    · cases ho : other == key
      · simpa [List.lookup_cons, hk, ho] using ih
      · simp [List.lookup_cons, hk, ho]

end Columns

end ChatBoard
