import ChatBoard.Text.Blank
import ChatBoard.Text.Mark
import ChatBoard.Text.Numeral

/-!
# Dates and times of day

A moment of the proleptic Gregorian calendar is read from the form `year-month-day
hour:minute:second` and shown with solidi in the date. Blanks may stand before each number, and
also between date and time; nothing may follow the second. A year has at most four digits unless it
carries a sign. Second 60 is a leap second and may follow any minute.
-/

namespace ChatBoard

/-- A moment, not yet known to exist. -/
structure Moment where
  year : Int
  month : Nat
  day : Nat
  hour : Nat
  minute : Nat
  second : Nat
  deriving DecidableEq, Repr

namespace Moment

/-- A year with a 29th of February. -/
def isLeap (year : Int) : Bool := year % 4 = 0 && (year % 100 ≠ 0 || year % 400 = 0)

/-- The number of days of a month; none for a number that is no month. -/
def daysIn (year : Int) (month : Nat) : Nat :=
  if month = 2 then if isLeap year then 29 else 28
  else if month = 4 ∨ month = 6 ∨ month = 9 ∨ month = 11 then 30
  else if 1 ≤ month ∧ month ≤ 12 then 31
  else 0

/-- The date and the time of day exist, and the year is in the calendar's range. -/
def isValid (t : Moment) : Bool :=
  -262143 ≤ t.year && t.year ≤ 262142 && 1 ≤ t.day && t.day ≤ daysIn t.year t.month
    && t.hour < 24 && t.minute < 60 && t.second ≤ 60

/-- Takes at most `limit` digits; how many were taken tells whether there were any. -/
def takeDigits : Nat → List Char → List Nat × List Char
  | 0, cs => ([], cs)
  | _ + 1, [] => ([], [])
  | limit + 1, c :: cs =>
    match Numeral.digit? c with
    | none => ([], c :: cs)
    | some d =>
      let (ds, rest) := takeDigits limit cs
      (d :: ds, rest)

/-- The number that digits write. -/
def valueOf (ds : List Nat) : Nat := ds.foldl (fun n d => n * 10 + d) 0

/-- Reads a number of one to `limit` digits. -/
def readDigits (limit : Nat) (cs : List Char) : Option (Nat × List Char) :=
  match takeDigits limit cs with
  | ([], _) => none
  | (ds, rest) => some (valueOf ds, rest)

/-- Reads a year: at most four digits, or a sign and any number of them. -/
def readYear (cs : List Char) : Option (Int × List Char) :=
  match Text.skipBlanks cs with
  | '-' :: rest => (readDigits rest.length rest).map fun (n, rest) => (-(n : Int), rest)
  | '+' :: rest => (readDigits rest.length rest).map fun (n, rest) => ((n : Int), rest)
  | rest => (readDigits 4 rest).map fun (n, rest) => ((n : Int), rest)

/-- Reads a number of one or two digits after blanks. -/
def readPart (cs : List Char) : Option (Nat × List Char) := readDigits 2 (Text.skipBlanks cs)

/-- The six numbers of a text, whether or not they denote a moment. -/
def parts? (cs : List Char) : Option Moment := do
  let (year, cs) ← readYear cs
  let cs ← Text.readMark '-' cs
  let (month, cs) ← readPart cs
  let cs ← Text.readMark '-' cs
  let (day, cs) ← readPart cs
  let (hour, cs) ← readPart cs
  let cs ← Text.readMark ':' cs
  let (minute, cs) ← readPart cs
  let cs ← Text.readMark ':' cs
  let (second, cs) ← readPart cs
  if cs.isEmpty then some ⟨year, month, day, hour, minute, second⟩ else none

/-- The moment that a text denotes. -/
def ofText? (s : String) : Option Moment :=
  match parts? s.toList with
  | some t => if t.isValid then some t else none
  | none => none

/-- A year in four digits; outside of 0 to 9999 a sign stands before at least four. -/
def yearText (year : Int) : String :=
  if 0 ≤ year ∧ year ≤ 9999 then Numeral.padded 4 year.toNat
  else (if year < 0 then "-" else "+") ++ Numeral.padded 4 year.natAbs

/-- A moment with a given mark between the parts of the date. -/
def textWith (mark : String) (t : Moment) : String :=
  yearText t.year ++ mark ++ Numeral.padded 2 t.month ++ mark ++ Numeral.padded 2 t.day
    ++ " " ++ Numeral.padded 2 t.hour ++ ":" ++ Numeral.padded 2 t.minute
    ++ ":" ++ Numeral.padded 2 t.second

/-- The form in which clients see a moment. -/
def shown (t : Moment) : String := t.textWith "/"

end Moment

/-- The date shown for a stored text: the moment it denotes, or the text itself. -/
def displayDate (stored : String) : String :=
  match Moment.ofText? stored with
  | some t => t.shown
  | none => stored

end ChatBoard
