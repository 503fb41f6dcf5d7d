import ChatBoard.Octets

/-!
# Reading JSON from the left

A reader takes the octets that remain and gives a value and the octets after it, or the first
problem met. Problems are of three kinds, and which of two is reported depends only on which comes
first in the text.
-/

namespace ChatBoard.Json

/-- The first problem met in a text. -/
inductive Problem where
  /-- The text is no JSON here. -/
  | malformed
  /-- The text ends too early. -/
  | truncated
  /-- The text is JSON so far, but not of the kind asked for. -/
  | mismatch
  deriving DecidableEq, Repr

/-- A reader of values. -/
abbrev Reader (α : Type) := Octets → Except Problem (α × Octets)

/-- Space, tab, line feed and carriage return. -/
def isBlank (b : UInt8) : Bool := b == 0x20 || b == 0x09 || b == 0x0a || b == 0x0d

/-- Drops leading blanks. -/
def skipBlank (bs : Octets) : Octets := bs.dropWhile isBlank

/-- An ASCII digit. -/
def isDigit (b : UInt8) : Bool := 48 ≤ b && b ≤ 57

/-- Reads the rest of a fixed word. -/
def readWord : Octets → Octets → Except Problem Octets
  | [], bs => .ok bs
  | _ :: _, [] => .error .truncated
  | w :: ws, b :: bs => if w = b then readWord ws bs else .error .malformed

/-- Reads blanks and one fixed octet. -/
def readMark (mark : UInt8) (bs : Octets) : Except Problem Octets :=
  match skipBlank bs with
  | [] => .error .truncated
  | b :: rest => if b = mark then .ok rest else .error .malformed

/-- Reads a whole text: a value and nothing but blanks after it. -/
def readAll {α : Type} (read : Reader α) (bs : Octets) : Except Problem α :=
  match read bs with
  | .error p => .error p
  | .ok (value, rest) => if (skipBlank rest).isEmpty then .ok value else .error .malformed

end ChatBoard.Json
