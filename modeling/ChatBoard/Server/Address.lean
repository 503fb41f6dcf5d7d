import ChatBoard.Text.Mark
import ChatBoard.Text.Numeral

/-!
# Addresses to listen on

An address is written as a numeric host and a port. A host of four parts has decimal parts without
leading zeros; one of eight groups stands between brackets, its groups are hexadecimal, a run of
zero groups may be left out, the last two groups may be written as four decimal parts, and a zone
may follow. The shown form leaves out the longest run of zero groups.
-/

namespace ChatBoard

/-- An address with its port. -/
inductive Address where
  | four (parts : List Nat) (port : Nat)
  | six (groups : List Nat) (zone : Nat) (port : Nat)
  deriving DecidableEq, Repr

namespace Address

/-- The port of an address. -/
def port : Address → Nat
  | four _ port => port
  | six _ _ port => port

/-- The value of a digit in a radix up to sixteen. -/
def digit? (radix : Nat) (c : Char) : Option Nat :=
  let n := c.toNat
  let v := if 48 ≤ n ∧ n ≤ 57 then n - 48
    else if 97 ≤ n ∧ n ≤ 102 then n - 87
    else if 65 ≤ n ∧ n ≤ 70 then n - 55
    else 16
  if v < radix then some v else none

/-- Reads a number up to a limit: all digits that come. -/
def readNumber (radix limit : Nat) (cs : List Char) : Option (Nat × Nat × List Char) :=
  let isDigit (c : Char) : Bool := (digit? radix c).isSome
  let ds := cs.takeWhile isDigit
  let value := ds.foldl (fun n c => n * radix + (digit? radix c).getD 0) 0
  if ds.isEmpty || value > limit then none else some (value, ds.length, cs.dropWhile isDigit)

/-- Reads a decimal part: up to 255, at most three digits, no leading zero. -/
def readPart (cs : List Char) : Option (Nat × List Char) :=
  match readNumber 10 255 cs with
  | none => none
  | some (n, digits, rest) =>
    if digits > 3 ∨ (digits > 1 ∧ cs.head? = some '0') then none else some (n, rest)

/-- Reads a hexadecimal group of at most four digits. -/
def readGroup (cs : List Char) : Option (Nat × List Char) :=
  match readNumber 16 65535 cs with
  | none => none
  | some (n, digits, rest) => if digits > 4 then none else some (n, rest)

/-- Reads four decimal parts with full stops between them. -/
def readFour (cs : List Char) : Option (List Nat × List Char) := do
  let (a, cs) ← readPart cs
  let (b, cs) ← readPart (← Text.readMark '.' cs)
  let (c, cs) ← readPart (← Text.readMark '.' cs)
  let (d, cs) ← readPart (← Text.readMark '.' cs)
  pure ([a, b, c, d], cs)

/-- Passes over the colon before every group but the first. -/
def toGroup (first : Bool) (cs : List Char) : Option (List Char) :=
  if first then some cs else Text.readMark ':' cs

/-- The two groups that four decimal parts stand for. -/
def groupsOf : List Nat → List Nat
  | [a, b, c, d] => [a * 256 + b, c * 256 + d]
  | _ => []

/-- Reads at most as many groups as are left, and tells whether they end in four decimal parts,
which take the place of two groups. -/
def readGroups (first : Bool) : Nat → List Char → List Nat × Bool × List Char
  | 0, cs => ([], false, cs)
  | left + 1, cs =>
    -- Four decimal parts need the places of two groups.
    match if left = 0 then none else (toGroup first cs).bind readFour with
    | some (parts, rest) => (groupsOf parts, true, rest)
    | none =>
      match (toGroup first cs).bind readGroup with
      | none => ([], false, cs)
      | some (g, rest) =>
        let (gs, dotted, rest) := readGroups false left rest
        (g :: gs, dotted, rest)

/-- Reads eight groups, of which a run of zeros may be left out. -/
def readSix (cs : List Char) : Option (List Nat × List Char) :=
  let (head, dotted, rest) := readGroups true 8 cs
  if head.length = 8 then some (head, rest)
  else if dotted then none
  else
    match (Text.readMark ':' rest).bind (Text.readMark ':') with
    | none => none
    | some rest =>
      let (tail, _, rest) := readGroups true (7 - head.length) rest
      some (head ++ List.replicate (8 - head.length - tail.length) 0 ++ tail, rest)

/-- Reads a zone after a percent sign; without one it is 0. -/
def readZone (cs : List Char) : Nat × List Char :=
  match (Text.readMark '%' cs).bind (readNumber 10 0xffffffff) with
  | some (n, _, rest) => (n, rest)
  | none => (0, cs)

/-- Reads a colon and a port, after which nothing follows. -/
def readPort (cs : List Char) : Option Nat :=
  match (Text.readMark ':' cs).bind (readNumber 10 65535) with
  | some (n, _, []) => some n
  | _ => none

/-- The address that a text writes. -/
def ofText? (s : String) : Option Address :=
  match s.toList with
  | '[' :: cs => do
    let (groups, cs) ← readSix cs
    let (zone, cs) := readZone cs
    let port ← readPort (← Text.readMark ']' cs)
    pure (six groups zone port)
  | cs => do
    let (parts, cs) ← readFour cs
    let port ← readPort cs
    pure (four parts port)

/-- Decimal parts with full stops between them. -/
def partsText (parts : List Nat) : String := String.intercalate "." (parts.map Numeral.ofNat)

/-- Hexadecimal groups with colons between them. -/
def groupsText (groups : List Nat) : String :=
  String.intercalate ":" (groups.map fun g => String.ofList (Nat.toDigits 16 g))

/-- The number of zero groups at the start. -/
def zerosAt (groups : List Nat) : Nat := (groups.takeWhile (· == 0)).length

/-- The place and the length of the first longest run of zero groups. -/
def longestRun (groups : List Nat) : Nat × Nat :=
  (List.range groups.length).foldl (fun best i =>
    if zerosAt (groups.drop i) > best.2 then (i, zerosAt (groups.drop i)) else best) (0, 0)

/-- The text of eight groups. Groups that stand for four decimal parts are shown as such. -/
def sixText (groups : List Nat) : String :=
  match groups with
  | [0, 0, 0, 0, 0, 0xffff, g, h] =>
    "::ffff:" ++ partsText [g / 256, g % 256, h / 256, h % 256]
  | _ =>
    let (start, length) := longestRun groups
    if length > 1 then
      groupsText (groups.take start) ++ "::" ++ groupsText (groups.drop (start + length))
    else groupsText groups

/-- The text of an address. -/
def text : Address → String
  | four parts port => partsText parts ++ ":" ++ Numeral.ofNat port
  | six groups zone port =>
    "[" ++ sixText groups ++ (if zone = 0 then "" else "%" ++ Numeral.ofNat zone) ++ "]:"
      ++ Numeral.ofNat port

end Address

end ChatBoard
