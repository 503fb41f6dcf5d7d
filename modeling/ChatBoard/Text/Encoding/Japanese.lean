import ChatBoard.Text.Encoding.Items
import ChatBoard.Text.Encoding.Jis

/-!
# Japanese encodings

Three encodings of the Japanese character sets. Shift_JIS and EUC-JP tell by its value whether an
octet begins a longer character; ISO-2022-JP has octets of seven bits only, and escape sequences
switch between its sets.
-/

namespace ChatBoard.Text

/-- The halfwidth katakana with a number. -/
def halfwidth (n : Nat) : Char := Char.ofNat (0xff61 + n)

namespace ShiftJis

/-- The character of two octets. Numbers of one stretch are for private use. -/
def pair? (lead second : UInt8) : Option (List Char) :=
  if (0x40 ≤ second ∧ second ≤ 0x7e) ∨ (0x80 ≤ second ∧ second ≤ 0xfc) then
    let row := lead.toNat - if lead < 0xa0 then 0x81 else 0xc1
    let n := row * 188 + (second.toNat - if second < 0x7f then 0x40 else 0x41)
    if 8836 ≤ n ∧ n ≤ 10715 then some [Char.ofNat (0xe000 + (n - 8836))]
    else (Jis.main? n).map fun c => [c]
  else none

/-- What octets begin with. -/
def item (b : UInt8) (rest : Octets) : Item :=
  if b ≤ 0x80 then ⟨[Char.ofNat b.toNat], 0⟩
  else if 0xa1 ≤ b ∧ b ≤ 0xdf then ⟨[halfwidth (b.toNat - 0xa1)], 0⟩
  else if b = 0xa0 ∨ 0xfd ≤ b then .lost 0
  else .pairWith (pair? b) rest

end ShiftJis

namespace EucJp

/-- An octet of the upper half that names a row or a place in it. -/
def isHigh (b : UInt8) : Bool := 0xa1 ≤ b && b ≤ 0xfe

/-- The number of a row and a place. -/
def number (row place : UInt8) : Nat := (row.toNat - 0xa1) * 94 + (place.toNat - 0xa1)

/-- The character of two octets. -/
def pair? (lead second : UInt8) : Option (List Char) :=
  if lead = 0x8e then
    if 0xa1 ≤ second ∧ second ≤ 0xdf then some [halfwidth (second.toNat - 0xa1)] else none
  else if isHigh lead && isHigh second then (Jis.main? (number lead second)).map fun c => [c]
  else none

/-- The character of the supplementary set in two octets. -/
def supplement? (row place : UInt8) : Option (List Char) :=
  if isHigh place then (Jis.supplement? (number row place)).map fun c => [c] else none

/-- What octets begin with. The supplementary set is announced by an octet of its own. -/
def item (b : UInt8) (rest : Octets) : Item :=
  if b < 0x80 then ⟨[Char.ofNat b.toNat], 0⟩
  else if b ≠ 0x8e ∧ b ≠ 0x8f ∧ !isHigh b then .lost 0
  else
    match rest with
    | row :: after =>
      if b = 0x8f ∧ isHigh row then
        let found := Item.pairWith (supplement? row) after
        ⟨found.chars, found.more + 1⟩
      else .pairWith (pair? b) rest
    | [] => .lost 0

end EucJp

namespace Iso2022Jp

/-- The set that octets belong to. -/
inductive Shift where
  | ascii
  | roman
  | katakana
  | kanji
  deriving DecidableEq, Repr

/-- The present set, and whether nothing has been read in it since an escape sequence chose it. -/
structure State where
  shift : Shift
  fresh : Bool
  deriving DecidableEq, Repr

/-- The state at the start of a text. -/
def State.initial : State := ⟨.ascii, false⟩

/-- The set that an escape sequence chooses. -/
def chosen? : Octets → Option Shift
  | 0x28 :: 0x42 :: _ => some .ascii
  | 0x28 :: 0x4a :: _ => some .roman
  | 0x28 :: 0x49 :: _ => some .katakana
  | 0x24 :: 0x40 :: _ => some .kanji
  | 0x24 :: 0x42 :: _ => some .kanji
  | _ => none

/-- An octet of ASCII that is neither an escape nor one of the two shifts. -/
def isSingle (b : UInt8) : Bool := b < 0x80 && b != 0x0e && b != 0x0f && b != 0x1b

/-- An octet that names a row or a place in it. -/
def isPlace (b : UInt8) : Bool := 0x21 ≤ b && b ≤ 0x7e

/-- The item of an octet that stands for itself or for nothing. -/
def single (found : Option Char) : Item :=
  match found with
  | some c => ⟨[c], 0⟩
  | none => .lost 0

/-- What octets begin with in a set. -/
def itemIn (shift : Shift) (b : UInt8) (rest : Octets) : Item :=
  match shift with
  | .ascii => single (if isSingle b then some (Char.ofNat b.toNat) else none)
  | .roman =>
    single (if b = 0x5c then some (Char.ofNat 0xa5)
      else if b = 0x7e then some (Char.ofNat 0x203e)
      else if isSingle b then some (Char.ofNat b.toNat) else none)
  | .katakana =>
    single (if 0x21 ≤ b ∧ b ≤ 0x5f then some (halfwidth (b.toNat - 0x21)) else none)
  | .kanji =>
    if isPlace b then
      match rest with
      | [] => .lost 0
      | second :: _ =>
        if second = 0x1b then .lost 0
        else if isPlace second then
          match Jis.main? ((b.toNat - 0x21) * 94 + (second.toNat - 0x21)) with
          | some c => ⟨[c], 1⟩
          | none => .lost 1
        else .lost 1
    else .lost 0

/-- What octets begin with. An escape sequence is nothing by itself, unless it follows another one
at once. -/
def item (s : State) (b : UInt8) (rest : Octets) : Item × State :=
  if b = 0x1b then
    match chosen? rest with
    | some shift => (⟨if s.fresh then [replacement] else [], 2⟩, ⟨shift, true⟩)
    | none => (.lost 0, ⟨s.shift, false⟩)
  else (itemIn s.shift b rest, ⟨s.shift, false⟩)

/-- The characters of octets. -/
def decode (bs : Octets) : List Char := readFrom item .initial [] bs

end Iso2022Jp

end ChatBoard.Text
