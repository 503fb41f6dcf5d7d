import ChatBoard.Text.Encoding.Big5
import ChatBoard.Text.Encoding.Gb
import ChatBoard.Text.Encoding.Items

/-!
# Chinese encodings

Two encodings of the Chinese character sets. In GB 18030 an octet that is not ASCII begins a
character of two octets, or of four when a digit follows it. In Big5 it begins one of two.
-/

namespace ChatBoard.Text

namespace Gb18030

/-- The place of a second octet in its row. -/
def place? (second : UInt8) : Option Nat :=
  if 0x40 ≤ second ∧ second ≤ 0x7e then some (second.toNat - 0x40)
  else if 0x80 ≤ second ∧ second ≤ 0xfe then some (second.toNat - 0x41)
  else none

/-- The character of two octets. -/
def pair? (lead second : UInt8) : Option (List Char) :=
  match place? second with
  | some place => (Gb.pair? ((lead.toNat - 0x81) * 190 + place)).map fun c => [c]
  | none => none

/-- An ASCII digit. -/
def isDigit (b : UInt8) : Bool := 0x30 ≤ b && b ≤ 0x39

/-- An octet that begins a pair of octets. -/
def isLead (b : UInt8) : Bool := 0x81 ≤ b && b ≤ 0xfe

/-- The number of four octets. -/
def number (a b c d : UInt8) : Nat :=
  (((a.toNat - 0x81) * 10 + (b.toNat - 0x30)) * 126 + (c.toNat - 0x81)) * 10 + (d.toNat - 0x30)

/-- The item of an octet with a digit after it. If the four octets do not belong together, the
first one alone is lost; a text that breaks off loses what it breaks off with. -/
def quadruple (a b : UInt8) : Octets → Item
  | [] => .lost 1
  | [c] => if isLead c then .lost 2 else .lost 0
  | c :: d :: _ =>
    if isLead c && isDigit d then
      match Gb.quadruple? (number a b c d) with
      | some found => ⟨[found], 3⟩
      | none => .lost 3
    else .lost 0

/-- What octets begin with. -/
def item (b : UInt8) (rest : Octets) : Item :=
  if b < 0x80 then ⟨[Char.ofNat b.toNat], 0⟩
  else if b = 0x80 then ⟨[Char.ofNat 0x20ac], 0⟩
  else if b = 0xff then .lost 0
  else
    match rest with
    | second :: after => if isDigit second then quadruple b second after
      else .pair (pair? b second) second
    | [] => .lost 0

end Gb18030

namespace Big5

/-- The place of a second octet in its row. -/
def place? (second : UInt8) : Option Nat :=
  if 0x40 ≤ second ∧ second ≤ 0x7e then some (second.toNat - 0x40)
  else if 0xa1 ≤ second ∧ second ≤ 0xfe then some (second.toNat - 0x62)
  else none

/-- The characters of two octets. -/
def pair? (lead second : UInt8) : Option (List Char) :=
  match place? second with
  | some place => chars? ((lead.toNat - 0x81) * 157 + place)
  | none => none

/-- What octets begin with. -/
def item (b : UInt8) (rest : Octets) : Item :=
  if b < 0x80 then ⟨[Char.ofNat b.toNat], 0⟩
  else if b = 0x80 ∨ b = 0xff then .lost 0
  else .pairWith (pair? b) rest

end Big5

end ChatBoard.Text
