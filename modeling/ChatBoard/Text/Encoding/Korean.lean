import ChatBoard.Text.Encoding.Hangul
import ChatBoard.Text.Encoding.Items

/-!
# The Korean encoding

EUC-KR, as it is used with the unified code: an octet is ASCII or the first of two.
-/

namespace ChatBoard.Text.EucKr

/-- The character of two octets. -/
def pair? (lead second : UInt8) : Option (List Char) :=
  if 0x41 ≤ second ∧ second ≤ 0xfe then
    (Hangul.char? ((lead.toNat - 0x81) * 190 + (second.toNat - 0x41))).map fun c => [c]
  else none

/-- What octets begin with. -/
def item (b : UInt8) (rest : Octets) : Item :=
  if b < 0x80 then ⟨[Char.ofNat b.toNat], 0⟩
  else if b = 0x80 ∨ b = 0xff then .lost 0
  else .pairWith (pair? b) rest

end ChatBoard.Text.EucKr
