import ChatBoard.Codec.Percent
import ChatBoard.Text.Utf8

/-!
# Url-encoded fields

Queries and form bodies are pieces between ampersands. A piece is a name, and a value after its
first equals sign if it has one; in both a plus sign is a space and percent escapes are decoded.
Empty pieces are no fields. Fields keep their order, since the first fault met decides.
-/

namespace ChatBoard.Form

/-- A name and a value. -/
abbrev Field := String × String

/-- A plus sign stands for a space. -/
def spaceOfPlus (b : UInt8) : UInt8 := if b = 0x2b then 0x20 else b

/-- The text that an encoded name or value stands for. -/
def decodeText (bs : Octets) : String := Text.repaired (Percent.decode (bs.map spaceOfPlus))

/-- The field of one piece. -/
def field (piece : Octets) : Field :=
  let (name, value) := Octets.cutAt 0x3d piece
  (decodeText name, decodeText (value.getD []))

/-- The fields of a query or a form body, in order. -/
def fields (bs : Octets) : List Field :=
  ((bs.splitOn 0x26).filter (!·.isEmpty)).map field

end ChatBoard.Form
