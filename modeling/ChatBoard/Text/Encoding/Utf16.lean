import ChatBoard.Text.Encoding.Items

/-!
# UTF-16

A unit is two octets. A leading surrogate and a trailing one after it are one character together; a
surrogate without its partner is none. What the text breaks off with, be it a single octet, a
leading surrogate or both, is lost as one piece.
-/

namespace ChatBoard.Text.Utf16

/-- The unit of two octets, the high octet first when `highFirst`. -/
def unit (highFirst : Bool) (a b : UInt8) : Nat :=
  if highFirst then a.toNat * 256 + b.toNat else b.toNat * 256 + a.toNat

/-- A unit that begins a pair. -/
def isLeading (u : Nat) : Bool := 0xd800 ≤ u && u < 0xdc00

/-- A unit that ends a pair. -/
def isTrailing (u : Nat) : Bool := 0xdc00 ≤ u && u < 0xe000

/-- The character of a pair of surrogates. -/
def joined (u v : Nat) : Char := Char.ofNat (0x10000 + (u - 0xd800) * 1024 + (v - 0xdc00))

/-- What octets begin with. -/
def item (highFirst : Bool) (a : UInt8) : Octets → Item
  | [] => .lost 0
  | b :: rest =>
    let u := unit highFirst a b
    if isTrailing u then .lost 1
    else if isLeading u then
      match rest with
      | c :: d :: _ =>
        let v := unit highFirst c d
        if isTrailing v then ⟨[joined u v], 3⟩ else .lost 1
      | short => .lost (1 + short.length)
    else ⟨[Char.ofNat u], 1⟩

/-- The characters of octets. -/
def decode (highFirst : Bool) (bs : Octets) : List Char := readItems (item highFirst) bs

end ChatBoard.Text.Utf16
