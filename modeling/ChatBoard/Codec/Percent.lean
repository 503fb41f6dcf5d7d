import ChatBoard.Octets

/-!
# Percent escapes

A percent sign before two hexadecimal digits stands for one octet. Decoding never fails: a percent
sign that begins no escape stands for itself.
-/

namespace ChatBoard.Percent

/-- The octet that an escape stands for, if the octet `c` and those after it begin one. -/
def escaped? (c : UInt8) : Octets → Option UInt8
  | a :: b :: _ =>
    if c = 0x25 then
      match Octets.hexValue a, Octets.hexValue b with
      | some x, some y => some (UInt8.ofNat (x * 16 + y))
      | _, _ => none
    else none
  | _ => none

/-- Decodes onto the octets already decoded, which are kept newest first; `skip` octets of an
escape just decoded are passed over. -/
def decodeOnto (done : Octets) : Nat → Octets → Octets
  | _, [] => done.reverse
  | skip + 1, _ :: rest => decodeOnto done skip rest
  | 0, c :: rest =>
    match escaped? c rest with
    | some b => decodeOnto (b :: done) 2 rest
    | none => decodeOnto (c :: done) 0 rest

/-- The octets that a text with escapes stands for. -/
def decode (bs : Octets) : Octets := decodeOnto [] 0 bs

end ChatBoard.Percent
