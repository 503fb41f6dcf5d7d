/-!
# Octets

Requests, responses, stored images and files are finite sequences of bytes. This module fixes that
type, the UTF-8 form of a text and its inverse, lowercase hexadecimal, and the classes of octets
that header lines are made of.
-/

namespace ChatBoard

/-- A finite sequence of bytes. -/
abbrev Octets := List UInt8

namespace Octets

/-- The UTF-8 form of a text. -/
def ofText (s : String) : Octets := s.toByteArray.data.toList

/-- The text whose UTF-8 form these octets are, if they are the form of one. -/
def toText? (bs : Octets) : Option String := String.fromUTF8? ⟨bs.toArray⟩

/-- Reading the UTF-8 form of a text gives the text back. -/
@[simp] theorem toText?_ofText (s : String) : toText? (ofText s) = some s := by
  have h : (⟨s.toByteArray.data.toList.toArray⟩ : ByteArray) = s.toByteArray := by
    cases s.toByteArray
    simp
  unfold toText? ofText String.fromUTF8?
  rw [h, dif_pos s.isValidUTF8]
  rfl

/-- Only the UTF-8 form of a text reads as that text. -/
theorem ofText_of_toText? {bs : Octets} {s : String} (h : toText? bs = some s) :
    ofText s = bs := by
  unfold toText? String.fromUTF8? at h
  split at h
  · cases h
    simp [ofText, String.fromUTF8]
  · cases h

/-- Two texts with the same UTF-8 form are equal. -/
theorem ofText_injective {s t : String} (h : ofText s = ofText t) : s = t := by
  have := toText?_ofText s
  rw [h, toText?_ofText] at this
  exact (Option.some.inj this).symm

/-- The UTF-8 form of two texts in a row. -/
theorem ofText_append (s t : String) : ofText (s ++ t) = ofText s ++ ofText t := by
  unfold ofText
  rw [String.toByteArray_append, ByteArray.data_append, Array.toList_append]

/-- The lowercase hexadecimal digit of a number below sixteen. -/
def hexDigit (n : Nat) : Char :=
  if n < 10 then Char.ofNat (48 + n) else Char.ofNat (87 + n)

/-- Two lowercase hexadecimal digits per octet. -/
def toHex (bs : Octets) : String :=
  String.ofList (bs.flatMap fun b => [hexDigit (b.toNat / 16), hexDigit (b.toNat % 16)])

/-- The value of a hexadecimal digit of either case. -/
def hexValue (b : UInt8) : Option Nat :=
  if 48 ≤ b ∧ b ≤ 57 then some (b.toNat - 48)
  else if 65 ≤ b ∧ b ≤ 70 then some (b.toNat - 55)
  else if 97 ≤ b ∧ b ≤ 102 then some (b.toNat - 87)
  else none

/-- The lowercase form of an ASCII capital; every other octet is itself. -/
def lower (b : UInt8) : UInt8 := if 65 ≤ b ∧ b ≤ 90 then b + 32 else b

/-- Equality up to the case of ASCII letters. -/
def sameLetters (xs ys : Octets) : Bool := xs.map lower == ys.map lower

/-- The octets before the first occurrence of a separator, and those after it if it occurs. -/
def cutAt (sep : UInt8) (bs : Octets) : Octets × Option Octets :=
  (bs.takeWhile (· != sep), (bs.dropWhile (· != sep)).tail?)

/-- A space or a tab. -/
def isGap (b : UInt8) : Bool := b == 0x20 || b == 0x09

/-- A visible ASCII character, a space or a tab. -/
def isPlain (b : UInt8) : Bool := (0x20 ≤ b && b ≤ 0x7e) || b == 0x09

/-- An octet that a header's value may hold: no control except the tab. -/
def isFieldOctet (b : UInt8) : Bool := (b ≥ 0x20 && b != 0x7f) || b == 0x09

/-- Drops leading and trailing octets that satisfy a test. -/
def trim (p : UInt8 → Bool) (bs : Octets) : Octets :=
  ((bs.dropWhile p).reverse.dropWhile p).reverse

/-- Walks to the first occurrence of a pattern; `seen` holds the octets passed, newest first. -/
def splitAround (pattern : Octets) (seen : Octets) : Octets → Option (Octets × Octets)
  | [] => if pattern.isEmpty then some (seen.reverse, []) else none
  | b :: rest =>
    if pattern.isPrefixOf (b :: rest) then some (seen.reverse, (b :: rest).drop pattern.length)
    else splitAround pattern (b :: seen) rest

/-- The octets before and after the first occurrence of a pattern. -/
def findFirst (pattern bs : Octets) : Option (Octets × Octets) := splitAround pattern [] bs

end Octets

end ChatBoard
