import ChatBoard.Octets

/-!
# Base64url without padding

Three octets are written as four letters of the URL-safe alphabet; two or one left over are written
as three or two letters. Reading is strict: no padding, no other octet, no lone letter, and the
bits that the last letter does not need are zero, so every accepted text is the written form of
what it reads as.
-/

namespace ChatBoard.Base64Url

/-- The letter of a six-bit number. -/
def letter (n : Nat) : UInt8 :=
  if n < 26 then UInt8.ofNat (65 + n)
  else if n < 52 then UInt8.ofNat (71 + n)
  else if n < 62 then UInt8.ofNat (n - 4)
  else if n = 62 then 45
  else 95

/-- The six-bit number of a letter. -/
def index? (b : UInt8) : Option Nat :=
  if 65 ≤ b ∧ b ≤ 90 then some (b.toNat - 65)
  else if 97 ≤ b ∧ b ≤ 122 then some (b.toNat - 71)
  else if 48 ≤ b ∧ b ≤ 57 then some (b.toNat + 4)
  else if b = 45 then some 62
  else if b = 95 then some 63
  else none

/-- Reading a letter gives its number back. -/
theorem index?_letter : ∀ n < 64, index? (letter n) = some n := by decide

/-- The written form of octets. -/
def encode : Octets → Octets
  | a :: b :: c :: rest =>
    letter (a.toNat / 4) :: letter (a.toNat % 4 * 16 + b.toNat / 16)
      :: letter (b.toNat % 16 * 4 + c.toNat / 64) :: letter (c.toNat % 64) :: encode rest
  | [a, b] =>
    [letter (a.toNat / 4), letter (a.toNat % 4 * 16 + b.toNat / 16), letter (b.toNat % 16 * 4)]
  | [a] => [letter (a.toNat / 4), letter (a.toNat % 4 * 16)]
  | [] => []

/-- The octets that a text is the written form of. -/
def decode : Octets → Option Octets
  | p :: q :: r :: s :: rest =>
    match index? p, index? q, index? r, index? s, decode rest with
    | some i, some j, some k, some l, some tail =>
      some (UInt8.ofNat (i * 4 + j / 16) :: UInt8.ofNat (j % 16 * 16 + k / 4)
        :: UInt8.ofNat (k % 4 * 64 + l) :: tail)
    | _, _, _, _, _ => none
  | [p, q, r] =>
    match index? p, index? q, index? r with
    | some i, some j, some k =>
      if k % 4 = 0 then some [UInt8.ofNat (i * 4 + j / 16), UInt8.ofNat (j % 16 * 16 + k / 4)]
      else none
    | _, _, _ => none
  | [p, q] =>
    match index? p, index? q with
    | some i, some j => if j % 16 = 0 then some [UInt8.ofNat (i * 4 + j / 16)] else none
    | _, _ => none
  | [_] => none
  | [] => some []

end ChatBoard.Base64Url
