import ChatBoard.Digest.Padding

/-!
# SHA-1

The digest of FIPS 180-4, section 6.1. The message schedule is kept newest word first, so that the
recurrence reads fixed places of the list.
-/

namespace ChatBoard.Digest.Sha1

/-- The five chaining words. -/
structure State where
  a : UInt32
  b : UInt32
  c : UInt32
  d : UInt32
  e : UInt32

/-- The chaining words before the first block. -/
def State.start : State := ⟨0x67452301, 0xefcdab89, 0x98badcfe, 0x10325476, 0xc3d2e1f0⟩

/-- Extends a schedule, newest word first, by a number of words. -/
def extend : Nat → List UInt32 → List UInt32
  | 0, ws => ws
  | n + 1, ws =>
    -- The words 3, 8, 14 and 16 places back.
    let next := ws.getD 2 0 ^^^ ws.getD 7 0 ^^^ ws.getD 13 0 ^^^ ws.getD 15 0
    extend n (rotateLeft next 1 :: ws)

/-- The eighty words of a block, in the order of the rounds. -/
def schedule (block : Octets) : List UInt32 := (extend 64 (words block).reverse).reverse

/-- The mixing function and the constant of a round. -/
def mix (t : Nat) (b c d : UInt32) : UInt32 × UInt32 :=
  if t < 20 then ((b &&& c) ||| ((b ^^^ 0xffffffff) &&& d), 0x5a827999)
  else if t < 40 then (b ^^^ c ^^^ d, 0x6ed9eba1)
  else if t < 60 then ((b &&& c) ||| (b &&& d) ||| (c &&& d), 0x8f1bbcdc)
  else (b ^^^ c ^^^ d, 0xca62c1d6)

/-- The rounds from round `t` on. -/
def rounds : Nat → List UInt32 → State → State
  | _, [], s => s
  | t, w :: ws, s =>
    let (f, k) := mix t s.b s.c s.d
    rounds (t + 1) ws ⟨rotateLeft s.a 5 + f + s.e + k + w, s.a, rotateLeft s.b 30, s.c, s.d⟩

/-- One block: the rounds, added to the chaining words. -/
def compress (s : State) (block : Octets) : State :=
  let r := rounds 0 (schedule block) s
  ⟨s.a + r.a, s.b + r.b, s.c + r.c, s.d + r.d, s.e + r.e⟩

/-- The twenty octets of a message's digest. -/
def digest (message : Octets) : Octets :=
  let s := absorbAll compress .start message
  octetsOf s.a ++ octetsOf s.b ++ octetsOf s.c ++ octetsOf s.d ++ octetsOf s.e

/-- A digest has twenty octets. -/
theorem length_digest (message : Octets) : (digest message).length = 20 := by
  simp [digest, octetsOf]

end ChatBoard.Digest.Sha1
