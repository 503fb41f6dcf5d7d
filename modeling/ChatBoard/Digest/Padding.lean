import ChatBoard.Octets

/-!
# Padding to whole blocks

SHA-1 and SHA-256 read a message in blocks of sixty-four octets. A delimiter octet, the fewest
zeros that complete a block and the bit length of the message in eight octets follow the message.
Words are four octets, the high one first.
-/

namespace ChatBoard.Digest

/-- The octets of one block. -/
def blockSize : Nat := 64

/-- The number of zeros between the delimiter and the length. -/
def zeroCount (size : Nat) : Nat := (119 - size % 64) % 64

/-- A number in `count` octets, the high one first; higher parts are dropped. -/
def bigEndian (count n : Nat) : Octets :=
  (List.range count).reverse.map fun i => UInt8.ofNat (n >>> (8 * i))

/-- A message with its delimiter, zeros and length. -/
def pad (message : Octets) : Octets :=
  message ++ 0x80 :: List.replicate (zeroCount message.length) 0
    ++ bigEndian 8 (message.length * 8)

/-- A padded message is a whole number of blocks. -/
theorem length_pad_mod (message : Octets) : (pad message).length % blockSize = 0 := by
  simp only [pad, bigEndian, zeroCount, blockSize, List.length_append, List.length_cons,
    List.length_replicate, List.length_map, List.length_reverse, List.length_range]
  omega

/-- The word of four octets. -/
def word (a b c d : UInt8) : UInt32 :=
  (a.toUInt32 <<< 24) ||| (b.toUInt32 <<< 16) ||| (c.toUInt32 <<< 8) ||| d.toUInt32

/-- The words of octets in fours. -/
def words : Octets → List UInt32
  | a :: b :: c :: d :: rest => word a b c d :: words rest
  | _ => []

/-- The four octets of a word. -/
def octetsOf (w : UInt32) : Octets :=
  [(w >>> 24).toUInt8, (w >>> 16).toUInt8, (w >>> 8).toUInt8, w.toUInt8]

/-- Rotates a word to the left. -/
def rotateLeft (w : UInt32) (n : UInt32) : UInt32 := (w <<< n) ||| (w >>> (32 - n))

/-- Rotates a word to the right. -/
def rotateRight (w : UInt32) (n : UInt32) : UInt32 := (w >>> n) ||| (w <<< (32 - n))

/-- Feeds `count` blocks to a compression function, the first block first. -/
def absorb {σ : Type} (compress : σ → Octets → σ) : Nat → Octets → σ → σ
  | 0, _, state => state
  | count + 1, bs, state =>
    absorb compress count (bs.drop blockSize) (compress state (bs.take blockSize))

/-- The state after all blocks of a padded message. -/
def absorbAll {σ : Type} (compress : σ → Octets → σ) (start : σ) (message : Octets) : σ :=
  let padded := pad message
  absorb compress (padded.length / blockSize) padded start

end ChatBoard.Digest
