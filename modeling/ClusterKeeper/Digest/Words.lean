/-!
Messages as the digests take them: padded with a single bit, zeros and the message's length to a
multiple of sixteen words of 32 bits, the most significant byte first.
-/

namespace ClusterKeeper.Digest

/-- The word of four bytes, the most significant first. -/
def word (a b c d : UInt8) : UInt32 :=
  a.toUInt32 <<< 24 ||| b.toUInt32 <<< 16 ||| c.toUInt32 <<< 8 ||| d.toUInt32

/-- The words of some bytes, four each. -/
def words : List UInt8 → List UInt32
  | a :: b :: c :: d :: rest => word a b c d :: words rest
  | _ => []

/-- The bytes of a number below a power of 256, the most significant first. -/
def bigEndian (count n : Nat) : List UInt8 :=
  (List.range count).map fun i => UInt8.ofNat (n / Nat.pow 256 (count - 1 - i))

/-- A message with the bit, the zeros and the length that make whole blocks of it. -/
def padded (message : List UInt8) : List UInt8 :=
  let length := message.length
  let zeros := (119 - length % 64) % 64
  message ++ 0x80 :: List.replicate zeros 0 ++ bigEndian 8 (8 * length)

/-- Lists of sixteen words; `fuel` bounds their count. -/
def blocks : (fuel : Nat) → List UInt32 → List (List UInt32)
  | 0, _ => []
  | fuel + 1, ws => if ws = [] then [] else ws.take 16 :: blocks fuel (ws.drop 16)

/-- The blocks of a message. -/
def blocksOf (message : List UInt8) : List (List UInt32) :=
  let ws := words (padded message)
  blocks (ws.length + 1) ws

/-- The bytes of some words. -/
def bytes (ws : List UInt32) : List UInt8 := ws.flatMap fun w => bigEndian 4 w.toNat

/-- Turns the bits of a word to the left. -/
def rotateLeft (w : UInt32) (n : UInt32) : UInt32 := w <<< n ||| w >>> (32 - n)

/-- Turns the bits of a word to the right. -/
def rotateRight (w : UInt32) (n : UInt32) : UInt32 := w >>> n ||| w <<< (32 - n)

end ClusterKeeper.Digest
