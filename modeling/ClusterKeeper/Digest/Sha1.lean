import ClusterKeeper.Digest.Words

/-!
The digest SHA-1: eighty rounds over five words for every block of a message.
-/

namespace ClusterKeeper.Digest.Sha1

/-- The words that the rounds turn. -/
structure State where
  a : UInt32
  b : UInt32
  c : UInt32
  d : UInt32
  e : UInt32

/-- The words before the first block. -/
def start : State := ⟨0x67452301, 0xefcdab89, 0x98badcfe, 0x10325476, 0xc3d2e1f0⟩

/-- Appends words to a schedule, the last sixteen of which are given, the latest first. -/
def schedule : (count : Nat) → List UInt32 → List UInt32
  | 0, recent => recent
  | n + 1, recent =>
    let w := rotateLeft
      (recent.getD 2 0 ^^^ recent.getD 7 0 ^^^ recent.getD 13 0 ^^^ recent.getD 15 0) 1
    schedule n (w :: recent)

/-- The function and the constant of a round. -/
def round (i : Nat) (s : State) : UInt32 × UInt32 :=
  if i < 20 then (s.b &&& s.c ||| ~~~s.b &&& s.d, 0x5a827999)
  else if i < 40 then (s.b ^^^ s.c ^^^ s.d, 0x6ed9eba1)
  else if i < 60 then (s.b &&& s.c ||| s.b &&& s.d ||| s.c &&& s.d, 0x8f1bbcdc)
  else (s.b ^^^ s.c ^^^ s.d, 0xca62c1d6)

/-- One round. -/
def step (s : State) (w : UInt32 × Nat) : State :=
  let (f, k) := round w.2 s
  ⟨rotateLeft s.a 5 + f + s.e + k + w.1, s.a, rotateLeft s.b 30, s.c, s.d⟩

/-- All rounds of a block. -/
def compress (s : State) (block : List UInt32) : State :=
  let t := (schedule 64 block.reverse).reverse.zipIdx.foldl step s
  ⟨s.a + t.a, s.b + t.b, s.c + t.c, s.d + t.d, s.e + t.e⟩

/-- The digest of a message, twenty bytes. -/
def digest (message : List UInt8) : List UInt8 :=
  let s := (blocksOf message).foldl compress start
  bytes [s.a, s.b, s.c, s.d, s.e]

end ClusterKeeper.Digest.Sha1
