import ClusterKeeper.Digest.Sha1
import ClusterKeeper.Text.Hex

/-!
Identifiers made from names: the SHA-1 of a namespace's sixteen bytes and the name, cut to sixteen
bytes and marked as of version 5.
-/

namespace ClusterKeeper.Uuid

/-- A byte with the bits of a mark in place of its highest ones. -/
def marked (mark keep : UInt8) (b : UInt8) : UInt8 := b &&& keep ||| mark

/-- The bytes of the identifier of a name in a namespace. -/
def ofName (space name : List UInt8) : List UInt8 :=
  let digest := (Digest.Sha1.digest (space ++ name)).take 16
  (digest.modify 6 (marked 0x50 0x0f)).modify 8 (marked 0x80 0x3f)

/-- The written form of sixteen bytes: hexadecimal, with hyphens after 4, 6, 8 and 10 bytes. -/
def text (bytes : List UInt8) : String :=
  let part (start count : Nat) : String := String.ofList (Hex.encode ((bytes.drop start).take count))
  "-".intercalate [part 0 4, part 4 2, part 6 2, part 8 2, part 10 6]

end ClusterKeeper.Uuid
