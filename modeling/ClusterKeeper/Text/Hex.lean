import ClusterKeeper.Json.Reader

/-!
Hexadecimal text of bytes: two digits a byte, in either case when read and in lower case when
written.
-/

namespace ClusterKeeper.Hex

/-- Reads two digits a byte; an odd digit or another character is refused. -/
def decode? : List Char → Option (List UInt8)
  | [] => some []
  | [_] => none
  | a :: b :: rest => do
    let high ← Json.hexValue? a
    let low ← Json.hexValue? b
    return UInt8.ofNat (high * 16 + low) :: (← decode? rest)

/-- Writes two lower case digits a byte. -/
def encode (bytes : List UInt8) : List Char :=
  bytes.flatMap fun b => [Nat.digitChar (b.toNat / 16), Nat.digitChar (b.toNat % 16)]

end ClusterKeeper.Hex
