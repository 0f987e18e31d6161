import ClusterKeeper.Json.Reader

/-!
The targets of requests. A target is written as one text: a path, and after a question mark the pairs of
a query, whose keys and values are percent-encoded; a number sign ends it. A text with a character that
may not stand in it is no target, and nothing can be asked of it.
-/

namespace ClusterKeeper.Http

/-! ### Percent encoding -/

/-- An upper case hexadecimal digit. -/
def upperHexDigit (n : Nat) : Char :=
  if n < 10 then Nat.digitChar n else Char.ofNat ('A'.toNat + (n - 10))

/-- Whether a byte stands for itself in a query. -/
def isPlain (b : UInt8) : Bool :=
  let c := Char.ofNat b.toNat
  c.isAlphanum || c == '*' || c == '-' || c == '.' || c == '_'

/-- A byte as it stands in a query. -/
def encodeByte (b : UInt8) : List Char :=
  if isPlain b then [Char.ofNat b.toNat]
  else if b = 0x20 then ['+']
  else ['%', upperHexDigit (b.toNat / 16), upperHexDigit (b.toNat % 16)]

/-- A key or a value as it stands in a query. -/
def encode (s : String) : String := String.ofList (s.toUTF8.toList.flatMap encodeByte)

/-- The bytes of a text. -/
def bytesOf (cs : List Char) : List UInt8 := (String.ofList cs).toUTF8.toList

/-- The bytes that a part of a query stands for; a percent sign without two digits is itself. -/
def decodeBytes : List Char → List UInt8
  | [] => []
  | '+' :: cs => 0x20 :: decodeBytes cs
  | '%' :: a :: b :: cs =>
    match Json.hexValue? a, Json.hexValue? b with
    | some high, some low => UInt8.ofNat (high * 16 + low) :: decodeBytes cs
    | _, _ => 0x25 :: decodeBytes (a :: b :: cs)
  | c :: cs => bytesOf [c] ++ decodeBytes cs

/-- The key or value that a part of a query stands for; bytes that are no text are shown by the
replacement character. -/
def decode (cs : List Char) : String :=
  (String.fromUTF8? ⟨(decodeBytes cs).toArray⟩).getD "\ufffd"

/-! ### Targets -/

/-- Whether a character may stand in a path. -/
def mayStandInPath (c : Char) : Bool :=
  0x21 ≤ c.toNat && !("#<>?`".toList.contains c)

/-- Whether a character may stand in a query. -/
def mayStandInQuery (c : Char) : Bool :=
  0x21 ≤ c.toNat && !(['"', '#', '<', '>'].contains c)

/-- The path and query of a request. -/
structure Target where
  path : String
  query : List (String × String)
  deriving DecidableEq

namespace Target

/-- How many bytes a target may have. -/
def lengthLimit : Nat := 65534

/-- The parts of a text between the marks of a kind. -/
def split (mark : Char) (cs : List Char) : List (List Char) :=
  cs.foldr (fun c parts => if c = mark then [] :: parts else
    match parts with
    | part :: more => (c :: part) :: more
    | [] => [[c]]) [[]]

/-- The pair that a part of a query stands for; without an equals sign its value is empty. -/
def pairOf (cs : List Char) : String × String :=
  (decode (cs.takeWhile (· ≠ '=')), decode ((cs.dropWhile (· ≠ '=')).drop 1))

/-- The pairs of a query; empty parts are no pairs. -/
def pairsOf (cs : List Char) : List (String × String) :=
  ((split '&' cs).filter (!·.isEmpty)).map pairOf

/-- Reads a target. -/
def ofText? (text : String) : Option Target :=
  let cs := text.toList.takeWhile (· ≠ '#')
  let path := cs.takeWhile (· ≠ '?')
  let query := (cs.dropWhile (· ≠ '?')).drop 1
  if text.utf8ByteSize ≤ lengthLimit ∧ path.all mayStandInPath ∧ query.all mayStandInQuery then
    some ⟨String.ofList path, pairsOf query⟩
  else none

/-- A path with a query. -/
def text (path : String) (pairs : List (String × String)) : String :=
  path ++ "?" ++ "&".intercalate (pairs.map fun p => encode p.1 ++ "=" ++ encode p.2)

end Target

end ClusterKeeper.Http
