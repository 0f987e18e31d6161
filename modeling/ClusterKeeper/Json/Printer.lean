import ClusterKeeper.Json.Basic
import ClusterKeeper.Decimal.Shortest

/-!
Compact JSON text. Members stand in the order of the object's list, which is key order in a valid
value. In a text, the quotation mark, the backslash and the characters below the blank are escaped,
by a letter where there is one and by four lower case hexadecimal digits elsewhere.
-/

namespace ClusterKeeper.Json

/-- The lower case digit of a number below sixteen. -/
def hexDigit (n : Nat) : Char := Nat.digitChar n

/-- Four hexadecimal digits. -/
def hexUnit (n : Nat) : List Char :=
  [hexDigit (n / 4096 % 16), hexDigit (n / 256 % 16), hexDigit (n / 16 % 16), hexDigit (n % 16)]

/-- A character of a text as it stands between quotation marks. -/
def escape (c : Char) : List Char :=
  if c = '"' then ['\\', '"']
  else if c = '\\' then ['\\', '\\']
  else if c = '\x08' then ['\\', 'b']
  else if c = '\t' then ['\\', 't']
  else if c = '\n' then ['\\', 'n']
  else if c = '\x0c' then ['\\', 'f']
  else if c = '\r' then ['\\', 'r']
  else if c.toNat < 0x20 then '\\' :: 'u' :: hexUnit c.toNat
  else [c]

/-- A text in quotation marks. -/
def quote (s : List Char) : List Char := '"' :: s.flatMap escape ++ ['"']

/-- The digits of an integer with its sign. -/
def integer (i : Int) : List Char :=
  if i < 0 then '-' :: Nat.toDigits 10 i.natAbs else Nat.toDigits 10 i.natAbs

mutual

/-- The characters of a value. -/
def print : Json → List Char
  | .null => ['n', 'u', 'l', 'l']
  | .bool true => ['t', 'r', 'u', 'e']
  | .bool false => ['f', 'a', 'l', 's', 'e']
  | .int i => integer i
  | .float x => x.toText.toList
  | .str s => quote s.toList
  | .arr items => '[' :: printItems items
  | .obj members => '{' :: printMembers members

/-- The items of an array up to its closing bracket. -/
def printItems : List Json → List Char
  | [] => [']']
  | v :: vs => print v ++ printMoreItems vs

/-- The items after the first. -/
def printMoreItems : List Json → List Char
  | [] => [']']
  | v :: vs => ',' :: print v ++ printMoreItems vs

/-- The members of an object up to its closing brace. -/
def printMembers : List (String × Json) → List Char
  | [] => ['}']
  | (k, v) :: ms => quote k.toList ++ ':' :: print v ++ printMoreMembers ms

/-- The members after the first. -/
def printMoreMembers : List (String × Json) → List Char
  | [] => ['}']
  | (k, v) :: ms => ',' :: quote k.toList ++ ':' :: print v ++ printMoreMembers ms

end

/-- The compact text of a value. -/
def compact (j : Json) : String := String.ofList (print j)

/-- A character as one or two escaped units of sixteen bits, when it is not ASCII. -/
def asciiEscape (c : Char) : List Char :=
  let n := c.toNat
  if n < 0x80 then [c]
  else if n < 0x10000 then '\\' :: 'u' :: hexUnit n
  else
    let above := n - 0x10000
    '\\' :: 'u' :: hexUnit (0xd800 + above / 0x400) ++
      '\\' :: 'u' :: hexUnit (0xdc00 + above % 0x400)

/-- The compact text of a value in ASCII alone. -/
def compactAscii (j : Json) : String := String.ofList ((print j).flatMap asciiEscape)

end ClusterKeeper.Json
