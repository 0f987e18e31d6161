import ClusterKeeper.Json.Basic

/-!
Reading JSON text. The grammar is the strict one: no sign but the minus, no leading zeros, no raw
control character in a text, no half of a surrogate pair, nothing after the value but blanks. A
value may be nested in at most `nestingLimit` arrays and objects.

A number with a fraction or a power of ten, or beyond the 64-bit range, becomes a double in two
rounding steps: the first nineteen or twenty digits are collected in a word and rounded to a
double, and that double is multiplied or divided by the power of ten. So a text of more than
fifteen digits may become a neighbour of the nearest double.
-/

namespace ClusterKeeper.Json

/-- A text may stand inside this many arrays and objects. -/
def nestingLimit : Nat := 127

/-- The characters that may stand between the parts of a value. -/
def isBlank (c : Char) : Bool := c == ' ' || c == '\n' || c == '\t' || c == '\r'

/-- The text from its first character that is not blank. -/
def skipBlanks (cs : List Char) : List Char := cs.dropWhile isBlank

/-- The text after a word it starts with. -/
def afterWord : List Char → List Char → Option (List Char)
  | [], cs => some cs
  | _ :: _, [] => none
  | w :: ws, c :: cs => if w = c then afterWord ws cs else none

/-! ### Texts -/

/-- The value of a hexadecimal digit of either case. -/
def hexValue? (c : Char) : Option Nat :=
  if '0' ≤ c ∧ c ≤ '9' then some (c.toNat - '0'.toNat)
  else if 'a' ≤ c ∧ c ≤ 'f' then some (c.toNat - 'a'.toNat + 10)
  else if 'A' ≤ c ∧ c ≤ 'F' then some (c.toNat - 'A'.toNat + 10)
  else none

/-- The unit of sixteen bits that four digits write. -/
def unit? (a b c d : Char) : Option Nat := do
  return (((← hexValue? a) * 16 + (← hexValue? b)) * 16 + (← hexValue? c)) * 16 + (← hexValue? d)

/-- The character that an escape letter stands for. -/
def escaped? (c : Char) : Option Char :=
  match c with
  | '"' => some '"'
  | '\\' => some '\\'
  | '/' => some '/'
  | 'b' => some '\x08'
  | 'f' => some '\x0c'
  | 'n' => some '\n'
  | 'r' => some '\r'
  | 't' => some '\t'
  | _ => none

/-- Whether a unit opens a surrogate pair. -/
def isHighSurrogate (n : Nat) : Bool := 0xd800 ≤ n && n ≤ 0xdbff

/-- Whether a unit closes a surrogate pair. -/
def isLowSurrogate (n : Nat) : Bool := 0xdc00 ≤ n && n ≤ 0xdfff

/-- The rest of a text after its opening quotation mark, up to the closing one. -/
def readText : List Char → Option (List Char × List Char)
  | '"' :: rest => some ([], rest)
  | '\\' :: 'u' :: a :: b :: c :: d :: rest =>
    match unit? a b c d with
    | none => none
    | some high =>
      if isLowSurrogate high then none
      else if isHighSurrogate high then
        match rest with
        | '\\' :: 'u' :: e :: f :: g :: h :: rest =>
          match unit? e f g h with
          | none => none
          | some low =>
            if isLowSurrogate low then
              (readText rest).map fun (s, r) =>
                (Char.ofNat (0x10000 + (high - 0xd800) * 0x400 + (low - 0xdc00)) :: s, r)
            else none
        | _ => none
      else (readText rest).map fun (s, r) => (Char.ofNat high :: s, r)
  | '\\' :: e :: rest =>
    match escaped? e with
    | some c => (readText rest).map fun (s, r) => (c :: s, r)
    | none => none
  | c :: rest =>
    if c = '\\' ∨ c.toNat < 0x20 then none
    else (readText rest).map fun (s, r) => (c :: s, r)
  | [] => none

/-! ### Numbers -/

/-- The largest word that digits are collected in. -/
def wordLimit : Nat := 0xffffffffffffffff

/-- The largest power of ten that is read; a longer one counts as overflow. -/
def powerLimit : Nat := 0x7fffffff

/-- The digits a text starts with, and the rest. -/
def digits (cs : List Char) : List Nat × List Char :=
  ((cs.takeWhile Char.isDigit).map fun c => c.toNat - '0'.toNat, cs.dropWhile Char.isDigit)

/-- Collects digits in a word while it stays within a limit; also the digits left over. -/
def collect (limit : Nat) (word : Nat) : List Nat → Nat × List Nat
  | [] => (word, [])
  | d :: ds => if word * 10 + d ≤ limit then collect limit (word * 10 + d) ds else (word, d :: ds)

/-- A word with the power of ten it is multiplied by. -/
structure Scientific where
  negative : Bool
  word : Nat
  power : Int
  deriving DecidableEq

/-- The greatest power of ten that is a double. -/
def greatestPower : Nat := 308

/-- The double nearest to a power of ten, as numerator and denominator. -/
def powerOfTen (n : Nat) : Nat × Nat :=
  ((Double.ofRatio? false (Nat.pow 10 n) 1).map Double.ratio).getD (1, 1)

/-- The rounded product with a power of ten. -/
def multiplyByPower (x : Double) (n : Nat) : Option Double :=
  let (num, den) := powerOfTen n
  x.scaleBy? num den

/-- The rounded quotient by a power of ten. -/
def divideByPower (x : Double) (n : Nat) : Option Double :=
  let (num, den) := powerOfTen n
  x.scaleBy? den num

/-- Multiplies or divides by a power of ten; a power out of reach is approached by division through
the greatest one, at most as often as `fuel` says. -/
def settle (x : Double) (power : Int) : (fuel : Nat) → Option Double
  | 0 => some x
  | fuel + 1 =>
    if power.natAbs ≤ greatestPower then
      if 0 ≤ power then multiplyByPower x power.natAbs else divideByPower x power.natAbs
    else if x.significand = 0 then some x
    else if 0 ≤ power then none
    else (divideByPower x greatestPower).bind (settle · (power + greatestPower) fuel)

/-- The double of a collected number: the word is rounded, then the product. -/
def Scientific.toDouble? (s : Scientific) : Option Double := do
  let x ← Double.ofRatio? s.negative s.word 1
  settle x s.power 8

/-- Reads a power of ten after its letter and gives the number. -/
def readPower (s : Scientific) (cs : List Char) : Option (Double × List Char) :=
  let (down, cs) := match cs with
    | '+' :: cs => (false, cs)
    | '-' :: cs => (true, cs)
    | cs => (false, cs)
  match digits cs with
  | ([], _) => none
  | (ds, rest) =>
    match collect powerLimit 0 ds with
    | (power, []) =>
      let power : Int := if down then s.power - power else s.power + power
      (Scientific.toDouble? { s with power }).map (·, rest)
    | _ => if s.word ≠ 0 ∧ !down then none else some (.zero s.negative, rest)

/-- What may follow the digits of a double: a power of ten. -/
def readTail (s : Scientific) (cs : List Char) : Option (Double × List Char) :=
  match cs with
  | 'e' :: rest | 'E' :: rest => readPower s rest
  | _ => s.toDouble?.map (·, cs)

/-- Reads the digits after the point. Digits that no longer fit the word are dropped. -/
def readFraction (s : Scientific) (cs : List Char) : Option (Double × List Char) :=
  match digits cs with
  | ([], _) => none
  | (ds, rest) =>
    let (word, left) := collect wordLimit s.word ds
    readTail { s with word, power := s.power - Int.ofNat (ds.length - left.length) } rest

/-- The integer of a sign and a word, or the double when it is out of range or minus zero. -/
def ofWord (negative : Bool) (word : Nat) : Option Json :=
  if !negative then some (.int word)
  else if word = 0 ∨ 0x8000000000000000 < word then (Double.ofRatio? true word 1).map .float
  else some (.int (-word))

/-- Reads a number after its sign. -/
def readMagnitude (negative : Bool) (cs : List Char) : Option (Json × List Char) :=
  match digits cs with
  | ([], _) => none
  | (d :: ds, rest) =>
    if d = 0 ∧ ds ≠ [] then none
    else
      let (word, left) := collect wordLimit 0 (d :: ds)
      let s : Scientific := ⟨negative, word, Int.ofNat left.length⟩
      match rest with
      | '.' :: rest => (readFraction s rest).map fun (x, r) => (.float x, r)
      | 'e' :: rest | 'E' :: rest => (readPower s rest).map fun (x, r) => (.float x, r)
      | _ =>
        if left = [] then (ofWord negative word).map (·, rest)
        else s.toDouble?.map fun x => (.float x, rest)

/-- Reads a number. -/
def readNumber : List Char → Option (Json × List Char)
  | '-' :: cs => readMagnitude true cs
  | cs => readMagnitude false cs

/-! ### Values -/

mutual

/-- Reads a value that may be nested `depth` deep. -/
def readValue : (fuel depth : Nat) → List Char → Option (Json × List Char)
  | 0, _, _ => none
  | fuel + 1, depth, cs =>
    match skipBlanks cs with
    | 'n' :: cs => (afterWord ['u', 'l', 'l'] cs).map (Json.null, ·)
    | 't' :: cs => (afterWord ['r', 'u', 'e'] cs).map (Json.bool true, ·)
    | 'f' :: cs => (afterWord ['a', 'l', 's', 'e'] cs).map (Json.bool false, ·)
    | '"' :: cs => (readText cs).map fun (s, r) => (.str (String.ofList s), r)
    | '[' :: cs =>
      match depth, skipBlanks cs with
      | 0, _ => none
      | _ + 1, ']' :: cs => some (.arr [], cs)
      | depth + 1, cs => (readItems fuel depth cs).map fun (vs, r) => (.arr vs, r)
    | '{' :: cs =>
      match depth, skipBlanks cs with
      | 0, _ => none
      | _ + 1, '}' :: cs => some (.obj [], cs)
      | depth + 1, cs => (readMembers fuel depth cs).map fun (ms, r) => (.object ms, r)
    | cs => readNumber cs

/-- Reads the items of an array from a first one up to the bracket. -/
def readItems : (fuel depth : Nat) → List Char → Option (List Json × List Char)
  | 0, _, _ => none
  | fuel + 1, depth, cs =>
    match readValue fuel depth cs with
    | none => none
    | some (v, rest) =>
      match skipBlanks rest with
      | ']' :: rest => some ([v], rest)
      | ',' :: rest => (readItems fuel depth rest).map fun (vs, r) => (v :: vs, r)
      | _ => none

/-- Reads the members of an object from a first one up to the brace. -/
def readMembers : (fuel depth : Nat) → List Char → Option (List (String × Json) × List Char)
  | 0, _, _ => none
  | fuel + 1, depth, cs =>
    match skipBlanks cs with
    | '"' :: cs =>
      match readText cs with
      | none => none
      | some (k, rest) =>
        match skipBlanks rest with
        | ':' :: rest =>
          match readValue fuel depth rest with
          | none => none
          | some (v, rest) =>
            match skipBlanks rest with
            | '}' :: rest => some ([(String.ofList k, v)], rest)
            | ',' :: rest =>
              (readMembers fuel depth rest).map fun (ms, r) => ((String.ofList k, v) :: ms, r)
            | _ => none
        | _ => none
    | _ => none

end

/-- Reads a whole text. -/
def parse? (text : String) : Option Json :=
  let cs := text.toList
  match readValue (cs.length + 1) nestingLimit cs with
  | some (v, rest) => if skipBlanks rest = [] then some v else none
  | none => none

/-- Reads a whole text given as bytes, which have to be UTF-8. -/
def parseBytes? (bytes : ByteArray) : Option Json := (String.fromUTF8? bytes).bind parse?

end ClusterKeeper.Json
